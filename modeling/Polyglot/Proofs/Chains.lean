import Polyglot.Proofs.Store

/-! Chains of scopes. Where every scope lies inside scopes that were opened before it, a chain ends
at an outermost scope, opening and binding leave the chains of open scopes alone, and looking a name
up scope by scope comes to an end. -/
namespace Polyglot.Store

/-- Every scope lies inside a scope that was opened before it, if inside any. -/
def Ordered (store : Store) : Prop :=
  ∀ id outer : Nat, store.outer? id = some outer → outer < id

theorem chainWithin_bound {store : Store} (ordered : store.Ordered) {bound other : Nat}
    {id : Nat} (enough : id < bound) (plenty : id < other) :
    store.chainWithin bound id = store.chainWithin other id := by
  induction bound generalizing other id with
  | zero => exact absurd enough (Nat.not_lt_zero id)
  | succ bound ih =>
    obtain ⟨other, rfl⟩ : ∃ smaller, other = smaller + 1 := ⟨other - 1, by omega⟩
    rw [chainWithin, chainWithin]
    cases around : store.outer? id with
    | none => rfl
    | some outer =>
      have earlier := ordered id outer around
      simp only [ih (Nat.lt_of_lt_of_le earlier (Nat.le_of_lt_succ enough))
        (Nat.lt_of_lt_of_le earlier (Nat.le_of_lt_succ plenty))]

theorem chain_outermost {store : Store} {id : ScopeId} (last : store.outer? id = none) :
    store.chain id = [id] := by
  rw [chain, chainWithin, last]

theorem chain_inside {store : Store} (ordered : store.Ordered) {id outer : ScopeId}
    (around : store.outer? id = some outer) : store.chain id = id :: store.chain outer := by
  have earlier := ordered id outer around
  rw [chain, chainWithin, around]
  simp only [chain, chainWithin_bound ordered earlier (Nat.lt_succ_self outer)]

/-- The number of scopes around a scope. -/
def surrounding (store : Store) (id : ScopeId) : Nat :=
  (store.chain id).tail.length

theorem chain_length (store : Store) (id : ScopeId) :
    (store.chain id).length = store.surrounding id + 1 := by
  simp [surrounding, chain, chainWithin]

/-- Scopes are opened, but those that were open stay where they are and go on binding what they
bind. -/
structure Grows (before after : Store) : Prop where
  size : before.scopes.size ≤ after.scopes.size
  outer : ∀ id < before.scopes.size, after.outer? id = before.outer? id
  names : ∀ id name, (before.own? name id).isSome → (after.own? name id).isSome

theorem Grows.refl (store : Store) : store.Grows store :=
  ⟨Nat.le_refl _, fun _ _ => rfl, fun _ _ bound => bound⟩

theorem Grows.trans {first second third : Store} (earlier : first.Grows second)
    (later : second.Grows third) : first.Grows third where
  size := Nat.le_trans earlier.size later.size
  outer id opened := by
    rw [later.outer id (Nat.lt_of_lt_of_le opened earlier.size), earlier.outer id opened]
  names id name bound := later.names id name (earlier.names id name bound)

theorem grows_bind (store : Store) (id : ScopeId) (name : String) (value : Value) :
    store.Grows (store.bind id name value) where
  size := by simp
  outer other _ := outer?_bind store id other name value
  names other asked bound := by
    by_cases opened : id < store.scopes.size
    · rw [own?_bind _ _ _ _ _ _ opened]
      split
      · rfl
      · exact bound
    · -- Nothing is bound in a scope that is not open, so this is another scope.
      have different : other ≠ id := by
        rintro rfl
        rw [own?_unopened _ _ (Nat.le_of_not_lt opened)] at bound
        cases bound
      rwa [own?, scope_bind_other store different]

theorem grows_openScope (store : Store) (outer : Option ScopeId) :
    store.Grows (store.openScope outer).2 where
  size := by simp
  outer id opened := by rw [outer?_openScope, if_neg (Nat.ne_of_lt opened)]
  names id name bound := by rwa [own?_openScope]

theorem Grows.chain_eq {before after : Store} (grows : before.Grows after)
    (ordered : before.Ordered) {id : ScopeId} (opened : id < before.scopes.size) :
    after.chain id = before.chain id := by
  unfold chain
  generalize id + 1 = bound
  induction bound generalizing id with
  | zero => rfl
  | succ bound ih =>
    rw [chainWithin, chainWithin, grows.outer id opened]
    cases around : before.outer? id with
    | none => rfl
    | some outer =>
      have earlier := ordered id outer around
      simp only [ih (Nat.lt_trans earlier opened)]

theorem Grows.surrounding_eq {before after : Store} (grows : before.Grows after)
    (ordered : before.Ordered) {id : ScopeId} (opened : id < before.scopes.size) :
    after.surrounding id = before.surrounding id := by
  rw [surrounding, grows.chain_eq ordered opened, surrounding]

theorem Ordered.bind {store : Store} (ordered : store.Ordered) (id : ScopeId) (name : String)
    (value : Value) : (store.bind id name value).Ordered := by
  intro other outer around
  rw [outer?_bind] at around
  exact ordered other outer around

theorem Ordered.openScope {store : Store} (ordered : store.Ordered) {outer : Nat}
    (opened : outer < store.scopes.size) : (store.openScope (some outer)).2.Ordered := by
  intro id around found
  rw [outer?_openScope] at found
  split at found
  · next last =>
    cases found
    rwa [last]
  · exact ordered id around found

theorem Ordered.openOutermost {store : Store} (ordered : store.Ordered) :
    (store.openScope none).2.Ordered := by
  intro id around found
  rw [outer?_openScope] at found
  split at found
  · cases found
  · exact ordered id around found

/-- A scope opened inside another one has that one's scopes around it, and that one. -/
theorem chain_opened {store : Store} (ordered : store.Ordered) {outer : ScopeId}
    (opened : outer < store.scopes.size) :
    (store.openScope (some outer)).2.chain store.scopes.size =
      store.scopes.size :: store.chain outer := by
  have around : (store.openScope (some outer)).2.outer? store.scopes.size = some outer := by
    rw [outer?_openScope, if_pos rfl]
  rw [chain_inside (ordered.openScope opened) around,
    (store.grows_openScope (some outer)).chain_eq ordered opened]

theorem surrounding_opened {store : Store} (ordered : store.Ordered) {outer : ScopeId}
    (opened : outer < store.scopes.size) :
    (store.openScope (some outer)).2.surrounding store.scopes.size =
      store.surrounding outer + 1 := by
  rw [surrounding, chain_opened ordered opened, List.tail_cons, chain_length]

/-- A name is looked up in a scope, then in the one around it, and so on, with nothing to bound how
far; these are the scopes that are looked at. -/
inductive Seeks (store : Store) (name : String) : ScopeId → List ScopeId → Option Value → Prop
  | found {id : ScopeId} {value : Value} (here : store.own? name id = some value) :
      Seeks store name id [id] (some value)
  | nowhere {id : ScopeId} (absent : store.own? name id = none)
      (last : store.outer? id = none) : Seeks store name id [id] none
  | outward {id outer : ScopeId} {path : List ScopeId} {result : Option Value}
      (absent : store.own? name id = none) (around : store.outer? id = some outer)
      (further : Seeks store name outer path result) : Seeks store name id (id :: path) result

theorem Seeks.unique {store : Store} {name : String} {id : ScopeId} {path other : List ScopeId}
    {result found : Option Value} (seeks : store.Seeks name id path result)
    (again : store.Seeks name id other found) : other = path ∧ found = result := by
  induction seeks generalizing other found with
  | found here =>
    cases again with
    | found there => exact ⟨rfl, there.symm.trans here⟩
    | nowhere absent _ | outward absent _ _ => simp [here] at absent
  | nowhere absent last =>
    cases again with
    | found there => simp [absent] at there
    | nowhere _ _ => exact ⟨rfl, rfl⟩
    | outward _ around _ => simp [last] at around
  | outward absent around _ ih =>
    cases again with
    | found there => simp [absent] at there
    | nowhere _ last => simp [last] at around
    | outward _ same further =>
      cases around.symm.trans same
      obtain ⟨rfl, rfl⟩ := ih further
      exact ⟨rfl, rfl⟩

/-- Looking a name up comes to an end, within the chain of the scope. The scopes are looked at from
later ones to earlier ones, so the induction is on the number of the scope. -/
theorem Ordered.seeks {store : Store} (ordered : store.Ordered) (name : String) (id : ScopeId) :
    ∃ path, path <+: store.chain id ∧ store.Seeks name id path (store.find? name id) := by
  induction id using Nat.strongRecOn with
  | _ id ih =>
    unfold find?
    cases here : store.own? name id with
    | some value =>
      refine ⟨[id], ?_, ?_⟩
      · simp [chain, chainWithin]
      · have first : (store.chain id).findSome? (store.own? name) = some value := by
          simp [chain, chainWithin, here]
        rw [first]
        exact .found here
    | none =>
      cases around : store.outer? id with
      | none =>
        rw [chain_outermost around]
        refine ⟨[id], List.prefix_rfl, ?_⟩
        simpa [here] using Seeks.nowhere here around
      | some outer =>
        obtain ⟨path, within, further⟩ := ih outer (ordered id outer around)
        rw [chain_inside ordered around]
        refine ⟨id :: path, List.cons_prefix_cons.mpr ⟨rfl, within⟩, ?_⟩
        rw [List.findSome?_cons, here]
        exact .outward here around further

end Polyglot.Store
