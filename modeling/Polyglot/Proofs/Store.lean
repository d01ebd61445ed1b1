import Polyglot.Value.Store

/-! What the operations on a store do to each scope. -/
namespace Polyglot

theorem Bindings.find?_bind (name other : String) (value : Value) (bindings : Bindings) :
    (bindings.bind name value).find? other =
      if other = name then some value else bindings.find? other := by
  unfold Bindings.find?
  induction bindings with
  | nil =>
    rw [Bindings.bind, List.lookup_cons]
    by_cases same : other = name
    · simp [same]
    · simp [same, beq_false_of_ne same]
  | cons entry rest ih =>
    obtain ⟨key, bound⟩ := entry
    rw [Bindings.bind]
    by_cases found : key = name
    · subst found
      rw [if_pos (beq_self_eq_true key), List.lookup_cons, List.lookup_cons]
      by_cases same : other = key
      · simp [same]
      · simp [same, beq_false_of_ne same]
    · rw [if_neg (by simpa using found), List.lookup_cons, List.lookup_cons, ih]
      by_cases same : other = key
      · simp [same, found]
      · simp [beq_false_of_ne same]

namespace Store

@[simp] theorem size_bind (store : Store) (id : ScopeId) (name : String) (value : Value) :
    (store.bind id name value).scopes.size = store.scopes.size := by
  simp [Store.bind]

theorem scope_bind (store : Store) (id other : ScopeId) (name : String) (value : Value) :
    (store.bind id name value).scopes[other]? =
      if id = other then store.scopes[other]?.map fun scope =>
        { scope with bindings := scope.bindings.bind name value }
      else store.scopes[other]? :=
  Array.getElem?_modify

theorem scope_bind_other (store : Store) {id other : ScopeId} (different : other ≠ id)
    (name : String) (value : Value) :
    (store.bind id name value).scopes[other]? = store.scopes[other]? := by
  rw [scope_bind, if_neg (Ne.symm different)]

@[simp] theorem outer?_bind (store : Store) (id other : ScopeId) (name : String) (value : Value) :
    (store.bind id name value).outer? other = store.outer? other := by
  unfold outer?
  rw [scope_bind]
  by_cases same : id = other
  · subst same
    cases store.scopes[id]? with
    | none => simp
    | some scope => simp
  · rw [if_neg same]

theorem own?_bind (store : Store) (id other : ScopeId) (name asked : String) (value : Value)
    (existing : id < store.scopes.size) :
    (store.bind id name value).own? asked other =
      if other = id ∧ asked = name then some value else store.own? asked other := by
  unfold own?
  by_cases same : other = id
  · subst same
    rw [scope_bind, if_pos rfl, Array.getElem?_eq_getElem existing]
    simp [Bindings.find?_bind]
  · rw [scope_bind_other store same, if_neg (fun both => same both.1)]

@[simp] theorem size_openScope (store : Store) (outer : Option ScopeId) :
    (store.openScope outer).2.scopes.size = store.scopes.size + 1 := by
  simp [openScope]

theorem scope_openScope (store : Store) (outer : Option ScopeId) {id : ScopeId}
    (existing : id < store.scopes.size) :
    (store.openScope outer).2.scopes[id]? = store.scopes[id]? :=
  Array.getElem?_push_lt existing ▸ (Array.getElem?_eq_getElem existing).symm

theorem own?_unopened (store : Store) (name : String) {id : ScopeId}
    (unopened : store.scopes.size ≤ id) : store.own? name id = none := by
  rw [own?, Array.getElem?_eq_none unopened]
  rfl

@[simp] theorem own?_openScope (store : Store) (outer : Option ScopeId) (name : String)
    (id : ScopeId) : (store.openScope outer).2.own? name id = store.own? name id := by
  simp only [own?, openScope, Array.getElem?_push]
  split
  · next last => simp [last, Bindings.find?]
  · rfl

theorem outer?_openScope (store : Store) (outer : Option ScopeId) (id : ScopeId) :
    (store.openScope outer).2.outer? id =
      if id = store.scopes.size then outer else store.outer? id := by
  simp only [outer?, openScope, Array.getElem?_push]
  split <;> rfl

end Store

end Polyglot
