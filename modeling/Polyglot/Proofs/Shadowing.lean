import Polyglot.Proofs.Chains
import Polyglot.Workspace

/-! Lexical shadowing. What has been done with handles is a history, and a history alone tells what a
name means: scopes are known by the order in which they were opened, and every write is listed. A
workspace in which the history took place gives each name that meaning. -/
namespace Polyglot

/-- What has been done with handles. That many have been given out, and only these can be used. -/
inductive History : Nat → Type
  | start : History 0
  | new {count : Nat} (before : History count) : History (count + 1)
  | enclose {count : Nat} (before : History count) (outer : Fin count) : History (count + 1)
  | clone {count : Nat} (before : History count) (handle : Fin count) : History (count + 1)
  | set {count : Nat} (before : History count) (handle : Fin count) (name : String)
      (value : Value) : History count

/-- A name that was given a value in a scope. -/
structure Write where
  scope : Nat
  name : String
  value : Value

def Write.concerns (name : String) (scope : Nat) (write : Write) : Bool :=
  write.name = name && write.scope = scope

namespace History

/-- The workspace in which all of it was done. -/
def workspace : {count : Nat} → History count → Workspace
  | _, start => .empty
  | _, new before => before.workspace.new
  | _, enclose before outer => before.workspace.enclose outer
  | _, clone before handle => before.workspace.clone handle
  | _, set before handle name value => before.workspace.set handle name value

/-- The number of scopes that were opened. -/
def opened : {count : Nat} → History count → Nat
  | _, start => 0
  | _, new before | _, enclose before _ => before.opened + 1
  | _, clone before _ | _, set before _ _ _ => before.opened

/-- The scope that a handle holds, by its number in the order of opening. -/
def scope : {count : Nat} → History count → Fin count → Nat
  | _, start => Fin.elim0
  | _, new before | _, enclose before _ => Fin.lastCases before.opened before.scope
  | _, clone before handle => Fin.lastCases (before.scope handle) before.scope
  | _, set before _ _ _ => before.scope

/-- The scopes around the one that a handle holds, the nearest first. -/
def around : {count : Nat} → History count → Fin count → List Nat
  | _, start => Fin.elim0
  | _, new before => Fin.lastCases [] before.around
  | _, enclose before outer =>
    Fin.lastCases (before.scope outer :: before.around outer) before.around
  | _, clone before handle => Fin.lastCases (before.around handle) before.around
  | _, set before _ _ _ => before.around

/-- All that was written, the latest first. -/
def writes : {count : Nat} → History count → List Write
  | _, start => []
  | _, new before | _, enclose before _ | _, clone before _ => before.writes
  | _, set before handle name value => ⟨before.scope handle, name, value⟩ :: before.writes

variable {count : Nat} (history : History count)

/-- The scopes that a handle sees, its own first. -/
def chain (handle : Fin count) : List Nat :=
  history.scope handle :: history.around handle

/-- The name was ever set on the scope, through whichever handle. -/
def EverSet (name : String) (scope : Nat) : Prop :=
  ∃ write ∈ history.writes, write.concerns name scope = true

/-- What the name was set to on the scope at last. -/
def LastSet (name : String) (scope : Nat) (value : Value) : Prop :=
  ∃ later earlier, history.writes = later ++ ⟨scope, name, value⟩ :: earlier ∧
    ∀ write ∈ later, write.concerns name scope = false

/-- The handle sees the scope, and the name was never set on a nearer one. -/
def Reaches (handle : Fin count) (name : String) (scope : Nat) : Prop :=
  ∃ nearer farther, history.chain handle = nearer ++ scope :: farther ∧
    ∀ other ∈ nearer, ¬history.EverSet name other

/-- What the name means through the handle: the value that was set last on the nearest scope that it
was set on, otherwise the builtin function of that name, otherwise nothing. -/
inductive Means (handle : Fin count) (name : String) : Option Value → Prop
  | bound {scope : Nat} {value : Value} (nearest : history.Reaches handle name scope)
      (latest : history.LastSet name scope value) : Means handle name (some value)
  | builtin {known : Builtin} (free : ∀ scope ∈ history.chain handle, ¬history.EverSet name scope)
      (called : known.name = name) : Means handle name (some (.builtin known))
  | nothing (free : ∀ scope ∈ history.chain handle, ¬history.EverSet name scope)
      (unknown : ∀ known : Builtin, known.name ≠ name) : Means handle name none

/-- `LastSet` as a function. -/
def latest? (name : String) (scope : Nat) : Option Value :=
  (history.writes.find? (Write.concerns name scope)).map Write.value

variable {history} {name : String} {scope : Nat}

theorem latest?_eq_some_iff {value : Value} :
    history.latest? name scope = some value ↔ history.LastSet name scope value := by
  simp only [latest?, LastSet, Option.map_eq_some_iff, List.find?_eq_some_iff_append]
  constructor
  · rintro ⟨⟨_, _, _⟩, ⟨concerned, later, earlier, all, free⟩, rfl⟩
    obtain ⟨rfl, rfl⟩ : _ = name ∧ _ = scope := by simpa [Write.concerns] using concerned
    exact ⟨later, earlier, all, by simpa using free⟩
  · rintro ⟨later, earlier, all, free⟩
    exact ⟨_, ⟨by simp [Write.concerns], later, earlier, all, by simpa using free⟩, rfl⟩

theorem latest?_eq_none_iff : history.latest? name scope = none ↔ ¬history.EverSet name scope := by
  simp [latest?, EverSet]

theorem latest?_set (handle : Fin count) (key : String) (value : Value) :
    (history.set handle key value).latest? name scope =
      if scope = history.scope handle ∧ name = key then some value
      else history.latest? name scope := by
  rw [latest?, writes, List.find?_cons]
  by_cases concerned : Write.concerns name scope ⟨history.scope handle, key, value⟩ = true
  · obtain ⟨rfl, rfl⟩ : key = name ∧ history.scope handle = scope := by
      simpa [Write.concerns] using concerned
    simp [concerned]
  · have other : ¬(scope = history.scope handle ∧ name = key) := by
      rintro ⟨rfl, rfl⟩
      simp [Write.concerns] at concerned
    rw [Bool.not_eq_true] at concerned
    rw [concerned, if_neg other, latest?]

end History

theorem Builtin.ofName?_eq_some_iff {name : String} {known : Builtin} :
    ofName? name = some known ↔ known.name = name := by
  constructor
  · intro found
    unfold ofName? at found
    have same := List.find?_some found
    exact eq_of_beq same
  · rintro rfl
    cases known with
    | length tongue => cases tongue <;> decide +kernel

theorem Builtin.ofName?_eq_none_iff {name : String} :
    ofName? name = none ↔ ∀ known : Builtin, known.name ≠ name := by
  simp only [Option.eq_none_iff_forall_ne_some, ne_eq, ofName?_eq_some_iff]

/-- The handle that is given out next. -/
theorem Workspace.scope?_push (workspace : Workspace) (id : ScopeId) (machine : Machine)
    (handle : Nat) :
    Workspace.scope? ⟨workspace.handles.push id, machine⟩ handle =
      if handle = workspace.handles.size then some id else workspace.scope? handle :=
  Array.getElem?_push

namespace History
variable {count : Nat}

/-- The workspace holds the scopes that the history tells of. -/
structure Reflected (history : History count) (workspace : Workspace) : Prop where
  handles : workspace.handles.size = count
  opened : workspace.machine.store.scopes.size = history.opened
  ordered : workspace.machine.store.Ordered
  existing : ∀ handle, history.scope handle < workspace.machine.store.scopes.size
  scope : ∀ handle : Fin count, workspace.scope? handle = some (history.scope handle)
  chain : ∀ handle, workspace.machine.store.chain (history.scope handle) = history.chain handle
  own : ∀ name scope, workspace.machine.store.own? name scope = history.latest? name scope

namespace Reflected
variable {before : History count} {workspace : Workspace}

theorem start : Reflected .start .empty where
  handles := rfl
  opened := rfl
  ordered _ _ around := by cases around
  existing handle := handle.elim0
  scope handle := handle.elim0
  chain handle := handle.elim0
  own _ _ := rfl

/-- A scope is opened, and the next handle holds it. -/
theorem openScope (reflected : before.Reflected workspace) {outer : Option ScopeId}
    {after : History (count + 1)} {around : List Nat}
    (ordered : (workspace.machine.store.openScope outer).2.Ordered)
    (chain : (workspace.machine.store.openScope outer).2.chain workspace.machine.store.scopes.size =
      workspace.machine.store.scopes.size :: around)
    (opened : after.opened = before.opened + 1)
    (scope : after.scope = Fin.lastCases before.opened before.scope)
    (outside : after.around = Fin.lastCases around before.around)
    (writes : after.writes = before.writes) : after.Reflected (workspace.openScope outer) where
  handles := by
    simp [Workspace.openScope, reflected.handles]
  opened := by
    rw [opened, ← reflected.opened]
    exact workspace.machine.store.size_openScope outer
  ordered := ordered
  existing := by
    have size : (workspace.openScope outer).machine.store.scopes.size = _ :=
      workspace.machine.store.size_openScope outer
    rw [scope, size]
    refine Fin.lastCases ?_ fun handle => ?_
    · simp [reflected.opened]
    · simpa using Nat.lt_succ_of_lt (reflected.existing handle)
  scope := by
    rw [scope]
    refine Fin.lastCases ?_ fun handle => ?_
    · simp [Workspace.openScope, Workspace.scope?_push, Store.openScope, reflected.handles,
        reflected.opened]
    · simp [Workspace.openScope, Workspace.scope?_push, reflected.handles,
        Nat.ne_of_lt handle.isLt, reflected.scope]
  chain := by
    rw [scope]
    refine Fin.lastCases ?_ fun handle => ?_
    · simp only [Fin.lastCases_last, History.chain, scope, outside, ← reflected.opened]
      exact chain
    · have kept := (workspace.machine.store.grows_openScope outer).chain_eq reflected.ordered
        (reflected.existing handle)
      simp only [Fin.lastCases_castSucc, History.chain, scope, outside]
      exact kept.trans (reflected.chain handle)
  own name id := by
    rw [latest?, writes]
    exact (workspace.machine.store.own?_openScope outer name id).trans (reflected.own name id)

theorem new (reflected : before.Reflected workspace) : before.new.Reflected workspace.new := by
  refine reflected.openScope reflected.ordered.openOutermost ?_ rfl rfl rfl rfl
  rw [Store.chain_outermost]
  rw [Store.outer?_openScope, if_pos rfl]

theorem enclose (reflected : before.Reflected workspace) (outer : Fin count) :
    (before.enclose outer).Reflected (workspace.enclose outer) := by
  have existing := reflected.existing outer
  rw [Workspace.enclose, reflected.scope outer]
  refine reflected.openScope (reflected.ordered.openScope existing) ?_ rfl rfl rfl rfl
  rw [Store.chain_opened reflected.ordered existing, reflected.chain outer]
  rfl

theorem clone (reflected : before.Reflected workspace) (handle : Fin count) :
    (before.clone handle).Reflected (workspace.clone handle) := by
  rw [Workspace.clone, reflected.scope handle]
  exact {
    handles := by simp [reflected.handles]
    opened := reflected.opened
    ordered := reflected.ordered
    existing := by
      refine Fin.lastCases ?_ fun other => ?_
      · simpa [History.scope] using reflected.existing handle
      · simpa [History.scope] using reflected.existing other
    scope := by
      refine Fin.lastCases ?_ fun other => ?_
      · simp [History.scope, Workspace.scope?_push, reflected.handles]
      · simp [History.scope, Workspace.scope?_push, reflected.handles, Nat.ne_of_lt other.isLt,
          reflected.scope]
    chain := by
      refine Fin.lastCases ?_ fun other => ?_
      · simpa [History.chain, History.scope, History.around] using reflected.chain handle
      · simpa [History.chain, History.scope, History.around] using reflected.chain other
    own := reflected.own }

theorem set (reflected : before.Reflected workspace) (handle : Fin count) (name : String)
    (value : Value) : (before.set handle name value).Reflected (workspace.set handle name value) := by
  have existing := reflected.existing handle
  have grows := workspace.machine.store.grows_bind (before.scope handle) name value
  rw [Workspace.set, reflected.scope handle]
  exact {
    handles := reflected.handles
    opened := (Store.size_bind _ _ _ _).trans reflected.opened
    ordered := reflected.ordered.bind _ _ _
    existing := fun other => Nat.lt_of_lt_of_le (reflected.existing other) grows.size
    scope := reflected.scope
    chain := fun other =>
      (grows.chain_eq reflected.ordered (reflected.existing other)).trans (reflected.chain other)
    own := fun asked scope => by
      rw [latest?_set, ← reflected.own]
      exact Store.own?_bind _ _ _ _ _ _ existing }

end Reflected

theorem reflected (history : History count) : history.Reflected history.workspace := by
  induction history with
  | start => exact .start
  | new before ih => exact ih.new
  | enclose before outer ih => exact ih.enclose outer
  | clone before handle ih => exact ih.clone handle
  | set before handle name value ih => exact ih.set handle name value

/-- The workspace looks a name up as the history tells. -/
theorem get?_eq (history : History count) (handle : Fin count) (name : String) :
    history.workspace.get? handle name =
      ((history.chain handle).findSome? (history.latest? name)).or
        ((Builtin.ofName? name).map .builtin) := by
  have own : history.workspace.machine.store.own? name = history.latest? name :=
    funext (history.reflected.own name)
  rw [Workspace.get?, history.reflected.scope handle, Option.bind_some, Store.get?, Store.find?,
    history.reflected.chain handle, own]
  cases (history.chain handle).findSome? (history.latest? name) <;> rfl

section
variable {history : History count} {handle : Fin count} {name : String}

theorem findSome?_eq_none_of_free
    (free : ∀ scope ∈ history.chain handle, ¬history.EverSet name scope) :
    (history.chain handle).findSome? (history.latest? name) = none :=
  List.findSome?_eq_none_iff.mpr fun scope seen => latest?_eq_none_iff.mpr (free scope seen)

theorem Means.get?_eq {result : Option Value} (means : history.Means handle name result) :
    history.workspace.get? handle name = result := by
  rw [History.get?_eq]
  cases means with
  | @bound scope value nearest latest =>
    obtain ⟨nearer, farther, chain, free⟩ := nearest
    have found : (history.chain handle).findSome? (history.latest? name) = some value :=
      List.findSome?_eq_some_iff.mpr ⟨nearer, scope, farther, chain, latest?_eq_some_iff.mpr latest,
        fun other passed => latest?_eq_none_iff.mpr (free other passed)⟩
    rw [found, Option.some_or]
  | builtin free called =>
    rw [findSome?_eq_none_of_free free, Builtin.ofName?_eq_some_iff.mpr called]
    rfl
  | nothing free unknown =>
    rw [findSome?_eq_none_of_free free, Builtin.ofName?_eq_none_iff.mpr unknown]
    rfl

theorem means_get? (history : History count) (handle : Fin count) (name : String) :
    history.Means handle name (history.workspace.get? handle name) := by
  rw [History.get?_eq]
  cases found : (history.chain handle).findSome? (history.latest? name) with
  | some value =>
    obtain ⟨nearer, scope, farther, chain, latest, free⟩ := List.findSome?_eq_some_iff.mp found
    refine .bound ⟨nearer, farther, chain, fun other passed => ?_⟩ (latest?_eq_some_iff.mp latest)
    exact latest?_eq_none_iff.mp (free other passed)
  | none =>
    have free : ∀ scope ∈ history.chain handle, ¬history.EverSet name scope := fun scope seen =>
      latest?_eq_none_iff.mp (List.findSome?_eq_none_iff.mp found scope seen)
    cases known : Builtin.ofName? name with
    | some builtin => exact .builtin free (Builtin.ofName?_eq_some_iff.mp known)
    | none => exact .nothing free (Builtin.ofName?_eq_none_iff.mp known)

theorem chain_set (history : History count) (target : Fin count) (key : String) (value : Value)
    (handle : Fin count) : (history.set target key value).chain handle = history.chain handle :=
  rfl

/-- A write is seen from wherever its scope is reached. -/
theorem get?_set_of_reaches {target : Fin count}
    (reaches : history.Reaches handle name (history.scope target)) (value : Value) :
    (history.set target name value).workspace.get? handle name = some value := by
  obtain ⟨nearer, farther, chain, free⟩ := reaches
  have found : (history.chain handle).findSome?
      ((history.set target name value).latest? name) = some value := by
    rw [chain]
    clear chain
    induction nearer with
    | nil => simp [latest?_set]
    | cons scope nearer ih =>
      obtain ⟨unset, others⟩ := List.forall_mem_cons.mp free
      rw [List.cons_append, List.findSome?_cons, latest?_set, latest?_eq_none_iff.mpr unset]
      by_cases here : scope = history.scope target
      · simp [here]
      · simpa [here] using ih others
  rw [History.get?_eq, chain_set, found, Option.some_or]

/-- A write of another name, or to a scope that is not reached, is not seen. -/
theorem get?_set_of_not_reaches {target : Fin count} {key : String}
    (apart : ¬(name = key ∧ history.Reaches handle key (history.scope target))) (value : Value) :
    (history.set target key value).workspace.get? handle name =
      history.workspace.get? handle name := by
  have unseen : (history.chain handle).findSome? ((history.set target key value).latest? name) =
      (history.chain handle).findSome? (history.latest? name) := by
    unfold Reaches at apart
    generalize history.chain handle = chain at apart
    induction chain with
    | nil => rfl
    | cons scope chain ih =>
      have elsewhere : ¬(scope = history.scope target ∧ name = key) := by
        rintro ⟨rfl, rfl⟩
        exact apart ⟨rfl, [], chain, rfl, List.forall_mem_nil _⟩
      rw [List.findSome?_cons, List.findSome?_cons, latest?_set, if_neg elsewhere]
      cases own : history.latest? name scope with
      | some bound => rfl
      | none =>
        refine ih ?_
        rintro ⟨rfl, nearer, farther, split, free⟩
        exact apart ⟨rfl, scope :: nearer, farther, congrArg _ split,
          List.forall_mem_cons.mpr ⟨latest?_eq_none_iff.mp own, free⟩⟩
  rw [History.get?_eq, History.get?_eq, chain_set, unseen]

end

/-- Handles implement lexical shadowing. Whatever has been done with them, a name means through a
handle just what the workspace gives for it. One more write is seen for its own name alone, and only
through the handles that reach its scope past no other binding of the name. -/
theorem get_means (history : History count) (handle : Fin count) (name : String) :
    (∀ result, history.workspace.get? handle name = result ↔ history.Means handle name result) ∧
      ∀ (target : Fin count) (key : String) (value : Value),
        let after := (history.set target key value).workspace
        (name = key ∧ history.Reaches handle key (history.scope target) →
          after.get? handle name = some value) ∧
        (¬(name = key ∧ history.Reaches handle key (history.scope target)) →
          after.get? handle name = history.workspace.get? handle name) := by
  refine ⟨fun result => ⟨fun same => same ▸ history.means_get? handle name, Means.get?_eq⟩, ?_⟩
  intro target key value
  refine ⟨?_, fun apart => get?_set_of_not_reaches apart value⟩
  rintro ⟨rfl, reaches⟩
  exact get?_set_of_reaches reaches value

/-- A scope, a second handle to it, and a scope that was opened inside it through that one. -/
private def nestedHandles : History 3 :=
  .enclose (.clone (.new .start) 0) 1

/-- A write through the first handle is seen from inside, where the name meant a builtin function. A
write from inside is not seen outside. -/
theorem get_means_inside :
    let outer := nestedHandles.set 0 "len" (.integer 3)
    let inner := outer.set 2 "len" .null
    (nestedHandles.Means 2 "len" (some (.builtin (.length .eng))) ∧
      nestedHandles.workspace.get? 2 "len" = some (.builtin (.length .eng))) ∧
    (nestedHandles.Reaches 2 "len" (nestedHandles.scope 0) ∧
      outer.workspace.get? 2 "len" = some (.integer 3)) ∧
    (¬outer.Reaches 1 "len" (outer.scope 2) ∧
      inner.workspace.get? 1 "len" = outer.workspace.get? 1 "len") := by
  intro outer inner
  have unset (name : String) (scope : Nat) : ¬nestedHandles.EverSet name scope := by
    rintro ⟨write, written, _⟩
    cases written
  have builtin : nestedHandles.Means 2 "len" (some (.builtin (.length .eng))) :=
    .builtin (fun scope _ => unset "len" scope) rfl
  have reaches : nestedHandles.Reaches 2 "len" (nestedHandles.scope 0) :=
    ⟨[1], [], rfl, fun scope _ => unset "len" scope⟩
  have apart : ¬outer.Reaches 1 "len" (outer.scope 2) := by
    rintro ⟨nearer, farther, chain, _⟩
    have seen : 1 ∈ [0] := by
      have chain : [0] = nearer ++ 1 :: farther := chain
      rw [chain]
      exact List.mem_append_right _ List.mem_cons_self
    exact absurd seen (by decide)
  refine ⟨⟨builtin, ((get_means nestedHandles 2 "len").1 _).mpr builtin⟩, ⟨reaches, ?_⟩, apart, ?_⟩
  · exact ((get_means nestedHandles 2 "len").2 0 "len" (.integer 3)).1 ⟨rfl, reaches⟩
  · exact ((get_means outer 1 "len").2 2 "len" .null).2 fun both => apart both.2

end History

end Polyglot
