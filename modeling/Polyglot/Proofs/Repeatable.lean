import Polyglot.Proofs.Chains
import Polyglot.Proofs.Derivations
import Polyglot.Proofs.Frame
import Polyglot.Proofs.Parallel

/-! Applying a function again. A second application opens scopes of its own behind those that the
first one has left, so its scopes are numbered higher by the same amount throughout; nothing else
differs. Main statement: in a well-formed store, the outcome of an application is the same after any
number of further scopes have been opened. -/
namespace Polyglot

/-- A closure among these scopes captures one of the first so many. -/
def Value.Within (size : Nat) : Value → Prop
  | .function closure => closure.scope < size
  | _ => True

/-- A scope lies inside scopes that were opened before it, and closures capture scopes that are
open. -/
structure Store.WellFormed (store : Store) : Prop where
  ordered : store.Ordered
  captured : ∀ id name value, store.own? name id = some value → value.Within store.scopes.size

theorem Store.wellFormed_single (name : String) {value : Value} (within : value.Within 1) :
    (Store.mk #[⟨[(name, value)], none⟩]).WellFormed where
  ordered id outer found := by
    cases id with
    | zero => cases found
    | succ id => cases found
  captured id key other found := by
    cases id with
    | succ id => cases found
    | zero =>
      change List.lookup key [(name, value)] = some other at found
      rw [List.lookup_cons] at found
      split at found <;> cases found
      exact within

/-- The number of a scope in a store that has so many more scopes from a number on. -/
def displace (base gap id : Nat) : Nat :=
  if id < base then id else id + gap

/-- Closures that differ in the number of the scope they capture, one of the first so many. -/
def Closure.Displaced (base gap size : Nat) (one other : Closure) : Prop :=
  one.scope < size ∧ other = { one with scope := displace base gap one.scope }

/-- Stores of which the second one has so many more scopes from a number on. What those hold is
free. -/
structure Store.Displaced (base gap : Nat) (one other : Store) : Prop where
  above : base ≤ one.scopes.size
  size : other.scopes.size = one.scopes.size + gap
  ordered : one.Ordered
  outer : ∀ id < one.scopes.size,
    other.outer? (displace base gap id) = (one.outer? id).map (displace base gap)
  own : ∀ id < one.scopes.size, ∀ name,
    Option.Rel (Value.Alike (Closure.Displaced base gap one.scopes.size)) (one.own? name id)
      (other.own? name (displace base gap id))

section
variable {base gap : Nat}

theorem displace_low {id : Nat} (low : id < base) : displace base gap id = id :=
  if_pos low

theorem displace_high {id : Nat} (high : base ≤ id) : displace base gap id = id + gap :=
  if_neg (Nat.not_lt_of_le high)

theorem displace_lt_iff {one other : Nat} :
    displace base gap one < displace base gap other ↔ one < other := by
  unfold displace
  split <;> split <;> omega

theorem displace_inj {one other : Nat} :
    displace base gap one = displace base gap other ↔ one = other := by
  unfold displace
  split <;> split <;> omega

theorem displace_lt_size {id size : Nat} (above : base ≤ size) (existing : id < size) :
    displace base gap id < size + gap := by
  rw [← displace_high above]
  exact displace_lt_iff.mpr existing

theorem Closure.Displaced.mono {size more : Nat} (grown : size ≤ more) {one other : Closure}
    (same : Displaced base gap size one other) : Displaced base gap more one other :=
  ⟨Nat.lt_of_lt_of_le same.1 grown, same.2⟩

/-- Below the scopes that are displaced a value stays as it is. -/
theorem Value.Within.alike {value : Value} (within : value.Within base) :
    value.Alike (Closure.Displaced base gap base) value := by
  cases value with
  | function closure => exact .function ⟨within, by rw [displace_low within]⟩
  | _ => exact .plain ValueKind.noConfusion

namespace Store.Displaced
variable {one other : Store}

/-- A store beside one that extends it. -/
theorem of_extends (formed : one.WellFormed) (grown : one.Extends other) :
    Displaced one.scopes.size (other.scopes.size - one.scopes.size) one other where
  above := Nat.le_refl _
  size := (Nat.add_sub_cancel' grown.size).symm
  ordered := formed.ordered
  outer id existing := by
    have same : other.outer? id = one.outer? id := by
      rw [outer?, outer?, grown.scopes id existing]
    rw [displace_low existing, same]
    cases found : one.outer? id with
    | none => rfl
    | some outer =>
      have earlier : outer < one.scopes.size := Nat.lt_trans (formed.ordered id outer found) existing
      rw [Option.map_some, displace_low earlier]
  own id existing name := by
    have same : other.own? name id = one.own? name id := by
      rw [own?, own?, grown.scopes id existing]
    rw [displace_low existing, same]
    cases found : one.own? name id with
    | none => exact .none
    | some value =>
      have within := formed.captured id name value found
      exact .some within.alike

variable (displaced : Displaced base gap one other)
include displaced

/-- From a scope the same names are seen in both stores. The numbers of the scopes around it fall, so
a bound above the first number is never reached. -/
theorem findWithin {bound more : Nat} (name : String) {id : Nat}
    (existing : id < one.scopes.size) (low : id < bound) (high : displace base gap id < more) :
    Option.Rel (Value.Alike (Closure.Displaced base gap one.scopes.size))
      ((one.chainWithin bound id).findSome? (one.own? name))
      ((other.chainWithin more (displace base gap id)).findSome? (other.own? name)) := by
  induction bound generalizing id more with
  | zero => exact absurd low (Nat.not_lt_zero id)
  | succ bound ih =>
    obtain ⟨more, rfl⟩ : ∃ less, more = less + 1 := ⟨more - 1, by omega⟩
    have own := displaced.own id existing name
    rw [chainWithin, chainWithin, List.findSome?_cons, List.findSome?_cons,
      displaced.outer id existing]
    cases here : one.own? name id with
    | some value =>
      rw [here] at own
      generalize other.own? name (displace base gap id) = image at own ⊢
      cases own with
      | some same => exact .some same
    | none =>
      rw [here] at own
      generalize other.own? name (displace base gap id) = image at own ⊢
      cases own with
      | none =>
        cases around : one.outer? id with
        | none => exact .none
        | some outer =>
          have earlier := displaced.ordered id outer around
          exact ih (Nat.lt_trans earlier existing)
            (Nat.lt_of_lt_of_le earlier (Nat.le_of_lt_succ low))
            (Nat.lt_of_lt_of_le (displace_lt_iff.mpr earlier) (Nat.le_of_lt_succ high))

theorem get (name : String) {id : Nat} (existing : id < one.scopes.size) :
    Option.Rel (Value.Alike (Closure.Displaced base gap one.scopes.size)) (one.get? name id)
      (other.get? name (displace base gap id)) := by
  have found := displaced.findWithin name existing (Nat.lt_succ_self id)
    (Nat.lt_succ_self (displace base gap id))
  unfold Store.get? Store.find? Store.chain
  generalize List.findSome? _ _ = value at found ⊢
  generalize List.findSome? _ _ = image at found ⊢
  cases found with
  | some same => exact .some same
  | none =>
    cases Builtin.ofName? name with
    | none => exact .none
    | some builtin => exact .some (.plain ValueKind.noConfusion)

theorem bind (name : String) {id : Nat} (existing : id < one.scopes.size)
    {value image : Value}
    (same : value.Alike (Closure.Displaced base gap one.scopes.size) image) :
    Displaced base gap (one.bind id name value)
      (other.bind (displace base gap id) name image) where
  above := by simpa using displaced.above
  size := by simpa using displaced.size
  ordered := displaced.ordered.bind id name value
  outer := by simpa using displaced.outer
  own asked open' key := by
    rw [size_bind] at open'
    have image_existing : displace base gap id < other.scopes.size :=
      displaced.size ▸ displace_lt_size displaced.above existing
    rw [own?_bind _ _ _ _ _ _ existing, own?_bind _ _ _ _ _ _ image_existing]
    simp only [displace_inj, size_bind]
    split
    · exact .some same
    · exact displaced.own asked open' key

/-- A scope opened in both stores. -/
theorem openScope {outer : Nat} (existing : outer < one.scopes.size) :
    Displaced base gap (one.openScope (some outer)).2
      (other.openScope (some (displace base gap outer))).2 where
  above := by
    rw [size_openScope]
    exact Nat.le_succ_of_le displaced.above
  size := by
    rw [size_openScope, size_openScope, displaced.size]
    omega
  ordered := displaced.ordered.openScope existing
  outer id open' := by
    rw [size_openScope] at open'
    rw [outer?_openScope, outer?_openScope, displaced.size, ← displace_high displaced.above]
    simp only [displace_inj]
    split
    · rfl
    · exact displaced.outer id (by omega)
  own id open' name := by
    rw [size_openScope] at open'
    rw [own?_openScope, own?_openScope, size_openScope]
    rcases Nat.lt_or_eq_of_le (Nat.le_of_lt_succ open') with old | rfl
    · have own := displaced.own id old name
      generalize one.own? name id = value at own ⊢
      generalize other.own? name (displace base gap id) = image at own ⊢
      cases own with
      | none => exact .none
      | some same => exact .some (same.mono fun _ _ => .mono (Nat.le_succ _))
    · rw [own?_unopened one name (Nat.le_refl _), displace_high displaced.above, ← displaced.size,
        own?_unopened other name (Nat.le_refl _)]
      exact .none

end Store.Displaced

end

section
variable {α β : Type}

/-- Ends of two evaluations, the second one in a displaced store. -/
def DisplacedEnd (base gap : Nat) (related : Nat → α → β → Prop) (start : Nat) :
    EStateM.Result Exit Machine α → EStateM.Result Exit Machine β → Prop
  | .ok value after, .ok image last =>
    start ≤ after.store.scopes.size ∧ after.store.Displaced base gap last.store ∧
      related after.store.scopes.size value image
  | .error exit after, .error image last =>
    start ≤ after.store.scopes.size ∧ after.store.Displaced base gap last.store ∧
      exit.Alike (Closure.Displaced base gap after.store.scopes.size) image
  | _, _ => False

theorem DisplacedEnd.earlier {base gap start middle : Nat} {related : Nat → α → β → Prop}
    {one : EStateM.Result Exit Machine α} {other : EStateM.Result Exit Machine β}
    (ends : DisplacedEnd base gap related middle one other) (grown : start ≤ middle) :
    DisplacedEnd base gap related start one other := by
  cases one <;> cases other <;> try exact ends
  · exact ⟨Nat.le_trans grown ends.1, ends.2⟩
  · exact ⟨Nat.le_trans grown ends.1, ends.2⟩

end

/-- Evaluations in displaced stores. How many scopes are open is the stage of an evaluation. -/
def displacing (base gap : Nat) : Parallel where
  Stage := Nat
  later := (· ≤ ·)
  closures := Closure.Displaced base gap
  alike size related one other := ∀ first second : Machine, first.store.scopes.size = size →
    first.store.Displaced base gap second.store →
    DisplacedEnd base gap related size (one.run first) (other.run second)
  refl := Nat.le_refl
  trans := Nat.le_trans
  lasting grown same := same.mono grown
  pure same first second size displaced := ⟨Nat.le_of_eq size.symm, displaced, size ▸ same⟩
  throw same first second size displaced := ⟨Nat.le_of_eq size.symm, displaced, size ▸ same⟩
  bind := by
    intro α β γ δ size related result one other next image begins goes_on first second same displaced
    have begun := begins first second same displaced
    cases ran : one.run first with
    | ok value after =>
      cases done : other.run second with
      | error exit last =>
        rw [ran, done] at begun
        exact begun.elim
      | ok copy last =>
        rw [ran, done] at begun
        obtain ⟨grown, between, alike⟩ := begun
        have rest := goes_on grown alike after last rfl between
        rw [bind_ok ran, bind_ok done]
        exact rest.earlier grown
    | error exit after =>
      cases done : other.run second with
      | ok copy last =>
        rw [ran, done] at begun
        exact begun.elim
      | error copy last =>
        rw [ran, done] at begun
        rw [bind_error ran, bind_error done]
        exact begun

namespace displacing
variable {base gap size : Nat}

theorem get {scope : Nat} (existing : scope < size) (name : String) :
    (displacing base gap).alike size (displacing base gap).values (Eval.get scope name)
      (Eval.get (displace base gap scope) name) := by
  rintro first second rfl displaced
  have found := displaced.get name existing
  have looked (machine : Machine) : (getThe Machine : Eval Machine).run machine =
    .ok machine machine := rfl
  rw [Eval.get, Eval.get, bind_ok (looked first), bind_ok (looked second)]
  generalize first.store.get? name scope = value at found ⊢
  generalize second.store.get? name (displace base gap scope) = image at found ⊢
  cases found with
  | some same => exact ⟨Nat.le_refl _, displaced, same⟩
  | none => exact ⟨Nat.le_refl _, displaced, .failed _⟩

theorem bind {scope : Nat} (existing : scope < size) (name : String) {value image : Value}
    (alike : (displacing base gap).values size value image) :
    (displacing base gap).alike size (fun _ _ _ => True) (Eval.bind scope name value)
      (Eval.bind (displace base gap scope) name image) := by
  rintro first second rfl displaced
  exact ⟨Nat.le_of_eq (Store.size_bind ..).symm, displaced.bind name existing alike, trivial⟩

theorem note (event : Event) :
    (displacing base gap).alike size (fun _ _ _ => True) (Eval.note event) (Eval.note event) := by
  rintro first second rfl displaced
  exact ⟨Nat.le_refl _, displaced, trivial⟩

theorem enclose {outer : Nat} (existing : outer < size) :
    (displacing base gap).alike size
      (fun stage scope image => Nat.lt scope stage ∧ image = displace base gap scope)
      (Eval.enclose outer) (Eval.enclose (displace base gap outer)) := by
  rintro first second rfl displaced
  have opened := Store.size_openScope first.store (some outer)
  refine ⟨opened ▸ Nat.le_succ _, displaced.openScope existing, opened ▸ Nat.lt_succ_self _, ?_⟩
  exact displaced.size.trans (displace_high displaced.above).symm

theorem bodyValue {body image : Eval (Option Value)}
    (alike : (displacing base gap).alike size (displacing base gap).options body image) :
    (displacing base gap).alike size (displacing base gap).values (Eval.bodyValue body)
      (Eval.bodyValue image) := by
  intro first second same displaced
  have ends := alike first second same displaced
  show DisplacedEnd _ _ _ _ (Eval.bodyValue body first) (Eval.bodyValue image second)
  unfold Eval.bodyValue
  generalize body.run first = one at ends ⊢
  generalize image.run second = other at ends ⊢
  cases one with
  | ok result after =>
    cases other with
    | ok copy last => exact ⟨ends.1, ends.2.1, Value.Alike.getD ends.2.2⟩
    | error exit last => exact ends.elim
  | error exit after =>
    cases other with
    | ok copy last => exact ends.elim
    | error copy last =>
      obtain ⟨grown, between, same⟩ := ends
      cases same with
      | returned same => exact ⟨grown, between, same⟩
      | failed fault => exact ⟨grown, between, .failed fault⟩

theorem checkArity (closure : Closure) (scope : Nat) {arguments images : List Value}
    (given : (displacing base gap).lists size arguments images) :
    (displacing base gap).alike size (fun _ _ _ => True) (closure.checkArity arguments)
      (Closure.checkArity { closure with scope := scope } images) := by
  unfold Closure.checkArity
  rw [List.Forall₂.length_eq given]
  split
  · exact Parallel.fail _
  · exact (displacing base gap).pure trivial

theorem bindAll {scope : Nat} (existing : scope < size) (names : List String)
    {arguments images : List Value} (given : (displacing base gap).lists size arguments images) :
    (displacing base gap).alike size (fun _ _ _ => True)
      (Closure.bindAll scope (names.zip arguments))
      (Closure.bindAll (displace base gap scope) (names.zip images)) := by
  induction names generalizing size arguments images with
  | nil => exact (displacing base gap).pure trivial
  | cons name names ih =>
    cases given with
    | nil => exact (displacing base gap).pure trivial
    | cons same rest =>
      refine (displacing base gap).bind (bind existing name same) fun onward _ => ?_
      exact ih (Nat.lt_of_lt_of_le existing onward) (Parallel.lists_lasting onward rest)

/-- Surroundings in displaced stores, given how closures are applied there. -/
theorem surround {apply : Closure → List Value → Eval Value} {scope : Nat} (run : Nat)
    (existing : scope < size)
    (applies : ∀ {size closure image arguments images},
      Closure.Displaced base gap size closure image →
      (displacing base gap).lists size arguments images →
      (displacing base gap).alike size (displacing base gap).values (apply closure arguments)
        (apply image images)) :
    (displacing base gap).Surround size ⟨apply, run, scope⟩
      ⟨apply, run, displace base gap scope⟩ where
  get onward name := get (Nat.lt_of_lt_of_le existing onward) name
  bind onward name _ _ same := bind (Nat.lt_of_lt_of_le existing onward) name same
  literal onward _ _ := ⟨Nat.lt_of_lt_of_le existing onward, rfl⟩
  apply _ := applies

end displacing

/-- An application in displaced stores. The induction is on the calls that are still allowed. -/
theorem Closure.applyWithin_displaced {base gap size : Nat} (limit remaining : Nat)
    {closure image : Closure} {arguments images : List Value}
    (same : closure.Displaced base gap size image)
    (given : (displacing base gap).lists size arguments images) :
    (displacing base gap).alike size (displacing base gap).values
      (closure.applyWithin limit remaining arguments)
      (image.applyWithin limit remaining images) := by
  induction remaining generalizing size closure image arguments images with
  | zero =>
    obtain ⟨_, rfl⟩ := same
    refine (displacing base gap).bind (displacing.checkArity closure _ given) fun _ _ => ?_
    refine (displacing base gap).bind (displacing.note _) fun _ _ => ?_
    exact Parallel.fail _
  | succ remaining ih =>
    obtain ⟨captured, rfl⟩ := same
    refine (displacing base gap).bind (displacing.checkArity closure _ given) fun begun _ => ?_
    refine (displacing base gap).bind
      (displacing.enclose (Nat.lt_of_lt_of_le captured begun)) fun {_ scope _} opened inside => ?_
    obtain ⟨existing, rfl⟩ := inside
    have given := Parallel.lists_lasting (Nat.le_trans begun opened) given
    refine (displacing base gap).bind
      (displacing.bindAll existing closure.parameters given) fun bound _ => ?_
    refine (displacing base gap).bind (displacing.note _) fun noted _ => ?_
    have existing := Nat.lt_of_lt_of_le existing (Nat.le_trans bound noted)
    exact displacing.bodyValue (Block.eval_parallel (displacing.surround _ existing ih) closure.body)

/-- What a body returns is the value of its call, so a call ends with a value or a fault. -/
theorem Closure.applyWithin_failed {limit remaining : Nat} {closure : Closure}
    {arguments : List Value} {machine after : Machine} {exit : Exit}
    (ran : (closure.applyWithin limit remaining arguments).run machine = .error exit after) :
    ∃ fault, exit = .failed fault := by
  have arity {machine after : Machine} {exit : Exit}
      (ran : (closure.checkArity arguments).run machine = .error exit after) :
      ∃ fault, exit = .failed fault := by
    unfold checkArity at ran
    split at ran <;> cases ran
    exact ⟨_, rfl⟩
  cases remaining with
  | zero =>
    rcases bind_failure ran with differs | ⟨_, _, _, rest⟩
    · exact arity differs
    · cases rest
      exact ⟨_, rfl⟩
  | succ remaining =>
    rcases bind_failure ran with differs | ⟨_, _, _, rest⟩
    · exact arity differs
    rcases bind_failure rest with opening | ⟨_, _, _, rest⟩
    · cases opening
    rcases bind_failure rest with binding | ⟨_, _, _, rest⟩
    · rw [Rules.bindAll_run] at binding
      cases binding
    rcases bind_failure rest with noting | ⟨_, middle, _, rest⟩
    · cases noting
    · change Eval.bodyValue _ middle = _ at rest
      unfold Eval.bodyValue at rest
      split at rest <;> cases rest
      exact ⟨_, rfl⟩

/-- The same outcome of two applications, as far as it can be seen: the same fault, or values of one
kind and text. -/
def SameOutcome : EStateM.Result Exit Machine Value → EStateM.Result Exit Machine Value → Prop
  | .ok value _, .ok image _ => value.kind = image.kind ∧ value.text = image.text
  | .error (.failed fault) _, .error (.failed image) _ => fault = image
  | _, _ => False

theorem Value.Alike.kind_text {base gap size : Nat} {value image : Value}
    (alike : value.Alike (Closure.Displaced base gap size) image) :
    value.kind = image.kind ∧ value.text = image.text := by
  cases alike with
  | plain => exact ⟨rfl, rfl⟩
  | function same =>
    obtain ⟨_, rfl⟩ := same
    exact ⟨rfl, rfl⟩

/-- Scopes that are opened after a store have no influence on an application in it. -/
theorem Closure.applyWithin_extended (limit remaining : Nat) {machine other : Machine}
    (formed : machine.store.WellFormed) (grown : machine.store.Extends other.store)
    {closure : Closure} (captured : closure.scope < machine.store.scopes.size)
    {arguments : List Value}
    (given : ∀ value ∈ arguments, value.Within machine.store.scopes.size) :
    SameOutcome ((closure.applyWithin limit remaining arguments).run machine)
      ((closure.applyWithin limit remaining arguments).run other) := by
  have displaced := Store.Displaced.of_extends formed grown
  have ends := applyWithin_displaced limit remaining ⟨captured, rfl⟩
    (List.forall₂_same.mpr fun value member => (given value member).alike) machine other rfl displaced
  rw [displace_low captured] at ends
  cases ran : (closure.applyWithin limit remaining arguments).run machine with
  | ok value after =>
    cases done : (closure.applyWithin limit remaining arguments).run other with
    | ok image last =>
      rw [ran, done] at ends
      exact ends.2.2.kind_text
    | error exit last =>
      rw [ran, done] at ends
      exact ends.elim
  | error exit after =>
    cases done : (closure.applyWithin limit remaining arguments).run other with
    | ok image last =>
      rw [ran, done] at ends
      exact ends.elim
    | error image last =>
      rw [ran, done] at ends
      obtain ⟨fault, rfl⟩ := applyWithin_failed ran
      cases ends.2.2
      rfl

/-- Applying a function is repeatable. In a well-formed store, applying a closure to arguments and
then, in the store that this leaves, applying it to them again has the same outcome: the same fault,
or values of one kind and text. More generally the outcome is the same in every store that extends
the first one, whatever its further scopes hold. -/
theorem Closure.apply_again (limit remaining : Nat) {machine : Machine}
    (formed : machine.store.WellFormed) {closure : Closure}
    (captured : closure.scope < machine.store.scopes.size) {arguments : List Value}
    (given : ∀ value ∈ arguments, value.Within machine.store.scopes.size) :
    let outcome := (closure.applyWithin limit remaining arguments).run
    SameOutcome (outcome machine) (outcome (endState (outcome machine))) ∧
      ∀ other : Machine, machine.store.Extends other.store →
        SameOutcome (outcome machine) (outcome other) := by
  refine ⟨?_, fun other grown => applyWithin_extended limit remaining formed grown captured given⟩
  exact applyWithin_extended limit remaining formed
    (applyWithin_extends limit remaining closure arguments machine) captured given

/-- The code `fn(x) { fn() { x } }`, captured in the outer scope. -/
private def keeper : Closure where
  parameters := ["x"]
  body := .mk ⟨.leftBrace, "\x7b", 6, 7⟩
    [.expression ⟨.keyword .fnWord, "fn", 8, 10⟩ (.function ⟨.keyword .fnWord, "fn", 8, 10⟩ []
      (.mk ⟨.leftBrace, "\x7b", 13, 14⟩
        [.expression ⟨.identifier, "x", 15, 16⟩ (.identifier ⟨.identifier, "x", 15, 16⟩)]))]
  scope := 0
  run := 0

/-- An outer scope that binds `keep` to the code above. -/
private def keeping : Machine where
  store := ⟨#[⟨[("keep", .function keeper)], none⟩]⟩
  runs := 1
  noted := []

private theorem keeping_wellFormed : keeping.store.WellFormed :=
  Store.wellFormed_single "keep" Nat.zero_lt_one

/-- A further scope inside it binds the same names otherwise. -/
private def crowded : Machine :=
  { keeping with
    store := ⟨keeping.store.scopes.push ⟨[("keep", .null), ("x", .null)], some 0⟩⟩ }

private theorem crowded_extends : keeping.store.Extends crowded.store where
  size := by decide
  scopes id existing := by
    obtain rfl : id = 0 := Nat.lt_one_iff.mp existing
    rfl

/-- Of a function that returns a function two come out, which have captured two scopes. -/
theorem Closure.apply_again_keeper :
    (keeping.store.WellFormed ∧ keeper.scope < keeping.store.scopes.size ∧
      (Value.function keeper).Within keeping.store.scopes.size ∧
      keeping.store.Extends crowded.store) ∧
    let outcome := (keeper.applyWithin 8 8 [.function keeper]).run
    SameOutcome (outcome keeping) (outcome (endState (outcome keeping))) ∧
      SameOutcome (outcome keeping) (outcome crowded) ∧
      ∃ first second middle last, outcome keeping = .ok (.function first) middle ∧
        outcome (endState (outcome keeping)) = .ok (.function second) last ∧
        first.scope = 1 ∧ second = { first with scope := 2 } :=
  have again := Closure.apply_again 8 8 keeping_wellFormed (show keeper.scope < 1 by decide)
    (List.forall_mem_singleton.mpr (show (Value.function keeper).Within 1 from Nat.zero_lt_one))
  ⟨⟨keeping_wellFormed, by decide, Nat.zero_lt_one, crowded_extends⟩, again.1,
    again.2 crowded crowded_extends, _, _, _, _, rfl, rfl, rfl, rfl⟩

end Polyglot
