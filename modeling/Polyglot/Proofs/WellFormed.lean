import Mathlib.Logic.Relation
import Polyglot.Proofs.Shadowing
import Polyglot.Proofs.Termination

/-! Scopes over time. A closure may be kept in the scope that it captures, or be carried to a scope
that has nothing to do with it, so scopes and values together form cycles. The scopes alone do not.
Main statement: whatever is done with a workspace, every scope lies inside an earlier one for good,
every closure captures a scope that is open, and no scope and no bound name goes away. -/
namespace Polyglot

namespace Store

/-- The second scope is the one right around the first. -/
def Inside (store : Store) (id outer : ScopeId) : Prop :=
  store.outer? id = some outer

theorem Inside.opened {store : Store} {id outer : ScopeId} (inside : store.Inside id outer) :
    id < store.scopes.size := by
  obtain ⟨scope, found, _⟩ := Option.bind_eq_some_iff.mp inside
  exact (Array.getElem?_eq_some_iff.mp found).1

theorem Ordered.below {store : Store} (ordered : store.Ordered) {id far : ScopeId}
    (inside : Relation.TransGen store.Inside id far) : far < id := by
  induction inside with
  | single around => exact ordered _ _ around
  | tail _ around ih => exact Nat.lt_trans (ordered _ _ around) ih

/-- What is said of a store and of what has become of it. Scopes are numbered as they were opened. A
scope lies inside an earlier one, and always inside the same; scopes stay open, and their names stay
bound; closures capture open scopes; so no scope lies inside itself, and every lookup ends. -/
structure Endures (before after : Store) : Prop where
  earlier : ∀ id outer, after.outer? id = some outer → outer < id ∧ id < after.scopes.size
  lasting : ∀ id < before.scopes.size,
    id < after.scopes.size ∧ after.outer? id = before.outer? id
  names : ∀ id name, (before.own? name id).isSome → (after.own? name id).isSome
  captured : ∀ id name closure, after.own? name id = some (.function closure) →
    closure.scope < after.scopes.size
  acyclic : ∀ id, ¬Relation.TransGen after.Inside id id
  lookup : ∀ name id, ∃ path, ∀ other result, after.Seeks name id other result ↔
    other = path ∧ result = after.find? name id

theorem Grows.endures {before after : Store} (grows : before.Grows after)
    (formed : after.WellFormed) : before.Endures after where
  earlier id outer around := ⟨formed.ordered id outer around, Inside.opened around⟩
  lasting id opened := ⟨Nat.lt_of_lt_of_le opened grows.size, grows.outer id opened⟩
  names := grows.names
  captured id name _ own := formed.captured id name _ own
  acyclic id inside := Nat.lt_irrefl id (formed.ordered.below inside)
  lookup := Rules.seeks_iff formed.ordered

end Store

section
variable {store : Store} {value : Value}

theorem Value.Within.mono {size more : Nat} (grown : size ≤ more) (within : value.Within size) :
    value.Within more := by
  cases value with
  | function closure => exact Nat.lt_of_lt_of_le within grown
  | _ => trivial

theorem Value.within_of_plain {size : Nat} (other : value.kind ≠ .function) : value.Within size := by
  cases value with
  | function closure => exact absurd rfl other
  | _ => trivial

theorem Value.Placed.within {charter : Charter} (placed : value.Placed charter store) :
    value.Within store.scopes.size := by
  cases placed with
  | plain other => exact within_of_plain other
  | function placed =>
    cases placed with
    | mk _ opened _ => exact opened

theorem Store.Tidy.wellFormed {charter : Charter} (tidy : store.Tidy charter) :
    store.WellFormed where
  ordered := tidy.ordered
  captured id name value own := (tidy.placed id name value own).within

end

namespace Store.WellFormed
variable {store : Store}

theorem bind (formed : store.WellFormed) {scope : ScopeId} (opened : scope < store.scopes.size)
    (name : String) {value : Value} (within : value.Within store.scopes.size) :
    (store.bind scope name value).WellFormed :=
  (formed.tidy.bind opened name within.placed).tidy.wellFormed

theorem openScope (formed : store.WellFormed) {outer : Option ScopeId}
    (opened : ∀ id ∈ outer, id < store.scopes.size) : (store.openScope outer).2.WellFormed where
  ordered := by
    cases outer with
    | none => exact formed.ordered.openOutermost
    | some id => exact formed.ordered.openScope (opened id rfl)
  captured id name value own := by
    rw [own?_openScope] at own
    exact (formed.captured id name value own).mono (store.grows_openScope outer).size

end Store.WellFormed

/-- A run in a well-formed store ends in one that has grown out of it, and what it results in
captures a scope that is open there. -/
theorem Program.run_wellFormed (limit : Nat) (program : Program) {scope : ScopeId}
    {machine : Machine} (formed : machine.store.WellFormed)
    (opened : scope < machine.store.scopes.size) :
    let ended := program.run limit scope machine
    ended.2.store.WellFormed ∧ machine.store.Grows ended.2.store ∧
      ∀ value ∈ ended.1.toOption.join, value.Within ended.2.store.scopes.size := by
  obtain ⟨leads, placed⟩ := run_leads (task_covered_free formed opened program) limit
  exact ⟨leads.tidy.wellFormed, leads.grows, fun value found => (placed value found).within⟩

def Outcome.result? : Outcome → Option Value
  | value result => result
  | failed _ | rejected _ => none

theorem execute_wellFormed (settings : Settings) (text : String) {scope : ScopeId}
    {machine : Machine} (formed : machine.store.WellFormed)
    (opened : scope < machine.store.scopes.size) :
    let execution := execute settings scope text machine
    execution.machine.store.WellFormed ∧ machine.store.Grows execution.machine.store ∧
      ∀ value ∈ execution.outcome.result?, value.Within execution.machine.store.scopes.size := by
  unfold execute
  dsimp only
  split
  · have ended := Program.run_wellFormed settings.maxCallDepth
      ((Reader.ofText settings.dialect text).parse settings.maxNesting).1.program formed opened
    generalize Program.run _ _ _ machine = result at ended ⊢
    obtain ⟨fault | value, after⟩ := result
    · exact ⟨ended.1, ended.2.1, by rintro _ ⟨⟩⟩
    · exact ended
  · -- A text that is rejected leaves the machine as it was.
    exact ⟨formed, .refl _, by rintro _ ⟨⟩⟩

/-- Whoever works with a workspace, and with values that come out of it. -/
structure Client where
  workspace : Workspace
  /-- Every value that was looked up or that a run resulted in, the latest first. -/
  given : List Value

namespace Client

def start : Client := ⟨.empty, []⟩

abbrev store (client : Client) : Store :=
  client.workspace.machine.store

/-- The values that a client has: any that are no functions, functions of any code in a scope that a
handle holds, and what it was given. -/
inductive Has (client : Client) : Value → Prop
  | plain {value : Value} (other : value.kind ≠ .function) : Has client value
  | made (parameters : List String) (body : Block) (run : Nat) {handle : Nat} {scope : ScopeId}
      (held : client.workspace.scope? handle = some scope) :
      Has client (.function ⟨parameters, body, scope, run⟩)
  | given {value : Value} (known : value ∈ client.given) : Has client value

/-- What a client can do. A handle may also be made to hold the scope that a function captures, and a
program may be run that no text is parsed to. -/
inductive Step (client : Client) : Client → Prop
  | new : Step client { client with workspace := client.workspace.new }
  | enclose (handle : Nat) :
      Step client { client with workspace := client.workspace.enclose handle }
  | clone (handle : Nat) : Step client { client with workspace := client.workspace.clone handle }
  | hold {closure : Closure} (has : client.Has (.function closure)) :
      Step client { client with workspace :=
        { client.workspace with handles := client.workspace.handles.push closure.scope } }
  | get {handle : Nat} {name : String} {value : Value}
      (found : client.workspace.get? handle name = some value) :
      Step client { client with given := value :: client.given }
  | set (handle : Nat) (name : String) {value : Value} (has : client.Has value) :
      Step client { client with workspace := client.workspace.set handle name value }
  | copy {handle target : Nat} {name newName : String} {after : Workspace}
      (copied : client.workspace.copy? handle name target newName = some after) :
      Step client { client with workspace := after }
  | run {settings : Settings} {handle : Nat} {text : String} {outcome : Outcome}
      {events : List Event} {after : Workspace}
      (ran : client.workspace.run? settings handle text = some (outcome, events, after)) :
      Step client ⟨after, outcome.result?.toList ++ client.given⟩
  | evaluate {handle : Nat} {scope : ScopeId} (held : client.workspace.scope? handle = some scope)
      (limit : Nat) (program : Program) {result : Except RunFault (Option Value)} {machine : Machine}
      (ran : program.run limit scope client.workspace.machine = (result, machine)) :
      Step client ⟨{ client.workspace with machine }, result.toOption.join.toList ++ client.given⟩

/-- What one client becomes by finitely many steps. -/
def Reaches : Client → Client → Prop :=
  Relation.ReflTransGen Step

/-- Handles and values belong to scopes that are open. -/
structure Sound (client : Client) : Prop where
  formed : client.store.WellFormed
  held : ∀ handle scope, client.workspace.scope? handle = some scope →
    scope < client.store.scopes.size
  given : ∀ value ∈ client.given, value.Within client.store.scopes.size

structure Leads (before after : Client) : Prop where
  sound : after.Sound
  grows : before.store.Grows after.store

theorem Leads.trans {first second third : Client} (earlier : first.Leads second)
    (later : second.Leads third) : first.Leads third :=
  ⟨later.sound, earlier.grows.trans later.grows⟩

namespace Sound
variable {client : Client}

theorem start : Client.start.Sound where
  formed := {
    ordered := fun id outer around => by cases around
    captured := fun id name value own => by cases own }
  held handle scope held := by cases held
  given := List.forall_mem_nil _

theorem refl (sound : client.Sound) : client.Leads client :=
  ⟨sound, .refl client.store⟩

theorem has (sound : client.Sound) {value : Value} (has : client.Has value) :
    value.Within client.store.scopes.size := by
  cases has with
  | plain other => exact Value.within_of_plain other
  | made parameters body run held => exact sound.held _ _ held
  | given known => exact sound.given value known

/-- The store grows and values come out, while the handles stay as they are. -/
theorem advance (sound : client.Sound) (machine : Machine) (formed : machine.store.WellFormed)
    (grows : client.store.Grows machine.store) (values : List Value)
    (within : ∀ value ∈ values, value.Within machine.store.scopes.size) :
    client.Leads ⟨{ client.workspace with machine }, values ++ client.given⟩ where
  grows := grows
  sound := {
    formed
    held := fun handle scope held => Nat.lt_of_lt_of_le (sound.held handle scope held) grows.size
    given := List.forall_mem_append.mpr
      ⟨within, fun value known => (sound.given value known).mono grows.size⟩ }

/-- The next handle holds an open scope. -/
theorem hold (sound : client.Sound) {id : ScopeId} (opened : id < client.store.scopes.size) :
    client.Leads { client with workspace :=
      { client.workspace with handles := client.workspace.handles.push id } } where
  grows := .refl client.store
  sound := {
    formed := sound.formed
    held := fun handle scope held => by
      rw [Workspace.scope?_push] at held
      split at held
      · cases held
        exact opened
      · exact sound.held handle scope held
    given := sound.given }

theorem openScope (sound : client.Sound) {outer : Option ScopeId}
    (opened : ∀ id ∈ outer, id < client.store.scopes.size) :
    client.Leads { client with workspace := client.workspace.openScope outer } := by
  let machine := { client.workspace.machine with store := (client.store.openScope outer).2 }
  have grown := sound.advance machine (sound.formed.openScope opened)
    (client.store.grows_openScope outer) [] (List.forall_mem_nil _)
  -- The number that the new handle holds is open only once the store has grown.
  have room : client.store.scopes.size < machine.store.scopes.size := by simp [machine]
  exact grown.trans (grown.sound.hold room)

theorem set (sound : client.Sound) {value : Value} (within : value.Within client.store.scopes.size)
    (handle : Nat) (name : String) :
    client.Leads { client with workspace := client.workspace.set handle name value } := by
  unfold Workspace.set
  cases held : client.workspace.scope? handle with
  | none => exact sound.refl
  | some id =>
    exact sound.advance _ (sound.formed.bind (sound.held handle id held) name within)
      (client.store.grows_bind id name value) [] (List.forall_mem_nil _)

theorem get (sound : client.Sound) {handle : Nat} {name : String} {value : Value}
    (found : client.workspace.get? handle name = some value) :
    value.Within client.store.scopes.size := by
  obtain ⟨scope, _, seen⟩ := Option.bind_eq_some_iff.mp found
  exact (sound.formed.tidy.get seen).within

theorem step (sound : client.Sound) {after : Client} (step : client.Step after) :
    client.Leads after := by
  cases step with
  | new => exact sound.openScope (by rintro _ ⟨⟩)
  | enclose handle =>
    unfold Workspace.enclose
    cases held : client.workspace.scope? handle with
    | none => exact sound.refl
    | some outer =>
      apply sound.openScope
      rintro _ ⟨⟩
      exact sound.held handle outer held
  | clone handle =>
    unfold Workspace.clone
    cases held : client.workspace.scope? handle with
    | none => exact sound.refl
    | some id => exact sound.hold (sound.held handle id held)
  | hold has => exact sound.hold (sound.has has)
  | @get handle name value found =>
    exact sound.advance _ sound.formed (.refl client.store) [value]
      (List.forall_mem_singleton.mpr (sound.get found))
  | set handle name has => exact sound.set (sound.has has) handle name
  | copy copied =>
    obtain ⟨value, found, rfl⟩ := Option.map_eq_some_iff.mp copied
    exact sound.set (sound.get found) _ _
  | @run settings handle text outcome events after ran =>
    obtain ⟨scope, held, ended⟩ := Option.map_eq_some_iff.mp ran
    cases ended
    obtain ⟨formed, grows, within⟩ :=
      execute_wellFormed settings text sound.formed (sound.held handle scope held)
    exact sound.advance _ formed grows _ (by simpa using within)
  | evaluate held limit program ran =>
    have ended := program.run_wellFormed limit sound.formed (sound.held _ _ held)
    rw [ran] at ended
    exact sound.advance _ ended.1 ended.2.1 _ (by simpa using ended.2.2)

theorem onward (sound : client.Sound) {later : Client} (reaches : client.Reaches later) :
    client.Leads later := by
  induction reaches with
  | refl => exact sound.refl
  | tail _ step ih => exact ih.trans (ih.sound.step step)

end Sound

/-- Scopes endure. Take a client at any time and at any later time. The scopes of the earlier time
are still there, each inside the same earlier scope and with its names still bound; every closure
that is kept in a scope, or was ever given out, captures an open scope; no scope lies inside itself,
and every lookup ends. So it is at each moment of a run too, whether the run succeeds or not. -/
theorem scopes_endure {client later : Client} (begun : start.Reaches client)
    (onward : client.Reaches later) :
    client.store.Endures later.store ∧
    (∀ closure, .function closure ∈ later.given → closure.scope < later.store.scopes.size) ∧
    ∀ handle scope, later.workspace.scope? handle = some scope → ∀ limit (program : Program) task,
      Rules.Reaches limit (program.task scope later.workspace.machine) task →
      later.store.Endures task.config.machine.store := by
  have sound := (Sound.start.onward begun).sound
  have leads := sound.onward onward
  refine ⟨leads.grows.endures leads.sound.formed, fun _ known => leads.sound.given _ known, ?_⟩
  intro handle scope held limit program task reaches
  have opened := leads.sound.held handle scope held
  obtain ⟨covered, grows⟩ :=
    reaches.kept (Program.task_covered_free leads.sound.formed opened program)
  exact grows.endures covered.tidy.wellFormed

/-- The block `{ f }`. -/
private def naming : Block :=
  .mk ⟨.leftBrace, "\x7b", 12, 13⟩
    [.expression ⟨.identifier, "f", 14, 15⟩ (.identifier ⟨.identifier, "f", 14, 15⟩)]

/-- The code `fn() { fn() { f } }`, captured in the first scope. -/
private def maker : Closure where
  parameters := []
  body := .mk ⟨.leftBrace, "\x7b", 5, 6⟩
    [.expression ⟨.keyword .fnWord, "fn", 7, 9⟩ (.function ⟨.keyword .fnWord, "fn", 7, 9⟩ [] naming)]
  scope := 0
  run := 0

/-- Two scopes side by side, the first of which binds `f` to a function that captures it. -/
private def apart : Client :=
  ⟨Workspace.empty.new.new.set 0 "f" (.function maker), []⟩

/-- The program `let h = g()`, then `x`. -/
private def callThenFail : Program :=
  [.binding ⟨.keyword .letWord, "let", 0, 3⟩ ⟨.identifier, "h", 4, 5⟩
    (.call ⟨.leftParen, "(", 9, 10⟩ (.identifier ⟨.identifier, "g", 8, 9⟩) []),
    .expression ⟨.identifier, "x", 12, 13⟩ (.identifier ⟨.identifier, "x", 12, 13⟩)]

/-- The second scope binds `g` to the same function. -/
private def shared : Workspace :=
  apart.workspace.set 1 "g" (.function maker)

/-- The program has run in the second scope, and what it bound has been looked up there. -/
private def failed : Client where
  workspace := { shared with machine := (callThenFail.run 8 1 shared.machine).2 }
  given := [.function ⟨[], naming, 2, 0⟩]

/-- Where the body of the function begins when the program runs once more. -/
private def entered : Rules.Config :=
  (callThenFail.task 1 failed.workspace.machine).config.enter maker []

private theorem apart_reaches_failed : apart.Reaches failed := by
  have copies : apart.Step ⟨shared, []⟩ := @Step.copy _ 0 1 "f" "g" _ rfl
  have runs : Step ⟨shared, []⟩ ⟨failed.workspace, []⟩ :=
    @Step.evaluate ⟨shared, []⟩ 1 1 rfl 8 callThenFail _ _ rfl
  have looks : Step ⟨failed.workspace, []⟩ failed := @Step.get _ 1 "h" _ rfl
  exact .head copies (.head runs (.single looks))

/-- A function is carried to a scope beside its own and called there by a program that fails later
on. The call leaves a scope inside the function's own, and a function that captures it. A second run
opens a scope more, and it endures midway as well. -/
theorem scopes_endure_failed :
    (start.Reaches apart ∧ apart.Reaches failed) ∧
    (callThenFail.run 8 1 shared.machine).1 = .error (.unknownIdentifier "x") ∧
    (failed.store.outer? 2 = some 0 ∧ 0 < 2 ∧ ¬Relation.TransGen failed.store.Inside 2 2) ∧
    ((apart.store.own? "f" 0).isSome ∧ (failed.store.own? "f" 0).isSome) ∧
    (failed.store.own? "f" 0 = some (.function maker) ∧ maker.scope < failed.store.scopes.size) ∧
    (.function ⟨[], naming, 2, 0⟩ ∈ failed.given ∧ 2 < failed.store.scopes.size) ∧
    (Rules.Reaches 8 (callThenFail.task 1 failed.workspace.machine)
        ⟨.block 0 3 maker.body, entered⟩ ∧
      entered.machine.store.outer? 3 = some 0 ∧ failed.store.Endures entered.machine.store) := by
  have begun : start.Reaches apart :=
    .head .new (.head .new (.single (.set 0 "f" (@Has.made _ [] maker.body 0 0 0 rfl))))
  obtain ⟨endures, given, runs⟩ := scopes_endure begun apart_reaches_failed
  have outer : failed.store.outer? 2 = some 0 := rfl
  have kept : failed.store.own? "f" 0 = some (.function maker) := rfl
  have known : .function ⟨[], naming, 2, 0⟩ ∈ failed.given := List.mem_singleton_self _
  have midway : Rules.Reaches 8 (callThenFail.task 1 failed.workspace.machine)
      ⟨.block 0 3 maker.body, entered⟩ :=
    .head .line (.head .bound (.head (.application (.identifier rfl) .nil)
      (.single (.body rfl (by decide)))))
  exact ⟨⟨begun, apart_reaches_failed⟩, rfl,
    ⟨outer, (endures.earlier 2 0 outer).1, endures.acyclic 2⟩,
    ⟨rfl, endures.names 0 "f" rfl⟩, ⟨kept, endures.captured 0 "f" maker kept⟩,
    ⟨known, given _ known⟩, midway, rfl, runs 1 1 rfl 8 callThenFail _ midway⟩

end Client

end Polyglot
