import Polyglot.Proofs.Frame
import Polyglot.Proofs.LiteralDepth
import Polyglot.Proofs.Sessions

/-! How deep scopes lie. The text bounds it and not the number of calls: a closure captures a scope
with as many scopes around it as its literal lies inside others, however it came to be called, and
the limit on nesting bounds how many those are. Main statement: in a script and in a session no chain
of scopes is longer than the limit by more than one, and no name is looked up in more scopes. -/
namespace Polyglot

theorem Closure.applyWithin_runs (limit remaining : Nat) (closure : Closure)
    (arguments : List Value) :
    Keeps (fun before after => after.runs = before.runs)
      (closure.applyWithin limit remaining arguments) := by
  have unchanged (machine : Machine) : machine.runs = machine.runs := rfl
  have trans (a b c : Machine) (first : b.runs = a.runs) (second : c.runs = b.runs) :
      c.runs = a.runs := second.trans first
  induction remaining generalizing closure arguments with
  | zero =>
    refine Keeps.bind trans (checkArity_keeps unchanged _ _) fun _ => ?_
    refine Keeps.bind trans unchanged fun _ => ?_
    exact Keeps.throw unchanged _
  | succ remaining ih =>
    refine Keeps.bind trans (checkArity_keeps unchanged _ _) fun _ => ?_
    refine Keeps.bind trans (fun _ => rfl) fun scope => ?_
    refine Keeps.bind trans (fun machine => ?_) fun _ => ?_
    · rw [Rules.bindAll_run]
      rfl
    refine Keeps.bind trans (fun _ => rfl) fun _ => ?_
    apply Eval.bodyValue_keeps
    exact Block.eval_keeps ⟨unchanged, trans, fun _ _ _ _ => rfl, ih⟩ closure.body
      fun _ member => member

/-- Runs are counted one by one. -/
theorem Program.run_runs (limit : Nat) (scope : ScopeId) (program : Program) (machine : Machine) :
    (program.run limit scope machine).2.runs = machine.runs + 1 := by
  let context : Context := ⟨Closure.applyWithin limit limit, machine.runs, scope⟩
  have allows : context.Allows program.targets fun before after => after.runs = before.runs :=
    ⟨fun _ => rfl, fun _ _ _ first second => second.trans first, fun _ _ _ _ => rfl,
      Closure.applyWithin_runs limit limit⟩
  exact run_keeps allows

/-- What a text is parsed to. -/
def Settings.parse (settings : Settings) (text : String) : Parsed :=
  ((Reader.ofText settings.dialect text).parse settings.maxNesting).1

/-- The program that is run: none where there is a fault. -/
def Parsed.runs (parsed : Parsed) : List Program :=
  if parsed.faults.isEmpty then [parsed.program] else []

section
variable {limit : Nat} {programs : List Program}

/-- The literals of these programs, of which the first one was run first, and room for chains as long
as the limit allows. -/
def Charter.ofPrograms (laid : ∀ program ∈ programs, program.Laid limit) : Charter where
  known run literal := ∃ program, programs[run]? = some program ∧ literal ∈ program.literals
  room count := count ≤ limit
  inner := by
    rintro run literal ⟨program, ran, inside⟩ other within
    exact ⟨program, ran, Stmt.allLiterals_enclosing program 0 literal inside other within⟩
  opens := by
    rintro run literal ⟨program, ran, inside⟩
    exact (laid program (List.mem_of_getElem? ran)).shallow literal inside

/-- A machine after the runs of these programs in an outermost scope. -/
structure Machine.Follows (limit : Nat) (programs : List Program) (scope : ScopeId)
    (machine : Machine) : Prop where
  laid : ∀ program ∈ programs, program.Laid limit
  tidy : machine.store.Tidy (.ofPrograms laid)
  opened : scope < machine.store.scopes.size
  outermost : machine.store.surrounding scope = 0
  runs : machine.runs = programs.length

end

namespace Rules

/-- What is said of a task in the last of these runs: no chain is longer than the limit by more than
one; a function literal becomes a closure that captures a scope whose chain is longer by one than the
number of literals around it; and a name is looked up in no more scopes than a chain may have. -/
structure Task.Confined (limit calls : Nat) (programs : List Program) (task : Task) : Prop where
  scopes : ∀ id < task.config.machine.store.scopes.size,
    (task.config.machine.store.chain id).length ≤ limit + 1
  capture : ∀ run scope token parameters body,
    task.work = .expr run scope (.function token parameters body) →
    ∃ program literal, programs[run]? = some program ∧ literal ∈ program.literals ∧
      literal.expr = .function token parameters body ∧
      (∀ other ∈ program.literals, other.expr = literal.expr → other = literal) ∧
      Evaluates calls run scope literal.expr task.config
        (.ok (.function (literal.closure run scope)) task.config) ∧
      (task.config.machine.store.chain scope).length = literal.depth + 1
  lookup : ∀ run scope token, task.work = .expr run scope (.identifier token) →
    ∃ path, task.config.machine.store.Seeks token.literal scope path
      (task.config.machine.store.find? token.literal scope) ∧ path.length ≤ limit + 1

theorem chain_length_le {limit : Nat} {programs : List Program}
    {laid : ∀ program ∈ programs, program.Laid limit} {store : Store}
    (tidy : store.Tidy (.ofPrograms laid)) {id : ScopeId} (opened : id < store.scopes.size) :
    (store.chain id).length ≤ limit + 1 := by
  rw [store.chain_length]
  exact Nat.succ_le_succ (tidy.room id opened)

theorem Task.Covered.confined {limit : Nat} {programs : List Program}
    {laid : ∀ program ∈ programs, program.Laid limit} {task : Task}
    (covered : task.Covered (.ofPrograms laid)) (calls : Nat) :
    task.Confined limit calls programs := by
  obtain ⟨work, config⟩ := task
  obtain ⟨tidy, covers⟩ := covered
  constructor
  · intro id opened
    exact chain_length_le tidy opened
  · rintro run scope token parameters body rfl
    obtain ⟨opened, known⟩ := covers
    rw [Expr.literals, List.forall_mem_cons] at known
    obtain ⟨program, ran, inside⟩ := known.1
    have apart := (laid program (List.mem_of_getElem? ran)).apart _ inside
    refine ⟨program, _, ran, inside, rfl, fun other among same => ?_, .function,
      Store.chain_length _ _⟩
    exact apart other among (Expr.function.inj same).1
  · rintro run scope token rfl
    obtain ⟨path, within, seeks⟩ := tidy.ordered.seeks token.literal scope
    exact ⟨path, seeks, Nat.le_trans within.length_le (chain_length_le tidy covers.1)⟩

end Rules

namespace Machine.Follows
variable {limit : Nat} {programs : List Program} {scope : ScopeId} {machine : Machine}

theorem initial (limit : Nat) :
    Follows limit [] (Store.empty.openScope none).1
      { Machine.initial with store := (Store.empty.openScope none).2 } where
  laid := List.forall_mem_nil _
  tidy := by
    constructor
    · intro id outer around
      rw [Store.outer?_openScope] at around
      split at around <;> cases around
    · intro id opened
      obtain rfl : id = 0 := Nat.lt_one_iff.mp opened
      exact Nat.zero_le limit
    · intro id name value own
      rw [Store.own?_openScope, Store.own?_unopened _ _ (Nat.zero_le id)] at own
      cases own
  opened := Nat.zero_lt_one
  outermost := rfl
  runs := rfl

theorem laid_concat (follows : Follows limit programs scope machine) {program : Program}
    (laid : program.Laid limit) : ∀ other ∈ programs ++ [program], other.Laid limit :=
  List.forall_mem_append.mpr ⟨follows.laid, List.forall_mem_singleton.mpr laid⟩

/-- The next run is a covered task once its program is among those that were begun. -/
theorem covered (follows : Follows limit programs scope machine) {program : Program}
    (laid : program.Laid limit) :
    (program.task scope machine).Covered (.ofPrograms (follows.laid_concat laid)) where
  tidy := by
    apply follows.tidy.weaken
    constructor
    · rintro run literal ⟨other, ran, inside⟩
      obtain ⟨earlier, _⟩ := List.getElem?_eq_some_iff.mp ran
      exact ⟨other, (List.getElem?_append_left earlier).trans ran, inside⟩
    · intro count room
      exact room
  work := by
    refine ⟨⟨follows.opened, fun literal inside => ?_⟩, Rules.OptionPlaced.none _⟩
    refine ⟨program, ?_, ?_⟩
    · rw [follows.runs, List.getElem?_concat_length]
    · rwa [Program.literals, ← follows.outermost]

theorem run (follows : Follows limit programs scope machine) {program : Program}
    (laid : program.Laid limit) (calls : Nat) :
    Follows limit (programs ++ [program]) scope (program.run calls scope machine).2 := by
  have leads := (Program.run_leads (follows.covered laid) calls).1
  refine ⟨follows.laid_concat laid, leads.tidy, ?_, ?_, ?_⟩
  · exact Nat.lt_of_lt_of_le follows.opened leads.grows.size
  · rw [leads.grows.surrounding_eq follows.tidy.ordered follows.opened, follows.outermost]
  · rw [Program.run_runs, follows.runs, List.length_append, List.length_singleton]

theorem execute (settings : Settings)
    (follows : Follows settings.maxNesting programs scope machine) (text : String) :
    Follows settings.maxNesting (programs ++ (settings.parse text).runs) scope
      (execute settings scope text machine).machine := by
  have parsed : settings.parse text =
    ((Reader.ofText settings.dialect text).parse settings.maxNesting).1 := rfl
  unfold Polyglot.execute
  dsimp only
  rw [← parsed]
  unfold Parsed.runs
  split
  · have laid : (settings.parse text).program.Laid settings.maxNesting :=
      Reader.parse_laid (List.isEmpty_iff.mp ‹_›)
    have after := follows.run laid settings.maxCallDepth
    exact ⟨after.laid, after.tidy, after.opened, after.outermost, after.runs⟩
  · rw [List.append_nil]
    exact follows

end Machine.Follows

/-- What is said of a text that is executed after these programs: of the scopes that it leaves, of its
run, which is what the rules derive for its program, and of every task that comes up in the run. -/
structure Confined (settings : Settings) (scope : ScopeId) (text : String) (machine : Machine)
    (programs : List Program) : Prop where
  left : let store := (execute settings scope text machine).machine.store
    ∀ id < store.scopes.size, (store.chain id).length ≤ settings.maxNesting + 1
  derived : ∀ program ∈ (settings.parse text).runs, ∃ ended,
    Rules.ExecutesAll settings.maxCallDepth machine.runs scope none program
      (program.task scope machine).config ended ∧
    program.run settings.maxCallDepth scope machine = ended.outcome ∧
    (execute settings scope text machine).machine = { ended.outcome.2 with noted := [] }
  tasks : ∀ program ∈ (settings.parse text).runs, ∀ task,
    Rules.Reaches settings.maxCallDepth (program.task scope machine) task →
    task.Confined settings.maxNesting settings.maxCallDepth (programs ++ [program])

theorem execute_machine {settings : Settings} {scope : ScopeId} {text : String}
    {machine : Machine} {program : Program} (runs : program ∈ (settings.parse text).runs) :
    (execute settings scope text machine).machine =
      { (program.run settings.maxCallDepth scope machine).2 with noted := [] } := by
  unfold Parsed.runs at runs
  split at runs
  · rename_i sound
    obtain rfl := List.mem_singleton.mp runs
    have parsed : settings.parse text =
      ((Reader.ofText settings.dialect text).parse settings.maxNesting).1 := rfl
    unfold execute
    dsimp only
    rw [← parsed, if_pos sound]
  · cases runs

theorem Machine.Follows.confined (settings : Settings) {programs : List Program}
    {scope : ScopeId} {machine : Machine}
    (follows : Follows settings.maxNesting programs scope machine) (text : String) :
    Confined settings scope text machine programs where
  left id opened := Rules.chain_length_le (follows.execute settings text).tidy opened
  derived program run := by
    obtain ⟨ended, executes, same⟩ :=
      Rules.run_derived settings.maxCallDepth scope program machine
    exact ⟨ended, executes, same, by rw [execute_machine run, same]⟩
  tasks program run task reaches := by
    have laid : program.Laid settings.maxNesting :=
      (follows.execute settings text).laid program (List.mem_append_right _ run)
    exact (reaches.covered (follows.covered laid)).confined settings.maxCallDepth

namespace Session

/-- The session after these lines. -/
def after (session : Session) : List String → Session
  | [] => session
  | line :: rest => (session.step line).2.2.after rest

/-- The programs that are run in turn: those of the lines without faults. -/
def programs (session : Session) (lines : List String) : List Program :=
  (session.turns lines).flatMap fun turn => turn.parsed.runs

/-- What a session is like once these programs have run in it: its settings are as they were. -/
theorem after_follows {settings : Settings} {session : Session} {programs : List Program}
    (same : session.settings = settings)
    (follows : session.machine.Follows settings.maxNesting programs session.scope)
    (lines : List String) :
    (session.after lines).settings = settings ∧
      (session.after lines).machine.Follows settings.maxNesting
        (programs ++ session.programs lines) (session.after lines).scope := by
  induction lines generalizing session programs with
  | nil =>
    have nothing : session.programs [] = [] := rfl
    rw [nothing, List.append_nil]
    exact ⟨same, follows⟩
  | cons line rest ih =>
    subst same
    have step : (session.step line).2.2.machine.Follows session.settings.maxNesting _
        session.scope :=
      follows.execute { session.settings with dialect := session.dialect } (line ++ "\n")
    have later := @ih (session.step line).2.2 _ rfl step
    rw [List.append_assoc] at later
    exact later

end Session

/-- Chains of scopes are bounded by the text. In a script and in every line of a session, whatever was
run before, no chain is longer than the limit on nesting by more than one, every closure captures a
scope as deep as its literal lies, and no lookup passes more scopes than a chain has. The rules whose
tasks are spoken of are those that a run proceeds by. -/
theorem scopes_confined (settings : Settings) :
    (∀ text, let opened := Store.empty.openScope none
      let machine : Machine := { Machine.initial with store := opened.2 }
      (executeScript settings text).1 = (execute settings opened.1 (text ++ "\n") machine).outcome ∧
        Confined settings opened.1 (text ++ "\n") machine []) ∧
    ∀ lines line, let session := (Session.start settings).after lines
      let current := { settings with dialect := session.dialect }
      (session.step line).2.2.machine =
          (execute current session.scope (line ++ "\n") session.machine).machine ∧
        Confined current session.scope (line ++ "\n") session.machine
          ((Session.start settings).programs lines) := by
  have start := Machine.Follows.initial settings.maxNesting
  constructor
  · intro text opened machine
    exact ⟨rfl, start.confined settings (text ++ "\n")⟩
  · intro lines line session current
    obtain ⟨same, follows⟩ := @Session.after_follows settings (.start settings) [] rfl start lines
    refine ⟨?_, follows.confined current (line ++ "\n")⟩
    rw [Session.step, same]

/-- The longest chain that a limit of two allows. -/
example : let first := ((Session.start ⟨.eng, 2, 9⟩).step "let f = fn() \x7b fn() \x7b \x7d \x7d").2.2
    let store := ((first.step "let g = f()").2.2.step "g()").2.2.machine.store
    store.scopes.size = 3 ∧ (store.chain 2).length = 3 := by
  decide +kernel

end Polyglot
