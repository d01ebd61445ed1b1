import Polyglot.Proofs.Erasure
import Polyglot.Proofs.LastLine
import Polyglot.Session

/-! Sessions and scripts. A session that is fed sound lines one by one comes to what a script of
those lines comes to: the script parses to the programs of the lines, at other places, and its run
is their runs one after another. -/
namespace Polyglot

def Program.ending (limit : Nat) (scope : ScopeId) (program : Program) (machine : Machine) :
    EStateM.Result Exit Machine (Option Value) :=
  (Stmt.evalAll ⟨Closure.applyWithin limit limit, machine.runs, scope⟩ none program).run
    { machine with runs := machine.runs + 1 }

/-- Whether a program stops before its end: with a fault, or with a `return` outside every
function. -/
def Program.stops (limit : Nat) (scope : ScopeId) (program : Program) (machine : Machine) : Bool :=
  match program.ending limit scope machine with
  | .ok _ _ => false
  | .error _ _ => true

/-- What one line of a session comes to. -/
structure Turn where
  parsed : Parsed
  outcome : Outcome
  stopped : Bool

namespace Turn

/-- Whether the line has a statement. -/
def busy (turn : Turn) : Bool :=
  !turn.parsed.program.isEmpty

/-- The outcome of the first line that stopped; if none did, that of the last line with a statement;
if there is none, the one given. -/
def verdictAfter (latest : Outcome) (turns : List Turn) : Outcome :=
  match turns.find? stopped with
  | some turn => turn.outcome
  | none => ((turns.filter busy).getLast?.map outcome).getD latest

def verdict (turns : List Turn) : Outcome :=
  verdictAfter (.value none) turns

theorem verdictAfter_cons (latest : Outcome) (turn : Turn) (turns : List Turn) :
    verdictAfter latest (turn :: turns) = if turn.stopped then turn.outcome
      else verdictAfter (if turn.busy then turn.outcome else latest) turns := by
  unfold verdictAfter
  rw [List.find?_cons, List.filter_cons]
  cases turn.stopped with
  | true => rfl
  | false =>
    cases turns.find? stopped with
    | some first => rfl
    | none =>
      cases turn.busy with
      | false => rfl
      | true =>
        simp only [if_pos, List.getLast?_cons]
        cases (turns.filter busy).getLast? <;> rfl

end Turn

namespace Session

def turn (session : Session) (line : String) : Turn :=
  let parsed :=
    ((Reader.ofText session.dialect (line ++ "\n")).parse session.settings.maxNesting).1
  { parsed
    outcome := (session.step line).1
    stopped := parsed.program.stops session.settings.maxCallDepth session.scope session.machine }

def turns (session : Session) : List String → List Turn
  | [] => []
  | line :: rest => session.turn line :: (session.step line).2.2.turns rest

/-- The statements of the lines in turn. -/
def statements (session : Session) (lines : List String) : Program :=
  (session.turns lines).flatMap fun turn => turn.parsed.program

theorem statements_cons (session : Session) (line : String) (lines : List String) :
    session.statements (line :: lines) =
      (session.turn line).parsed.program ++ (session.step line).2.2.statements lines :=
  rfl

end Session

/-- Outcomes of runs that differ at most in where functions were defined: no value, values of the
same kind and text, or the same fault. -/
inductive Outcome.Alike : Outcome → Outcome → Prop
  | none : Alike (.value .none) (.value .none)
  | value {one other : Value} (kind : one.kind = other.kind) (text : one.text = other.text) :
      Alike (.value (some one)) (.value (some other))
  | failed (fault : RunFault) : Alike (.failed fault) (.failed fault)

theorem Outcome.Alike.text_eq {one other : Outcome} (alike : one.Alike other) :
    one.text = other.text := by
  cases alike with
  | none => rfl
  | value kind text => simp only [Outcome.text, text]
  | failed fault => rfl

theorem Outcome.Alike.trans {one other third : Outcome} (first : one.Alike other)
    (second : other.Alike third) : one.Alike third := by
  cases first with
  | none => exact second
  | value kind text =>
    cases second with
    | value further later => exact .value (kind.trans further) (text.trans later)
  | failed fault => exact second

theorem Outcome.alike_of_bare {one other : Option Value}
    (same : one.map Value.bare = other.map Value.bare) :
    Outcome.Alike (.value one) (.value other) := by
  cases one with
  | none =>
    cases other with
    | none => exact .none
    | some other => cases same
  | some one =>
    cases other with
    | none => cases same
    | some other =>
      have equal := Option.some.inj same
      refine .value ?_ ?_
      · rw [← one.kind_bare, equal, other.kind_bare]
      · rw [← one.text_bare, equal, other.text_bare]

def Outcome.ofEnding : EStateM.Result Exit Machine (Option Value) → Outcome
  | .ok result _ => .value result
  | .error (.returned result) _ => .value (some result)
  | .error (.failed fault) _ => .failed fault

theorem Outcome.alike_of_exit {exit twin : Exit} (same : exit.bare = twin.bare)
    (after last : Machine) :
    (Outcome.ofEnding (.error exit after)).Alike (.ofEnding (.error twin last)) := by
  cases exit with
  | returned result =>
    cases twin with
    | returned copy => exact alike_of_bare (congrArg some (Exit.returned.inj same))
    | failed fault => cases same
  | failed fault =>
    cases twin with
    | returned copy => cases same
    | failed other =>
      cases same
      exact .failed fault

theorem Outcome.alike_of_agree {one other : EStateM.Result Exit Machine (Option Value)}
    (agree : Eval.bareCoupling.Agree
      (fun result copy => result.map Value.bare = copy.map Value.bare) one other) :
    (Outcome.ofEnding one).Alike (.ofEnding other) := by
  cases one with
  | ok result after =>
    cases other with
    | ok copy last => exact alike_of_bare agree.1
    | error exit last => exact agree.elim
  | error exit after =>
    cases other with
    | ok copy last => exact agree.elim
    | error twin last => exact alike_of_exit (agree.resolve_left id).1 after last

theorem Program.ending_alike (limit : Nat) (scope : ScopeId) (machine : Machine)
    {program other : Program}
    (same : Stmt.allPlain program = Stmt.allPlain other) :
    (Outcome.ofEnding (program.ending limit scope machine)).Alike
      (.ofEnding (other.ending limit scope machine)) :=
  Outcome.alike_of_agree (Stmt.evalAll_alike (Context.alike_within _ _ _ _)
    (Context.alike_within _ _ _ _) same rfl _ _ rfl)

theorem Program.run_ending (limit : Nat) (scope : ScopeId) (program : Program)
    (machine : Machine) :
    program.run limit scope machine =
      match program.ending limit scope machine with
      | .ok result after => (.ok result, after)
      | .error (.returned value) after => (.ok (some value), after)
      | .error (.failed fault) after => (.error fault, after) :=
  rfl

theorem execute_of_sound (settings : Settings) (scope : ScopeId) (text : String)
    (machine : Machine) {parsed : Parsed} {reader : Reader}
    (read : (Reader.ofText settings.dialect text).parse settings.maxNesting = (parsed, reader))
    (sound : parsed.faults = []) :
    let ending := parsed.program.ending settings.maxCallDepth scope machine
    let execution := execute settings scope text machine
    execution.outcome = .ofEnding ending ∧
      execution.machine.store = (endState ending).store := by
  have empty : parsed.faults.isEmpty = true := by rw [sound]; rfl
  dsimp only
  rw [execute, read]
  dsimp only
  rw [if_pos empty, Program.run_ending]
  cases parsed.program.ending settings.maxCallDepth scope machine with
  | ok result after => exact ⟨rfl, rfl⟩
  | error exit after => cases exit <;> exact ⟨rfl, rfl⟩

theorem execute_dialect (settings : Settings) (scope : ScopeId) (text : String)
    (machine : Machine) :
    (execute settings scope text machine).dialect =
      ((Reader.ofText settings.dialect text).parse settings.maxNesting).2.dialect := by
  rw [execute]
  dsimp only
  split <;> rfl

section
variable (context : Context)

theorem Stmt.evalAll_append (result : Option Value) (stmts others : List Stmt) :
    Stmt.evalAll context result (stmts ++ others) =
      (do Stmt.evalAll context (← Stmt.evalAll context result stmts) others) := by
  induction stmts generalizing result with
  | nil => rfl
  | cons stmt stmts ih =>
    rw [List.cons_append, Stmt.evalAll, Stmt.evalAll, bind_assoc]
    exact bind_congr ih

/-- The given result counts only where there is no statement. -/
theorem Stmt.evalAll_of_ne_nil (result other : Option Value) {stmts : List Stmt}
    (some_stmt : stmts ≠ []) :
    Stmt.evalAll context result stmts = Stmt.evalAll context other stmts := by
  cases stmts with
  | nil => exact absurd rfl some_stmt
  | cons stmt stmts => rw [Stmt.evalAll, Stmt.evalAll]

end

namespace Session

theorem step_of_sound {session : Session} {line : String}
    (sound : (session.turn line).parsed.faults = []) :
    let turn := session.turn line
    let ending := turn.parsed.program.ending session.settings.maxCallDepth session.scope
      session.machine
    turn.outcome = .ofEnding ending ∧
      (session.step line).2.2.machine.store = (endState ending).store :=
  execute_of_sound { session.settings with dialect := session.dialect } session.scope (line ++ "\n")
    session.machine rfl sound

/-- One line at the start of a longer program runs as it does in a session. The given result stays
where the line has no statement. -/
theorem line_agrees (limit run : Nat) (scope : ScopeId) (program : Program)
    {machine own : Machine} (near : machine.store.bare = own.store.bare) {result : Option Value}
    {latest : Outcome} (so_far : Outcome.Alike (.value result) latest) :
    Eval.bareCoupling.Agree
      (fun found shown => Outcome.Alike (.value found)
        (if !program.isEmpty then .value shown else latest))
      ((Stmt.evalAll ⟨Closure.applyWithin limit limit, run, scope⟩ result program).run machine)
      (program.ending limit scope own) := by
  cases program with
  | nil => exact ⟨so_far, near⟩
  | cons stmt rest =>
    have agree : Eval.InStep (Option.map Value.bare)
        (Stmt.evalAll ⟨Closure.applyWithin limit limit, run, scope⟩ none (stmt :: rest))
        (Stmt.evalAll ⟨Closure.applyWithin limit limit, own.runs, scope⟩ none (stmt :: rest)) :=
      Stmt.evalAll_alike (Context.alike_within _ _ _ _) (Context.alike_within _ _ _ _) rfl rfl
    rw [Stmt.evalAll_of_ne_nil _ result none (List.cons_ne_nil stmt rest)]
    exact (agree machine { own with runs := own.runs + 1 } near).mono
      fun found shown same => Outcome.alike_of_bare same

/-- A program that consists of the lines of a session runs to the verdict of the session. -/
theorem verdict_alike {session : Session} {lines : List String}
    (sound : ∀ turn ∈ session.turns lines, turn.parsed.faults = []) (run : Nat)
    (machine : Machine) (near : machine.store.bare = session.machine.store.bare)
    {result : Option Value} {latest : Outcome} (so_far : Outcome.Alike (.value result) latest) :
    let limit := session.settings.maxCallDepth
    Outcome.Alike
      (.ofEnding ((Stmt.evalAll ⟨Closure.applyWithin limit limit, run, session.scope⟩ result
        (session.statements lines)).run machine))
      (Turn.verdictAfter latest (session.turns lines)) := by
  intro limit
  -- The stores stay the same when bare, and the result so far stays alike the latest outcome.
  induction lines generalizing session machine result latest with
  | nil => exact so_far
  | cons line lines ih =>
    obtain ⟨first, later⟩ := List.forall_mem_cons.mp sound
    obtain ⟨outcome, store⟩ := step_of_sound first
    have agree := line_agrees limit run session.scope (session.turn line).parsed.program near so_far
    have stopped : (session.turn line).stopped =
        (session.turn line).parsed.program.stops limit session.scope session.machine := rfl
    rw [turns, Turn.verdictAfter_cons, statements_cons, Stmt.evalAll_append, stopped,
      Program.stops, outcome]
    cases ended : (session.turn line).parsed.program.ending limit session.scope
      session.machine with
    | ok shown last =>
      cases begun : (Stmt.evalAll ⟨Closure.applyWithin limit limit, run, session.scope⟩ result
        (session.turn line).parsed.program).run machine with
      | ok found middle =>
        rw [begun, ended] at agree
        rw [ended] at store
        rw [bind_ok begun, if_neg Bool.false_ne_true]
        exact ih later middle (agree.2.trans (congrArg Store.bare store).symm) agree.1
      | error exit middle =>
        rw [begun, ended] at agree
        exact agree.elim
    | error twin last =>
      cases begun : (Stmt.evalAll ⟨Closure.applyWithin limit limit, run, session.scope⟩ result
        (session.turn line).parsed.program).run machine with
      | ok found middle =>
        rw [begun, ended] at agree
        exact agree.elim
      | error exit middle =>
        rw [begun, ended] at agree
        rw [bind_error begun, if_pos rfl]
        exact Outcome.alike_of_exit (agree.resolve_left id).1 middle last

/-- The lines of a session as one text, each with its end. -/
def text (lines : List String) : List Char :=
  lines.flatMap fun line => line.toList ++ ['\n']

/-- A source is read without a fault to these statements, at whatever places. -/
def HoldsStatements (limit : Nat) (reader : Reader) (program : Program) : Prop :=
  ∃ items stop, Parse.ReadsTo limit reader items stop ∧ stop.next.kind = .endOfInput ∧
    (Parsed.ofLines items).faults = [] ∧
    Stmt.allPlain (Parsed.ofLines items).program = Stmt.allPlain program

/-- A sound line is read to the same statements without the end that the session gives it. -/
theorem line_readsTo {session : Session} {line : String}
    (sound : (session.turn line).parsed.faults = []) :
    ∃ items stop, Parse.ReadsTo session.settings.maxNesting
        (.ofScanner ⟨line.toList, 0, session.dialect⟩) items stop ∧
      stop.next.kind = .endOfInput ∧ (session.turn line).parsed = .ofLines items ∧
      (session.step line).2.2.dialect = stop.dialect := by
  obtain ⟨items, stop, reads, ended⟩ := Parse.exists_readsTo session.settings.maxNesting
    (Reader.ofText session.dialect (line ++ "\n"))
  have read := Reader.parse_of_readsTo reads ended
  have made : (session.turn line).parsed = .ofLines items := congrArg Prod.fst read
  have dialect : (session.step line).2.2.dialect = stop.dialect := by
    have kept := execute_dialect { session.settings with dialect := session.dialect }
      session.scope (line ++ "\n") session.machine
    rw [read, Reader.look_dialect] at kept
    exact kept
  have spelled : (line ++ "\n").toList = line.toList ++ ['\n'] := by simp
  rw [Reader.ofText, Scanner.ofText, spelled] at reads
  rw [made] at sound
  obtain ⟨own, last, shorter, there, rfl, kept⟩ := reads.trim ended sound
  have trimmed : Parsed.ofLines (own ++ [.ok none]) = .ofLines own := by
    rw [Parsed.ofLines_append]
    simp [Parsed.ofLines]
  exact ⟨own, last, shorter, there, made.trans trimmed, dialect.trans kept.symm⟩

theorem text_holdsStatements {session : Session} {lines : List String}
    (sound : ∀ turn ∈ session.turns lines, turn.parsed.faults = []) :
    HoldsStatements session.settings.maxNesting (.ofScanner ⟨text lines, 0, session.dialect⟩)
      (session.statements lines) := by
  induction lines generalizing session with
  | nil => exact ⟨[], _, .here _, rfl, rfl, rfl⟩
  | cons line lines ih =>
    obtain ⟨first, later⟩ := List.forall_mem_cons.mp sound
    obtain ⟨items, stop, reads, ended, made, dialect⟩ := line_readsTo first
    obtain ⟨others, last, moved, finished, faultless, same⟩ := ih later
    rw [made] at first
    rw [dialect] at moved
    have counts : ∀ fault, .error fault ∈ items → fault.token.kind ≠ .endOfInput :=
      fun _ member => absurd rfl (Parse.faults_ofLines_eq_nil_iff.mp first _ member)
    obtain ⟨final, all, at_end, _⟩ :=
      reads.join ended moved finished (reads.closed ended first) counts
    have joined : text (line :: lines) = line.toList ++ '\n' :: text lines := by simp [text]
    rw [← joined] at all
    refine ⟨_, final, all, at_end, ?_, ?_⟩
    · rw [Parsed.ofLines_join, first, faultless]
      rfl
    · have moves (distance : Nat) (parts : List Part) : Token.Keeps (Token.shift distance) parts :=
        ⟨fun _ => rfl, fun _ _ _ _ => rfl⟩
      rw [statements_cons, made, Parsed.ofLines_join, Stmt.allPlain_append, Stmt.allPlain_append,
        ← same, ← Stmt.mapAllTokens_eq_map, Stmt.allPlain_mapAllTokens _ (moves _ _)]

theorem toList_intercalate_lineEnd (line : String) (lines : List String) :
    ("\n".intercalate (line :: lines) ++ "\n").toList = text (line :: lines) := by
  induction lines generalizing line with
  | nil => simp [text]
  | cons next lines ih =>
    rw [String.intercalate_cons_cons, String.append_assoc, String.toList_append, ih]
    simp [text]

theorem script_holdsStatements {session : Session} {lines : List String}
    (sound : ∀ turn ∈ session.turns lines, turn.parsed.faults = []) :
    HoldsStatements session.settings.maxNesting
      (Reader.ofText session.dialect ("\n".intercalate lines ++ "\n"))
      (session.statements lines) := by
  cases lines with
  | nil =>
    -- No line at all makes the same script as one empty line.
    exact ⟨_, _, .step (Parse.sourceItem_at_lineEnd _ rfl) (.here _), rfl, rfl, rfl⟩
  | cons line lines =>
    rw [Reader.ofText, Scanner.ofText, toList_intercalate_lineEnd]
    exact text_holdsStatements sound

end Session

/-- A script comes to what a session comes to that is fed its lines one by one, if every line is
sound where it stands. -/
theorem executeScript_alike_verdict (settings : Settings) (lines : List String)
    (sound : ∀ turn ∈ (Session.start settings).turns lines, turn.parsed.faults = []) :
    (executeScript settings ("\n".intercalate lines)).1.Alike
      (Turn.verdict ((Session.start settings).turns lines)) := by
  obtain ⟨items, stop, reads, ended, faultless, same⟩ := Session.script_holdsStatements sound
  have read := Reader.parse_of_readsTo reads ended
  let session := Session.start settings
  obtain ⟨outcome, _⟩ := execute_of_sound settings session.scope
    ("\n".intercalate lines ++ "\n") session.machine read faultless
  have script : (executeScript settings ("\n".intercalate lines)).1 = .ofEnding
      ((Parsed.ofLines items).program.ending settings.maxCallDepth session.scope
        session.machine) := outcome
  have placed := Program.ending_alike settings.maxCallDepth session.scope session.machine same
  rw [script]
  exact placed.trans (Session.verdict_alike sound session.machine.runs
    { session.machine with runs := session.machine.runs + 1 } rfl .none)

/-- Lines with a pragma, a function that outlives its line and a `return` before the last line. -/
private def sampleLines : List String :=
  ["let n = 5", "~trk",
    "olsun f = fn(x) \x7b eğer (x > n) \x7b döndür f(x - n) \x7d yoksa \x7b x \x7d \x7d", "",
    "f(12)", "döndür f(13)", "1"]

theorem executeScript_alike_verdict_return :
    (∀ turn ∈ (Session.start .standard).turns sampleLines, turn.parsed.faults = []) ∧
      (executeScript .standard ("\n".intercalate sampleLines)).1.text = "3\n" := by
  have sound : ∀ turn ∈ (Session.start .standard).turns sampleLines, turn.parsed.faults = [] := by
    decide +kernel
  have shown : (Turn.verdict ((Session.start .standard).turns sampleLines)).text = "3\n" := by
    decide +kernel
  exact ⟨sound, (executeScript_alike_verdict .standard sampleLines sound).text_eq.trans shown⟩

end Polyglot
