import Polyglot.Proofs.Captures
import Polyglot.Proofs.Repeatable

/-! Every run ends. The rules set no bound on how deep they are stacked, nor on how many scopes a
name is looked up in; still they derive an end for every program in every store, and in a store that
is well formed every name that comes up is found or missed after finitely many scopes. -/
namespace Polyglot

/-- Everything is known, and there is room at any depth. -/
def Charter.free : Charter where
  known _ _ := True
  room _ := True
  inner _ _ _ := trivial
  opens _ := trivial

/-- Any closure in an open scope could have been made there by a literal. -/
theorem Closure.placed_free {store : Store} {closure : Closure}
    (opened : closure.scope < store.scopes.size) : closure.Placed .free store := by
  let literal : Literal :=
    { depth := store.surrounding closure.scope
      token := ⟨.keyword .fnWord, "fn", 0, 0⟩
      parameters := closure.parameters.map fun name => ⟨.identifier, name, 0, 0⟩
      body := closure.body }
  have made : literal.closure closure.run closure.scope = closure := by
    simp [literal, Literal.closure, Function.comp_def]
  rw [← made]
  exact .mk trivial opened rfl

theorem Value.Within.placed {store : Store} {value : Value}
    (within : value.Within store.scopes.size) : value.Placed .free store := by
  cases value with
  | function closure => exact .function (Closure.placed_free within)
  | _ => exact .plain ValueKind.noConfusion

theorem Store.WellFormed.tidy {store : Store} (formed : store.WellFormed) : store.Tidy .free where
  ordered := formed.ordered
  room _ _ := trivial
  placed id name value own := (formed.captured id name value own).placed

theorem Program.task_covered_free {machine : Machine} (formed : machine.store.WellFormed)
    {scope : ScopeId} (opened : scope < machine.store.scopes.size) (program : Program) :
    (program.task scope machine).Covered .free where
  tidy := formed.tidy
  work := ⟨⟨opened, fun _ _ => trivial⟩, Rules.OptionPlaced.none _⟩

namespace Rules

/-- The rules derive one end for a program, the one that its run comes to. -/
theorem run_derived_unique (limit : Nat) (scope : ScopeId) (program : Program)
    (machine : Machine) :
    ∃ ended, ExecutesAll limit machine.runs scope none program
        ⟨{ machine with runs := machine.runs + 1 }, 0⟩ ended ∧
      (∀ other, ExecutesAll limit machine.runs scope none program
        ⟨{ machine with runs := machine.runs + 1 }, 0⟩ other → other = ended) ∧
      program.run limit scope machine = ended.outcome := by
  obtain ⟨ended, derived⟩ := (program.task scope machine).derivable limit
  have unique (other : End (Option Value)) (again : ExecutesAll limit machine.runs scope none program
      ⟨{ machine with runs := machine.runs + 1 }, 0⟩ other) : other = ended :=
    again.computes.trans derived.computes.symm
  obtain ⟨computed, executes, ran⟩ := run_derived limit scope program machine
  cases unique computed executes
  exact ⟨ended, derived, unique, ran⟩

/-- In an ordered store a lookup without a bound has one end. -/
theorem seeks_iff {store : Store} (ordered : store.Ordered) (name : String) (id : ScopeId) :
    ∃ path, ∀ other result, store.Seeks name id other result ↔
      other = path ∧ result = store.find? name id := by
  obtain ⟨path, _, seeks⟩ := ordered.seeks name id
  refine ⟨path, fun other result => ⟨seeks.unique, ?_⟩⟩
  rintro ⟨rfl, rfl⟩
  exact seeks

end Rules

section
open Rules

/-- A run ends: the rules derive one end for it, the one that it comes to. They do so for every task,
and a task needs only such as leave fewer calls, or as many calls and less syntax. Names are looked
up in finitely many scopes. -/
theorem Program.run_terminates (limit : Nat) (scope : ScopeId) (program : Program)
    (machine : Machine) :
    (∃ ended, ExecutesAll limit machine.runs scope none program
        ⟨{ machine with runs := machine.runs + 1 }, 0⟩ ended ∧
      (∀ other, ExecutesAll limit machine.runs scope none program
        ⟨{ machine with runs := machine.runs + 1 }, 0⟩ other → other = ended) ∧
      program.run limit scope machine = ended.outcome) ∧
    (∀ task : Task, task.Derivable limit ∧ ∀ sub, Needs limit task sub →
      Prod.Lex (· < ·) (· < ·) (sub.rank limit) (task.rank limit)) ∧
    (machine.store.WellFormed → scope < machine.store.scopes.size → ∀ run id token config,
      Reaches limit (program.task scope machine) ⟨.expr run id (.identifier token), config⟩ →
      ∃ path, ∀ other result, config.machine.store.Seeks token.literal id other result ↔
        other = path ∧ result = config.machine.store.find? token.literal id) := by
  refine ⟨run_derived_unique limit scope program machine, fun task => ?_, ?_⟩
  · exact ⟨task.derivable limit, fun sub needs => needs.lower⟩
  · intro formed opened run id token config reaches
    have covered := reaches.covered (task_covered_free formed opened program)
    exact seeks_iff covered.tidy.ordered token.literal id

/-- The code `fn(x) { f(x) }`, captured in the outer scope. -/
private def looping : Closure where
  parameters := ["x"]
  body := .mk ⟨.leftBrace, "\x7b", 6, 7⟩
    [.expression ⟨.identifier, "f", 8, 9⟩ (.call ⟨.leftParen, "(", 9, 10⟩
      (.identifier ⟨.identifier, "f", 8, 9⟩) [.identifier ⟨.identifier, "x", 10, 11⟩])]
  scope := 0
  run := 0

/-- An outer scope that binds `f` to the code above. -/
private def loops : Machine where
  store := ⟨#[⟨[("f", .function looping)], none⟩]⟩
  runs := 1
  noted := []

/-- The program `f(f)`. -/
private def begins : Program :=
  [.expression ⟨.identifier, "f", 0, 1⟩ (.call ⟨.leftParen, "(", 1, 2⟩
    (.identifier ⟨.identifier, "f", 0, 1⟩) [.identifier ⟨.identifier, "f", 2, 3⟩])]

/-- A function that always calls itself ends all the same, at the limit. -/
theorem Program.run_terminates_looping :
    loops.store.WellFormed ∧ 0 < loops.store.scopes.size ∧
      (begins.run 3 0 loops).1 = .error (.callDepth 3) ∧
      (∃ ended, ExecutesAll 3 1 0 none begins ⟨{ loops with runs := 2 }, 0⟩ ended ∧
        begins.run 3 0 loops = ended.outcome) ∧
      ∃ path, loops.store.Seeks "f" 0 path (some (.function looping)) := by
  have formed : loops.store.WellFormed := Store.wellFormed_single "f" Nat.zero_lt_one
  obtain ⟨⟨ended, derived, _, ran⟩, _, lookups⟩ := Program.run_terminates 3 0 begins loops
  have reaches : Reaches 3 (begins.task 0 loops)
      ⟨.expr 1 0 (.identifier ⟨.identifier, "f", 0, 1⟩), ⟨{ loops with runs := 2 }, 0⟩⟩ :=
    .head .line (.head .alone (.single .callee))
  obtain ⟨path, found⟩ := lookups formed (by decide) _ _ _ _ reaches
  exact ⟨formed, by decide, rfl, ⟨ended, derived, ran⟩, path,
    (found path _).mpr ⟨rfl, rfl⟩⟩

end

end Polyglot
