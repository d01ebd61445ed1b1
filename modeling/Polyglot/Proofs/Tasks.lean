import Mathlib.Data.Prod.Lex
import Mathlib.Logic.Relation
import Polyglot.Proofs.Derivations

/-! Evaluation as tasks that need other tasks. A task is a part of a program with what it starts
from; it needs those tasks whose ends its own rule asks for. Each of them leaves fewer calls, or as
many calls and less syntax, so no chain of needs goes on for ever, and every task has a derivation. -/
namespace Polyglot

mutual

/-- The number of parts of an expression, itself and the lists in it included. -/
def Expr.size : Expr → Nat
  | .identifier _ | .integer _ _ | .float _ _ | .string _ | .boolean _ _ => 1
  | .unary _ _ operand => operand.size + 1
  | .binary _ _ left right => left.size + right.size + 1
  | .conditional _ condition consequence none => condition.size + consequence.size + 1
  | .conditional _ condition consequence (some alternative) =>
    condition.size + consequence.size + alternative.size + 1
  | .function _ _ body => body.size + 1
  | .call _ callee arguments => callee.size + Expr.allSize arguments + 1

def Expr.allSize : List Expr → Nat
  | [] => 1
  | expr :: rest => expr.size + Expr.allSize rest + 1

def Stmt.size : Stmt → Nat
  | .binding _ _ value | .result _ value | .expression _ value => value.size + 1

def Stmt.allSize : List Stmt → Nat
  | [] => 1
  | stmt :: rest => stmt.size + Stmt.allSize rest + 1

def Block.size : Block → Nat
  | .mk _ statements => Stmt.allSize statements + 1

end

namespace Rules

/-- What is to be evaluated: a part of a program in a scope, by the run of that number, or the
application of a closure. -/
inductive Work where
  | expr (run : Nat) (scope : ScopeId) (part : Expr)
  | exprs (run : Nat) (scope : ScopeId) (parts : List Expr)
  | stmt (run : Nat) (scope : ScopeId) (part : Stmt)
  | stmts (run : Nat) (scope : ScopeId) (result : Option Value) (parts : List Stmt)
  | block (run : Nat) (scope : ScopeId) (part : Block)
  | application (closure : Closure) (arguments : List Value)

structure Task where
  work : Work
  config : Config

/-- The size of the syntax at hand. An application has none: its body is reached by one call more. -/
def Work.size : Work → Nat
  | expr _ _ part => part.size
  | exprs _ _ parts => Expr.allSize parts
  | stmt _ _ part => part.size
  | stmts _ _ _ parts => Stmt.allSize parts
  | block _ _ part => part.size
  | application _ _ => 0

/-- The calls that are still allowed, then the size of the syntax. -/
def Task.rank (limit : Nat) (task : Task) : Nat × Nat :=
  (limit - task.config.depth, task.work.size)

/-- The first task asks for the end of the second one. What comes later in a part starts where the
part before it has ended. -/
inductive Needs (limit : Nat) : Task → Task → Prop
  | operand {run scope token op operand config} :
      Needs limit ⟨.expr run scope (.unary token op operand), config⟩
        ⟨.expr run scope operand, config⟩
  | left {run scope token op left right config} :
      Needs limit ⟨.expr run scope (.binary token op left right), config⟩
        ⟨.expr run scope left, config⟩
  | right {run scope token op left right config value middle}
      (first : Evaluates limit run scope left config (.ok value middle)) :
      Needs limit ⟨.expr run scope (.binary token op left right), config⟩
        ⟨.expr run scope right, middle⟩
  | condition {run scope token condition consequence alternative config} :
      Needs limit ⟨.expr run scope (.conditional token condition consequence alternative), config⟩
        ⟨.expr run scope condition, config⟩
  | consequence {run scope token condition consequence alternative config value middle}
      (asked : Evaluates limit run scope condition config (.ok value middle))
      (truth : value.truthy = true) :
      Needs limit ⟨.expr run scope (.conditional token condition consequence alternative), config⟩
        ⟨.block run scope consequence, middle⟩
  | alternative {run scope token condition consequence alternative config value middle}
      (asked : Evaluates limit run scope condition config (.ok value middle))
      (falsity : value.truthy = false) :
      Needs limit
        ⟨.expr run scope (.conditional token condition consequence (some alternative)), config⟩
        ⟨.block run scope alternative, middle⟩
  | callee {run scope token callee arguments config} :
      Needs limit ⟨.expr run scope (.call token callee arguments), config⟩
        ⟨.expr run scope callee, config⟩
  | arguments {run scope token callee arguments config value middle}
      (called : Evaluates limit run scope callee config (.ok value middle)) :
      Needs limit ⟨.expr run scope (.call token callee arguments), config⟩
        ⟨.exprs run scope arguments, middle⟩
  | application {run scope token callee arguments config closure middle values after}
      (called : Evaluates limit run scope callee config (.ok (.function closure) middle))
      (given : EvaluatesAll limit run scope arguments middle (.ok values after)) :
      Needs limit ⟨.expr run scope (.call token callee arguments), config⟩
        ⟨.application closure values, after⟩
  | first {run scope part rest config} :
      Needs limit ⟨.exprs run scope (part :: rest), config⟩ ⟨.expr run scope part, config⟩
  | others {run scope part rest config value middle}
      (first : Evaluates limit run scope part config (.ok value middle)) :
      Needs limit ⟨.exprs run scope (part :: rest), config⟩ ⟨.exprs run scope rest, middle⟩
  | alone {run scope token value config} :
      Needs limit ⟨.stmt run scope (.expression token value), config⟩ ⟨.expr run scope value, config⟩
  | returned {run scope token value config} :
      Needs limit ⟨.stmt run scope (.result token value), config⟩ ⟨.expr run scope value, config⟩
  | bound {run scope token name value config} :
      Needs limit ⟨.stmt run scope (.binding token name value), config⟩
        ⟨.expr run scope value, config⟩
  | line {run scope result part rest config} :
      Needs limit ⟨.stmts run scope result (part :: rest), config⟩ ⟨.stmt run scope part, config⟩
  | laterLines {run scope result part rest config found middle}
      (first : Executes limit run scope part config (.ok found middle)) :
      Needs limit ⟨.stmts run scope result (part :: rest), config⟩
        ⟨.stmts run scope found rest, middle⟩
  | lines {run scope token statements config} :
      Needs limit ⟨.block run scope (.mk token statements), config⟩
        ⟨.stmts run scope none statements, config⟩
  | body {closure arguments config} (fits : closure.parameters.length = arguments.length)
      (room : config.depth < limit) :
      Needs limit ⟨.application closure arguments, config⟩
        ⟨.block closure.run config.machine.store.scopes.size closure.body,
          config.enter closure arguments⟩

/-- The second task comes up in the course of the first one. -/
def Reaches (limit : Nat) : Task → Task → Prop :=
  Relation.ReflTransGen (Needs limit)

section
variable {limit : Nat} {task sub : Task}

theorem lower_of_smaller (count : sub.config.depth = task.config.depth)
    (smaller : sub.work.size < task.work.size) :
    Prod.Lex (· < ·) (· < ·) (sub.rank limit) (task.rank limit) := by
  unfold Task.rank
  rw [count]
  exact .right _ smaller

/-- A task needs none but lower ones. What starts where another part has ended has as many calls
left as that one had, since every end restores the count. -/
theorem Needs.lower (needs : Needs limit task sub) :
    Prod.Lex (· < ·) (· < ·) (sub.rank limit) (task.rank limit) := by
  cases needs with
  | operand | left | callee | first | alone | returned | bound | line | lines =>
    apply lower_of_smaller
    · rfl
    · simp only [Work.size, Expr.size, Expr.allSize, Stmt.size, Stmt.allSize, Block.size]
      omega
  | @condition _ _ _ _ _ alternative =>
    apply lower_of_smaller
    · rfl
    · cases alternative <;> simp only [Work.size, Expr.size] <;> omega
  | @consequence _ _ _ _ _ alternative _ _ _ asked =>
    apply lower_of_smaller
    · exact asked.computes.balanced
    · cases alternative <;> simp only [Work.size, Expr.size] <;> omega
  | right begun | alternative begun | arguments begun | others begun | laterLines begun =>
    apply lower_of_smaller
    · exact begun.computes.balanced
    · simp only [Work.size, Expr.size, Expr.allSize, Stmt.allSize]
      omega
  | application called given =>
    apply lower_of_smaller
    · exact given.computes.balanced.trans called.computes.balanced
    · simp only [Work.size, Expr.size]
      omega
  | @body closure arguments config fits room =>
    apply Prod.Lex.left
    show limit - (config.depth + 1) < limit - config.depth
    omega

end

theorem needs_wellFounded (limit : Nat) : WellFounded fun sub task => Needs limit task sub := by
  apply Subrelation.wf (r := InvImage (Prod.Lex (· < ·) (· < ·)) (Task.rank limit))
  · intro sub task needs
    exact needs.lower
  · exact InvImage.wf _ (Prod.lex ⟨_, Nat.lt_wfRel.wf⟩ ⟨_, Nat.lt_wfRel.wf⟩).wf

/-- The rules derive an end for the task. -/
def Task.Derivable (limit : Nat) : Task → Prop
  | ⟨.expr run scope part, config⟩ => ∃ ended, Evaluates limit run scope part config ended
  | ⟨.exprs run scope parts, config⟩ => ∃ ended, EvaluatesAll limit run scope parts config ended
  | ⟨.stmt run scope part, config⟩ => ∃ ended, Executes limit run scope part config ended
  | ⟨.stmts run scope result parts, config⟩ =>
    ∃ ended, ExecutesAll limit run scope result parts config ended
  | ⟨.block run scope part, config⟩ => ∃ ended, ExecutesBlock limit run scope part config ended
  | ⟨.application closure arguments, config⟩ => ∃ ended, Applies limit closure arguments config ended

section
variable {limit : Nat}

theorem expr_derivable_step {run : Nat} {scope : ScopeId} {config : Config} (part : Expr)
    (derived : ∀ sub, Needs limit ⟨.expr run scope part, config⟩ sub → sub.Derivable limit) :
    ∃ ended, Evaluates limit run scope part config ended := by
  cases part with
  | identifier token =>
    cases found : config.machine.store.get? token.literal scope with
    | some value => exact ⟨_, .identifier found⟩
    | none => exact ⟨_, .unknown found⟩
  | integer token value => exact ⟨_, .integer⟩
  | float token value => exact ⟨_, .float⟩
  | string token => exact ⟨_, .string⟩
  | boolean token value => exact ⟨_, .boolean⟩
  | function token parameters body => exact ⟨_, .function⟩
  | unary token op operand =>
    obtain ⟨ended, inner⟩ := derived _ .operand
    cases ended with
    | ok value after => exact ⟨_, .unary inner⟩
    | error exit after => exact ⟨_, .unaryExit inner⟩
  | binary token op left right =>
    obtain ⟨ended, first⟩ := derived _ .left
    cases ended with
    | error exit after => exact ⟨_, .leftExit first⟩
    | ok value middle =>
      obtain ⟨ended, second⟩ := derived _ (.right first)
      cases ended with
      | ok other after => exact ⟨_, .binary first second⟩
      | error exit after => exact ⟨_, .rightExit first second⟩
  | conditional token condition consequence alternative =>
    obtain ⟨ended, asked⟩ := derived _ .condition
    cases ended with
    | error exit after => exact ⟨_, .conditionExit asked⟩
    | ok value middle =>
      cases truth : value.truthy with
      | true =>
        obtain ⟨ended, runs⟩ := derived _ (.consequence asked truth)
        exact ⟨_, .holds asked truth runs⟩
      | false =>
        cases alternative with
        | none => exact ⟨_, .skips asked truth⟩
        | some alternative =>
          obtain ⟨ended, runs⟩ := derived _ (.alternative asked truth)
          exact ⟨_, .fails asked truth runs⟩
  | call token callee arguments =>
    obtain ⟨ended, called⟩ := derived _ .callee
    cases ended with
    | error exit after => exact ⟨_, .calleeExit called⟩
    | ok value middle =>
      obtain ⟨ended, given⟩ := derived _ (.arguments called)
      cases ended with
      | error exit after => exact ⟨_, .argumentsExit called given⟩
      | ok values after =>
        cases value with
        | function closure =>
          obtain ⟨ended, applied⟩ := derived _ (.application called given)
          exact ⟨_, .call called given applied⟩
        | builtin builtin => exact ⟨_, .builtin called given⟩
        | _ => exact ⟨_, .notAFunction called given ValueKind.noConfusion ValueKind.noConfusion⟩

/-- A task has a derivation as soon as those that it needs have one. -/
theorem Task.derivable_step (task : Task)
    (derived : ∀ sub, Needs limit task sub → sub.Derivable limit) : task.Derivable limit := by
  obtain ⟨work, config⟩ := task
  cases work with
  | expr run scope part => exact expr_derivable_step part derived
  | exprs run scope parts =>
    cases parts with
    | nil => exact ⟨_, .nil⟩
    | cons part rest =>
      obtain ⟨ended, first⟩ := derived _ .first
      cases ended with
      | error exit after => exact ⟨_, .exit first⟩
      | ok value middle =>
        obtain ⟨ended, others⟩ := derived _ (.others first)
        exact ⟨_, .cons first others⟩
  | stmt run scope part =>
    cases part with
    | expression token value =>
      obtain ⟨ended, inner⟩ := derived _ .alone
      exact ⟨_, .expression inner⟩
    | result token value =>
      obtain ⟨ended, inner⟩ := derived _ .returned
      cases ended with
      | ok result after => exact ⟨_, .result inner⟩
      | error exit after => exact ⟨_, .resultExit inner⟩
    | binding token name value =>
      obtain ⟨ended, inner⟩ := derived _ .bound
      cases ended with
      | ok result after => exact ⟨_, .binding inner⟩
      | error exit after => exact ⟨_, .bindingExit inner⟩
  | stmts run scope result parts =>
    cases parts with
    | nil => exact ⟨_, .nil⟩
    | cons part rest =>
      obtain ⟨ended, first⟩ := derived _ .line
      cases ended with
      | error exit after => exact ⟨_, .exit first⟩
      | ok found middle =>
        obtain ⟨ended, others⟩ := derived _ (.laterLines first)
        exact ⟨_, .cons first others⟩
  | block run scope part =>
    obtain ⟨token, statements⟩ := part
    obtain ⟨ended, lines⟩ := derived _ .lines
    exact ⟨_, .mk lines⟩
  | application closure arguments =>
    by_cases fits : closure.parameters.length = arguments.length
    · by_cases room : config.depth < limit
      · obtain ⟨ended, runs⟩ := derived _ (.body fits room)
        exact ⟨_, .body fits room runs⟩
      · exact ⟨_, .deep fits (Nat.le_of_not_lt room)⟩
    · exact ⟨_, .arity fits⟩

end

/-- Every task has a derivation. The induction is along what tasks need: the calls that are left
first, the size of the syntax second. -/
theorem Task.derivable (limit : Nat) (task : Task) : task.Derivable limit := by
  induction task using (needs_wellFounded limit).induction with
  | _ task ih => exact task.derivable_step ih

end Rules

/-- The task of running a program in a scope. -/
def Program.task (scope : ScopeId) (program : Program) (machine : Machine) : Rules.Task :=
  ⟨.stmts machine.runs scope none program, ⟨{ machine with runs := machine.runs + 1 }, 0⟩⟩

end Polyglot
