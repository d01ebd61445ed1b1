import Polyglot.Log
import Polyglot.Run.Operation
import Polyglot.Value.Store

/-! Evaluation. Blocks run in the scope around them; only a call opens a scope. Syntax is evaluated
by recursion on itself, given how to apply a closure; applying a closure is recursion on the number
of nested calls that are still allowed. So every evaluation ends. -/
namespace Polyglot

structure Machine where
  store : Store
  /-- The number of programs run so far. -/
  runs : Nat
  /-- What has been noted so far, the latest first. -/
  noted : List Event

def Machine.initial : Machine := ⟨.empty, 0, []⟩

inductive Exit where
  | returned (value : Value)
  | failed (fault : RunFault)

abbrev Eval := EStateM Exit Machine

namespace Eval

def note (event : Event) : Eval Unit :=
  modify fun machine => { machine with noted := event :: machine.noted }

def fail {α : Type} (fault : RunFault) : Eval α :=
  throw (.failed fault)

def ofExcept {α : Type} : Except RunFault α → Eval α
  | .ok value => return value
  | .error fault => fail fault

def get (scope : ScopeId) (name : String) : Eval Value := do
  match (← getThe Machine).store.get? name scope with
  | some value => return value
  | none => fail (.unknownIdentifier name)

def bind (scope : ScopeId) (name : String) (value : Value) : Eval Unit :=
  modify fun machine => { machine with store := machine.store.bind scope name value }

def enclose (outer : ScopeId) : Eval ScopeId :=
  modifyGet fun machine =>
    let (id, store) := machine.store.openScope (some outer)
    (id, { machine with store := store })

/-- The value of a function's body: what it returns, else its last value, else null. -/
def bodyValue (body : Eval (Option Value)) : Eval Value := fun machine =>
  match body.run machine with
  | .ok result after => .ok (result.getD .null) after
  | .error (.returned value) after => .ok value after
  | .error (.failed fault) after => .error (.failed fault) after

end Eval

structure Context where
  /-- How a closure is applied. -/
  apply : Closure → List Value → Eval Value
  /-- The run that is going on. -/
  run : Nat
  scope : ScopeId

mutual

def Expr.eval (context : Context) : Expr → Eval Value
  | .identifier token => Eval.get context.scope token.literal
  | .integer _ value => return .integer value
  | .float _ value => return .float value
  | .string token => return .string token.literal
  | .boolean _ value => return .boolean value
  | .unary _ op operand => do
    Eval.ofExcept (op.apply (← operand.eval context))
  | .binary _ op left right => do
    let a ← left.eval context
    let b ← right.eval context
    Eval.ofExcept (op.apply a b)
  | .conditional _ condition consequence alternative => do
    if (← condition.eval context).truthy then
      return (← consequence.eval context).getD .null
    else
      match alternative with
      | some block => return (← block.eval context).getD .null
      | none => return .null
  | .function _ parameters body =>
    return .function ⟨parameters.map Token.literal, body, context.scope, context.run⟩
  | .call _ callee arguments => do
    let function ← callee.eval context
    let values ← Expr.evalAll context arguments
    match function with
    | .function closure => context.apply closure values
    | .builtin builtin => Eval.ofExcept (builtin.apply values)
    | other => Eval.fail (.notAFunction other.kind)

def Expr.evalAll (context : Context) : List Expr → Eval (List Value)
  | [] => return []
  | expr :: rest => do
    let value ← expr.eval context
    return value :: (← Expr.evalAll context rest)

/-- A binding has no value. -/
def Stmt.eval (context : Context) : Stmt → Eval (Option Value)
  | .expression _ value => return some (← value.eval context)
  | .result _ value => do throw (.returned (← value.eval context))
  | .binding _ name value => do
    Eval.bind context.scope name.literal (← value.eval context)
    return none

/-- The result of the last statement, or the one given if there is none. -/
def Stmt.evalAll (context : Context) (result : Option Value) : List Stmt → Eval (Option Value)
  | [] => return result
  | stmt :: rest => do
    let result ← stmt.eval context
    Stmt.evalAll context result rest

def Block.eval (context : Context) : Block → Eval (Option Value)
  | .mk _ statements => Stmt.evalAll context none statements

end

namespace Closure

def checkArity (closure : Closure) (arguments : List Value) : Eval Unit := do
  if closure.parameters.length ≠ arguments.length then
    Eval.fail (.argumentCount closure.parameters.length arguments.length)

/-- Binds names in turn, so that of two equal names the later one wins. -/
def bindAll (scope : ScopeId) : List (String × Value) → Eval Unit
  | [] => return ()
  | (name, value) :: rest => do
    Eval.bind scope name value
    bindAll scope rest

/-- Applies a closure while that many more nested calls are allowed. -/
def applyWithin (limit : Nat) : Nat → Closure → List Value → Eval Value
  | 0, closure, arguments => do
    closure.checkArity arguments
    Eval.note (.callDepthReached limit)
    Eval.fail (.callDepth limit)
  | remaining + 1, closure, arguments => do
    closure.checkArity arguments
    let scope ← Eval.enclose closure.scope
    bindAll scope (closure.parameters.zip arguments)
    Eval.note (.applying (limit - remaining) closure.parameters.length)
    Eval.bodyValue (closure.body.eval ⟨applyWithin limit remaining, closure.run, scope⟩)

end Closure

/-- Runs a program in a scope: its last value, if it has one, or what a statement outside every
function returns. -/
def Program.run (limit : Nat) (scope : ScopeId) (program : Program) (machine : Machine) :
    Except RunFault (Option Value) × Machine :=
  let context : Context := ⟨Closure.applyWithin limit limit, machine.runs, scope⟩
  match (Stmt.evalAll context none program).run { machine with runs := machine.runs + 1 } with
  | .ok result after => (.ok result, after)
  | .error (.returned value) after => (.ok (some value), after)
  | .error (.failed fault) after => (.error fault, after)

end Polyglot
