import Mathlib.Data.List.Forall2
import Polyglot.Proofs.Computation
import Polyglot.Run.Evaluate

/-! Evaluations side by side. Two evaluations of the same syntax correspond where their surroundings
do: a relation between evaluations that is kept by sequencing, by reading and writing a scope and by
applying a closure is kept by evaluation as a whole. Closures are compared at a stage of the
evaluation, and closures that correspond at one stage do so at every later one. -/
namespace Polyglot

/-- The same value, or functions that correspond. -/
inductive Value.Alike (closures : Closure → Closure → Prop) : Value → Value → Prop
  | plain {value : Value} (other : value.kind ≠ .function) : Alike closures value value
  | function {one other : Closure} (same : closures one other) :
      Alike closures (.function one) (.function other)

inductive Exit.Alike (closures : Closure → Closure → Prop) : Exit → Exit → Prop
  | returned {value image : Value} (same : value.Alike closures image) :
      Alike closures (.returned value) (.returned image)
  | failed (fault : RunFault) : Alike closures (.failed fault) (.failed fault)

section
variable {closures : Closure → Closure → Prop}

theorem Value.Alike.mono {looser : Closure → Closure → Prop}
    (weaker : ∀ one other, closures one other → looser one other) {value image : Value}
    (alike : value.Alike closures image) : value.Alike looser image := by
  cases alike with
  | plain other => exact .plain other
  | function same => exact .function (weaker _ _ same)

theorem Value.Alike.truthy {value image : Value} (alike : value.Alike closures image) :
    value.truthy = image.truthy := by
  cases alike <;> rfl

theorem Value.Alike.getD {result image : Option Value}
    (alike : Option.Rel (Value.Alike closures) result image) :
    (result.getD .null).Alike closures (image.getD .null) := by
  cases alike with
  | none => exact .plain (by decide)
  | some same => exact same

/-- Every function is the same to an operation. -/
theorem UnaryOp.apply_alike (op : UnaryOp) {value image : Value}
    (alike : value.Alike closures image) : op.apply value = op.apply image := by
  cases alike with
  | plain => rfl
  | function => cases op <;> rfl

theorem BinaryOp.apply_alike (op : BinaryOp) {left right first second : Value}
    (one : left.Alike closures first) (other : right.Alike closures second) :
    op.apply left right = op.apply first second := by
  cases one with
  | plain =>
    cases other with
    | plain => rfl
    | function => cases left <;> rfl
  | function =>
    cases other with
    | plain => cases right <;> rfl
    | function => rfl

theorem Builtin.apply_alike (builtin : Builtin) {arguments images : List Value}
    (alike : List.Forall₂ (Value.Alike closures) arguments images) :
    builtin.apply arguments = builtin.apply images := by
  cases alike with
  | nil => rfl
  | cons first rest =>
    cases rest with
    | nil => cases first <;> rfl
    | cons second rest =>
      have lengths := rest.length_eq
      cases first <;> simp [Builtin.apply, lengths]

end

/-- No operation yields a function. -/
theorem UnaryOp.apply_plain {op : UnaryOp} {operand value : Value}
    (done : op.apply operand = .ok value) : value.kind ≠ .function := by
  cases op <;> cases operand <;> cases done <;> exact ValueKind.noConfusion

theorem BinaryOp.apply_plain {op : BinaryOp} {left right value : Value}
    (done : op.apply left right = .ok value) : value.kind ≠ .function := by
  have integers (a b : Int64) (done : op.applyIntegers a b = .ok value) :
      value.kind ≠ .function := by
    unfold applyIntegers at done
    split at done <;> try cases done <;> exact ValueKind.noConfusion
    split at done <;> cases done
    exact ValueKind.noConfusion
  have floats (a b : Float) : (op.applyFloats a b).kind ≠ .function := by
    cases op <;> exact ValueKind.noConfusion
  unfold apply at done
  split at done
  · exact integers _ _ done
  · cases done
    exact floats _ _
  · cases done
    exact floats _ _
  · cases done
    exact floats _ _
  · split at done <;> cases done <;> exact ValueKind.noConfusion
  · split at done <;> cases done <;> exact ValueKind.noConfusion
  · split at done <;> cases done

theorem Builtin.apply_plain {builtin : Builtin} {arguments : List Value} {value : Value}
    (done : builtin.apply arguments = .ok value) : value.kind ≠ .function := by
  unfold Builtin.apply at done
  split at done <;> cases done
  exact ValueKind.noConfusion

/-- A way to compare evaluations. -/
structure Parallel where
  Stage : Type
  later : Stage → Stage → Prop
  closures : Stage → Closure → Closure → Prop
  /-- Evaluations that correspond from a stage on, with results as the relation says. -/
  alike : {α β : Type} → Stage → (Stage → α → β → Prop) → Eval α → Eval β → Prop
  refl : ∀ stage, later stage stage
  trans : ∀ {first second third}, later first second → later second third → later first third
  lasting : ∀ {stage next one other}, later stage next → closures stage one other →
    closures next one other
  pure : ∀ {α β : Type} {stage} {related : Stage → α → β → Prop} {value image},
    related stage value image → alike stage related (Pure.pure value) (Pure.pure image)
  throw : ∀ {α β : Type} {stage} {related : Stage → α → β → Prop} {exit image : Exit},
    exit.Alike (closures stage) image → alike stage related (throw exit) (throw image)
  bind : ∀ {α β γ δ : Type} {stage} {related : Stage → α → β → Prop}
    {result : Stage → γ → δ → Prop} {one other} {next : α → Eval γ} {image : β → Eval δ},
    alike stage related one other →
    (∀ {after value copy}, later stage after → related after value copy →
      alike after result (next value) (image copy)) →
    alike stage result (one >>= next) (other >>= image)

namespace Parallel
variable (p : Parallel)

def values (stage : p.Stage) : Value → Value → Prop :=
  Value.Alike (p.closures stage)

def lists (stage : p.Stage) : List Value → List Value → Prop :=
  List.Forall₂ (p.values stage)

def options (stage : p.Stage) : Option Value → Option Value → Prop :=
  Option.Rel (p.values stage)

/-- Surroundings that correspond from a stage on. -/
structure Surround (stage : p.Stage) (one other : Context) : Prop where
  get : ∀ {after}, p.later stage after → ∀ name,
    p.alike after p.values (Eval.get one.scope name) (Eval.get other.scope name)
  bind : ∀ {after}, p.later stage after → ∀ name {value image}, p.values after value image →
    p.alike after (fun _ _ _ => True) (Eval.bind one.scope name value)
      (Eval.bind other.scope name image)
  literal : ∀ {after}, p.later stage after → ∀ parameters body,
    p.closures after ⟨parameters, body, one.scope, one.run⟩
      ⟨parameters, body, other.scope, other.run⟩
  apply : ∀ {after}, p.later stage after → ∀ {closure image arguments images},
    p.closures after closure image → p.lists after arguments images →
    p.alike after p.values (one.apply closure arguments) (other.apply image images)

variable {p} {stage : p.Stage} {one other : Context}

theorem values_lasting {after : p.Stage} {value image : Value} (onward : p.later stage after)
    (same : p.values stage value image) : p.values after value image :=
  same.mono fun _ _ => p.lasting onward

theorem lists_lasting {after : p.Stage} {values images : List Value}
    (onward : p.later stage after) (same : p.lists stage values images) :
    p.lists after values images :=
  same.imp fun _ _ => values_lasting onward

theorem Surround.onward {after : p.Stage} (surround : p.Surround stage one other)
    (onward : p.later stage after) : p.Surround after one other where
  get further := surround.get (p.trans onward further)
  bind further := surround.bind (p.trans onward further)
  literal further := surround.literal (p.trans onward further)
  apply further := surround.apply (p.trans onward further)

theorem fail {α β : Type} {related : p.Stage → α → β → Prop} (fault : RunFault) :
    p.alike stage related (Eval.fail fault) (Eval.fail fault) :=
  p.throw (.failed fault)

theorem ofExcept {result : Except RunFault Value}
    (plain : ∀ value, result = .ok value → value.kind ≠ .function) :
    p.alike stage p.values (Eval.ofExcept result) (Eval.ofExcept result) := by
  cases result with
  | ok value => exact p.pure (.plain (plain value rfl))
  | error fault => exact fail fault

theorem orNull {body image : Eval (Option Value)} (same : p.alike stage p.options body image) :
    p.alike stage p.values (do return (← body).getD .null) (do return (← image).getD .null) :=
  p.bind same fun _ results => p.pure (Value.Alike.getD results)

theorem Surround.call (surround : p.Surround stage one other) {arguments images : List Value}
    (given : p.lists stage arguments images) (function image : Value) :
    p.values stage function image →
    p.alike stage p.values
      (match function with
        | .function closure => one.apply closure arguments
        | .builtin builtin => Eval.ofExcept (builtin.apply arguments)
        | other => Eval.fail (.notAFunction other.kind))
      (match image with
        | .function closure => other.apply closure images
        | .builtin builtin => Eval.ofExcept (builtin.apply images)
        | other => Eval.fail (.notAFunction other.kind)) := by
  intro same
  cases same with
  | function same => exact surround.apply (p.refl stage) same given
  | plain other =>
    cases function with
    | builtin builtin =>
      dsimp only
      rw [builtin.apply_alike given]
      exact ofExcept fun _ => Builtin.apply_plain
    | function => exact absurd rfl other
    | _ => exact fail _

end Parallel

section
open Parallel
variable {p : Parallel} {one other : Context}

mutual

theorem Expr.eval_parallel {stage : p.Stage} (surround : p.Surround stage one other) :
    (expr : Expr) → p.alike stage p.values (expr.eval one) (expr.eval other)
  | .identifier token => by
    rw [Expr.eval, Expr.eval]
    exact surround.get (p.refl stage) token.literal
  | .integer _ _ | .float _ _ | .string _ | .boolean _ _ =>
    p.pure (.plain ValueKind.noConfusion)
  | .unary _ op operand => by
    rw [Expr.eval, Expr.eval]
    refine p.bind (Expr.eval_parallel surround operand) fun _ same => ?_
    rw [op.apply_alike same]
    exact ofExcept fun _ => UnaryOp.apply_plain
  | .binary _ op left right => by
    rw [Expr.eval, Expr.eval]
    refine p.bind (Expr.eval_parallel surround left) fun onward first => ?_
    refine p.bind (Expr.eval_parallel (surround.onward onward) right) fun further second => ?_
    rw [op.apply_alike (values_lasting further first) second]
    exact ofExcept fun _ => BinaryOp.apply_plain
  | .conditional _ condition consequence none => by
    rw [Expr.eval, Expr.eval]
    refine p.bind (Expr.eval_parallel surround condition) fun onward same => ?_
    rw [same.truthy]
    split
    · exact orNull (Block.eval_parallel (surround.onward onward) consequence)
    · exact p.pure (.plain ValueKind.noConfusion)
  | .conditional _ condition consequence (some alternative) => by
    rw [Expr.eval, Expr.eval]
    refine p.bind (Expr.eval_parallel surround condition) fun onward same => ?_
    rw [same.truthy]
    split
    · exact orNull (Block.eval_parallel (surround.onward onward) consequence)
    · exact orNull (Block.eval_parallel (surround.onward onward) alternative)
  | .function _ parameters body => by
    rw [Expr.eval, Expr.eval]
    exact p.pure (.function (surround.literal (p.refl stage) _ body))
  | .call _ callee arguments => by
    rw [Expr.eval, Expr.eval]
    refine p.bind (Expr.eval_parallel surround callee) fun onward same => ?_
    have around := surround.onward onward
    refine p.bind (Expr.evalAll_parallel around arguments) fun further given => ?_
    exact (around.onward further).call given _ _ (values_lasting further same)

theorem Expr.evalAll_parallel {stage : p.Stage} (surround : p.Surround stage one other) :
    (exprs : List Expr) → p.alike stage p.lists (Expr.evalAll one exprs) (Expr.evalAll other exprs)
  | [] => p.pure .nil
  | expr :: rest => by
    rw [Expr.evalAll, Expr.evalAll]
    refine p.bind (Expr.eval_parallel surround expr) fun onward same => ?_
    refine p.bind (Expr.evalAll_parallel (surround.onward onward) rest) fun further others => ?_
    exact p.pure (.cons (values_lasting further same) others)

theorem Stmt.eval_parallel {stage : p.Stage} (surround : p.Surround stage one other) :
    (stmt : Stmt) → p.alike stage p.options (stmt.eval one) (stmt.eval other)
  | .expression _ value => by
    rw [Stmt.eval, Stmt.eval]
    exact p.bind (Expr.eval_parallel surround value) fun _ same => p.pure (.some same)
  | .result _ value => by
    rw [Stmt.eval, Stmt.eval]
    exact p.bind (Expr.eval_parallel surround value) fun _ same => p.throw (.returned same)
  | .binding _ name value => by
    rw [Stmt.eval, Stmt.eval]
    refine p.bind (Expr.eval_parallel surround value) fun onward same => ?_
    exact p.bind (surround.bind onward name.literal same) fun _ _ => p.pure .none

theorem Stmt.evalAll_parallel {stage : p.Stage} (surround : p.Surround stage one other) :
    (stmts : List Stmt) → {result image : Option Value} → p.options stage result image →
      p.alike stage p.options (Stmt.evalAll one result stmts) (Stmt.evalAll other image stmts)
  | [], _, _, same => p.pure same
  | stmt :: rest, _, _, _ => by
    rw [Stmt.evalAll, Stmt.evalAll]
    refine p.bind (Stmt.eval_parallel surround stmt) fun onward same => ?_
    exact Stmt.evalAll_parallel (surround.onward onward) rest same

theorem Block.eval_parallel {stage : p.Stage} (surround : p.Surround stage one other) :
    (block : Block) → p.alike stage p.options (block.eval one) (block.eval other)
  | .mk _ statements => by
    rw [Block.eval, Block.eval]
    exact Stmt.evalAll_parallel surround statements .none

end

end

end Polyglot
