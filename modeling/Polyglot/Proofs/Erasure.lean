import Polyglot.Proofs.Computation
import Polyglot.Proofs.Parts
import Polyglot.Run.Evaluate

/-! What a program does is independent of where its tokens stand, of how its keywords are spelled
and of which run evaluates its function literals. Values and stores are compared bare of all that,
and two runs of programs that are the same when plain take the same steps. -/
namespace Polyglot

/-- The closure with a plain body and without the run. -/
def Closure.bare (closure : Closure) : Closure :=
  { closure with body := closure.body.plain, run := 0 }

namespace Value

def bare : Value → Value
  | function closure => .function closure.bare
  | value => value

@[simp] theorem kind_bare (value : Value) : value.bare.kind = value.kind := by
  cases value <;> rfl

@[simp] theorem truthy_bare (value : Value) : value.bare.truthy = value.truthy := by
  cases value <;> rfl

@[simp] theorem text_bare (value : Value) : value.bare.text = value.text := by
  cases value with
  | function closure =>
    show "fn(" ++ ", ".intercalate closure.parameters ++ ") " ++
      closure.body.plain.text = _
    rw [Block.text_plain]
    rfl
  | _ => rfl

theorem getD_bare {result copy : Option Value} (same : result.map bare = copy.map bare) :
    (result.getD .null).bare = (copy.getD .null).bare := by
  have image (value : Option Value) :
      (value.getD .null).bare = (value.map bare).getD .null := by cases value <;> rfl
  rw [image, image, same]

end Value

/-- No operation looks into a function. -/
@[simp] theorem UnaryOp.apply_bare (op : UnaryOp) (value : Value) :
    op.apply value.bare = op.apply value := by
  cases op <;> cases value <;> rfl

@[simp] theorem BinaryOp.apply_bare (op : BinaryOp) (left right : Value) :
    op.apply left.bare right.bare = op.apply left right := by
  cases left <;> cases right <;> rfl

@[simp] theorem Builtin.apply_bare (builtin : Builtin) (arguments : List Value) :
    builtin.apply (arguments.map Value.bare) = builtin.apply arguments := by
  match arguments with
  | [] => rfl
  | [value] => cases value <;> rfl
  | first :: second :: rest =>
    cases first <;> simp [Builtin.apply]

namespace Bindings

def bare (bindings : Bindings) : Bindings :=
  bindings.map fun entry => (entry.1, entry.2.bare)

theorem find?_bare (bindings : Bindings) (name : String) :
    bindings.bare.find? name = (bindings.find? name).map Value.bare := by
  unfold Bindings.find? bare
  induction bindings with
  | nil => rfl
  | cons entry rest ih =>
    rw [List.map_cons, List.lookup_cons, List.lookup_cons, ih]
    cases name == entry.1 <;> rfl

theorem bind_bare (bindings : Bindings) (name : String) (value : Value) :
    (bindings.bind name value).bare = bindings.bare.bind name value.bare := by
  induction bindings with
  | nil => rfl
  | cons entry rest ih =>
    have known : bare (entry :: rest) = (entry.1, entry.2.bare) :: bare rest := rfl
    rw [Bindings.bind, known, Bindings.bind]
    split
    · rfl
    · exact congrArg _ ih

end Bindings

def Scope.bare (scope : Scope) : Scope :=
  { scope with bindings := scope.bindings.bare }

namespace Store

def bare (store : Store) : Store :=
  ⟨store.scopes.map Scope.bare⟩

theorem own?_bare (store : Store) (name : String) (id : ScopeId) :
    store.bare.own? name id = (store.own? name id).map Value.bare := by
  rw [own?, own?, bare, Array.getElem?_map]
  cases store.scopes[id]? with
  | none => rfl
  | some scope => exact scope.bindings.find?_bare name

theorem outer?_bare (store : Store) (id : ScopeId) : store.bare.outer? id = store.outer? id := by
  rw [outer?, outer?, bare, Array.getElem?_map]
  cases store.scopes[id]? <;> rfl

theorem chainWithin_bare (store : Store) (bound : Nat) (id : ScopeId) :
    store.bare.chainWithin bound id = store.chainWithin bound id := by
  induction bound generalizing id with
  | zero => rfl
  | succ bound ih =>
    rw [chainWithin, chainWithin, outer?_bare]
    split
    · rw [ih]
    · rfl

theorem find?_bare (store : Store) (name : String) (id : ScopeId) :
    store.bare.find? name id = (store.find? name id).map Value.bare := by
  have own : store.bare.own? name = fun id => (store.own? name id).map Value.bare :=
    funext (store.own?_bare name)
  rw [find?, find?, chain, chain, chainWithin_bare, own, List.map_findSome?]
  rfl

theorem get?_bare (store : Store) (name : String) (id : ScopeId) :
    store.bare.get? name id = (store.get? name id).map Value.bare := by
  rw [get?, get?, find?_bare]
  cases store.find? name id with
  | some value => rfl
  | none => cases Builtin.ofName? name <;> rfl

theorem bind_bare (store : Store) (id : ScopeId) (name : String) (value : Value) :
    (store.bind id name value).bare = store.bare.bind id name value.bare := by
  apply congrArg Store.mk
  apply Array.ext_getElem?
  intro place
  simp only [bare, bind, Array.getElem?_map, Array.getElem?_modify]
  cases store.scopes[place]? with
  | none => split <;> rfl
  | some scope =>
    split
    · exact congrArg (fun bindings => some (Scope.mk bindings scope.outer))
        (scope.bindings.bind_bare name value)
    · rfl

theorem openScope_bare (store : Store) (outer : Option ScopeId) :
    store.bare.openScope outer = ((store.openScope outer).1, (store.openScope outer).2.bare) := by
  simp only [openScope, bare, Array.size_map, Array.map_push]
  rfl

end Store

def Exit.bare : Exit → Exit
  | returned value => .returned value.bare
  | failed fault => .failed fault

namespace Eval

/-- Evaluations are compared by what they leave in the store and by how they end, both bare. -/
def bareCoupling : Coupling Exit Machine Machine where
  near one other := one.store.bare = other.store.bare
  same one other := one.bare = other.bare
  excused _ := False

variable {α β γ δ : Type}

/-- Evaluations that take the same steps and whose results have the same image. -/
abbrev InStep (image : α → γ) (one other : Eval α) : Prop :=
  bareCoupling.InStep (fun value copy => image value = image copy) one other

theorem InStep.through {image : α → γ} {one other between : Eval α}
    (first : InStep image one between) (second : InStep image other between) :
    InStep image one other := by
  intro machine copy near
  have left := first machine copy near
  have right := second copy copy rfl
  cases begun : one.run machine <;> cases ended : other.run copy <;>
    cases met : between.run copy <;> rw [begun, met] at left <;> rw [ended, met] at right
  case ok.ok.ok => exact ⟨left.1.trans right.1.symm, left.2.trans right.2.symm⟩
  case error.error.error =>
    obtain ⟨same, close⟩ := left.resolve_left id
    obtain ⟨same', close'⟩ := right.resolve_left id
    exact Or.inr ⟨same.trans same'.symm, close.trans close'.symm⟩
  all_goals first | exact left.elim | exact right.elim

theorem get_inStep (scope : ScopeId) (name : String) :
    InStep Value.bare (Eval.get scope name) (Eval.get scope name) := by
  intro machine copy near
  have same : (machine.store.get? name scope).map Value.bare =
      (copy.store.get? name scope).map Value.bare := by
    rw [← Store.get?_bare, ← Store.get?_bare, near]
  have looked (state : Machine) : (getThe Machine : Eval Machine).run state = .ok state state := rfl
  unfold Eval.get
  rw [bind_ok (looked machine), bind_ok (looked copy)]
  cases found : machine.store.get? name scope <;> cases seen : copy.store.get? name scope <;>
    rw [found, seen] at same
  case none.none => exact Or.inr ⟨rfl, near⟩
  case some.some => exact ⟨Option.some.inj same, near⟩
  all_goals cases same

theorem bind_inStep (scope : ScopeId) (name : String) {value copy : Value}
    (same : value.bare = copy.bare) :
    InStep id (Eval.bind scope name value) (Eval.bind scope name copy) := by
  intro machine other near
  refine ⟨rfl, ?_⟩
  show (machine.store.bind scope name value).bare = (other.store.bind scope name copy).bare
  rw [Store.bind_bare, Store.bind_bare, near, same]

theorem enclose_inStep (outer : ScopeId) :
    InStep id (Eval.enclose outer) (Eval.enclose outer) := by
  intro machine other near
  have opened : machine.store.bare.openScope (some outer) =
      other.store.bare.openScope (some outer) := congrArg (Store.openScope (some outer)) near
  rw [Store.openScope_bare, Store.openScope_bare] at opened
  exact ⟨congrArg Prod.fst opened, congrArg Prod.snd opened⟩

theorem note_inStep (event other : Event) : InStep id (note event) (note other) :=
  fun _ _ near => ⟨rfl, near⟩

theorem fail_inStep (image : α → γ) (fault : RunFault) :
    InStep image (fail fault) (fail fault) := Coupling.InStep.throw rfl

theorem ofExcept_inStep (image : α → γ) (result : Except RunFault α) :
    InStep image (ofExcept result) (ofExcept result) := by
  cases result with
  | ok value => exact Coupling.InStep.pure rfl
  | error fault => exact fail_inStep image fault

theorem InStep.orNull {body copy : Eval (Option Value)}
    (same : InStep (Option.map Value.bare) body copy) :
    InStep Value.bare (do return (← body).getD .null) (do return (← copy).getD .null) :=
  same.bind fun _ _ equal => Coupling.InStep.pure (Value.getD_bare equal)

theorem bodyValue_inStep {body copy : Eval (Option Value)}
    (same : InStep (Option.map Value.bare) body copy) :
    InStep Value.bare (bodyValue body) (bodyValue copy) := by
  intro machine other near
  have ends := same machine other near
  show bareCoupling.Agree _ (bodyValue body machine) (bodyValue copy other)
  unfold bodyValue
  cases begun : body.run machine <;> cases ended : copy.run other <;> rw [begun, ended] at ends
  case ok.ok =>
    exact ⟨Value.getD_bare ends.1, ends.2⟩
  case error.error exit _ twin _ =>
    obtain ⟨alike, close⟩ := ends.resolve_left id
    cases exit with
    | returned value =>
      cases twin with
      | returned copy => exact ⟨Exit.returned.inj alike, close⟩
      | failed fault => cases alike
    | failed fault =>
      cases twin with
      | returned copy => cases alike
      | failed fault => exact Or.inr ⟨alike, close⟩
  all_goals exact ends.elim

end Eval

/-- Contexts of one scope that apply the same closures in the same way. -/
structure Context.Alike (one other : Context) : Prop where
  scope : one.scope = other.scope
  apply : ∀ {closure copy : Closure} {arguments copies : List Value},
    closure.bare = copy.bare → arguments.map Value.bare = copies.map Value.bare →
    Eval.InStep Value.bare (one.apply closure arguments) (other.apply copy copies)

section
open Eval
variable {one other : Context}

theorem Context.Alike.call (alike : one.Alike other) {arguments copies : List Value}
    (given : arguments.map Value.bare = copies.map Value.bare) (function copy : Value) :
    function.bare = copy.bare →
    InStep Value.bare
      (match function with
        | .function closure => one.apply closure arguments
        | .builtin builtin => ofExcept (builtin.apply arguments)
        | other => fail (.notAFunction other.kind))
      (match copy with
        | .function closure => other.apply closure copies
        | .builtin builtin => ofExcept (builtin.apply copies)
        | other => fail (.notAFunction other.kind)) := by
  intro same
  cases function with
  | function closure =>
    cases copy with
    | function twin => exact alike.apply (Value.function.inj same) given
    | _ => cases same
  | builtin builtin =>
    cases copy with
    | builtin twin =>
      cases same
      have equal : builtin.apply arguments = builtin.apply copies := by
        rw [← Builtin.apply_bare, given, Builtin.apply_bare]
      dsimp only
      rw [equal]
      exact ofExcept_inStep _ _
    | _ => cases same
  | _ =>
    cases copy <;> cases same
    exact fail_inStep _ _

mutual

theorem Expr.eval_plain (alike : one.Alike other) :
    (expr : Expr) → InStep Value.bare (expr.eval one) (expr.plain.eval other)
  | .identifier token => by
    rw [Expr.plain, Expr.eval, Expr.eval, alike.scope]
    exact get_inStep other.scope token.literal
  | .integer _ _ | .float _ _ | .string _ | .boolean _ _ => Coupling.InStep.pure rfl
  | .unary _ op operand => by
    rw [Expr.plain, Expr.eval, Expr.eval]
    refine (Expr.eval_plain alike operand).bind fun value copy same => ?_
    rw [← op.apply_bare value, same, op.apply_bare]
    exact ofExcept_inStep _ _
  | .binary _ op left right => by
    rw [Expr.plain, Expr.eval, Expr.eval]
    refine (Expr.eval_plain alike left).bind fun value copy same => ?_
    refine (Expr.eval_plain alike right).bind fun value' copy' same' => ?_
    rw [← op.apply_bare value, same, same', op.apply_bare]
    exact ofExcept_inStep _ _
  | .conditional _ condition consequence none => by
    rw [Expr.plain, Expr.eval, Expr.eval]
    refine (Expr.eval_plain alike condition).bind fun value copy same => ?_
    rw [← value.truthy_bare, same, copy.truthy_bare]
    split
    · exact (Block.eval_plain alike consequence).orNull
    · exact Coupling.InStep.pure rfl
  | .conditional _ condition consequence (some alternative) => by
    rw [Expr.plain, Expr.eval, Expr.eval]
    refine (Expr.eval_plain alike condition).bind fun value copy same => ?_
    rw [← value.truthy_bare, same, copy.truthy_bare]
    split
    · exact (Block.eval_plain alike consequence).orNull
    · exact (Block.eval_plain alike alternative).orNull
  | .function _ parameters body => by
    rw [Expr.plain, Expr.eval, Expr.eval, alike.scope]
    refine Coupling.InStep.pure (congrArg Value.function ?_)
    simp only [Closure.bare, List.map_map, Block.plain_plain]
    rfl
  | .call _ callee arguments => by
    rw [Expr.plain, Expr.eval, Expr.eval]
    refine (Expr.eval_plain alike callee).bind fun function copy same => ?_
    refine (Expr.evalAll_plain alike arguments).bind fun values copies given => ?_
    exact alike.call given function copy same

theorem Expr.evalAll_plain (alike : one.Alike other) :
    (exprs : List Expr) → InStep (List.map Value.bare) (Expr.evalAll one exprs)
      (Expr.evalAll other (Expr.allPlain exprs))
  | [] => Coupling.InStep.pure rfl
  | expr :: rest => by
    rw [Expr.allPlain, Expr.evalAll, Expr.evalAll]
    refine (Expr.eval_plain alike expr).bind fun value copy same => ?_
    refine (Expr.evalAll_plain alike rest).bind fun values copies equal => ?_
    exact Coupling.InStep.pure (List.cons_eq_cons.mpr ⟨same, equal⟩)

theorem Stmt.eval_plain (alike : one.Alike other) :
    (stmt : Stmt) → InStep (Option.map Value.bare) (stmt.eval one)
      (stmt.plain.eval other)
  | .expression _ value => by
    rw [Stmt.plain, Stmt.eval, Stmt.eval]
    refine (Expr.eval_plain alike value).bind fun value copy same => ?_
    exact Coupling.InStep.pure (congrArg some same)
  | .result _ value => by
    rw [Stmt.plain, Stmt.eval, Stmt.eval]
    refine (Expr.eval_plain alike value).bind fun value copy same => ?_
    exact Coupling.InStep.throw (congrArg Exit.returned same)
  | .binding _ name value => by
    rw [Stmt.plain, Stmt.eval, Stmt.eval, alike.scope]
    refine (Expr.eval_plain alike value).bind fun value copy same => ?_
    refine (bind_inStep other.scope name.literal same).bind fun _ _ _ => ?_
    exact Coupling.InStep.pure rfl

theorem Stmt.evalAll_plain (alike : one.Alike other) :
    (stmts : List Stmt) → {result copy : Option Value} →
      result.map Value.bare = copy.map Value.bare →
      InStep (Option.map Value.bare) (Stmt.evalAll one result stmts)
        (Stmt.evalAll other copy (Stmt.allPlain stmts))
  | [], _, _, same => Coupling.InStep.pure same
  | stmt :: rest, _, _, _ => by
    rw [Stmt.allPlain, Stmt.evalAll, Stmt.evalAll]
    exact (Stmt.eval_plain alike stmt).bind fun result copy same => Stmt.evalAll_plain alike rest same

theorem Block.eval_plain (alike : one.Alike other) :
    (block : Block) → InStep (Option.map Value.bare) (block.eval one)
      (block.plain.eval other)
  | .mk _ statements => by
    rw [Block.plain, Block.eval, Block.eval]
    exact Stmt.evalAll_plain alike statements rfl

end

theorem Stmt.evalAll_alike (alike : one.Alike other) (again : other.Alike other)
    {stmts copies : List Stmt} {result copy : Option Value}
    (text : Stmt.allPlain stmts = Stmt.allPlain copies)
    (same : result.map Value.bare = copy.map Value.bare) :
    InStep (Option.map Value.bare) (Stmt.evalAll one result stmts)
      (Stmt.evalAll other copy copies) := by
  have left := Stmt.evalAll_plain alike stmts same
  rw [text] at left
  exact left.through (Stmt.evalAll_plain again copies rfl)

theorem Block.eval_alike (alike : one.Alike other) (again : other.Alike other)
    {block copy : Block} (text : block.plain = copy.plain) :
    InStep (Option.map Value.bare) (block.eval one) (copy.eval other) := by
  have left := Block.eval_plain alike block
  rw [text] at left
  exact left.through (Block.eval_plain again copy)

end

namespace Closure
open Eval

theorem checkArity_inStep {closure copy : Closure} {arguments copies : List Value}
    (same : closure.bare = copy.bare)
    (given : arguments.map Value.bare = copies.map Value.bare) :
    InStep id (closure.checkArity arguments) (copy.checkArity copies) := by
  have parameters : closure.parameters = copy.parameters := (Closure.mk.inj same).1
  have lengths : arguments.length = copies.length := by
    simpa only [List.length_map] using congrArg List.length given
  rw [checkArity, checkArity, parameters, lengths]
  split
  · exact fail_inStep _ _
  · exact Coupling.InStep.pure rfl

theorem bindAll_inStep (scope : ScopeId) :
    (entries copies : Bindings) → entries.bare = copies.bare →
      InStep id (bindAll scope entries) (bindAll scope copies)
  | [], [], _ => Coupling.InStep.pure rfl
  | (name, value) :: rest, (name', copy) :: others, same => by
    obtain ⟨first, later⟩ := List.cons_eq_cons.mp same
    obtain ⟨rfl, equal⟩ := Prod.mk.inj first
    exact (bind_inStep scope name equal).bind fun _ _ _ => bindAll_inStep scope rest others later

theorem zip_bare (names : List String) (values : List Value) :
    Bindings.bare (names.zip values) = names.zip (values.map Value.bare) := by
  rw [List.zip_map_right]
  rfl

/-- Neither the places of tokens nor the run that made a closure show when it is applied. -/
theorem applyWithin_inStep (limit remaining : Nat) {closure copy : Closure}
    {arguments copies : List Value} (same : closure.bare = copy.bare)
    (given : arguments.map Value.bare = copies.map Value.bare) :
    InStep Value.bare (applyWithin limit remaining closure arguments)
      (applyWithin limit remaining copy copies) := by
  -- A body is evaluated with one call fewer than the call that opened it, whatever closures it
  -- finds in the store.
  induction remaining generalizing closure copy arguments copies with
  | zero =>
    rw [applyWithin, applyWithin]
    refine (checkArity_inStep same given).bind fun _ _ _ => ?_
    refine (note_inStep _ _).bind fun _ _ _ => ?_
    exact fail_inStep _ _
  | succ remaining ih =>
    have alike (run other : Nat) (scope : ScopeId) :
        Context.Alike ⟨applyWithin limit remaining, run, scope⟩
          ⟨applyWithin limit remaining, other, scope⟩ := ⟨rfl, ih⟩
    have parameters : closure.parameters = copy.parameters := (Closure.mk.inj same).1
    have scope : closure.scope = copy.scope := (Closure.mk.inj same).2.2.1
    have bound : Bindings.bare (closure.parameters.zip arguments) =
        Bindings.bare (copy.parameters.zip copies) := by
      rw [zip_bare, zip_bare, parameters, given]
    rw [applyWithin, applyWithin, scope]
    refine (checkArity_inStep same given).bind fun _ _ _ => ?_
    refine (enclose_inStep _).bind fun opened id equal => ?_
    obtain rfl : opened = id := equal
    refine (bindAll_inStep opened _ _ bound).bind fun _ _ _ => ?_
    refine (note_inStep _ _).bind fun _ _ _ => ?_
    exact bodyValue_inStep
      (Block.eval_alike (alike _ _ _) (alike _ _ _) (congrArg Closure.body same))

end Closure

theorem Context.alike_within (limit run other : Nat) (scope : ScopeId) :
    Context.Alike ⟨Closure.applyWithin limit limit, run, scope⟩
      ⟨Closure.applyWithin limit limit, other, scope⟩ :=
  ⟨rfl, Closure.applyWithin_inStep limit limit⟩

end Polyglot
