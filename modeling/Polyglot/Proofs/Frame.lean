import Polyglot.Proofs.Computation
import Polyglot.Proofs.Store
import Polyglot.Run.Evaluate

/-! What evaluation leaves alone. A program writes to the scope it runs in, and there only to the
names that its `let` statements outside function literals bind. A call writes to no scope that was
open before it. -/
namespace Polyglot

mutual

/-- The names bound by `let` statements that lie outside every function literal. -/
def Expr.targets : Expr → List String
  | .identifier _ | .integer _ _ | .float _ _ | .string _ | .boolean _ _ | .function _ _ _ => []
  | .unary _ _ operand => operand.targets
  | .binary _ _ left right => left.targets ++ right.targets
  | .conditional _ condition consequence none => condition.targets ++ consequence.targets
  | .conditional _ condition consequence (some alternative) =>
    condition.targets ++ (consequence.targets ++ alternative.targets)
  | .call _ callee arguments => callee.targets ++ Expr.allTargets arguments

def Expr.allTargets : List Expr → List String
  | [] => []
  | expr :: rest => expr.targets ++ Expr.allTargets rest

def Stmt.targets : Stmt → List String
  | .binding _ name value => name.literal :: value.targets
  | .result _ value | .expression _ value => value.targets

def Stmt.allTargets : List Stmt → List String
  | [] => []
  | stmt :: rest => stmt.targets ++ Stmt.allTargets rest

def Block.targets : Block → List String
  | .mk _ statements => Stmt.allTargets statements

end

def Program.targets (program : Program) : List String :=
  Stmt.allTargets program

/-- Surroundings in which every change that evaluation makes by itself, outside notes, is allowed:
binding one of the names in its scope, and applying a closure. -/
structure Context.Allows (context : Context) (names : List String)
    (allowed : Machine → Machine → Prop) : Prop where
  refl : ∀ machine, allowed machine machine
  trans : ∀ a b c, allowed a b → allowed b c → allowed a c
  binds : ∀ name ∈ names, ∀ value, Keeps allowed (Eval.bind context.scope name value)
  applies : ∀ closure arguments, Keeps allowed (context.apply closure arguments)

section
variable {context : Context} {names : List String} {allowed : Machine → Machine → Prop}

theorem Eval.ofExcept_keeps {α : Type} (refl : ∀ machine, allowed machine machine)
    (result : Except RunFault α) : Keeps allowed (Eval.ofExcept result) := by
  cases result with
  | ok value => exact Keeps.pure refl value
  | error fault => exact Keeps.throw refl _

theorem Eval.get_keeps (refl : ∀ machine, allowed machine machine) (scope : ScopeId)
    (name : String) : Keeps allowed (Eval.get scope name) := by
  intro machine
  have looked : (getThe Machine : Eval Machine).run machine = .ok machine machine := rfl
  unfold Eval.get
  rw [bind_ok looked]
  cases machine.store.get? name scope with
  | some value => exact refl machine
  | none => exact refl machine

mutual

theorem Expr.eval_keeps (allows : context.Allows names allowed) :
    (expr : Expr) → (∀ name ∈ expr.targets, name ∈ names) → Keeps allowed (expr.eval context)
  | .identifier token, _ => Eval.get_keeps allows.refl _ _
  | .integer _ _, _ | .float _ _, _ | .string _, _ | .boolean _ _, _ | .function _ _ _, _ =>
    Keeps.pure allows.refl _
  | .unary _ op operand, inside => by
    rw [Expr.eval]
    refine Keeps.bind allows.trans (Expr.eval_keeps allows operand inside) fun value => ?_
    exact Eval.ofExcept_keeps allows.refl _
  | .binary _ op left right, inside => by
    rw [Expr.targets, List.forall_mem_append] at inside
    rw [Expr.eval]
    refine Keeps.bind allows.trans (Expr.eval_keeps allows left inside.1) fun a => ?_
    refine Keeps.bind allows.trans (Expr.eval_keeps allows right inside.2) fun b => ?_
    exact Eval.ofExcept_keeps allows.refl _
  | .conditional _ condition consequence none, inside => by
    rw [Expr.targets, List.forall_mem_append] at inside
    rw [Expr.eval]
    refine Keeps.bind allows.trans (Expr.eval_keeps allows condition inside.1) fun value => ?_
    split
    · exact Keeps.bind allows.trans (Block.eval_keeps allows consequence inside.2)
        fun result => Keeps.pure allows.refl _
    · exact Keeps.pure allows.refl _
  | .conditional _ condition consequence (some alternative), inside => by
    rw [Expr.targets, List.forall_mem_append, List.forall_mem_append] at inside
    rw [Expr.eval]
    refine Keeps.bind allows.trans (Expr.eval_keeps allows condition inside.1) fun value => ?_
    split
    · exact Keeps.bind allows.trans (Block.eval_keeps allows consequence inside.2.1)
        fun result => Keeps.pure allows.refl _
    · exact Keeps.bind allows.trans (Block.eval_keeps allows alternative inside.2.2)
        fun result => Keeps.pure allows.refl _
  | .call _ callee arguments, inside => by
    rw [Expr.targets, List.forall_mem_append] at inside
    rw [Expr.eval]
    refine Keeps.bind allows.trans (Expr.eval_keeps allows callee inside.1) fun function => ?_
    refine Keeps.bind allows.trans (Expr.evalAll_keeps allows arguments inside.2) fun values => ?_
    split
    · exact allows.applies _ _
    · exact Eval.ofExcept_keeps allows.refl _
    · exact Keeps.throw allows.refl _

theorem Expr.evalAll_keeps (allows : context.Allows names allowed) :
    (exprs : List Expr) → (∀ name ∈ Expr.allTargets exprs, name ∈ names) →
      Keeps allowed (Expr.evalAll context exprs)
  | [], _ => Keeps.pure allows.refl _
  | expr :: rest, inside => by
    rw [Expr.allTargets, List.forall_mem_append] at inside
    rw [Expr.evalAll]
    refine Keeps.bind allows.trans (Expr.eval_keeps allows expr inside.1) fun value => ?_
    exact Keeps.bind allows.trans (Expr.evalAll_keeps allows rest inside.2)
      fun values => Keeps.pure allows.refl _

theorem Stmt.eval_keeps (allows : context.Allows names allowed) :
    (stmt : Stmt) → (∀ name ∈ stmt.targets, name ∈ names) → Keeps allowed (stmt.eval context)
  | .expression _ value, inside => by
    rw [Stmt.eval]
    exact Keeps.bind allows.trans (Expr.eval_keeps allows value inside)
      fun result => Keeps.pure allows.refl _
  | .result _ value, inside => by
    rw [Stmt.eval]
    exact Keeps.bind allows.trans (Expr.eval_keeps allows value inside)
      fun result => Keeps.throw allows.refl _
  | .binding _ name value, inside => by
    rw [Stmt.targets, List.forall_mem_cons] at inside
    rw [Stmt.eval]
    refine Keeps.bind allows.trans (Expr.eval_keeps allows value inside.2) fun result => ?_
    exact Keeps.bind allows.trans (allows.binds _ inside.1 result)
      fun _ => Keeps.pure allows.refl _

theorem Stmt.evalAll_keeps (allows : context.Allows names allowed) :
    (result : Option Value) → (stmts : List Stmt) →
      (∀ name ∈ Stmt.allTargets stmts, name ∈ names) →
      Keeps allowed (Stmt.evalAll context result stmts)
  | _, [], _ => Keeps.pure allows.refl _
  | _, stmt :: rest, inside => by
    rw [Stmt.allTargets, List.forall_mem_append] at inside
    rw [Stmt.evalAll]
    refine Keeps.bind allows.trans (Stmt.eval_keeps allows stmt inside.1) fun result => ?_
    exact Stmt.evalAll_keeps allows result rest inside.2

theorem Block.eval_keeps (allows : context.Allows names allowed) :
    (block : Block) → (∀ name ∈ block.targets, name ∈ names) → Keeps allowed (block.eval context)
  | .mk _ statements, inside => by
    rw [Block.eval]
    exact Stmt.evalAll_keeps allows none statements inside

end

end

/-- Every scope that was open before is as it was. -/
structure Store.Extends (before after : Store) : Prop where
  size : before.scopes.size ≤ after.scopes.size
  scopes : ∀ id < before.scopes.size, after.scopes[id]? = before.scopes[id]?

/-- A change that writes to one scope at most, and there to the given names alone. Scopes opened on
the way are free. -/
structure Store.Writes (scope : ScopeId) (names : List String) (before after : Store) : Prop where
  size : before.scopes.size ≤ after.scopes.size
  others : ∀ id < before.scopes.size, id ≠ scope → after.scopes[id]? = before.scopes[id]?
  outer : scope < before.scopes.size → after.outer? scope = before.outer? scope
  own : scope < before.scopes.size → ∀ name ∉ names,
    after.own? name scope = before.own? name scope

theorem Store.Extends.refl (store : Store) : Extends store store :=
  ⟨Nat.le_refl _, fun _ _ => rfl⟩

theorem Store.Extends.trans {first second third : Store} (earlier : Extends first second)
    (later : Extends second third) : Extends first third where
  size := Nat.le_trans earlier.size later.size
  scopes id existing :=
    (later.scopes id (Nat.lt_of_lt_of_le existing earlier.size)).trans (earlier.scopes id existing)

namespace Store.Writes
variable {scope : ScopeId} {names : List String}

theorem refl (scope : ScopeId) (names : List String) (store : Store) :
    Writes scope names store store :=
  ⟨Nat.le_refl _, fun _ _ _ => rfl, fun _ => rfl, fun _ _ _ => rfl⟩

theorem trans {first second third : Store} (earlier : Writes scope names first second)
    (later : Writes scope names second third) : Writes scope names first third where
  size := Nat.le_trans earlier.size later.size
  others id existing other :=
    (later.others id (Nat.lt_of_lt_of_le existing earlier.size) other).trans
      (earlier.others id existing other)
  outer existing :=
    (later.outer (Nat.lt_of_lt_of_le existing earlier.size)).trans (earlier.outer existing)
  own existing name free :=
    (later.own (Nat.lt_of_lt_of_le existing earlier.size) name free).trans
      (earlier.own existing name free)

theorem of_extends {before after : Store} (grown : Extends before after) :
    Writes scope names before after where
  size := grown.size
  others id existing _ := grown.scopes id existing
  outer existing := by rw [outer?, outer?, grown.scopes scope existing]
  own existing name _ := by rw [own?, own?, grown.scopes scope existing]

theorem of_bind (store : Store) (scope : ScopeId) {name : String} (value : Value)
    (member : name ∈ names) : Writes scope names store (store.bind scope name value) where
  size := Nat.le_of_eq (size_bind store scope name value).symm
  others id _ other := scope_bind_other store other name value
  outer _ := outer?_bind store scope scope name value
  own existing asked free := by
    have different : asked ≠ name := fun same => free (same ▸ member)
    rw [own?_bind store scope scope name asked value existing,
      if_neg (fun both => different both.2)]

end Store.Writes

/-- The change between two machines as far as their stores go. -/
def Machine.Writes (scope : ScopeId) (names : List String) (before after : Machine) : Prop :=
  before.store.Writes scope names after.store

namespace Closure

theorem checkArity_keeps {allowed : Machine → Machine → Prop}
    (refl : ∀ machine, allowed machine machine) (closure : Closure) (arguments : List Value) :
    Keeps allowed (closure.checkArity arguments) := by
  unfold checkArity
  split
  · exact Keeps.throw refl _
  · exact Keeps.pure refl _

theorem bindAll_writes (scope : ScopeId) (names : List String) (entries : List (String × Value))
    (inside : ∀ entry ∈ entries, entry.1 ∈ names) :
    Keeps (Machine.Writes scope names) (bindAll scope entries) := by
  induction entries with
  | nil => exact Keeps.pure (fun _ => .refl scope names _) ()
  | cons entry rest ih =>
    obtain ⟨name, value⟩ := entry
    rw [List.forall_mem_cons] at inside
    refine Keeps.bind (fun _ _ _ => .trans) ?_ fun _ => ih inside.2
    exact fun machine => .of_bind machine.store scope value inside.1

end Closure

theorem Eval.bodyValue_keeps {allowed : Machine → Machine → Prop} {body : Eval (Option Value)}
    (kept : Keeps allowed body) : Keeps allowed (Eval.bodyValue body) := by
  intro machine
  have step := kept machine
  show allowed machine (endState (Eval.bodyValue body machine))
  unfold Eval.bodyValue
  cases ran : body.run machine with
  | ok result after =>
    rw [ran] at step
    exact step
  | error exit after =>
    rw [ran] at step
    cases exit with
    | returned value => exact step
    | failed fault => exact step

/-- Where no call changes an open scope, evaluation writes to its own scope alone. -/
theorem Context.allows_writes {limit remaining : Nat} (run : Nat) (scope : ScopeId)
    (names : List String)
    (calls : ∀ (closure : Closure) (arguments : List Value),
      Keeps (fun before after => before.store.Extends after.store)
        (closure.applyWithin limit remaining arguments)) :
    Context.Allows ⟨Closure.applyWithin limit remaining, run, scope⟩ names
      (Machine.Writes scope names) where
  refl machine := .refl scope names machine.store
  trans _ _ _ := .trans
  binds _ member value machine := .of_bind machine.store scope value member
  applies closure arguments := (calls closure arguments).mono fun _ _ => .of_extends

theorem Closure.inside_writes (limit remaining : Nat) (closure : Closure) (arguments : List Value)
    (scope : ScopeId)
    (calls : ∀ (closure : Closure) (arguments : List Value),
      Keeps (fun before after => before.store.Extends after.store)
        (closure.applyWithin limit remaining arguments)) :
    Keeps (Machine.Writes scope (closure.parameters ++ closure.body.targets)) (do
      bindAll scope (closure.parameters.zip arguments)
      Eval.note (.applying (limit - remaining) closure.parameters.length)
      Eval.bodyValue (closure.body.eval ⟨applyWithin limit remaining, closure.run, scope⟩)) := by
  refine Keeps.bind (fun _ _ _ => .trans) ?_ fun _ => ?_
  · refine bindAll_writes scope _ _ fun entry member => ?_
    exact List.mem_append_left _ (List.of_mem_zip member).1
  refine Keeps.bind (fun _ _ _ => .trans) (fun machine => .refl scope _ machine.store) fun _ => ?_
  exact Eval.bodyValue_keeps (Block.eval_keeps (Context.allows_writes _ _ _ calls) closure.body
    fun name member => List.mem_append_right closure.parameters member)

/-- Applying a closure changes no scope that was open before. -/
theorem Closure.applyWithin_extends (limit remaining : Nat) (closure : Closure)
    (arguments : List Value) :
    Keeps (fun before after => before.store.Extends after.store)
      (closure.applyWithin limit remaining arguments) := by
  have unchanged (machine : Machine) : machine.store.Extends machine.store := .refl machine.store
  induction remaining generalizing closure arguments with
  | zero =>
    refine Keeps.bind (fun _ _ _ => .trans) (checkArity_keeps unchanged _ _) fun _ => ?_
    refine Keeps.bind (fun _ _ _ => .trans) unchanged fun _ => ?_
    exact Keeps.throw unchanged _
  | succ remaining ih =>
    refine Keeps.bind (fun _ _ _ => .trans) (checkArity_keeps unchanged _ _) fun _ => ?_
    intro machine
    -- The scope that the call opens is numbered by the count of scopes so far, so a write to it is
    -- a write to none of the others.
    let opened := (machine.store.openScope (some closure.scope)).2
    have inside : Store.Writes machine.store.scopes.size _ opened _ :=
      closure.inside_writes limit remaining arguments machine.store.scopes.size ih
        { machine with store := opened }
    have size : opened.scopes.size = machine.store.scopes.size + 1 := Store.size_openScope _ _
    refine ⟨Nat.le_trans (by omega) inside.size, fun id existing => ?_⟩
    calc
      _ = opened.scopes[id]? := inside.others id (by omega) (by omega)
      _ = machine.store.scopes[id]? := Store.scope_openScope _ _ existing

/-- A run changes its machine only as is allowed, once it is counted. -/
theorem Program.run_keeps {limit : Nat} {scope : ScopeId} {program : Program} {machine : Machine}
    {allowed : Machine → Machine → Prop}
    (allows : Context.Allows ⟨Closure.applyWithin limit limit, machine.runs, scope⟩ program.targets
      allowed) :
    allowed { machine with runs := machine.runs + 1 } (program.run limit scope machine).2 := by
  have step := Stmt.evalAll_keeps allows none program (fun _ member => member)
    { machine with runs := machine.runs + 1 }
  unfold Program.run
  dsimp only
  split <;> rename_i ran <;> rw [ran] at step <;> exact step

/-- A program writes only to the scope it runs in and to the names it binds there. -/
theorem Program.run_writes (limit : Nat) (scope : ScopeId) (program : Program) (machine : Machine) :
    machine.store.Writes scope program.targets (program.run limit scope machine).2.store := by
  have allows := Context.allows_writes machine.runs scope program.targets
    (Closure.applyWithin_extends limit limit)
  exact run_keeps allows

/-- Evaluation can only write to the scope it runs in. However a program ends, every other scope
that was open is as it was, and in its own scope the surrounding scope and all names but its targets
are as they were. A call changes no scope that was open at all. -/
theorem Program.run_frame (limit : Nat) (scope : ScopeId) (program : Program) (machine : Machine) :
    let before := machine.store
    let after := (program.run limit scope machine).2.store
    (∀ id < before.scopes.size, id ≠ scope → after.scopes[id]? = before.scopes[id]?) ∧
    (scope < before.scopes.size → scope < after.scopes.size ∧
      after.outer? scope = before.outer? scope ∧
      ∀ name ∉ program.targets, after.own? name scope = before.own? name scope) ∧
    ∀ (remaining : Nat) (closure : Closure) (arguments : List Value),
      ∀ id < before.scopes.size,
        (endState ((closure.applyWithin limit remaining arguments).run machine)).store.scopes[id]? =
          before.scopes[id]? := by
  have written := program.run_writes limit scope machine
  refine ⟨written.others, fun existing => ?_, fun remaining closure arguments id existing => ?_⟩
  · exact ⟨Nat.lt_of_lt_of_le existing written.size, written.outer existing, written.own existing⟩
  · exact (closure.applyWithin_extends limit remaining arguments machine).scopes id existing

/-- The code `fn() { let x = 2 }`, captured in the outer scope. -/
private def rebinder : Closure where
  parameters := []
  body := .mk ⟨.leftBrace, "\x7b", 5, 6⟩
    [.binding ⟨.keyword .letWord, "let", 7, 10⟩ ⟨.identifier, "x", 11, 12⟩
      (.integer ⟨.integer, "2", 15, 16⟩ 2)]
  scope := 0
  run := 0

/-- An outer scope that binds `x` and `f`, and an inner one that binds `z`. -/
private def nestedScopes : Machine where
  store := ⟨#[⟨[("x", .integer 1), ("f", .function rebinder)], none⟩, ⟨[("z", .null)], some 0⟩]⟩
  runs := 1
  noted := []

/-- The program `let y = f()`. -/
private def callAndBind : Program :=
  [.binding ⟨.keyword .letWord, "let", 0, 3⟩ ⟨.identifier, "y", 4, 5⟩
    (.call ⟨.leftParen, "(", 9, 10⟩ (.identifier ⟨.identifier, "f", 8, 9⟩) [])]

theorem Program.run_frame_nested :
    (0 < nestedScopes.store.scopes.size ∧ 0 ≠ 1 ∧
      (callAndBind.run 8 1 nestedScopes).2.store.scopes[0]? = nestedScopes.store.scopes[0]?) ∧
    (1 < nestedScopes.store.scopes.size ∧ "z" ∉ callAndBind.targets ∧
      (callAndBind.run 8 1 nestedScopes).2.store.own? "z" 1 = nestedScopes.store.own? "z" 1) ∧
    (endState ((rebinder.applyWithin 8 8 []).run nestedScopes)).store.scopes[0]? =
      nestedScopes.store.scopes[0]? :=
  have frame := Program.run_frame 8 1 callAndBind nestedScopes
  ⟨⟨by decide, by decide, frame.1 0 (by decide) (by decide)⟩,
    ⟨by decide, by decide, (frame.2.1 (by decide)).2.2 "z" (by decide)⟩,
    frame.2.2 8 rebinder [] 0 (by decide)⟩

end Polyglot
