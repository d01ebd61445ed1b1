import Polyglot.Proofs.Chains
import Polyglot.Proofs.Parallel
import Polyglot.Proofs.Tasks

/-! What closures capture. A function literal inside so many others is evaluated only in a scope
that has as many scopes around it, so the scope that a call of it opens has one more, and so on
inwards. This holds of every task of a run, whatever closures are passed around on the way. -/
namespace Polyglot

/-- A function literal, and the number of function literals around it. -/
structure Literal where
  depth : Nat
  token : Token
  parameters : List Token
  body : Block

mutual

/-- The function literals of an expression that lies inside so many of them. -/
def Expr.literals : Expr → Nat → List Literal
  | .identifier _, _ | .integer _ _, _ | .float _ _, _ | .string _, _ | .boolean _ _, _ => []
  | .unary _ _ operand, depth => operand.literals depth
  | .binary _ _ left right, depth => left.literals depth ++ right.literals depth
  | .conditional _ condition consequence none, depth =>
    condition.literals depth ++ consequence.literals depth
  | .conditional _ condition consequence (some alternative), depth =>
    condition.literals depth ++ (consequence.literals depth ++ alternative.literals depth)
  | .function token parameters body, depth =>
    ⟨depth, token, parameters, body⟩ :: body.literals (depth + 1)
  | .call _ callee arguments, depth => callee.literals depth ++ Expr.allLiterals arguments depth

def Expr.allLiterals : List Expr → Nat → List Literal
  | [], _ => []
  | expr :: rest, depth => expr.literals depth ++ Expr.allLiterals rest depth

def Stmt.literals : Stmt → Nat → List Literal
  | .binding _ _ value, depth | .result _ value, depth | .expression _ value, depth =>
    value.literals depth

def Stmt.allLiterals : List Stmt → Nat → List Literal
  | [], _ => []
  | stmt :: rest, depth => stmt.literals depth ++ Stmt.allLiterals rest depth

def Block.literals : Block → Nat → List Literal
  | .mk _ statements, depth => Stmt.allLiterals statements depth

end

/-- The closure that a literal makes in a scope. -/
def Literal.closure (literal : Literal) (run : Nat) (scope : ScopeId) : Closure :=
  ⟨literal.parameters.map Token.literal, literal.body, scope, run⟩

/-- Which literals the runs have, and how many scopes may lie around one. -/
structure Charter where
  known : Nat → Literal → Prop
  room : Nat → Prop
  inner : ∀ {run literal}, known run literal →
    ∀ other ∈ literal.body.literals (literal.depth + 1), known run other
  opens : ∀ {run literal}, known run literal → room (literal.depth + 1)

/-- A closure of a known literal, in a scope with as many scopes around it as the literal has
literals. -/
inductive Closure.Placed (charter : Charter) (store : Store) : Closure → Prop
  | mk {run : Nat} {scope : ScopeId} {literal : Literal} (known : charter.known run literal)
      (opened : scope < store.scopes.size) (deep : store.surrounding scope = literal.depth) :
      Placed charter store (literal.closure run scope)

inductive Value.Placed (charter : Charter) (store : Store) : Value → Prop
  | function {closure : Closure} (placed : closure.Placed charter store) :
      Placed charter store (.function closure)
  | plain {value : Value} (other : value.kind ≠ .function) : Placed charter store value

inductive Exit.Placed (charter : Charter) (store : Store) : Exit → Prop
  | returned {value : Value} (placed : value.Placed charter store) :
      Placed charter store (.returned value)
  | failed (fault : RunFault) : Placed charter store (.failed fault)

/-- Scopes lie inside earlier ones and not too deep, and all their closures are placed. -/
structure Store.Tidy (charter : Charter) (store : Store) : Prop where
  ordered : store.Ordered
  room : ∀ id < store.scopes.size, charter.room (store.surrounding id)
  placed : ∀ id name value, store.own? name id = some value → value.Placed charter store

namespace Charter
variable (charter : Charter)

/-- Where a part with these literals is evaluated: in an open scope, with as many scopes around it
as the literals say. -/
def Covers (store : Store) (run : Nat) (scope : ScopeId) (literals : Nat → List Literal) : Prop :=
  scope < store.scopes.size ∧
    ∀ literal ∈ literals (store.surrounding scope), charter.known run literal

/-- What evaluation makes of a tidy store. -/
structure Leads (before after : Store) : Prop where
  tidy : after.Tidy charter
  grows : before.Grows after

end Charter

section
variable {charter : Charter} {before after : Store}

theorem Closure.Placed.mono (grows : before.Grows after) (ordered : before.Ordered)
    {closure : Closure} (placed : closure.Placed charter before) :
    closure.Placed charter after := by
  cases placed with
  | mk known opened deep =>
    apply Closure.Placed.mk known
    · exact Nat.lt_of_lt_of_le opened grows.size
    · rw [grows.surrounding_eq ordered opened, deep]

theorem Value.Placed.mono (grows : before.Grows after) (ordered : before.Ordered) {value : Value}
    (placed : value.Placed charter before) : value.Placed charter after := by
  cases placed with
  | function placed => exact .function (placed.mono grows ordered)
  | plain other => exact .plain other

theorem Charter.Covers.mono (grows : before.Grows after) (ordered : before.Ordered) {run : Nat}
    {scope : ScopeId} {literals : Nat → List Literal}
    (covers : charter.Covers before run scope literals) :
    charter.Covers after run scope literals := by
  obtain ⟨opened, known⟩ := covers
  rw [← grows.surrounding_eq ordered opened] at known
  exact ⟨Nat.lt_of_lt_of_le opened grows.size, known⟩

/-- A charter under which more is known and there is more room. -/
structure Charter.Le (charter other : Charter) : Prop where
  known : ∀ run literal, charter.known run literal → other.known run literal
  room : ∀ count, charter.room count → other.room count

theorem Value.Placed.weaken {other : Charter} (le : charter.Le other) {value : Value}
    (placed : value.Placed charter before) : value.Placed other before := by
  cases placed with
  | plain different => exact .plain different
  | function placed =>
    cases placed with
    | mk known opened deep => exact .function (.mk (le.known _ _ known) opened deep)

theorem Store.Tidy.weaken {other : Charter} (le : charter.Le other) (tidy : before.Tidy charter) :
    before.Tidy other where
  ordered := tidy.ordered
  room id opened := le.room _ (tidy.room id opened)
  placed id name value own := (tidy.placed id name value own).weaken le

theorem Charter.Leads.refl (tidy : before.Tidy charter) : charter.Leads before before :=
  ⟨tidy, .refl before⟩

theorem Charter.Leads.trans {middle : Store} (first : charter.Leads before middle)
    (second : charter.Leads middle after) : charter.Leads before after :=
  ⟨second.tidy, first.grows.trans second.grows⟩

end

section
variable {charter : Charter} {store : Store} {run : Nat} {scope : ScopeId}

theorem covers_append {first second : Nat → List Literal} :
    charter.Covers store run scope (fun depth => first depth ++ second depth) ↔
      charter.Covers store run scope first ∧ charter.Covers store run scope second := by
  unfold Charter.Covers
  rw [List.forall_mem_append, and_and_left]

theorem covers_unary {token : Token} {op : UnaryOp} {operand : Expr} :
    charter.Covers store run scope (Expr.unary token op operand).literals ↔
      charter.Covers store run scope operand.literals :=
  Iff.rfl

theorem covers_binary {token : Token} {op : BinaryOp} {left right : Expr} :
    charter.Covers store run scope (Expr.binary token op left right).literals ↔
      charter.Covers store run scope left.literals ∧
        charter.Covers store run scope right.literals :=
  covers_append

theorem covers_conditional {token : Token} {condition : Expr} {consequence : Block}
    {alternative : Option Block} :
    charter.Covers store run scope
        (Expr.conditional token condition consequence alternative).literals ↔
      charter.Covers store run scope condition.literals ∧
        charter.Covers store run scope consequence.literals ∧
          ∀ other ∈ alternative, charter.Covers store run scope other.literals := by
  cases alternative with
  | none =>
    simp only [Option.not_mem_none, false_implies, implies_true, and_true]
    exact covers_append
  | some other =>
    simp only [Option.mem_some, forall_eq']
    exact covers_append.trans (and_congr_right fun _ => covers_append)

theorem covers_call {token : Token} {callee : Expr} {arguments : List Expr} :
    charter.Covers store run scope (Expr.call token callee arguments).literals ↔
      charter.Covers store run scope callee.literals ∧
        charter.Covers store run scope (Expr.allLiterals arguments) :=
  covers_append

theorem covers_exprs {expr : Expr} {rest : List Expr} :
    charter.Covers store run scope (Expr.allLiterals (expr :: rest)) ↔
      charter.Covers store run scope expr.literals ∧
        charter.Covers store run scope (Expr.allLiterals rest) :=
  covers_append

theorem covers_stmts {stmt : Stmt} {rest : List Stmt} :
    charter.Covers store run scope (Stmt.allLiterals (stmt :: rest)) ↔
      charter.Covers store run scope stmt.literals ∧
        charter.Covers store run scope (Stmt.allLiterals rest) :=
  covers_append

/-- A covered function makes a closure that is placed. -/
theorem Charter.Covers.closure_placed {token : Token} {parameters : List Token} {body : Block}
    (covers : charter.Covers store run scope (Expr.function token parameters body).literals) :
    Closure.Placed charter store ⟨parameters.map Token.literal, body, scope, run⟩ := by
  obtain ⟨opened, known⟩ := covers
  rw [Expr.literals, List.forall_mem_cons] at known
  exact .mk known.1 opened rfl

theorem Value.Placed.of_function {closure : Closure}
    (placed : (Value.function closure).Placed charter store) : closure.Placed charter store := by
  cases placed with
  | function placed => exact placed
  | plain other => exact absurd rfl other

end

namespace Store.Tidy
variable {charter : Charter} {store : Store}

/-- What a name stands for is placed. -/
theorem get (tidy : store.Tidy charter) {name : String} {scope : ScopeId} {value : Value}
    (found : store.get? name scope = some value) : value.Placed charter store := by
  unfold get? at found
  split at found
  · rename_i bound inside
    cases found
    obtain ⟨id, _, own⟩ := List.exists_of_findSome?_eq_some inside
    exact tidy.placed id name value own
  · obtain ⟨builtin, _, rfl⟩ := Option.map_eq_some_iff.mp found
    exact .plain ValueKind.noConfusion

theorem bind (tidy : store.Tidy charter) {scope : ScopeId} (opened : scope < store.scopes.size)
    (name : String) {value : Value} (placed : value.Placed charter store) :
    charter.Leads store (store.bind scope name value) := by
  have grows := store.grows_bind scope name value
  refine ⟨⟨tidy.ordered.bind scope name value, fun id existing => ?_, fun id key other own => ?_⟩,
    grows⟩
  · rw [size_bind] at existing
    rw [grows.surrounding_eq tidy.ordered existing]
    exact tidy.room id existing
  · rw [own?_bind _ _ _ _ _ _ opened] at own
    split at own
    · cases own
      exact placed.mono grows tidy.ordered
    · exact (tidy.placed id key other own).mono grows tidy.ordered

theorem bindAll (tidy : store.Tidy charter) {scope : ScopeId} (opened : scope < store.scopes.size)
    (entries : List (String × Value)) (placed : ∀ entry ∈ entries, entry.2.Placed charter store) :
    charter.Leads store
      (entries.foldl (fun store entry => store.bind scope entry.1 entry.2) store) := by
  induction entries generalizing store with
  | nil => exact .refl tidy
  | cons entry entries ih =>
    obtain ⟨first, others⟩ := List.forall_mem_cons.mp placed
    have step := tidy.bind opened entry.1 first
    apply step.trans
    apply ih step.tidy
    · simpa using opened
    · intro other inside
      exact (others other inside).mono step.grows tidy.ordered

/-- The scope that a call opens has one scope more around it than the closure's. -/
theorem openScope (tidy : store.Tidy charter) {closure : Closure}
    (placed : closure.Placed charter store) :
    charter.Leads store (store.openScope (some closure.scope)).2 := by
  cases placed with
  | @mk run scope literal known opened deep =>
    show charter.Leads store (store.openScope (some scope)).2
    have grows := store.grows_openScope (some scope)
    refine ⟨⟨tidy.ordered.openScope opened, fun id existing => ?_, fun id key other own => ?_⟩,
      grows⟩
    · rw [size_openScope] at existing
      rcases Nat.lt_or_eq_of_le (Nat.le_of_lt_succ existing) with old | rfl
      · rw [grows.surrounding_eq tidy.ordered old]
        exact tidy.room id old
      · rw [surrounding_opened tidy.ordered opened, deep]
        exact charter.opens known
    · rw [own?_openScope] at own
      exact (tidy.placed id key other own).mono grows tidy.ordered

end Store.Tidy

namespace Rules
variable {charter : Charter}

/-- What an end says of the store that it began with and of its value. -/
def End.Kept {α : Type} (charter : Charter) (placed : Store → α → Prop) (before : Store) :
    End α → Prop
  | .ok value after =>
    charter.Leads before after.machine.store ∧ placed after.machine.store value
  | .error exit after =>
    charter.Leads before after.machine.store ∧ exit.Placed charter after.machine.store

def OptionPlaced (charter : Charter) (store : Store) (found : Option Value) : Prop :=
  ∀ value ∈ found, value.Placed charter store

def AllPlaced (charter : Charter) (store : Store) (values : List Value) : Prop :=
  ∀ value ∈ values, value.Placed charter store

theorem OptionPlaced.none (store : Store) : OptionPlaced charter store .none := by
  intro value found
  cases found

theorem OptionPlaced.some {store : Store} {value : Value} (placed : value.Placed charter store) :
    OptionPlaced charter store (.some value) := by
  intro other found
  cases found
  exact placed

/-- A part without a result is worth `null`. -/
theorem OptionPlaced.getD {store : Store} {found : Option Value}
    (placed : OptionPlaced charter store found) : (found.getD .null).Placed charter store := by
  cases found with
  | none => exact .plain ValueKind.noConfusion
  | some value => exact placed value rfl

namespace End.Kept
variable {α β : Type} {placed : Store → α → Prop} {other : Store → β → Prop}
  {before middle : Store}

theorem after {ended : End α} (leads : charter.Leads before middle)
    (kept : End.Kept charter placed middle ended) : End.Kept charter placed before ended := by
  cases ended with
  | ok value last => exact ⟨leads.trans kept.1, kept.2⟩
  | error exit last => exact ⟨leads.trans kept.1, kept.2⟩

theorem map {ended : End α} {f : α → β} (kept : End.Kept charter placed before ended)
    (also : ∀ store value, before.Grows store → placed store value → other store (f value)) :
    End.Kept charter other before (ended.map f) := by
  cases ended with
  | ok value last => exact ⟨kept.1, also _ value kept.1.grows kept.2⟩
  | error exit last => exact kept

/-- An operation makes no closures. -/
theorem ofExcept {config : Config} {result : Except RunFault Value}
    (leads : charter.Leads before config.machine.store)
    (plain : ∀ value, result = .ok value → value.kind ≠ .function) :
    End.Kept charter (Value.Placed charter) before (.ofExcept config result) := by
  cases result with
  | ok value => exact ⟨leads, .plain (plain value rfl)⟩
  | error fault => exact ⟨leads, .failed fault⟩

theorem leave {ended : End (Option Value)}
    (kept : End.Kept charter (OptionPlaced charter) before ended) :
    End.Kept charter (Value.Placed charter) before ended.leave := by
  cases ended with
  | ok result last => exact ⟨kept.1, kept.2.getD⟩
  | error exit last =>
    obtain ⟨leads, placed⟩ := kept
    cases placed with
    | returned placed => exact ⟨leads, placed⟩
    | failed fault => exact ⟨leads, .failed fault⟩

end End.Kept

/-- A call takes a tidy store to a tidy store, in which the body of the closure is covered. -/
theorem enter_covers {config : Config} {closure : Closure} {arguments : List Value}
    (tidy : config.machine.store.Tidy charter)
    (placed : closure.Placed charter config.machine.store)
    (given : AllPlaced charter config.machine.store arguments) :
    charter.Leads config.machine.store (config.enter closure arguments).machine.store ∧
      charter.Covers (config.enter closure arguments).machine.store closure.run
        config.machine.store.scopes.size closure.body.literals := by
  let opened := (config.machine.store.openScope (some closure.scope)).2
  have first : charter.Leads config.machine.store opened := tidy.openScope placed
  have room : config.machine.store.scopes.size < opened.scopes.size := by simp [opened]
  have bound : charter.Leads opened (config.enter closure arguments).machine.store := by
    apply first.tidy.bindAll room (closure.parameters.zip arguments)
    intro entry inside
    exact (given entry.2 (List.of_mem_zip inside).2).mono first.grows tidy.ordered
  refine ⟨first.trans bound, ?_⟩
  apply Charter.Covers.mono bound.grows first.tidy.ordered
  refine ⟨room, ?_⟩
  cases placed with
  | @mk run scope literal known inside deep =>
    have around : opened.surrounding config.machine.store.scopes.size = literal.depth + 1 := by
      rw [← deep]
      exact Store.surrounding_opened tidy.ordered inside
    rw [around]
    exact charter.inner known

mutual

/-- Evaluation keeps a store tidy, and makes closures only of literals that are known, each in a
scope as deep as the literal lies. -/
theorem Evaluates.kept {limit run : Nat} {scope : ScopeId} {expr : Expr} {config : Config}
    {ended : End Value} (tidy : config.machine.store.Tidy charter)
    (covers : charter.Covers config.machine.store run scope expr.literals) :
    Evaluates limit run scope expr config ended →
      ended.Kept charter (Value.Placed charter) config.machine.store
  | .identifier found => ⟨.refl tidy, tidy.get found⟩
  | .unknown _ => ⟨.refl tidy, .failed _⟩
  | .integer | .float | .string | .boolean => ⟨.refl tidy, .plain ValueKind.noConfusion⟩
  | .function => ⟨.refl tidy, .function covers.closure_placed⟩
  | .unary inner => by
    have operand := inner.kept tidy (covers_unary.mp covers)
    exact .ofExcept operand.1 fun _ => UnaryOp.apply_plain
  | .unaryExit inner => inner.kept tidy (covers_unary.mp covers)
  | .binary first second => by
    rw [covers_binary] at covers
    have left := first.kept tidy covers.1
    have right := second.kept left.1.tidy (covers.2.mono left.1.grows tidy.ordered)
    exact .ofExcept (left.1.trans right.1) fun _ => BinaryOp.apply_plain
  | .leftExit first => first.kept tidy (covers_binary.mp covers).1
  | .rightExit first second => by
    rw [covers_binary] at covers
    have left := first.kept tidy covers.1
    have right := second.kept left.1.tidy (covers.2.mono left.1.grows tidy.ordered)
    exact right.after left.1
  | .holds asked truth runs => by
    rw [covers_conditional] at covers
    have first := asked.kept tidy covers.1
    have block := runs.kept first.1.tidy (covers.2.1.mono first.1.grows tidy.ordered)
    exact (block.map fun _ _ _ => OptionPlaced.getD).after first.1
  | .fails asked falsity runs => by
    rw [covers_conditional] at covers
    have first := asked.kept tidy covers.1
    have block := runs.kept first.1.tidy ((covers.2.2 _ rfl).mono first.1.grows tidy.ordered)
    exact (block.map fun _ _ _ => OptionPlaced.getD).after first.1
  | .skips asked falsity => by
    have first := asked.kept tidy (covers_conditional.mp covers).1
    exact ⟨first.1, .plain ValueKind.noConfusion⟩
  | .conditionExit asked => asked.kept tidy (covers_conditional.mp covers).1
  | .call called given applied => by
    rw [covers_call] at covers
    have first := called.kept tidy covers.1
    have others := given.kept first.1.tidy (covers.2.mono first.1.grows tidy.ordered)
    have closure := first.2.mono others.1.grows first.1.tidy.ordered
    have last := applied.kept others.1.tidy closure.of_function others.2
    exact last.after (first.1.trans others.1)
  | .builtin called given => by
    rw [covers_call] at covers
    have first := called.kept tidy covers.1
    have others := given.kept first.1.tidy (covers.2.mono first.1.grows tidy.ordered)
    exact .ofExcept (first.1.trans others.1) fun _ => Builtin.apply_plain
  | .notAFunction called given _ _ => by
    rw [covers_call] at covers
    have first := called.kept tidy covers.1
    have others := given.kept first.1.tidy (covers.2.mono first.1.grows tidy.ordered)
    exact ⟨first.1.trans others.1, .failed _⟩
  | .calleeExit called => called.kept tidy (covers_call.mp covers).1
  | .argumentsExit called given => by
    rw [covers_call] at covers
    have first := called.kept tidy covers.1
    have others := given.kept first.1.tidy (covers.2.mono first.1.grows tidy.ordered)
    exact others.after first.1

theorem EvaluatesAll.kept {limit run : Nat} {scope : ScopeId} {exprs : List Expr}
    {config : Config} {ended : End (List Value)} (tidy : config.machine.store.Tidy charter)
    (covers : charter.Covers config.machine.store run scope (Expr.allLiterals exprs)) :
    EvaluatesAll limit run scope exprs config ended →
      ended.Kept charter (AllPlaced charter) config.machine.store
  | .nil => ⟨.refl tidy, List.forall_mem_nil _⟩
  | .cons first others => by
    rw [covers_exprs] at covers
    have head := first.kept tidy covers.1
    have rest := others.kept head.1.tidy (covers.2.mono head.1.grows tidy.ordered)
    refine .after head.1 (rest.map fun store values grows placed => ?_)
    exact List.forall_mem_cons.mpr ⟨head.2.mono grows head.1.tidy.ordered, placed⟩
  | .exit first => first.kept tidy (covers_exprs.mp covers).1

theorem Executes.kept {limit run : Nat} {scope : ScopeId} {stmt : Stmt} {config : Config}
    {ended : End (Option Value)} (tidy : config.machine.store.Tidy charter)
    (covers : charter.Covers config.machine.store run scope stmt.literals) :
    Executes limit run scope stmt config ended →
      ended.Kept charter (OptionPlaced charter) config.machine.store
  | .expression inner => (inner.kept tidy covers).map fun _ _ _ => OptionPlaced.some
  | .result inner => by
    have value := inner.kept tidy covers
    exact ⟨value.1, .returned value.2⟩
  | .resultExit inner => inner.kept tidy covers
  | .binding inner => by
    have value := inner.kept tidy covers
    have opened := Nat.lt_of_lt_of_le covers.1 value.1.grows.size
    exact ⟨value.1.trans (value.1.tidy.bind opened _ value.2), OptionPlaced.none _⟩
  | .bindingExit inner => inner.kept tidy covers

theorem ExecutesAll.kept {limit run : Nat} {scope : ScopeId} {result : Option Value}
    {stmts : List Stmt} {config : Config} {ended : End (Option Value)}
    (tidy : config.machine.store.Tidy charter)
    (covers : charter.Covers config.machine.store run scope (Stmt.allLiterals stmts))
    (placed : OptionPlaced charter config.machine.store result) :
    ExecutesAll limit run scope result stmts config ended →
      ended.Kept charter (OptionPlaced charter) config.machine.store
  | .nil => ⟨.refl tidy, placed⟩
  | .cons first others => by
    rw [covers_stmts] at covers
    have head := first.kept tidy covers.1
    have rest := others.kept head.1.tidy (covers.2.mono head.1.grows tidy.ordered) head.2
    exact rest.after head.1
  | .exit first => first.kept tidy (covers_stmts.mp covers).1

theorem ExecutesBlock.kept {limit run : Nat} {scope : ScopeId} {block : Block} {config : Config}
    {ended : End (Option Value)} (tidy : config.machine.store.Tidy charter)
    (covers : charter.Covers config.machine.store run scope block.literals) :
    ExecutesBlock limit run scope block config ended →
      ended.Kept charter (OptionPlaced charter) config.machine.store
  | .mk lines => lines.kept tidy covers (OptionPlaced.none _)

theorem Applies.kept {limit : Nat} {closure : Closure} {arguments : List Value} {config : Config}
    {ended : End Value} (tidy : config.machine.store.Tidy charter)
    (placed : closure.Placed charter config.machine.store)
    (given : AllPlaced charter config.machine.store arguments) :
    Applies limit closure arguments config ended →
      ended.Kept charter (Value.Placed charter) config.machine.store
  | .arity _ => ⟨.refl tidy, .failed _⟩
  | .deep _ _ => ⟨.refl tidy, .failed _⟩
  | .body _ _ runs => by
    obtain ⟨leads, covers⟩ := enter_covers tidy placed given
    exact ((runs.kept leads.tidy covers).after leads).leave

end

/-- What a task is covered by: its part, or the closure that it applies. -/
def Work.Covered (charter : Charter) (store : Store) : Work → Prop
  | expr run scope part => charter.Covers store run scope part.literals
  | exprs run scope parts => charter.Covers store run scope (Expr.allLiterals parts)
  | stmt run scope part => charter.Covers store run scope part.literals
  | stmts run scope result parts =>
    charter.Covers store run scope (Stmt.allLiterals parts) ∧ OptionPlaced charter store result
  | block run scope part => charter.Covers store run scope part.literals
  | application closure arguments =>
    closure.Placed charter store ∧ AllPlaced charter store arguments

structure Task.Covered (charter : Charter) (task : Task) : Prop where
  tidy : task.config.machine.store.Tidy charter
  work : task.work.Covered charter task.config.machine.store

/-- What a covered task needs is covered, and starts from a store that has only grown. -/
theorem Needs.kept {limit : Nat} {task sub : Task} (needs : Needs limit task sub)
    (covered : task.Covered charter) :
    sub.Covered charter ∧ task.config.machine.store.Grows sub.config.machine.store := by
  obtain ⟨tidy, covers⟩ := covered
  cases needs with
  | operand => exact ⟨⟨tidy, covers_unary.mp covers⟩, .refl _⟩
  | left => exact ⟨⟨tidy, (covers_binary.mp covers).1⟩, .refl _⟩
  | right first =>
    rw [Work.Covered, covers_binary] at covers
    have left := first.kept tidy covers.1
    exact ⟨⟨left.1.tidy, covers.2.mono left.1.grows tidy.ordered⟩, left.1.grows⟩
  | condition => exact ⟨⟨tidy, (covers_conditional.mp covers).1⟩, .refl _⟩
  | consequence asked truth =>
    rw [Work.Covered, covers_conditional] at covers
    have first := asked.kept tidy covers.1
    exact ⟨⟨first.1.tidy, covers.2.1.mono first.1.grows tidy.ordered⟩, first.1.grows⟩
  | alternative asked falsity =>
    rw [Work.Covered, covers_conditional] at covers
    have first := asked.kept tidy covers.1
    exact ⟨⟨first.1.tidy, (covers.2.2 _ rfl).mono first.1.grows tidy.ordered⟩, first.1.grows⟩
  | callee => exact ⟨⟨tidy, (covers_call.mp covers).1⟩, .refl _⟩
  | arguments called =>
    rw [Work.Covered, covers_call] at covers
    have first := called.kept tidy covers.1
    exact ⟨⟨first.1.tidy, covers.2.mono first.1.grows tidy.ordered⟩, first.1.grows⟩
  | application called given =>
    rw [Work.Covered, covers_call] at covers
    have first := called.kept tidy covers.1
    have others := given.kept first.1.tidy (covers.2.mono first.1.grows tidy.ordered)
    have closure := first.2.mono others.1.grows first.1.tidy.ordered
    exact ⟨⟨others.1.tidy, closure.of_function, others.2⟩, first.1.grows.trans others.1.grows⟩
  | first => exact ⟨⟨tidy, (covers_exprs.mp covers).1⟩, .refl _⟩
  | others first =>
    rw [Work.Covered, covers_exprs] at covers
    have head := first.kept tidy covers.1
    exact ⟨⟨head.1.tidy, covers.2.mono head.1.grows tidy.ordered⟩, head.1.grows⟩
  | alone | returned | bound => exact ⟨⟨tidy, covers⟩, .refl _⟩
  | line => exact ⟨⟨tidy, (covers_stmts.mp covers.1).1⟩, .refl _⟩
  | laterLines first =>
    have parts := covers_stmts.mp covers.1
    have head := first.kept tidy parts.1
    exact ⟨⟨head.1.tidy, parts.2.mono head.1.grows tidy.ordered, head.2⟩, head.1.grows⟩
  | lines => exact ⟨⟨tidy, covers, OptionPlaced.none _⟩, .refl _⟩
  | body fits room =>
    obtain ⟨leads, inside⟩ := enter_covers tidy covers.1 covers.2
    exact ⟨⟨leads.tidy, inside⟩, leads.grows⟩

theorem Reaches.kept {limit : Nat} {task sub : Task} (reaches : Reaches limit task sub)
    (covered : task.Covered charter) :
    sub.Covered charter ∧ task.config.machine.store.Grows sub.config.machine.store := by
  induction reaches with
  | refl => exact ⟨covered, .refl _⟩
  | tail _ needs ih =>
    have step := needs.kept ih.1
    exact ⟨step.1, ih.2.trans step.2⟩

/-- Whatever comes up in the course of a covered task is covered. -/
theorem Reaches.covered {limit : Nat} {task sub : Task} (reaches : Reaches limit task sub)
    (covered : task.Covered charter) : sub.Covered charter :=
  (reaches.kept covered).1

end Rules

/-- A covered program leads to a tidy store, in which its result is placed. -/
theorem Program.run_leads {charter : Charter} {scope : ScopeId} {program : Program}
    {machine : Machine} (covered : (program.task scope machine).Covered charter) (limit : Nat) :
    charter.Leads machine.store (program.run limit scope machine).2.store ∧
      ∀ value ∈ (program.run limit scope machine).1.toOption.join,
        value.Placed charter (program.run limit scope machine).2.store := by
  obtain ⟨ended, derived, ran⟩ := Rules.run_derived limit scope program machine
  have kept := derived.kept covered.tidy covered.work.1 covered.work.2
  rw [ran]
  cases ended with
  | ok result after => exact kept
  | error exit after =>
    obtain ⟨leads, placed⟩ := kept
    cases placed with
    | returned placed => exact ⟨leads, Rules.OptionPlaced.some placed⟩
    | failed fault => exact ⟨leads, Rules.OptionPlaced.none _⟩

end Polyglot
