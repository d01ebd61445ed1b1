import Polyglot.Proofs.Computation
import Polyglot.Run.Evaluate

/-! Evaluation by rules. A rule says what a part of a program comes to once its own parts have come
to something; nothing bounds how deep rules may be stacked. The calls that are going on are counted
by hand: one more before a body runs, one less when it has ended, however it has ended. Main
statement: for every part the rules derive exactly one end, the one that evaluation computes, and the
count is then what it was at the start. -/
namespace Polyglot.Rules

/-- A machine, and the number of calls that are going on. -/
structure Config where
  machine : Machine
  depth : Nat

/-- How a part of a program ends: with a value, or before its end. -/
abbrev End (α : Type) := EStateM.Result Exit Config α

namespace Config

def noting (event : Event) (config : Config) : Config :=
  { config with machine := { config.machine with noted := event :: config.machine.noted } }

def binding (scope : ScopeId) (name : String) (value : Value) (config : Config) : Config :=
  { config with
    machine := { config.machine with store := config.machine.store.bind scope name value } }

/-- Where the body of a closure begins, in a scope of its own that binds the parameters. -/
def enter (closure : Closure) (arguments : List Value) (config : Config) : Config :=
  let (id, opened) := config.machine.store.openScope (some closure.scope)
  let store := (closure.parameters.zip arguments).foldl
    (fun store entry => store.bind id entry.1 entry.2) opened
  let depth := config.depth + 1
  noting (.applying depth closure.parameters.length)
    { machine := { config.machine with store }, depth }

def leave (config : Config) : Config :=
  { config with depth := config.depth - 1 }

end Config

namespace End
variable {α β : Type}

def map (f : α → β) : End α → End β
  | .ok value config => .ok (f value) config
  | .error exit config => .error exit config

def ofExcept (config : Config) : Except RunFault α → End α
  | .ok value => .ok value config
  | .error fault => .error (.failed fault) config

/-- The end of a call whose body ends like this. -/
def leave : End (Option Value) → End Value
  | .ok result config => .ok (result.getD .null) config.leave
  | .error (.returned value) config => .ok value config.leave
  | .error (.failed fault) config => .error (.failed fault) config.leave

/-- How a run ends whose statements end like this. -/
def outcome : End (Option Value) → Except RunFault (Option Value) × Machine
  | .ok result config => (.ok result, config.machine)
  | .error (.returned value) config => (.ok (some value), config.machine)
  | .error (.failed fault) config => (.error fault, config.machine)

/-- The end of an evaluation that began with this many calls going on. -/
def of (depth : Nat) : EStateM.Result Exit Machine α → End α
  | .ok value machine => .ok value ⟨machine, depth⟩
  | .error exit machine => .error exit ⟨machine, depth⟩

end End

mutual

/-- An expression that is evaluated in a scope by the run of that number. -/
inductive Evaluates (limit : Nat) : Nat → ScopeId → Expr → Config → End Value → Prop
  | identifier {run scope token config value}
      (found : config.machine.store.get? token.literal scope = some value) :
      Evaluates limit run scope (.identifier token) config (.ok value config)
  | unknown {run scope token config}
      (absent : config.machine.store.get? token.literal scope = none) :
      Evaluates limit run scope (.identifier token) config
        (.error (.failed (.unknownIdentifier token.literal)) config)
  | integer {run scope token value config} :
      Evaluates limit run scope (.integer token value) config (.ok (.integer value) config)
  | float {run scope token value config} :
      Evaluates limit run scope (.float token value) config (.ok (.float value) config)
  | string {run scope token config} :
      Evaluates limit run scope (.string token) config (.ok (.string token.literal) config)
  | boolean {run scope token value config} :
      Evaluates limit run scope (.boolean token value) config (.ok (.boolean value) config)
  | function {run scope token parameters body config} :
      Evaluates limit run scope (.function token parameters body) config
        (.ok (.function ⟨parameters.map Token.literal, body, scope, run⟩) config)
  | unary {run scope token op operand config value after}
      (inner : Evaluates limit run scope operand config (.ok value after)) :
      Evaluates limit run scope (.unary token op operand) config (.ofExcept after (op.apply value))
  | unaryExit {run scope token op operand config exit after}
      (inner : Evaluates limit run scope operand config (.error exit after)) :
      Evaluates limit run scope (.unary token op operand) config (.error exit after)
  | binary {run scope token op left right config a middle b after}
      (first : Evaluates limit run scope left config (.ok a middle))
      (second : Evaluates limit run scope right middle (.ok b after)) :
      Evaluates limit run scope (.binary token op left right) config
        (.ofExcept after (op.apply a b))
  | leftExit {run scope token op left right config exit after}
      (first : Evaluates limit run scope left config (.error exit after)) :
      Evaluates limit run scope (.binary token op left right) config (.error exit after)
  | rightExit {run scope token op left right config a middle exit after}
      (first : Evaluates limit run scope left config (.ok a middle))
      (second : Evaluates limit run scope right middle (.error exit after)) :
      Evaluates limit run scope (.binary token op left right) config (.error exit after)
  | holds {run scope token condition consequence alternative config value middle ended}
      (asked : Evaluates limit run scope condition config (.ok value middle))
      (truth : value.truthy = true) (runs : ExecutesBlock limit run scope consequence middle ended) :
      Evaluates limit run scope (.conditional token condition consequence alternative) config
        (ended.map (·.getD .null))
  | fails {run scope token condition consequence alternative config value middle ended}
      (asked : Evaluates limit run scope condition config (.ok value middle))
      (falsity : value.truthy = false)
      (runs : ExecutesBlock limit run scope alternative middle ended) :
      Evaluates limit run scope (.conditional token condition consequence (some alternative)) config
        (ended.map (·.getD .null))
  | skips {run scope token condition consequence config value middle}
      (asked : Evaluates limit run scope condition config (.ok value middle))
      (falsity : value.truthy = false) :
      Evaluates limit run scope (.conditional token condition consequence none) config
        (.ok .null middle)
  | conditionExit {run scope token condition consequence alternative config exit after}
      (asked : Evaluates limit run scope condition config (.error exit after)) :
      Evaluates limit run scope (.conditional token condition consequence alternative) config
        (.error exit after)
  | call {run scope token callee arguments config closure middle values after ended}
      (called : Evaluates limit run scope callee config (.ok (.function closure) middle))
      (given : EvaluatesAll limit run scope arguments middle (.ok values after))
      (applied : Applies limit closure values after ended) :
      Evaluates limit run scope (.call token callee arguments) config ended
  | builtin {run scope token callee arguments config builtin middle values after}
      (called : Evaluates limit run scope callee config (.ok (.builtin builtin) middle))
      (given : EvaluatesAll limit run scope arguments middle (.ok values after)) :
      Evaluates limit run scope (.call token callee arguments) config
        (.ofExcept after (builtin.apply values))
  | notAFunction {run scope token callee arguments config value middle values after}
      (called : Evaluates limit run scope callee config (.ok value middle))
      (given : EvaluatesAll limit run scope arguments middle (.ok values after))
      (other : value.kind ≠ .function) (plain : value.kind ≠ .builtin) :
      Evaluates limit run scope (.call token callee arguments) config
        (.error (.failed (.notAFunction value.kind)) after)
  | calleeExit {run scope token callee arguments config exit after}
      (called : Evaluates limit run scope callee config (.error exit after)) :
      Evaluates limit run scope (.call token callee arguments) config (.error exit after)
  | argumentsExit {run scope token callee arguments config value middle exit after}
      (called : Evaluates limit run scope callee config (.ok value middle))
      (given : EvaluatesAll limit run scope arguments middle (.error exit after)) :
      Evaluates limit run scope (.call token callee arguments) config (.error exit after)

/-- Expressions from left to right. -/
inductive EvaluatesAll (limit : Nat) :
    Nat → ScopeId → List Expr → Config → End (List Value) → Prop
  | nil {run scope config} : EvaluatesAll limit run scope [] config (.ok [] config)
  | cons {run scope expr rest config value middle ended}
      (first : Evaluates limit run scope expr config (.ok value middle))
      (others : EvaluatesAll limit run scope rest middle ended) :
      EvaluatesAll limit run scope (expr :: rest) config (ended.map (value :: ·))
  | exit {run scope expr rest config exit after}
      (first : Evaluates limit run scope expr config (.error exit after)) :
      EvaluatesAll limit run scope (expr :: rest) config (.error exit after)

inductive Executes (limit : Nat) :
    Nat → ScopeId → Stmt → Config → End (Option Value) → Prop
  | expression {run scope token value config ended}
      (inner : Evaluates limit run scope value config ended) :
      Executes limit run scope (.expression token value) config (ended.map some)
  | result {run scope token value config result after}
      (inner : Evaluates limit run scope value config (.ok result after)) :
      Executes limit run scope (.result token value) config (.error (.returned result) after)
  | resultExit {run scope token value config exit after}
      (inner : Evaluates limit run scope value config (.error exit after)) :
      Executes limit run scope (.result token value) config (.error exit after)
  | binding {run scope token name value config result after}
      (inner : Evaluates limit run scope value config (.ok result after)) :
      Executes limit run scope (.binding token name value) config
        (.ok none (after.binding scope name.literal result))
  | bindingExit {run scope token name value config exit after}
      (inner : Evaluates limit run scope value config (.error exit after)) :
      Executes limit run scope (.binding token name value) config (.error exit after)

/-- Statements one after another, with the result of those before. -/
inductive ExecutesAll (limit : Nat) :
    Nat → ScopeId → Option Value → List Stmt → Config → End (Option Value) → Prop
  | nil {run scope result config} :
      ExecutesAll limit run scope result [] config (.ok result config)
  | cons {run scope result stmt rest config found middle ended}
      (first : Executes limit run scope stmt config (.ok found middle))
      (others : ExecutesAll limit run scope found rest middle ended) :
      ExecutesAll limit run scope result (stmt :: rest) config ended
  | exit {run scope result stmt rest config exit after}
      (first : Executes limit run scope stmt config (.error exit after)) :
      ExecutesAll limit run scope result (stmt :: rest) config (.error exit after)

inductive ExecutesBlock (limit : Nat) :
    Nat → ScopeId → Block → Config → End (Option Value) → Prop
  | mk {run scope token statements config ended}
      (lines : ExecutesAll limit run scope none statements config ended) :
      ExecutesBlock limit run scope (.mk token statements) config ended

/-- A closure that is applied. The number of arguments is looked at first, then the number of calls
that are going on. -/
inductive Applies (limit : Nat) : Closure → List Value → Config → End Value → Prop
  | arity {closure arguments config} (differs : closure.parameters.length ≠ arguments.length) :
      Applies limit closure arguments config
        (.error (.failed (.argumentCount closure.parameters.length arguments.length)) config)
  | deep {closure arguments config} (fits : closure.parameters.length = arguments.length)
      (reached : limit ≤ config.depth) :
      Applies limit closure arguments config
        (.error (.failed (.callDepth limit)) (config.noting (.callDepthReached limit)))
  | body {closure arguments config ended} (fits : closure.parameters.length = arguments.length)
      (room : config.depth < limit)
      (runs : ExecutesBlock limit closure.run config.machine.store.scopes.size closure.body
        (config.enter closure arguments) ended) :
      Applies limit closure arguments config ended.leave

end

/-- The surroundings of a part while this many calls are going on. -/
def around (limit run : Nat) (scope : ScopeId) (depth : Nat) : Context :=
  ⟨Closure.applyWithin limit (limit - depth), run, scope⟩

/-- The end is the one that a computation comes to, with the count as it was at the start. -/
def Computes {α : Type} (part : Nat → Eval α) (config : Config) (ended : End α) : Prop :=
  ended = .of config.depth ((part config.depth).run config.machine)

section
variable {α β : Type}

theorem computes_ok_iff {part : Nat → Eval α} {config after : Config} {value : α} :
    Computes part config (.ok value after) ↔
      (part config.depth).run config.machine = .ok value after.machine ∧
        after.depth = config.depth := by
  unfold Computes
  cases (part config.depth).run config.machine with
  | ok result machine =>
    obtain ⟨last, depth⟩ := after
    rw [End.of, EStateM.Result.ok.injEq, EStateM.Result.ok.injEq, Config.mk.injEq, eq_comm,
      @eq_comm _ last, and_assoc]
  | error exit machine => simp [End.of]

theorem computes_error_iff {part : Nat → Eval α} {config after : Config} {exit : Exit} :
    Computes part config (.error exit after) ↔
      (part config.depth).run config.machine = .error exit after.machine ∧
        after.depth = config.depth := by
  unfold Computes
  cases (part config.depth).run config.machine with
  | error result machine =>
    obtain ⟨last, depth⟩ := after
    rw [End.of, EStateM.Result.error.injEq, EStateM.Result.error.injEq, Config.mk.injEq, eq_comm,
      @eq_comm _ last, and_assoc]
  | ok value machine => simp [End.of]

namespace Computes
variable {config after : Config} {part : Nat → Eval α} {next : α → Nat → Eval β} {value : α}

/-- After a part has ended, as many calls are going on as before. -/
theorem balanced {ended : End α} (computes : Computes part config ended) :
    (endState ended).depth = config.depth := by
  cases ended with
  | ok value after => exact (computes_ok_iff.mp computes).2
  | error exit after => exact (computes_error_iff.mp computes).2

theorem pure (value : α) (config : Config) :
    Computes (fun _ => Pure.pure value) config (.ok value config) :=
  rfl

theorem throw (exit : Exit) (config : Config) :
    Computes (fun _ => MonadExcept.throw exit : Nat → Eval α) config (.error exit config) :=
  rfl

theorem ofExcept (result : Except RunFault α) (config : Config) :
    Computes (fun _ => Eval.ofExcept result) config (.ofExcept config result) := by
  cases result <;> rfl

theorem bind {ended : End β} (first : Computes part config (.ok value after))
    (second : Computes (next value) after ended) :
    Computes (fun depth => part depth >>= fun value => next value depth) config ended := by
  obtain ⟨ran, count⟩ := computes_ok_iff.mp first
  unfold Computes at second ⊢
  rw [bind_ok ran, second, count]

theorem exit {exit : Exit} (first : Computes part config (.error exit after)) :
    Computes (fun depth => part depth >>= fun value => next value depth) config
      (.error exit after) := by
  obtain ⟨ran, count⟩ := computes_error_iff.mp first
  exact computes_error_iff.mpr ⟨bind_error ran, count⟩

theorem map {ended : End α} (f : α → β) (first : Computes part config ended) :
    Computes (fun depth => do return f (← part depth)) config (ended.map f) := by
  cases ended with
  | ok value after => exact first.bind (pure (f value) after)
  | error exit after => exact first.exit

end Computes

end

theorem get_known {machine : Machine} {name : String} {scope : ScopeId} {value : Value}
    (found : machine.store.get? name scope = some value) :
    (Eval.get scope name).run machine = .ok value machine := by
  have looked : (getThe Machine : Eval Machine).run machine = .ok machine machine := rfl
  rw [Eval.get, bind_ok looked, found]
  rfl

theorem get_unknown {machine : Machine} {name : String} {scope : ScopeId}
    (absent : machine.store.get? name scope = none) :
    (Eval.get scope name).run machine = .error (.failed (.unknownIdentifier name)) machine := by
  have looked : (getThe Machine : Eval Machine).run machine = .ok machine machine := rfl
  rw [Eval.get, bind_ok looked, absent]
  rfl

section
variable {limit : Nat} {closure : Closure} {arguments : List Value}

theorem checkArity_fits (fits : closure.parameters.length = arguments.length) (machine : Machine) :
    (closure.checkArity arguments).run machine = .ok () machine := by
  rw [Closure.checkArity, if_neg (by simpa using fits)]
  rfl

theorem checkArity_differs (differs : closure.parameters.length ≠ arguments.length)
    (machine : Machine) : (closure.checkArity arguments).run machine =
      .error (.failed (.argumentCount closure.parameters.length arguments.length)) machine := by
  rw [Closure.checkArity, if_pos differs]
  rfl

theorem bindAll_run (scope : ScopeId) (entries : List (String × Value)) (machine : Machine) :
    (Closure.bindAll scope entries).run machine = .ok () { machine with
      store := entries.foldl (fun store entry => store.bind scope entry.1 entry.2)
        machine.store } := by
  induction entries generalizing machine with
  | nil => rfl
  | cons entry rest ih =>
    have bound : (Eval.bind scope entry.1 entry.2).run machine =
      .ok () { machine with store := machine.store.bind scope entry.1 entry.2 } := rfl
    rw [Closure.bindAll, bind_ok bound, ih, List.foldl_cons]

theorem applyWithin_differs (differs : closure.parameters.length ≠ arguments.length)
    (remaining : Nat) (machine : Machine) :
    (closure.applyWithin limit remaining arguments).run machine =
      .error (.failed (.argumentCount closure.parameters.length arguments.length)) machine := by
  cases remaining with
  | zero => exact bind_error (checkArity_differs differs machine)
  | succ remaining => exact bind_error (checkArity_differs differs machine)

theorem applyWithin_zero (fits : closure.parameters.length = arguments.length)
    (machine : Machine) : (closure.applyWithin limit 0 arguments).run machine =
      .error (.failed (.callDepth limit))
        { machine with noted := .callDepthReached limit :: machine.noted } := by
  rw [Closure.applyWithin, bind_ok (checkArity_fits fits machine)]
  rfl

theorem applyWithin_body (fits : closure.parameters.length = arguments.length) {config : Config}
    (room : config.depth < limit) :
    (closure.applyWithin limit (limit - config.depth) arguments).run config.machine =
      (Eval.bodyValue (closure.body.eval (around limit closure.run
        config.machine.store.scopes.size (config.depth + 1)))).run
        (config.enter closure arguments).machine := by
  obtain ⟨remaining, more⟩ : ∃ remaining, limit - config.depth = remaining + 1 :=
    ⟨limit - config.depth - 1, by omega⟩
  have left : limit - (config.depth + 1) = remaining := by omega
  have depth : limit - remaining = config.depth + 1 := by omega
  rw [more, Closure.applyWithin, bind_ok (checkArity_fits fits config.machine)]
  have opened : (Eval.enclose closure.scope).run config.machine =
      .ok config.machine.store.scopes.size { config.machine with
        store := (config.machine.store.openScope (some closure.scope)).2 } := rfl
  rw [bind_ok opened, bind_ok (bindAll_run _ _ _)]
  simp only [around, left, depth]
  rfl

theorem Computes.body {config : Config} {ended : End (Option Value)}
    (fits : closure.parameters.length = arguments.length) (room : config.depth < limit)
    (runs : Computes (fun depth => closure.body.eval (around limit closure.run
      config.machine.store.scopes.size depth)) (config.enter closure arguments) ended) :
    Computes (fun depth => closure.applyWithin limit (limit - depth) arguments) config
      ended.leave := by
  have count : (config.enter closure arguments).depth = config.depth + 1 := rfl
  unfold Computes at runs ⊢
  rw [count] at runs
  dsimp only at runs ⊢
  rw [applyWithin_body fits room, runs]
  show _ = End.of config.depth (Eval.bodyValue _ _)
  unfold Eval.bodyValue
  generalize EStateM.run _ _ = result
  cases result with
  | ok value machine => rfl
  | error exit machine => cases exit <;> rfl

end

mutual

theorem Evaluates.computes {limit run : Nat} {scope : ScopeId} {expr : Expr} {config : Config}
    {ended : End Value} : Evaluates limit run scope expr config ended →
      Computes (fun depth => expr.eval (around limit run scope depth)) config ended
  | .identifier found => by
    simp only [Expr.eval]
    exact computes_ok_iff.mpr ⟨get_known found, rfl⟩
  | .unknown absent => by
    simp only [Expr.eval]
    exact computes_error_iff.mpr ⟨get_unknown absent, rfl⟩
  | .integer | .float | .string | .boolean | .function => by
    simp only [Expr.eval]
    exact .pure _ _
  | .unary inner => by
    simp only [Expr.eval]
    exact inner.computes.bind (.ofExcept _ _)
  | .unaryExit inner => by
    simp only [Expr.eval]
    exact inner.computes.exit
  | .binary first second => by
    simp only [Expr.eval]
    exact first.computes.bind (second.computes.bind (.ofExcept _ _))
  | .leftExit first => by
    simp only [Expr.eval]
    exact first.computes.exit
  | .rightExit first second => by
    simp only [Expr.eval]
    exact first.computes.bind second.computes.exit
  | @Evaluates.holds _ _ _ _ _ _ alternative _ _ _ _ asked truth runs => by
    cases alternative <;>
    · simp only [Expr.eval]
      refine asked.computes.bind ?_
      simp only [truth, if_true]
      exact runs.computes.map _
  | .fails asked falsity runs => by
    simp only [Expr.eval]
    refine asked.computes.bind ?_
    simp only [falsity, Bool.false_eq_true, if_false]
    exact runs.computes.map _
  | .skips asked falsity => by
    simp only [Expr.eval]
    refine asked.computes.bind ?_
    simp only [falsity, Bool.false_eq_true, if_false]
    exact .pure _ _
  | @Evaluates.conditionExit _ _ _ _ _ _ alternative _ _ _ asked => by
    cases alternative <;>
    · simp only [Expr.eval]
      exact asked.computes.exit
  | .call called given applied => by
    simp only [Expr.eval]
    exact called.computes.bind (given.computes.bind applied.computes)
  | .builtin called given => by
    simp only [Expr.eval]
    exact called.computes.bind (given.computes.bind (.ofExcept _ _))
  | @Evaluates.notAFunction _ _ _ _ _ _ _ value _ _ _ called given other plain => by
    simp only [Expr.eval]
    refine called.computes.bind (given.computes.bind ?_)
    cases value with
    | function => exact absurd rfl other
    | builtin => exact absurd rfl plain
    | _ => exact .throw _ _
  | .calleeExit called => by
    simp only [Expr.eval]
    exact called.computes.exit
  | .argumentsExit called given => by
    simp only [Expr.eval]
    exact called.computes.bind given.computes.exit

theorem EvaluatesAll.computes {limit run : Nat} {scope : ScopeId} {exprs : List Expr}
    {config : Config} {ended : End (List Value)} :
    EvaluatesAll limit run scope exprs config ended →
      Computes (fun depth => Expr.evalAll (around limit run scope depth) exprs) config ended
  | .nil => by
    simp only [Expr.evalAll]
    exact .pure _ _
  | .cons first others => by
    simp only [Expr.evalAll]
    exact first.computes.bind (others.computes.map _)
  | .exit first => by
    simp only [Expr.evalAll]
    exact first.computes.exit

theorem Executes.computes {limit run : Nat} {scope : ScopeId} {stmt : Stmt} {config : Config}
    {ended : End (Option Value)} : Executes limit run scope stmt config ended →
      Computes (fun depth => stmt.eval (around limit run scope depth)) config ended
  | .expression inner => by
    simp only [Stmt.eval]
    exact inner.computes.map _
  | .result inner => by
    simp only [Stmt.eval]
    exact inner.computes.bind (.throw _ _)
  | .resultExit inner => by
    simp only [Stmt.eval]
    exact inner.computes.exit
  | .binding inner => by
    simp only [Stmt.eval]
    exact inner.computes.bind rfl
  | .bindingExit inner => by
    simp only [Stmt.eval]
    exact inner.computes.exit

theorem ExecutesAll.computes {limit run : Nat} {scope : ScopeId} {result : Option Value}
    {stmts : List Stmt} {config : Config} {ended : End (Option Value)} :
    ExecutesAll limit run scope result stmts config ended →
      Computes (fun depth => Stmt.evalAll (around limit run scope depth) result stmts) config ended
  | .nil => by
    simp only [Stmt.evalAll]
    exact .pure _ _
  | .cons first others => by
    simp only [Stmt.evalAll]
    exact first.computes.bind others.computes
  | .exit first => by
    simp only [Stmt.evalAll]
    exact first.computes.exit

theorem ExecutesBlock.computes {limit run : Nat} {scope : ScopeId} {block : Block}
    {config : Config} {ended : End (Option Value)} :
    ExecutesBlock limit run scope block config ended →
      Computes (fun depth => block.eval (around limit run scope depth)) config ended
  | .mk lines => by
    simp only [Block.eval]
    exact lines.computes

theorem Applies.computes {limit : Nat} {closure : Closure} {arguments : List Value}
    {config : Config} {ended : End Value} : Applies limit closure arguments config ended →
      Computes (fun depth => closure.applyWithin limit (limit - depth) arguments) config ended
  | .arity differs => computes_error_iff.mpr ⟨applyWithin_differs differs _ _, rfl⟩
  | .deep fits reached => by
    refine computes_error_iff.mpr ⟨?_, rfl⟩
    rw [Nat.sub_eq_zero_of_le reached]
    exact applyWithin_zero fits _
  | .body fits room runs => runs.computes.body fits room

end

section
variable {α β : Type}

theorem of_ofExcept (depth : Nat) (result : Except RunFault α) (machine : Machine) :
    End.of depth ((Eval.ofExcept result).run machine) = .ofExcept ⟨machine, depth⟩ result := by
  cases result <;> rfl

theorem of_map (depth : Nat) (f : α → β) (part : Eval α) (machine : Machine) :
    End.of depth ((do return f (← part)).run machine) =
      (End.of depth (part.run machine)).map f := by
  cases ran : part.run machine with
  | ok value after =>
    rw [bind_ok ran]
    rfl
  | error exit after =>
    rw [bind_error ran]
    rfl

/-- What can be said of the end of two parts in a row: an exit of the first one is the end. -/
theorem of_bind {depth : Nat} {first : End α → Prop} {whole : End β → Prop} {part : Eval α}
    {next : α → Eval β} {machine : Machine} (begun : first (.of depth (part.run machine)))
    (exits : ∀ {exit after}, first (.error exit after) → whole (.error exit after))
    (goes_on : ∀ {value middle}, first (.ok value ⟨middle, depth⟩) →
      whole (.of depth ((next value).run middle))) :
    whole (.of depth ((part >>= next).run machine)) := by
  cases ran : part.run machine with
  | ok value middle =>
    rw [ran] at begun
    rw [bind_ok ran]
    exact goes_on begun
  | error exit after =>
    rw [ran] at begun
    rw [bind_error ran]
    exact exits begun

end

/-- While this many calls are going on, closures are applied by the rules as a computation applies
them. -/
def Follows (limit depth : Nat) : Prop :=
  ∀ closure arguments machine, Applies limit closure arguments ⟨machine, depth⟩
    (.of depth ((closure.applyWithin limit (limit - depth) arguments).run machine))

section
variable {limit depth run : Nat} {scope : ScopeId}

mutual

theorem evaluates_of (applies : Follows limit depth) : (expr : Expr) → (machine : Machine) →
    Evaluates limit run scope expr ⟨machine, depth⟩
      (.of depth ((expr.eval (around limit run scope depth)).run machine))
  | .identifier token, machine => by
    rw [Expr.eval]
    cases found : machine.store.get? token.literal scope with
    | some value =>
      rw [show (around limit run scope depth).scope = scope from rfl, get_known found]
      exact .identifier found
    | none =>
      rw [show (around limit run scope depth).scope = scope from rfl, get_unknown found]
      exact .unknown found
  | .integer _ _, _ => .integer
  | .float _ _, _ => .float
  | .string _, _ => .string
  | .boolean _ _, _ => .boolean
  | .function _ _ _, _ => .function
  | .unary _ op operand, machine => by
    rw [Expr.eval]
    refine of_bind (evaluates_of applies operand machine) .unaryExit fun inner => ?_
    rw [of_ofExcept]
    exact .unary inner
  | .binary _ op left right, machine => by
    rw [Expr.eval]
    refine of_bind (evaluates_of applies left machine) .leftExit fun first => ?_
    refine of_bind (evaluates_of applies right _) (.rightExit first) fun second => ?_
    rw [of_ofExcept]
    exact .binary first second
  | .conditional _ condition consequence none, machine => by
    rw [Expr.eval]
    refine of_bind (evaluates_of applies condition machine) .conditionExit fun asked => ?_
    split
    · rename_i truth
      rw [of_map]
      exact .holds asked truth (executesBlock_of applies consequence _)
    · rename_i falsity
      exact .skips asked (by simpa using falsity)
  | .conditional _ condition consequence (some alternative), machine => by
    rw [Expr.eval]
    refine of_bind (evaluates_of applies condition machine) .conditionExit fun asked => ?_
    split
    · rename_i truth
      rw [of_map]
      exact .holds asked truth (executesBlock_of applies consequence _)
    · rename_i falsity
      rw [of_map]
      exact .fails asked (by simpa using falsity) (executesBlock_of applies alternative _)
  | .call _ callee arguments, machine => by
    rw [Expr.eval]
    refine of_bind (evaluates_of applies callee machine) .calleeExit fun {value middle} called => ?_
    refine of_bind (evaluatesAll_of applies arguments _) (.argumentsExit called) fun given => ?_
    cases value with
    | function closure => exact .call called given (applies closure _ _)
    | builtin builtin =>
      rw [of_ofExcept]
      exact .builtin called given
    | _ => exact .notAFunction called given ValueKind.noConfusion ValueKind.noConfusion

theorem evaluatesAll_of (applies : Follows limit depth) : (exprs : List Expr) → (machine : Machine) →
    EvaluatesAll limit run scope exprs ⟨machine, depth⟩
      (.of depth ((Expr.evalAll (around limit run scope depth) exprs).run machine))
  | [], _ => .nil
  | expr :: rest, machine => by
    rw [Expr.evalAll]
    refine of_bind (evaluates_of applies expr machine) .exit fun first => ?_
    rw [of_map]
    exact .cons first (evaluatesAll_of applies rest _)

theorem executes_of (applies : Follows limit depth) : (stmt : Stmt) → (machine : Machine) →
    Executes limit run scope stmt ⟨machine, depth⟩
      (.of depth ((stmt.eval (around limit run scope depth)).run machine))
  | .expression _ value, machine => by
    rw [Stmt.eval, of_map]
    exact .expression (evaluates_of applies value machine)
  | .result _ value, machine => by
    rw [Stmt.eval]
    exact of_bind (evaluates_of applies value machine) .resultExit .result
  | .binding _ name value, machine => by
    rw [Stmt.eval]
    exact of_bind (evaluates_of applies value machine) .bindingExit .binding

theorem executesAll_of (applies : Follows limit depth) : (stmts : List Stmt) →
    (result : Option Value) → (machine : Machine) →
    ExecutesAll limit run scope result stmts ⟨machine, depth⟩
      (.of depth ((Stmt.evalAll (around limit run scope depth) result stmts).run machine))
  | [], _, _ => .nil
  | stmt :: rest, _, machine => by
    rw [Stmt.evalAll]
    exact of_bind (executes_of applies stmt machine) .exit
      fun first => .cons first (executesAll_of applies rest _ _)

theorem executesBlock_of (applies : Follows limit depth) : (block : Block) → (machine : Machine) →
    ExecutesBlock limit run scope block ⟨machine, depth⟩
      (.of depth ((block.eval (around limit run scope depth)).run machine))
  | .mk _ statements, machine => by
    rw [Block.eval]
    exact .mk (executesAll_of applies statements none machine)

end

end

/-- The rules apply closures as a computation does. The induction is on the calls that are still
allowed; the syntax of a body is taken apart inside it. -/
theorem follows (limit depth : Nat) : Follows limit depth := by
  induction left : limit - depth generalizing depth with
  | zero =>
    intro closure arguments machine
    by_cases fits : closure.parameters.length = arguments.length
    · rw [left, applyWithin_zero fits]
      exact .deep fits (Nat.le_of_sub_eq_zero left)
    · rw [applyWithin_differs fits]
      exact .arity fits
  | succ remaining ih =>
    intro closure arguments machine
    by_cases fits : closure.parameters.length = arguments.length
    · have room : depth < limit := by omega
      have inside : Follows limit (depth + 1) := ih (depth + 1) (by omega)
      have applied : Applies limit closure arguments ⟨machine, depth⟩ _ :=
        .body fits room (executesBlock_of inside closure.body _)
      have computed : End.leave _ = End.of depth _ := applied.computes
      rw [← computed]
      exact applied
    · rw [applyWithin_differs fits]
      exact .arity fits

/-- The rules derive one end for an expression, the one that evaluation computes. -/
theorem evaluates_iff {limit run : Nat} {scope : ScopeId} {expr : Expr} {config : Config}
    {ended : End Value} : Evaluates limit run scope expr config ended ↔
      ended = .of config.depth
        ((expr.eval (around limit run scope config.depth)).run config.machine) := by
  constructor
  · exact Evaluates.computes
  · rintro rfl
    exact evaluates_of (follows limit config.depth) expr config.machine

theorem Evaluates.balanced {limit run : Nat} {scope : ScopeId} {expr : Expr} {config : Config}
    {ended : End Value} (derived : Evaluates limit run scope expr config ended) :
    (endState ended).depth = config.depth :=
  derived.computes.balanced

/-- A run is what the rules derive for the statements of its program. -/
theorem run_derived (limit : Nat) (scope : ScopeId) (program : Program) (machine : Machine) :
    ∃ ended, ExecutesAll limit machine.runs scope none program
      ⟨{ machine with runs := machine.runs + 1 }, 0⟩ ended ∧
      program.run limit scope machine = ended.outcome := by
  refine ⟨_, executesAll_of (follows limit 0) program none _, ?_⟩
  unfold Program.run
  rw [around, Nat.sub_zero]
  dsimp only
  generalize EStateM.run _ _ = result
  rcases result with _ | ⟨_ | _, _⟩ <;> rfl

end Polyglot.Rules
