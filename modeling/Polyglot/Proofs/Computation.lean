/-! Computations that carry a state and may fail: what one of them does to its state, and when two
of them agree. Both reading a source and running a program are such computations. -/
namespace Polyglot

variable {ε σ α β : Type}

theorem bind_ok {first : EStateM ε σ α} {next : α → EStateM ε σ β} {state after : σ} {value : α}
    (ran : first.run state = .ok value after) :
    (first >>= next).run state = (next value).run after := by
  rw [EStateM.run_bind, ran]

theorem bind_error {first : EStateM ε σ α} {next : α → EStateM ε σ β} {state after : σ}
    {failure : ε} (ran : first.run state = .error failure after) :
    (first >>= next).run state = .error failure after := by
  rw [EStateM.run_bind, ran]

theorem bind_success {first : EStateM ε σ α} {next : α → EStateM ε σ β} {state last : σ}
    {result : β} (ran : (first >>= next).run state = .ok result last) :
    ∃ value after, first.run state = .ok value after ∧
      (next value).run after = .ok result last := by
  cases begun : first.run state with
  | ok value after => exact ⟨value, after, rfl, (bind_ok begun).symm.trans ran⟩
  | error failure after =>
    rw [bind_error begun] at ran
    cases ran

theorem bind_failure {first : EStateM ε σ α} {next : α → EStateM ε σ β} {state last : σ}
    {failure : ε} (ran : (first >>= next).run state = .error failure last) :
    first.run state = .error failure last ∨
      ∃ value after, first.run state = .ok value after ∧
        (next value).run after = .error failure last := by
  cases begun : first.run state with
  | ok value after => exact Or.inr ⟨value, after, rfl, (bind_ok begun).symm.trans ran⟩
  | error exit after =>
    rw [bind_error begun] at ran
    cases ran
    exact Or.inl rfl

/-- The state in which a computation ends, be it with a value or with a failure. -/
def endState : EStateM.Result ε σ α → σ
  | .ok _ state => state
  | .error _ state => state

/-- A computation that changes its state only as the relation allows. -/
def Keeps (allowed : σ → σ → Prop) (part : EStateM ε σ α) : Prop :=
  ∀ state, allowed state (endState (part.run state))

section
variable {allowed : σ → σ → Prop}

theorem Keeps.pure (refl : ∀ state, allowed state state) (value : α) :
    Keeps allowed (Pure.pure value : EStateM ε σ α) :=
  fun state => refl state

theorem Keeps.throw (refl : ∀ state, allowed state state) (failure : ε) :
    Keeps allowed (MonadExcept.throw failure : EStateM ε σ α) :=
  fun state => refl state

theorem Keeps.bind (trans : ∀ a b c, allowed a b → allowed b c → allowed a c)
    {first : EStateM ε σ α} {next : α → EStateM ε σ β} (kept : Keeps allowed first)
    (later : ∀ value, Keeps allowed (next value)) : Keeps allowed (first >>= next) := by
  intro state
  have step := kept state
  rw [EStateM.run_bind]
  cases ran : first.run state with
  | ok value middle =>
    rw [ran] at step
    exact trans _ _ _ step (later value middle)
  | error failure middle =>
    rw [ran] at step
    exact step

theorem Keeps.mono {looser : σ → σ → Prop} (weaker : ∀ a b, allowed a b → looser a b)
    {part : EStateM ε σ α} (kept : Keeps allowed part) : Keeps looser part :=
  fun state => weaker _ _ (kept state)

end

/-- How two computations are compared: which states belong together, which failures correspond, and
after which failures of the first nothing is said of the second. -/
structure Coupling (ε σ τ : Type) where
  near : σ → τ → Prop
  same : ε → ε → Prop
  excused : ε → Prop

namespace Coupling
variable {τ α' β' : Type} (c : Coupling ε σ τ)

/-- Ends of two computations that agree. -/
def Agree (related : α → α' → Prop) :
    EStateM.Result ε σ α → EStateM.Result ε τ α' → Prop
  | .ok one after, .ok other last => related one other ∧ c.near after last
  | .error one after, .error other last => c.excused one ∨ c.same one other ∧ c.near after last
  | .error one _, .ok _ _ => c.excused one
  | .ok _ _, .error _ _ => False

/-- Computations that agree from wherever the states belong together. -/
def InStep (related : α → α' → Prop) (one : EStateM ε σ α) (other : EStateM ε τ α') : Prop :=
  ∀ first second, c.near first second → c.Agree related (one.run first) (other.run second)

variable {c} {related : α → α' → Prop} {result : β → β' → Prop}

theorem Agree.of_excused {failure : ε} {after : σ} (free : c.excused failure)
    (other : EStateM.Result ε τ α') : c.Agree related (.error failure after) other := by
  cases other with
  | ok value last => exact free
  | error failure last => exact Or.inl free

theorem Agree.mono {looser : α → α' → Prop}
    (weaker : ∀ value image, related value image → looser value image)
    {one : EStateM.Result ε σ α} {other : EStateM.Result ε τ α'} (agree : c.Agree related one other) :
    c.Agree looser one other := by
  cases one with
  | ok value after =>
    cases other with
    | ok image last => exact ⟨weaker value image agree.1, agree.2⟩
    | error failure last => exact agree
  | error failure after => cases other <;> exact agree

theorem Agree.bind {one : EStateM ε σ α} {other : EStateM ε τ α'} {next : α → EStateM ε σ β}
    {later : α' → EStateM ε τ β'} {first : σ} {second : τ}
    (begins : c.Agree related (one.run first) (other.run second))
    (goes_on : ∀ value image after last, one.run first = .ok value after →
      related value image → c.near after last →
      c.Agree result ((next value).run after) ((later image).run last)) :
    c.Agree result ((one >>= next).run first) ((other >>= later).run second) := by
  cases ran : one.run first with
  | ok value after =>
    cases done : other.run second with
    | ok image last =>
      rw [ran, done] at begins
      rw [bind_ok ran, bind_ok done]
      exact goes_on value image after last ran begins.1 begins.2
    | error failure last =>
      rw [ran, done] at begins
      exact begins.elim
  | error failure after =>
    rw [bind_error ran]
    cases done : other.run second with
    | ok image last =>
      rw [ran, done] at begins
      exact .of_excused begins _
    | error image last =>
      rw [ran, done] at begins
      rw [bind_error done]
      exact begins

theorem InStep.bind {one : EStateM ε σ α} {other : EStateM ε τ α'} {next : α → EStateM ε σ β}
    {later : α' → EStateM ε τ β'} (begins : c.InStep related one other)
    (goes_on : ∀ value image, related value image → c.InStep result (next value) (later image)) :
    c.InStep result (one >>= next) (other >>= later) := fun first second near =>
  (begins first second near).bind fun value image after last _ same close =>
    goes_on value image same after last close

theorem InStep.pure {value : α} {image : α'} (same : related value image) :
    c.InStep related (Pure.pure value) (Pure.pure image) := fun _ _ near => ⟨same, near⟩

theorem InStep.throw {failure image : ε} (same : c.same failure image) :
    c.InStep related (MonadExcept.throw failure) (MonadExcept.throw image) :=
  fun _ _ near => Or.inr ⟨same, near⟩

end Coupling

end Polyglot
