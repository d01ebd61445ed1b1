import Mathlib.Data.Int.ModEq
import Polyglot.Proofs.Computation
import Polyglot.Run.Evaluate

/-! Integer arithmetic. Reducing an integer to a word of 64 bits goes through negations, sums,
differences and products, so it makes no difference whether every step wraps or only the result. A
quotient is one of words. -/
namespace Polyglot

/-- The operations on integers that go over to words. -/
def BinaryOp.ideal? : BinaryOp → Option (Int → Int → Int)
  | add => some (· + ·)
  | sub => some (· - ·)
  | mul => some (· * ·)
  | _ => none

/-- The value of an expression as an integer of any size, given what names stand for. Only literals,
names of integers, negations, sums, differences and products have one. -/
def Expr.ideal? (names : String → Option Value) : Expr → Option Int
  | .integer _ value => some value.toInt
  | .identifier token =>
    match names token.literal with
    | some (.integer value) => some value.toInt
    | _ => none
  | .unary _ .negate operand => (operand.ideal? names).map (-·)
  | .binary _ op left right => do
    return (← op.ideal?) (← left.ideal? names) (← right.ideal? names)
  | _ => none

/-- The word is the integer reduced modulo 2 ^ 64 into the range of words. -/
structure Wraps (value : Int64) (exact : Int) : Prop where
  least : -2 ^ 63 ≤ value.toInt
  below : value.toInt < 2 ^ 63
  congruent : value.toInt ≡ exact [ZMOD 2 ^ 64]

theorem Wraps.ofInt (exact : Int) : Wraps (Int64.ofInt exact) exact where
  least := Int64.le_toInt _
  below := Int64.toInt_lt _
  congruent := by
    rw [Int64.toInt_ofInt]
    exact Int.bmod_emod

theorem BinaryOp.apply_exact {op : BinaryOp} {f : Int → Int → Int} (exact : op.ideal? = some f)
    (a b : Int) :
    op.apply (.integer (Int64.ofInt a)) (.integer (Int64.ofInt b)) =
      .ok (.integer (Int64.ofInt (f a b))) := by
  cases op with
  | add =>
    cases exact
    rw [Int64.ofInt_add]
    rfl
  | sub =>
    cases exact
    rw [Int64.ofInt_sub]
    rfl
  | mul =>
    cases exact
    rw [Int64.ofInt_mul]
    rfl
  | _ => cases exact

theorem Eval.get_run {scope : ScopeId} {name : String} {machine : Machine} {value : Value}
    (found : machine.store.get? name scope = some value) :
    (Eval.get scope name).run machine = .ok value machine := by
  have looked : (getThe Machine : Eval Machine).run machine = .ok machine machine := rfl
  rw [Eval.get, bind_ok looked, found]
  rfl

section
variable {context : Context} {machine : Machine}

theorem Expr.eval_unary {token : Token} {op : UnaryOp} {operand : Expr} {value result : Value}
    (ran : (operand.eval context).run machine = .ok value machine)
    (applied : op.apply value = .ok result) :
    ((Expr.unary token op operand).eval context).run machine = .ok result machine := by
  rw [Expr.eval, bind_ok ran, applied]
  rfl

theorem Expr.eval_binary (token : Token) (op : BinaryOp) {left right : Expr} {a b : Value}
    (first : (left.eval context).run machine = .ok a machine)
    (second : (right.eval context).run machine = .ok b machine) :
    ((Expr.binary token op left right).eval context).run machine =
      (Eval.ofExcept (op.apply a b)).run machine := by
  rw [Expr.eval, bind_ok first, bind_ok second]

/-- However often the steps of an expression wrap, its value is that of its exact value. -/
theorem Expr.eval_ofInt {expr : Expr} {exact : Int}
    (known : expr.ideal? (fun name => machine.store.get? name context.scope) = some exact) :
    (expr.eval context).run machine = .ok (.integer (Int64.ofInt exact)) machine := by
  fun_induction Expr.ideal? (fun name => machine.store.get? name context.scope) expr
    generalizing exact with
  | case1 token value =>
    cases known
    rw [Expr.eval, Int64.ofInt_toInt]
    rfl
  | case2 token value found =>
    cases known
    rw [Expr.eval, Int64.ofInt_toInt]
    exact Eval.get_run found
  | case4 token operand ih =>
    obtain ⟨inner, known_operand, rfl⟩ := Option.map_eq_some_iff.mp known
    rw [Int64.ofInt_neg]
    exact Expr.eval_unary (ih known_operand) rfl
  | case5 token op left right first second =>
    obtain ⟨f, known_op, known⟩ := Option.bind_eq_some_iff.mp known
    obtain ⟨a, known_left, known⟩ := Option.bind_eq_some_iff.mp known
    obtain ⟨b, known_right, known⟩ := Option.bind_eq_some_iff.mp known
    cases known
    rw [Expr.eval_binary token op (first known_left) (second known_right),
      BinaryOp.apply_exact known_op]
    rfl
  | case3 | case6 => cases known

end

theorem Wraps.quotient (a b : Int64) : Wraps (a / b) (a.toInt.tdiv b.toInt) where
  least := Int64.le_toInt _
  below := Int64.toInt_lt _
  congruent := by
    rw [Int64.toInt_div]
    exact Int.bmod_emod

/-- The least word divided by minus one is too great for a word; every other quotient is exact. -/
theorem toInt_quotient_ne_iff {a b : Int64} :
    (a / b).toInt ≠ a.toInt.tdiv b.toInt ↔ a.toInt = -2 ^ 63 ∧ b.toInt = -1 := by
  constructor
  · intro inexact
    have least : a = Int64.minValue := by
      by_contra other
      exact inexact (Int64.toInt_div_of_ne_left a b other)
    have minus : b = -1 := by
      by_contra other
      exact inexact (Int64.toInt_div_of_ne_right a b other)
    exact ⟨least ▸ rfl, minus ▸ rfl⟩
  · rintro ⟨least, minus⟩
    rw [Int64.toInt_div, least, minus]
    decide

/-- Integer arithmetic is exact modulo 2 ^ 64. An expression of integers has a value, which is its
exact value reduced into the range of words, whatever wrapped on the way. A division by zero fails,
and any other quotient is truncated towards zero; only that of the least word and minus one wraps. -/
theorem Expr.eval_arithmetic (context : Context) (machine : Machine) :
    (∀ (expr : Expr) (exact : Int),
      expr.ideal? (fun name => machine.store.get? name context.scope) = some exact →
        ∃ value : Int64, (expr.eval context).run machine = .ok (.integer value) machine ∧
          Wraps value exact) ∧
    ∀ (token : Token) (left right : Expr) (a b : Int64),
      (left.eval context).run machine = .ok (.integer a) machine →
      (right.eval context).run machine = .ok (.integer b) machine →
        let quotient := ((Expr.binary token .div left right).eval context).run machine
        (quotient = .error (.failed .divisionByZero) machine ↔ b.toInt = 0) ∧
        (b.toInt ≠ 0 → ∃ value : Int64, quotient = .ok (.integer value) machine ∧
          Wraps value (a.toInt.tdiv b.toInt) ∧
          (value.toInt ≠ a.toInt.tdiv b.toInt ↔ a.toInt = -2 ^ 63 ∧ b.toInt = -1)) := by
  refine ⟨fun expr exact known => ⟨_, eval_ofInt known, .ofInt exact⟩, ?_⟩
  intro token left right a b first second quotient
  have run : quotient = (Eval.ofExcept (BinaryOp.div.applyIntegers a b)).run machine :=
    eval_binary token .div first second
  have zero : b.toInt = 0 ↔ b = 0 := by rw [← Int64.toInt_inj, Int64.toInt_zero]
  rw [run, BinaryOp.applyIntegers, zero]
  split
  · rename_i by_zero
    exact ⟨iff_of_true rfl by_zero, fun nonzero => absurd (zero.mpr by_zero) nonzero⟩
  · rename_i nonzero
    refine ⟨iff_of_false ?_ nonzero, fun _ => ⟨a / b, rfl, .quotient a b, toInt_quotient_ne_iff⟩⟩
    rintro ⟨⟩

/-- A scope in which `x` is a quarter of the range of words. -/
private def quarter : Machine where
  store := ⟨#[⟨[("x", .integer 4611686018427387904)], none⟩]⟩
  runs := 1
  noted := []

private def callingNone : Context := ⟨Closure.applyWithin 0 0, 0, 0⟩

private def nameX (start : Nat) : Expr := .identifier ⟨.identifier, "x", start, start + 1⟩

/-- The expression `x + x`, which wraps. -/
private def doubled : Expr := .binary ⟨.plus, "+", 2, 3⟩ .add (nameX 0) (nameX 4)

/-- The expression `-1`. -/
private def minusOne : Expr := .unary ⟨.minus, "-", 8, 9⟩ .negate (.integer ⟨.integer, "1", 9, 10⟩ 1)

/-- In `x + x + -1` the sum wraps twice, to and fro, and `(x + x) / -1` once more. -/
theorem Expr.eval_arithmetic_quarter :
    let total := Expr.binary ⟨.plus, "+", 6, 7⟩ .add doubled minusOne
    let quotient := Expr.binary ⟨.slash, "/", 6, 7⟩ .div doubled minusOne
    (total.ideal? (fun name => quarter.store.get? name callingNone.scope) = some (2 ^ 63 - 1) ∧
      ∃ value : Int64, (total.eval callingNone).run quarter = .ok (.integer value) quarter ∧
        Wraps value (2 ^ 63 - 1)) ∧
    ((doubled.eval callingNone).run quarter = .ok (.integer Int64.minValue) quarter ∧
      (minusOne.eval callingNone).run quarter = .ok (.integer (-1)) quarter ∧
      (-1 : Int64).toInt ≠ 0 ∧
      ∃ value : Int64, (quotient.eval callingNone).run quarter = .ok (.integer value) quarter ∧
        value.toInt ≠ Int64.minValue.toInt.tdiv (-1 : Int64).toInt) := by
  intro total quotient
  have known : total.ideal? (fun name => quarter.store.get? name callingNone.scope) =
      some (2 ^ 63 - 1) := by decide +kernel
  have first : (doubled.eval callingNone).run quarter = .ok (.integer Int64.minValue) quarter := rfl
  have second : (minusOne.eval callingNone).run quarter = .ok (.integer (-1)) quarter := rfl
  obtain ⟨exact, divided⟩ := eval_arithmetic callingNone quarter
  obtain ⟨value, ran, _, inexact⟩ :=
    (divided ⟨.slash, "/", 6, 7⟩ doubled minusOne _ _ first second).2 (by decide)
  exact ⟨⟨known, exact total _ known⟩, first, second, by decide, value, ran,
    inexact.mpr (by decide)⟩

end Polyglot
