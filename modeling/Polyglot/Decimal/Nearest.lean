/-! Reading decimals: the binary64 number nearest to a decimal, of two equally near ones the one
with the even significand. -/
namespace Polyglot

/-- The number `digits · 10 ^ exponent`. -/
structure Decimal where
  digits : Nat
  exponent : Int
  deriving DecidableEq, Repr

def twoTo (n : Nat) : Nat := Nat.pow 2 n

def tenTo (n : Nat) : Nat := Nat.pow 10 n

def divNearestEven (numerator denominator : Nat) : Nat :=
  let below := numerator / denominator
  let excess := 2 * (numerator % denominator)
  if excess < denominator ∨ (excess = denominator ∧ below % 2 = 0) then below else below + 1

namespace Decimal

/-- The digits in base ten of a number, none for zero. -/
def digitCount (n : Nat) : Nat :=
  if n = 0 then 0 else (Nat.toDigits 10 n).length

/-- The bits of positive infinity: every greater magnitude is written like it. -/
def infinityBits : Nat := 2047 * twoTo 52

/-- The bits of the magnitude nearest to a positive quotient. The exponent is the one that gives the
quotient 53 binary digits, but not less than that of the smallest magnitudes. -/
def quotientBits (numerator denominator : Nat) : Nat :=
  let scaled (exponent : Int) : Nat × Nat :=
    (numerator * twoTo (-exponent).toNat, denominator * twoTo exponent.toNat)
  let guess : Int := (Nat.log2 numerator : Int) - (Nat.log2 denominator : Int) - 53
  let (upper, lower) := scaled guess
  let exponent := max (if upper / lower < twoTo 53 then guess else guess + 1) (-1074)
  let (upper, lower) := scaled exponent
  min ((exponent + 1074).toNat * twoTo 52 + divNearestEven upper lower) infinityBits

/-- The bits of the magnitude nearest to a decimal. Decimals far outside the range of magnitudes are
settled by their size alone. -/
def bits (decimal : Decimal) : Nat :=
  let size := (digitCount decimal.digits : Int) + decimal.exponent
  if decimal.digits = 0 ∨ size < -400 then 0
  else if 400 < size then infinityBits
  else
    quotientBits (decimal.digits * tenTo decimal.exponent.toNat)
      (tenTo (-decimal.exponent).toNat)

def toFloat (negative : Bool) (decimal : Decimal) : Float :=
  Float.ofBits (UInt64.ofNat ((if negative then twoTo 63 else 0) + decimal.bits))

def natOfDigits (digits : List Char) : Nat :=
  digits.foldl (fun n c => 10 * n + (c.toNat - 48)) 0

/-- An exponent: a mark, an optional sign and digits. No exponent is the exponent zero. -/
def exponent? : List Char → Option Int
  | [] => some 0
  | mark :: rest =>
    if mark = 'e' ∨ mark = 'E' then
      let (negative, digits) := match rest with
        | '-' :: digits => (true, digits)
        | '+' :: digits => (false, digits)
        | digits => (false, digits)
      if digits.isEmpty || !digits.all Char.isDigit then none
      else some (if negative then -(natOfDigits digits : Int) else natOfDigits digits)
    else none

/-- Digits with at most one point among them, and an optional exponent. -/
def magnitude? (text : List Char) : Option Decimal :=
  let whole := text.takeWhile Char.isDigit
  let (fraction, rest) := match text.dropWhile Char.isDigit with
    | '.' :: rest => (rest.takeWhile Char.isDigit, rest.dropWhile Char.isDigit)
    | rest => ([], rest)
  if whole.isEmpty && fraction.isEmpty then none
  else (exponent? rest).map fun exponent =>
    ⟨natOfDigits (whole ++ fraction), exponent - (fraction.length : Int)⟩

end Decimal

/-- Reads a number: an optional sign before digits, or before a name of infinity or of what is not
a number. -/
def readFloat? (text : List Char) : Option Float :=
  let (negative, magnitude) := match text with
    | '-' :: rest => (true, rest)
    | '+' :: rest => (false, rest)
    | rest => (false, rest)
  let lower := String.ofList (magnitude.map Char.toLower)
  if lower = "nan" then some (0.0 / 0.0)
  else if lower = "inf" ∨ lower = "infinity" then
    some (Float.ofBits (UInt64.ofNat ((if negative then twoTo 63 else 0) + Decimal.infinityBits)))
  else (Decimal.magnitude? magnitude).map (Decimal.toFloat negative)

end Polyglot
