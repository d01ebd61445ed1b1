import Polyglot.Decimal.Nearest

/-! Writing binary64 numbers: the fewest digits that read back as the same number, of those the
nearest to it. -/
namespace Polyglot

/-- A positive finite magnitude `significand · 2 ^ exponent`. -/
structure Magnitude where
  significand : Nat
  exponent : Int
  deriving DecidableEq, Repr

namespace Magnitude

def ofBits (bits : Nat) : Magnitude :=
  if bits < twoTo 52 then ⟨bits, -1074⟩
  else ⟨bits % twoTo 52 + twoTo 52, (bits / twoTo 52 : Nat) - 1075⟩

/-- How far the numbers that round to this one reach below it, in quarters of its unit. The number
below a power of two is only half a unit away. -/
def reachBelow (m : Magnitude) : Nat :=
  if m.significand = twoTo 52 ∧ -1074 < m.exponent then 1 else 2

/-- The multiple of `10 ^ grid` that reads back as this magnitude: one of its two neighbours on that
grid, the nearer one if both do, the upper one if they are equally near. -/
def onGrid? (m : Magnitude) (grid : Int) : Option Nat :=
  let quarter := twoTo (m.exponent - 2).toNat * tenTo (-grid).toNat
  let unit := tenTo grid.toNat * twoTo (2 - m.exponent).toNat
  let value := 4 * m.significand * quarter
  let low := (4 * m.significand - m.reachBelow) * quarter
  let high := (4 * m.significand + 2) * quarter
  let readsBack (multiple : Nat) : Bool :=
    if m.significand % 2 = 0 then low ≤ multiple * unit && multiple * unit ≤ high
    else low < multiple * unit && multiple * unit < high
  let below := value / unit
  let above := below + 1
  if readsBack below && (!readsBack above || value - below * unit < above * unit - value) then
    some below
  else if readsBack above then some above
  else none

def leadingExponent (m : Magnitude) : Int :=
  let numerator := m.significand * twoTo m.exponent.toNat
  let denominator := twoTo (-m.exponent).toNat
  if denominator ≤ numerator then (Decimal.digitCount (numerator / denominator) : Int) - 1
  else -(Decimal.digitCount ((denominator - 1) / numerator) : Int)

/-- The decimal on the coarsest grid that reads back. Seventeen digits always do. -/
def shortest (m : Magnitude) : Decimal :=
  let grids := (List.range 17).map fun (more : Nat) => m.leadingExponent - (more : Int)
  (grids.findSome? fun grid => (m.onGrid? grid).map (Decimal.mk · grid)).getD ⟨0, 0⟩

end Magnitude

structure FloatFormat where
  /-- The least exponent of the first digit that is written without an exponent. -/
  leastPlain : Int
  /-- The least exponent above it that is not. -/
  leastScientific : Int
  infinity : String
  notANumber : String

namespace FloatFormat

def zeros (count : Nat) : List Char :=
  List.replicate count '0'

/-- Digits with a point after that many of them and at least one digit on either side of it. -/
def plain (digits : List Char) (point : Int) : List Char :=
  if point ≤ 0 then '0' :: '.' :: (zeros (-point).toNat ++ digits)
  else
    let whole := digits.take point.toNat
    let fraction := digits.drop point.toNat
    whole ++ zeros (point.toNat - digits.length) ++
      '.' :: (if fraction.isEmpty then ['0'] else fraction)

def scientific (digits : List Char) (exponent : Int) : List Char :=
  let mantissa := match digits with
    | first :: second :: rest => first :: '.' :: second :: rest
    | _ => digits
  mantissa ++ 'e' :: (toString exponent).toList

/-- Digits without the zeros at their end. -/
def significant (digits : List Char) : List Char :=
  (digits.reverse.dropWhile (· == '0')).reverse

def decimal (format : FloatFormat) (d : Decimal) : List Char :=
  let all := Nat.toDigits 10 d.digits
  let leading := d.exponent + (all.length : Int) - 1
  let digits := significant all
  if format.leastPlain ≤ leading ∧ leading < format.leastScientific then plain digits (leading + 1)
  else scientific digits leading

def write (format : FloatFormat) (x : Float) : String :=
  let bits := x.toBits.toNat
  let magnitude := bits % twoTo 63
  if Decimal.infinityBits < magnitude then format.notANumber
  else
    let sign := if twoTo 63 ≤ bits then "-" else ""
    sign ++
      if magnitude = Decimal.infinityBits then format.infinity
      else if magnitude = 0 then "0.0"
      else String.ofList (format.decimal (Magnitude.ofBits magnitude).shortest)

end FloatFormat

end Polyglot
