import Polyglot.Run.Fault

/-! Operations on values. Integers are words of 64 bits: sums, products and quotients wrap. A float
beside an integer makes the operation one on floats. -/
namespace Polyglot

namespace BinaryOp

def applyIntegers (op : BinaryOp) (a b : Int64) : Except RunFault Value :=
  match op with
  | add => .ok (.integer (a + b))
  | sub => .ok (.integer (a - b))
  | mul => .ok (.integer (a * b))
  | div => if b = 0 then .error .divisionByZero else .ok (.integer (a / b))
  | eq => .ok (.boolean (a == b))
  | ne => .ok (.boolean (a != b))
  | lt => .ok (.boolean (a < b))
  | gt => .ok (.boolean (b < a))
  | le => .ok (.boolean (a ≤ b))
  | ge => .ok (.boolean (b ≤ a))

def applyFloats (op : BinaryOp) (a b : Float) : Value :=
  match op with
  | add => .float (a + b)
  | sub => .float (a - b)
  | mul => .float (a * b)
  | div => .float (a / b)
  | eq => .boolean (a == b)
  | ne => .boolean (a != b)
  | lt => .boolean (a < b)
  | gt => .boolean (b < a)
  | le => .boolean (a ≤ b)
  | ge => .boolean (b ≤ a)

def apply (op : BinaryOp) (left right : Value) : Except RunFault Value :=
  match left, right with
  | .integer a, .integer b => op.applyIntegers a b
  | .float a, .float b => .ok (op.applyFloats a b)
  | .integer a, .float b => .ok (op.applyFloats a.toFloat b)
  | .float a, .integer b => .ok (op.applyFloats a b.toFloat)
  | .boolean a, .boolean b =>
    match op with
    | eq => .ok (.boolean (a == b))
    | ne => .ok (.boolean (a != b))
    | _ => .error (.unknownBinary .boolean op .boolean)
  | .string a, .string b =>
    match op with
    | add => .ok (.string (a ++ b))
    | eq => .ok (.boolean (a == b))
    | ne => .ok (.boolean (a != b))
    | _ => .error (.unknownBinary .string op .string)
  | left, right =>
    if left.kind = right.kind then .error (.unknownBinary left.kind op right.kind)
    else .error (.typeMismatch left.kind op right.kind)

end BinaryOp

def UnaryOp.apply (op : UnaryOp) (operand : Value) : Except RunFault Value :=
  match op, operand with
  | not, operand => .ok (.boolean (!operand.truthy))
  | negate, .integer a => .ok (.integer (-a))
  | negate, .float a => .ok (.float (-a))
  | negate, operand => .error (.unknownUnary .negate operand.kind)

def Builtin.apply (builtin : Builtin) (arguments : List Value) : Except RunFault Value :=
  match arguments with
  | [.string text] => .ok (.integer (Int64.ofNat text.length))
  | [other] => .error (.builtinArgumentKind builtin other.kind)
  | arguments => .error (.builtinArgumentCount builtin arguments.length 1)

end Polyglot
