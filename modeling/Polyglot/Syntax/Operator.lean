import Polyglot.Token.Basic

/-! Operators and how tightly they bind. -/
namespace Polyglot

inductive UnaryOp where
  | negate | not
  deriving DecidableEq, Repr

def UnaryOp.text : UnaryOp → String
  | negate => "-"
  | not => "!"

inductive BinaryOp where
  | add | sub | mul | div | eq | ne | lt | gt | le | ge
  deriving DecidableEq, Repr

namespace BinaryOp

def text : BinaryOp → String
  | add => "+"
  | sub => "-"
  | mul => "*"
  | div => "/"
  | eq => "=="
  | ne => "!="
  | lt => "<"
  | gt => ">"
  | le => "<="
  | ge => ">="

def ofKind? : TokenKind → Option BinaryOp
  | .plus => some add
  | .minus => some sub
  | .asterisk => some mul
  | .slash => some div
  | .equal => some eq
  | .notEqual => some ne
  | .less => some lt
  | .greater => some gt
  | .lessEqual => some le
  | .greaterEqual => some ge
  | _ => none

end BinaryOp

/-- Levels of binding, from the loosest to the tightest. -/
inductive Precedence where
  | lowest | equals | lessGreater | sum | product | unary | call
  deriving DecidableEq, Repr

namespace Precedence

def rank : Precedence → Nat
  | lowest => 0
  | equals => 1
  | lessGreater => 2
  | sum => 3
  | product => 4
  | unary => 5
  | call => 6

def name : Precedence → String
  | lowest => "Lowest"
  | equals => "Equals"
  | lessGreater => "LessGreater"
  | sum => "Sum"
  | product => "Product"
  | unary => "Prefix"
  | call => "Call"

def all : List Precedence := [lowest, equals, lessGreater, sum, product, unary, call]

end Precedence

/-- How tightly a token binds the expression before it; the lowest level if it cannot continue
one. -/
def TokenKind.precedence : TokenKind → Precedence
  | .equal | .notEqual => .equals
  | .less | .greater | .lessEqual | .greaterEqual => .lessGreater
  | .plus | .minus => .sum
  | .asterisk | .slash => .product
  | .leftParen => .call
  | _ => .lowest

end Polyglot
