import Polyglot.Syntax.Operator

/-! Syntax trees. Every node keeps the token that it was built from; names and strings are their
tokens. Grouping parentheses and dialect pragmas leave no node. -/
namespace Polyglot

mutual

inductive Expr where
  | identifier (token : Token)
  | integer (token : Token) (value : Int64)
  | float (token : Token) (value : Float)
  | string (token : Token)
  | boolean (token : Token) (value : Bool)
  | unary (token : Token) (op : UnaryOp) (operand : Expr)
  | binary (token : Token) (op : BinaryOp) (left right : Expr)
  | conditional (token : Token) (condition : Expr) (consequence : Block)
      (alternative : Option Block)
  | function (token : Token) (parameters : List Token) (body : Block)
  | call (token : Token) (callee : Expr) (arguments : List Expr)

inductive Stmt where
  | binding (token : Token) (name : Token) (value : Expr)
  | result (token : Token) (value : Expr)
  /-- The token is the first one of the expression, which may be a parenthesis. -/
  | expression (token : Token) (value : Expr)

inductive Block where
  | mk (token : Token) (statements : List Stmt)

end

abbrev Program := List Stmt

def Expr.token : Expr → Token
  | .identifier token | .integer token _ | .float token _ | .string token | .boolean token _
  | .unary token _ _ | .binary token _ _ _ | .conditional token _ _ _ | .function token _ _
  | .call token _ _ => token

def Stmt.token : Stmt → Token
  | .binding token _ _ | .result token _ | .expression token _ => token

def Block.token : Block → Token
  | .mk token _ => token

def Block.statements : Block → List Stmt
  | .mk _ statements => statements

/-- The canonical text of the token that a node was built from. -/
def Expr.literal (expr : Expr) : String := expr.token.canonical

def Stmt.literal (stmt : Stmt) : String := stmt.token.canonical

def Program.literal (program : Program) : String :=
  match program with
  | [] => ""
  | first :: _ => first.literal

end Polyglot
