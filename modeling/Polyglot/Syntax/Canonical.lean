import Polyglot.Syntax.Basic
import Polyglot.Text.Quoted

/-! Canonical text: keywords in the standard spelling, every operation in parentheses, nothing
between the statements of a block. -/
namespace Polyglot

mutual

def Expr.text : Expr → String
  | .identifier token => token.literal
  | .integer token _ => token.literal
  | .float token _ => token.literal
  | .string token => Text.quote token.literal
  | .boolean token _ => token.canonical
  | .unary _ op operand => "(" ++ op.text ++ operand.text ++ ")"
  | .binary _ op left right => "(" ++ left.text ++ " " ++ op.text ++ " " ++ right.text ++ ")"
  | .conditional _ condition consequence none =>
    "if " ++ condition.text ++ " " ++ consequence.text
  | .conditional _ condition consequence (some alternative) =>
    "if " ++ condition.text ++ " " ++ consequence.text ++ " else " ++ alternative.text
  | .function _ parameters body =>
    "fn(" ++ ", ".intercalate (parameters.map Token.literal) ++ ") " ++ body.text
  | .call _ callee arguments =>
    callee.text ++ "(" ++ ", ".intercalate (Expr.texts arguments) ++ ")"

def Expr.texts : List Expr → List String
  | [] => []
  | expr :: rest => expr.text :: Expr.texts rest

def Stmt.text : Stmt → String
  | .binding _ name value => "let " ++ name.literal ++ " = " ++ value.text
  | .result _ value => "return " ++ value.text
  | .expression _ value => value.text

def Stmt.texts : List Stmt → String
  | [] => ""
  | stmt :: rest => stmt.text ++ Stmt.texts rest

def Block.text : Block → String
  | .mk _ statements => "\x7b" ++ Stmt.texts statements ++ "\x7d"

end

def Program.text (program : Program) : String :=
  Stmt.texts program

end Polyglot
