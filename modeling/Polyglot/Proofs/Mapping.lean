import Polyglot.Syntax.Fault
import Mathlib.Logic.Function.Basic

/-! Trees and faults with every token replaced. Two trees that differ only in where their tokens
stand have the same image under a replacement that forgets it. -/
namespace Polyglot

mutual

def Expr.mapTokens (f : Token → Token) : Expr → Expr
  | .identifier token => .identifier (f token)
  | .integer token value => .integer (f token) value
  | .float token value => .float (f token) value
  | .string token => .string (f token)
  | .boolean token value => .boolean (f token) value
  | .unary token op operand => .unary (f token) op (operand.mapTokens f)
  | .binary token op left right => .binary (f token) op (left.mapTokens f) (right.mapTokens f)
  | .conditional token condition consequence none =>
    .conditional (f token) (condition.mapTokens f) (consequence.mapTokens f) none
  | .conditional token condition consequence (some alternative) =>
    .conditional (f token) (condition.mapTokens f) (consequence.mapTokens f)
      (some (alternative.mapTokens f))
  | .function token parameters body => .function (f token) (parameters.map f) (body.mapTokens f)
  | .call token callee arguments =>
    .call (f token) (callee.mapTokens f) (Expr.mapAllTokens f arguments)

def Expr.mapAllTokens (f : Token → Token) : List Expr → List Expr
  | [] => []
  | expr :: rest => expr.mapTokens f :: Expr.mapAllTokens f rest

def Stmt.mapTokens (f : Token → Token) : Stmt → Stmt
  | .binding token name value => .binding (f token) (f name) (value.mapTokens f)
  | .result token value => .result (f token) (value.mapTokens f)
  | .expression token value => .expression (f token) (value.mapTokens f)

def Stmt.mapAllTokens (f : Token → Token) : List Stmt → List Stmt
  | [] => []
  | stmt :: rest => stmt.mapTokens f :: Stmt.mapAllTokens f rest

def Block.mapTokens (f : Token → Token) : Block → Block
  | .mk token statements => .mk (f token) (Stmt.mapAllTokens f statements)

end

theorem Stmt.mapAllTokens_eq_map (f : Token → Token) (stmts : List Stmt) :
    Stmt.mapAllTokens f stmts = stmts.map (Stmt.mapTokens f) := by
  induction stmts with
  | nil => rfl
  | cons stmt rest ih => rw [mapAllTokens, ih, List.map_cons]

mutual

theorem Expr.mapTokens_id : (expr : Expr) → expr.mapTokens id = expr
  | .identifier _ | .integer _ _ | .float _ _ | .string _ | .boolean _ _ => rfl
  | .unary _ _ operand => by rw [Expr.mapTokens, Expr.mapTokens_id operand, id]
  | .binary _ _ left right => by
    rw [Expr.mapTokens, Expr.mapTokens_id left, Expr.mapTokens_id right, id]
  | .conditional _ condition consequence none => by
    rw [Expr.mapTokens, Expr.mapTokens_id condition, Block.mapTokens_id consequence, id]
  | .conditional _ condition consequence (some alternative) => by
    rw [Expr.mapTokens, Expr.mapTokens_id condition, Block.mapTokens_id consequence,
      Block.mapTokens_id alternative, id]
  | .function _ parameters body => by
    rw [Expr.mapTokens, List.map_id, Block.mapTokens_id body, id]
  | .call _ callee arguments => by
    rw [Expr.mapTokens, Expr.mapTokens_id callee, Expr.mapAllTokens_id arguments, id]

theorem Expr.mapAllTokens_id : (exprs : List Expr) → Expr.mapAllTokens id exprs = exprs
  | [] => rfl
  | expr :: rest => by rw [Expr.mapAllTokens, Expr.mapTokens_id expr, Expr.mapAllTokens_id rest]

theorem Stmt.mapTokens_id : (stmt : Stmt) → stmt.mapTokens id = stmt
  | .binding _ _ value | .result _ value | .expression _ value => by
    rw [Stmt.mapTokens, Expr.mapTokens_id value]; rfl

theorem Stmt.mapAllTokens_id : (stmts : List Stmt) → Stmt.mapAllTokens id stmts = stmts
  | [] => rfl
  | stmt :: rest => by rw [Stmt.mapAllTokens, Stmt.mapTokens_id stmt, Stmt.mapAllTokens_id rest]

theorem Block.mapTokens_id : (block : Block) → block.mapTokens id = block
  | .mk _ statements => by rw [Block.mapTokens, Stmt.mapAllTokens_id statements, id]

end

def SyntaxFault.mapToken (f : Token → Token) : SyntaxFault → SyntaxFault
  | .unexpected expected found => .unexpected expected (f found)
  | .noOperand found => .noOperand (f found)
  | .integerRange found => .integerRange (f found)
  | .floatForm found => .floatForm (f found)
  | .nesting limit found => .nesting limit (f found)

@[simp] theorem SyntaxFault.mapToken_id (fault : SyntaxFault) : fault.mapToken id = fault := by
  cases fault <;> rfl

theorem SyntaxFault.message_unexpected (expected : TokenKind) {one other : Token}
    (kind : one.kind = other.kind) :
    (unexpected expected one).message = (unexpected expected other).message := by
  unfold message
  dsimp only
  rw [kind]

theorem SyntaxFault.message_noOperand {one other : Token} (kind : one.kind = other.kind) :
    (noOperand one).message = (noOperand other).message := by
  unfold message
  dsimp only
  rw [kind]

theorem SyntaxFault.message_integerRange {one other : Token}
    (literal : one.literal = other.literal) :
    (integerRange one).message = (integerRange other).message := by
  unfold message
  dsimp only
  rw [literal]

theorem SyntaxFault.message_floatForm {one other : Token} (literal : one.literal = other.literal) :
    (floatForm one).message = (floatForm other).message := by
  unfold message
  dsimp only
  rw [literal]

end Polyglot
