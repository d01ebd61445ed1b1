import Polyglot.Syntax.Basic

/-! The outline of a tree: its nodes in pre-order, each with its depth. -/
namespace Polyglot

inductive NodeKind where
  | binding | result | expression | block | name | identifier | parameter | integer | float
  | string | boolean | unary | binary | conditional | function | call
  deriving DecidableEq, Repr

/-- What a node holds beside its token and its children. -/
inductive NodeDetail where
  | none
  | text (value : String)
  | count (value : Nat)
  | flag (value : Bool)
  | integer (value : Int64)
  | float (value : Float)

structure Node where
  depth : Nat
  kind : NodeKind
  token : Token
  detail : NodeDetail

mutual

def Expr.outline (depth : Nat) : Expr → List Node
  | .identifier token => [⟨depth, .identifier, token, .text token.literal⟩]
  | .integer token value => [⟨depth, .integer, token, .integer value⟩]
  | .float token value => [⟨depth, .float, token, .float value⟩]
  | .string token => [⟨depth, .string, token, .text token.literal⟩]
  | .boolean token value => [⟨depth, .boolean, token, .flag value⟩]
  | .unary token op operand =>
    ⟨depth, .unary, token, .text op.text⟩ :: operand.outline (depth + 1)
  | .binary token op left right =>
    ⟨depth, .binary, token, .text op.text⟩ ::
      (left.outline (depth + 1) ++ right.outline (depth + 1))
  | .conditional token condition consequence none =>
    ⟨depth, .conditional, token, .flag false⟩ ::
      (condition.outline (depth + 1) ++ consequence.outline (depth + 1))
  | .conditional token condition consequence (some alternative) =>
    ⟨depth, .conditional, token, .flag true⟩ ::
      (condition.outline (depth + 1) ++ consequence.outline (depth + 1) ++
        alternative.outline (depth + 1))
  | .function token parameters body =>
    ⟨depth, .function, token, .count parameters.length⟩ ::
      (parameters.map (fun name => ⟨depth + 1, .parameter, name, .text name.literal⟩) ++
        body.outline (depth + 1))
  | .call token callee arguments =>
    ⟨depth, .call, token, .count arguments.length⟩ ::
      (callee.outline (depth + 1) ++ Expr.outlines (depth + 1) arguments)

def Expr.outlines (depth : Nat) : List Expr → List Node
  | [] => []
  | expr :: rest => expr.outline depth ++ Expr.outlines depth rest

def Stmt.outline (depth : Nat) : Stmt → List Node
  | .binding token name value =>
    ⟨depth, .binding, token, .none⟩ :: ⟨depth + 1, .name, name, .text name.literal⟩ ::
      value.outline (depth + 1)
  | .result token value => ⟨depth, .result, token, .none⟩ :: value.outline (depth + 1)
  | .expression token value => ⟨depth, .expression, token, .none⟩ :: value.outline (depth + 1)

def Stmt.outlines (depth : Nat) : List Stmt → List Node
  | [] => []
  | stmt :: rest => stmt.outline depth ++ Stmt.outlines depth rest

def Block.outline (depth : Nat) : Block → List Node
  | .mk token statements =>
    ⟨depth, .block, token, .count statements.length⟩ :: Stmt.outlines (depth + 1) statements

end

def Program.outline (program : Program) : List Node :=
  Stmt.outlines 0 program

end Polyglot
