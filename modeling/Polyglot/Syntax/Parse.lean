import Polyglot.Decimal.Nearest
import Polyglot.Syntax.Reader

/-! Parsing. An expression is an operand followed by as many links (binary operations and calls) as
bind tighter than the floor it was asked for. Nesting is bounded: an expression may be read only
while the budget lasts, and every expression inside it and every link after its operand takes one
from the budget. All recursion is on that budget. -/
namespace Polyglot.Parse

def startsExpression : TokenKind → Bool
  | .identifier | .integer | .float | .string | .bang | .minus | .leftParen
  | .keyword .trueWord | .keyword .falseWord | .keyword .ifWord | .keyword .fnWord => true
  | _ => false

section
variable {σ α : Type} [TokenSource σ]

def afterComma (element : ParseFrom σ α) : ParseFrom σ (Option α) := do
  if ← accept .comma then return some (← element) else return none

/-- Elements between commas up to a closing token; what opens them has been taken. -/
def sequence (element : ParseFrom σ α) (closing : TokenKind) : ParseFrom σ (List α) := do
  if ← accept closing then return []
  let first ← element
  let others ← repeating (afterComma element)
  let _ ← expect closing
  return first :: others

/-- A pragma is no statement: its effect is on the words that follow. -/
def pragma : ParseFrom σ (Option Stmt) := do
  let _ ← take
  let name ← expect .identifier
  switchDialect name.literal
  return none

variable (expr : Precedence → ParseFrom σ Expr)

/-- A statement, none for a pragma. The line's end is left in place. -/
def statement : ParseFrom σ (Option Stmt) := do
  let first ← peek
  match first.kind with
  | .keyword .letWord =>
    let token ← take
    let name ← expect .identifier
    let _ ← expect .assign
    return some (.binding token name (← expr .lowest))
  | .keyword .returnWord =>
    let token ← take
    return some (.result token (← expr .lowest))
  | .tilde => pragma
  | _ => return some (.expression first (← expr .lowest))

/-- A line of a block or the end of one, none at the end of the block. -/
def blockItem : ParseFrom σ (Option (Option Stmt)) := do
  match (← peek).kind with
  | .rightBrace | .endOfInput => return none
  | .newLine =>
    let _ ← take
    return some none
  | _ =>
    let stmt ← statement expr
    let next ← peek
    match next.kind with
    | .newLine | .rightBrace | .endOfInput => return some stmt
    | _ => throw (.unexpected .newLine next)

def block : ParseFrom σ Block := do
  let token ← expect .leftBrace
  let statements ← repeating (blockItem expr)
  let _ ← expect .rightBrace
  return .mk token (statements.filterMap id)

/-- The operand that starts with this token, which has been taken. -/
def operand (token : Token) : ParseFrom σ Expr := do
  match token.kind with
  | .identifier => return .identifier token
  | .integer =>
    let value := Decimal.natOfDigits token.literal.toList
    if value < twoTo 63 then return .integer token (Int64.ofNat value)
    else throw (.integerRange token)
  | .float =>
    match readFloat? token.literal.toList with
    | some value => return .float token value
    | none => throw (.floatForm token)
  | .string => return .string token
  | .keyword .trueWord => return .boolean token true
  | .keyword .falseWord => return .boolean token false
  | .bang => return .unary token .not (← expr .unary)
  | .minus => return .unary token .negate (← expr .unary)
  | .leftParen =>
    let inner ← expr .lowest
    let _ ← expect .rightParen
    return inner
  | .keyword .ifWord =>
    let _ ← expect .leftParen
    let condition ← expr .lowest
    let _ ← expect .rightParen
    let consequence ← block expr
    if ← accept (.keyword .elseWord) then
      return .conditional token condition consequence (some (← block expr))
    else return .conditional token condition consequence none
  | .keyword .fnWord =>
    let _ ← expect .leftParen
    let parameters ← sequence (expect .identifier) .rightParen
    return .function token parameters (← block expr)
  | _ => throw (.noOperand token)

def link (left : Expr) (token : Token) : ParseFrom σ Expr := do
  match BinaryOp.ofKind? token.kind with
  | some op => return .binary token op left (← expr token.kind.precedence)
  | none => return .call token left (← sequence (expr .lowest) .rightParen)

def tooDeep (limit : Nat) : ParseFrom σ α := do
  throw (.nesting limit (← peek))

def continues (floor : Precedence) : ParseFrom σ Bool := do
  return floor.rank < (← peek).kind.precedence.rank

def wholeLine : ParseFrom σ (Option Stmt) := do
  let stmt ← statement expr
  let next ← peek
  match next.kind with
  | .newLine | .endOfInput => return stmt
  | _ => throw (.unexpected .newLine next)

def skipToken : ParseFrom σ (Option Token) := do
  match (← peek).kind with
  | .newLine | .endOfInput => return none
  | _ => return some (← take)

def skipLine : ParseFrom σ Unit := do
  let _ ← repeating skipToken

/-- A line or the end of one, none at the end of the source. What is left of a line with a fault is
skipped. -/
def nextLine : ParseFrom σ (Option (Except SyntaxFault (Option Stmt))) := do
  match (← peek).kind with
  | .endOfInput => return none
  | .newLine =>
    let _ ← take
    return some (.ok none)
  | _ =>
    let result ← attempt (wholeLine expr)
    if let .error _ := result then skipLine
    return some result

end

mutual

/-- An expression that ends before what binds no tighter than the floor. The limit is what a fault
reports, the budget what is left of it. -/
def expression (limit : Nat) : Nat → Precedence → Parse Expr
  | 0, _ => tooDeep limit
  | budget + 1, floor => do
    let first ← peek
    if startsExpression first.kind then
      let token ← take
      note (.operand token.kind floor)
      let left ← operand (expression limit budget) token
      links limit budget floor left
    else throw (.noOperand first)

def links (limit : Nat) : Nat → Precedence → Expr → Parse Expr
  | 0, floor, left => do
    if ← continues floor then tooDeep limit else return left
  | budget + 1, floor, left => do
    if ← continues floor then
      let token ← take
      links limit budget floor (← link (expression limit budget) left token)
    else return left

end

end Polyglot.Parse

namespace Polyglot

/-- The outcome of parsing a source: the statements of the sound lines, the faults of the others. -/
structure Parsed where
  program : Program
  faults : List SyntaxFault

def Parsed.ofLines (lines : List (Except SyntaxFault (Option Stmt))) : Parsed where
  program := lines.filterMap fun | .ok stmt => stmt | .error _ => none
  faults := lines.filterMap fun | .ok _ => none | .error fault => some fault

namespace Parse
variable (limit : Nat)

def line : Parse (Option Stmt) :=
  wholeLine (expression limit limit)

def sourceItem : Parse (Option (Except SyntaxFault (Option Stmt))) :=
  nextLine (expression limit limit)

/-- The whole source. After a fault reading goes on with the next line. -/
def source : Parse Parsed := do
  return .ofLines (← repeating (sourceItem limit))

end Parse

def Reader.parse (limit : Nat) (reader : Reader) : Parsed × Reader :=
  match (Parse.source limit).run reader with
  | .ok parsed after => (parsed, after)
  | .error fault after => (⟨[], [fault]⟩, after)

end Polyglot
