import Polyglot.Proofs.Reading
import Polyglot.Syntax.Parse

/-! Branches that are never taken. An operand is read only from a token that can start one, and a link
only from an operator or an opening parenthesis, since the tables of first tokens, of operators and of
binding agree. So the parser is the same whatever it would do with other tokens. -/
namespace Polyglot

/-- Whether a token of this kind has a rule that continues an expression. -/
def TokenKind.isLink (kind : TokenKind) : Bool :=
  kind = .leftParen || (BinaryOp.ofKind? kind).isSome

theorem TokenKind.isLink_of_binds {kind : TokenKind} {floor : Precedence}
    (binds : floor.rank < kind.precedence.rank) : kind.isLink = true := by
  cases kind with
  | plus | minus | asterisk | slash | equal | notEqual | greater | less | greaterEqual | lessEqual =>
    rfl
  | leftParen => rfl
  | _ => cases binds

namespace Parse

/-- What is done with a token that no branch is for. -/
structure Arms where
  operand : Token → Parse Expr
  link : Expr → Token → Parse Expr

variable (arms : Arms)

def operandOr (expr : Precedence → Parse Expr) (token : Token) : Parse Expr :=
  if startsExpression token.kind then operand expr token else arms.operand token

def linkOr (expr : Precedence → Parse Expr) (left : Expr) (token : Token) : Parse Expr :=
  if token.kind.isLink then link expr left token else arms.link left token

/-- Whether the next token continues an expression that ends at this floor and has a rule for it. -/
def continuesByRule (floor : Precedence) : Parse Bool := do
  let next ← peek
  return floor.rank < next.kind.precedence.rank && next.kind.isLink

mutual

def expressionOr (limit : Nat) : Nat → Precedence → Parse Expr
  | 0, _ => tooDeep limit
  | budget + 1, floor => do
    let first ← peek
    if startsExpression first.kind then
      let token ← take
      note (.operand token.kind floor)
      let left ← operandOr arms (expressionOr limit budget) token
      linksOr limit budget floor left
    else throw (.noOperand first)

def linksOr (limit : Nat) : Nat → Precedence → Expr → Parse Expr
  | 0, floor, left => do
    if ← continuesByRule floor then tooDeep limit else return left
  | budget + 1, floor, left => do
    if ← continuesByRule floor then
      let token ← take
      linksOr limit budget floor (← linkOr arms (expressionOr limit budget) left token)
    else return left

end

theorem continuesByRule_eq (floor : Precedence) : continuesByRule floor = continues floor := by
  unfold continuesByRule continues
  congr 1
  funext next
  by_cases binds : floor.rank < next.kind.precedence.rank
  · simp [binds, TokenKind.isLink_of_binds binds]
  · simp [binds]

theorem continues_run (floor : Precedence) (reader : Reader) :
    (continues floor).run reader =
      .ok (decide (floor.rank < reader.next.kind.precedence.rank)) reader.look :=
  rfl

theorem expressionOr_succ {limit budget : Nat}
    (inner : expressionOr arms limit budget = expression limit budget)
    (more : linksOr arms limit budget = links limit budget) (floor : Precedence) :
    expressionOr arms limit (budget + 1) floor = expression limit (budget + 1) floor := by
  rw [expressionOr, expression]
  funext reader
  change EStateM.run _ reader = EStateM.run _ reader
  rw [bind_ok (peek_run reader), bind_ok (peek_run reader)]
  by_cases starts : startsExpression reader.next.kind = true
  · rw [if_pos starts, if_pos starts, bind_ok (take_run _), bind_ok (take_run _),
      bind_ok (note_run _ _), bind_ok (note_run _ _), Reader.look_next, operandOr, if_pos starts,
      inner, more]
  · rw [if_neg starts, if_neg starts]

theorem linksOr_succ {limit budget : Nat}
    (inner : expressionOr arms limit budget = expression limit budget)
    (more : linksOr arms limit budget = links limit budget) (floor : Precedence) (left : Expr) :
    linksOr arms limit (budget + 1) floor left = links limit (budget + 1) floor left := by
  rw [linksOr, links, continuesByRule_eq]
  funext reader
  change EStateM.run _ reader = EStateM.run _ reader
  rw [bind_ok (continues_run floor reader), bind_ok (continues_run floor reader)]
  by_cases binds : floor.rank < reader.next.kind.precedence.rank
  · rw [decide_eq_true binds, if_pos rfl, if_pos rfl, bind_ok (take_run _), bind_ok (take_run _),
      Reader.look_next, linkOr, if_pos (TokenKind.isLink_of_binds binds), inner, more]
  · rw [decide_eq_false binds, if_neg Bool.false_ne_true, if_neg Bool.false_ne_true]

theorem expressionOr_linksOr_eq (limit budget : Nat) :
    expressionOr arms limit budget = expression limit budget ∧
      linksOr arms limit budget = links limit budget := by
  induction budget with
  | zero =>
    constructor
    · funext floor
      rw [expressionOr, expression]
    · funext floor left
      rw [linksOr, links, continuesByRule_eq]
  | succ budget ih =>
    obtain ⟨inner, more⟩ := ih
    constructor
    · funext floor
      exact expressionOr_succ arms inner more floor
    · funext floor left
      exact linksOr_succ arms inner more floor left

/-- The last branch of an operand, which only refuses its token, is for the tokens that start no
expression. -/
theorem operand_refuses_iff (token : Token) :
    (∀ expr : Precedence → Parse Expr, operand expr token = throw (.noOperand token)) ↔
      startsExpression token.kind = false := by
  constructor
  · intro refuses
    -- Nothing follows here, so a rule that wants more than its first token finds another fault.
    have refused := congrArg (EStateM.run · (Reader.ofText .eng ""))
      (refuses fun _ => pure (.identifier token))
    unfold operand at refused
    split at refused
    case h_2 =>
      dsimp only at refused
      split at refused <;> cases refused
    case h_3 => split at refused <;> cases refused
    case h_12 =>
      unfold startsExpression
      split
      all_goals first | rfl | contradiction
    all_goals cases refused
  · intro starts_none expr
    unfold operand
    split
    all_goals simp_all [startsExpression]

end Parse

end Polyglot
