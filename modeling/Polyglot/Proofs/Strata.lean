import Polyglot.Proofs.Grammar

/-! How the strata of the grammar and the floors of the parser meet. An expression read above a
floor is of the stratum just above it, except that a prefix operator may stand above every
floor. -/
namespace Polyglot

namespace Grammar

def Stratum.rank : Stratum → Nat
  | .equality => 0
  | .comparison => 1
  | .sum => 2
  | .product => 3
  | .unary => 4
  | .call => 5
  | .primary => 6

theorem Stratum.rank_tighter {stratum tight : Stratum} (next : stratum.tighter? = some tight) :
    tight.rank = stratum.rank + 1 := by
  cases stratum <;> cases next <;> rfl

theorem Expression.loosen {loose tight : Stratum} {tokens : List Token} {expr : Expr}
    (derived : Expression tight tokens expr) (below : loose.rank ≤ tight.rank) :
    Expression loose tokens expr := by
  induction gap : tight.rank - loose.rank generalizing loose with
  | zero =>
    have same : loose = tight := by
      have equal : loose.rank = tight.rank := by omega
      cases loose <;> cases tight <;> first | rfl | cases equal
    exact same ▸ derived
  | succ gap ih =>
    cases step : loose.tighter? with
    | none =>
      cases loose <;> cases step
      cases tight <;> cases gap
    | some next =>
      have rank := Stratum.rank_tighter step
      exact .raise step (ih (by omega) (by omega))

theorem Expression.tokens_ne_nil {stratum : Stratum} {tokens : List Token} {expr : Expr} :
    Expression stratum tokens expr → tokens ≠ []
  | .raise _ inner => inner.tokens_ne_nil
  | .binary _ _ _ _ | .unary _ _ | .call _ _ _ _ | .identifier _ | .integer _ _ _ | .float _
  | .string _ | .trueWord _ | .falseWord _ | .group _ _ _ | .conditional _ _ _ _ _
  | .alternative _ _ _ _ _ _ _ | .function _ _ _ _ _ => by simp

end Grammar

open Grammar

/-- The stratum of the expressions that are read above a floor. -/
def Precedence.stratum : Precedence → Stratum
  | .lowest => .equality
  | .equals => .comparison
  | .lessGreater => .sum
  | .sum => .product
  | .product | .unary | .call => .unary

theorem Precedence.stratum_rank_le (floor : Precedence) :
    floor.stratum.rank ≤ floor.rank ∧ floor.stratum.rank ≤ Stratum.rank .unary := by
  cases floor <;> decide

theorem Precedence.rank_eq_of_low {floor : Precedence}
    (low : floor.stratum.rank < Stratum.rank .unary) : floor.rank = floor.stratum.rank := by
  cases floor <;> first | rfl | exact absurd low (by decide)

theorem Precedence.rank_lt_call {floor : Precedence} (other : floor ≠ .call) :
    floor.rank < Precedence.rank .call := by
  cases floor <;> first | decide | exact absurd rfl other

theorem Precedence.rank_le (floor : Precedence) : floor.rank ≤ 6 := by
  cases floor <;> decide

/-- A binary operator belongs to one stratum, and its right operand is read above the operator's
own precedence. -/
theorem BinaryOp.stratum_of_kind {kind : TokenKind} {op : BinaryOp}
    (operator : BinaryOp.ofKind? kind = some op) :
    ∃ stratum : Stratum, stratum.binary? kind = some op ∧
      stratum.tighter? = some kind.precedence.stratum ∧
      kind.precedence.rank = stratum.rank + 1 := by
  cases kind <;> cases operator
  case plus => exact ⟨.sum, rfl, rfl, rfl⟩
  case minus => exact ⟨.sum, rfl, rfl, rfl⟩
  case asterisk => exact ⟨.product, rfl, rfl, rfl⟩
  case slash => exact ⟨.product, rfl, rfl, rfl⟩
  case equal => exact ⟨.equality, rfl, rfl, rfl⟩
  case notEqual => exact ⟨.equality, rfl, rfl, rfl⟩
  case greater => exact ⟨.comparison, rfl, rfl, rfl⟩
  case less => exact ⟨.comparison, rfl, rfl, rfl⟩
  case greaterEqual => exact ⟨.comparison, rfl, rfl, rfl⟩
  case lessEqual => exact ⟨.comparison, rfl, rfl, rfl⟩

theorem Grammar.Stratum.kind_of_binary {stratum : Stratum} {kind : TokenKind} {op : BinaryOp}
    (operator : stratum.binary? kind = some op) :
    BinaryOp.ofKind? kind = some op ∧ kind.precedence.rank = stratum.rank + 1 ∧
      stratum.tighter? = some kind.precedence.stratum ∧ kind.precedence ≠ .call ∧
      kind ≠ .keyword .elseWord ∧ stratum.rank < rank .unary := by
  unfold Stratum.binary? at operator
  split at operator <;> cases operator <;> decide

/-- What continues an expression and is no binary operator opens a call. -/
theorem TokenKind.opens_call {kind : TokenKind} (plain : BinaryOp.ofKind? kind = none)
    (binds : 0 < kind.precedence.rank) : kind = .leftParen := by
  cases kind <;> simp_all [BinaryOp.ofKind?, TokenKind.precedence, Precedence.rank]

theorem TokenKind.ordinary_of_binds {kind : TokenKind} (binds : 0 < kind.precedence.rank) :
    kind ≠ .endOfInput ∧ kind ≠ .tilde := by
  constructor <;> intro same <;> subst same <;> exact absurd binds (by decide)

end Polyglot
