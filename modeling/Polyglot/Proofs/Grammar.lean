import Mathlib.Data.Nat.Digits.Defs
import Polyglot.Decimal.Nearest
import Polyglot.Syntax.Basic

/-! The grammar of programs over their tokens. A rule says with which tokens a part of a program is
written and which tree stands for it. The rules are those of a context-free grammar with one stratum
of expressions for each level of binding; every binary operator associates to the left. -/
namespace Polyglot

/-- The token is written with decimal digits, zeros in front included, and this is their value. -/
def Token.Denotes (token : Token) (value : Nat) : Prop :=
  ∃ digits : List Nat, digits ≠ [] ∧ (∀ digit ∈ digits, digit < 10) ∧
    token.literal.toList = digits.map Nat.digitChar ∧ value = Nat.ofDigits 10 digits.reverse

namespace Grammar

/-- Expressions by what they are built with, from the loosest operators to the tightest. -/
inductive Stratum where
  | equality | comparison | sum | product | unary | call | primary
  deriving DecidableEq, Repr

namespace Stratum

/-- The stratum that binds tighter by one. -/
def tighter? : Stratum → Option Stratum
  | equality => some comparison
  | comparison => some sum
  | sum => some product
  | product => some unary
  | unary => some call
  | call => some primary
  | primary => none

/-- The binary operators of a stratum. -/
def binary? : Stratum → TokenKind → Option BinaryOp
  | equality, .equal => some .eq
  | equality, .notEqual => some .ne
  | comparison, .less => some .lt
  | comparison, .greater => some .gt
  | comparison, .lessEqual => some .le
  | comparison, .greaterEqual => some .ge
  | sum, .plus => some .add
  | sum, .minus => some .sub
  | product, .asterisk => some .mul
  | product, .slash => some .div
  | _, _ => none

end Stratum

def unary? : TokenKind → Option UnaryOp
  | .minus => some .negate
  | .bang => some .not
  | _ => none

/-- Names with commas between them, after a first one. -/
inductive MoreParameters : List Token → List Token → Prop
  | done : MoreParameters [] []
  | more {comma name : Token} {tokens names : List Token} (separates : comma.kind = .comma)
      (named : name.kind = .identifier) (others : MoreParameters tokens names) :
      MoreParameters (comma :: name :: tokens) (name :: names)

/-- Names with commas between them, or none. -/
inductive Parameters : List Token → List Token → Prop
  | empty : Parameters [] []
  | first {name : Token} {tokens names : List Token} (named : name.kind = .identifier)
      (others : MoreParameters tokens names) : Parameters (name :: tokens) (name :: names)

/-- Any number of line ends. -/
def LineEnds (tokens : List Token) : Prop :=
  ∀ token ∈ tokens, token.kind = .newLine

mutual

inductive Expression : Stratum → List Token → Expr → Prop
  | raise {stratum tight : Stratum} {tokens : List Token} {expr : Expr}
      (next : stratum.tighter? = some tight) (inner : Expression tight tokens expr) :
      Expression stratum tokens expr
  | binary {stratum tight : Stratum} {op : BinaryOp} {token : Token} {before after : List Token}
      {left right : Expr} (next : stratum.tighter? = some tight)
      (first : Expression stratum before left) (operator : stratum.binary? token.kind = some op)
      (second : Expression tight after right) :
      Expression stratum (before ++ token :: after) (.binary token op left right)
  | unary {op : UnaryOp} {token : Token} {tokens : List Token} {operand : Expr}
      (operator : unary? token.kind = some op) (inner : Expression .unary tokens operand) :
      Expression .unary (token :: tokens) (.unary token op operand)
  | call {opening closing : Token} {before inside : List Token} {callee : Expr}
      {arguments : List Expr} (first : Expression .call before callee)
      (opens : opening.kind = .leftParen) (given : Arguments inside arguments)
      (closes : closing.kind = .rightParen) :
      Expression .call (before ++ opening :: (inside ++ [closing])) (.call opening callee arguments)
  | identifier {token : Token} (kind : token.kind = .identifier) :
      Expression .primary [token] (.identifier token)
  | integer {token : Token} {value : Nat} (kind : token.kind = .integer)
      (denoted : token.Denotes value) (small : value < 2 ^ 63) :
      Expression .primary [token] (.integer token (Int64.ofNat value))
  /-- Every token of this kind can be read as a number. -/
  | float {token : Token} (kind : token.kind = .float) :
      Expression .primary [token] (.float token ((readFloat? token.literal.toList).getD 0))
  | string {token : Token} (kind : token.kind = .string) :
      Expression .primary [token] (.string token)
  | trueWord {token : Token} (kind : token.kind = .keyword .trueWord) :
      Expression .primary [token] (.boolean token true)
  | falseWord {token : Token} (kind : token.kind = .keyword .falseWord) :
      Expression .primary [token] (.boolean token false)
  | group {opening closing : Token} {inside : List Token} {expr : Expr}
      (opens : opening.kind = .leftParen) (inner : Expression .equality inside expr)
      (closes : closing.kind = .rightParen) :
      Expression .primary (opening :: (inside ++ [closing])) expr
  | conditional {token opening closing : Token} {inside first : List Token} {condition : Expr}
      {consequence : Block} (word : token.kind = .keyword .ifWord)
      (opens : opening.kind = .leftParen) (asked : Expression .equality inside condition)
      (closes : closing.kind = .rightParen) (holds : Braces first consequence) :
      Expression .primary (token :: opening :: (inside ++ closing :: first))
        (.conditional token condition consequence none)
  | alternative {token opening closing other : Token} {inside first second : List Token}
      {condition : Expr} {consequence alternative : Block}
      (word : token.kind = .keyword .ifWord) (opens : opening.kind = .leftParen)
      (asked : Expression .equality inside condition) (closes : closing.kind = .rightParen)
      (holds : Braces first consequence) (otherwise : other.kind = .keyword .elseWord)
      (fails : Braces second alternative) :
      Expression .primary (token :: opening :: (inside ++ closing :: (first ++ other :: second)))
        (.conditional token condition consequence (some alternative))
  | function {token opening closing : Token} {inside code parameters : List Token} {body : Block}
      (word : token.kind = .keyword .fnWord) (opens : opening.kind = .leftParen)
      (named : Parameters inside parameters) (closes : closing.kind = .rightParen)
      (runs : Braces code body) :
      Expression .primary (token :: opening :: (inside ++ closing :: code))
        (.function token parameters body)

/-- Expressions with commas between them, or none. -/
inductive Arguments : List Token → List Expr → Prop
  | empty : Arguments [] []
  | first {tokens rest : List Token} {expr : Expr} {exprs : List Expr}
      (given : Expression .equality tokens expr) (others : MoreArguments rest exprs) :
      Arguments (tokens ++ rest) (expr :: exprs)

/-- Expressions with commas between them, after a first one. -/
inductive MoreArguments : List Token → List Expr → Prop
  | done : MoreArguments [] []
  | more {comma : Token} {tokens rest : List Token} {expr : Expr} {exprs : List Expr}
      (separates : comma.kind = .comma) (next : Expression .equality tokens expr)
      (others : MoreArguments rest exprs) :
      MoreArguments (comma :: (tokens ++ rest)) (expr :: exprs)

/-- A statement; a pragma leaves none. -/
inductive Statement : List Token → Option Stmt → Prop
  | binding {token name sign : Token} {tokens : List Token} {value : Expr}
      (word : token.kind = .keyword .letWord) (named : name.kind = .identifier)
      (assigns : sign.kind = .assign) (bound : Expression .equality tokens value) :
      Statement (token :: name :: sign :: tokens) (some (.binding token name value))
  | result {token : Token} {tokens : List Token} {value : Expr}
      (word : token.kind = .keyword .returnWord) (given : Expression .equality tokens value) :
      Statement (token :: tokens) (some (.result token value))
  | pragma {token name : Token} (tilde : token.kind = .tilde) (named : name.kind = .identifier) :
      Statement [token, name] none
  | expression {token : Token} {tokens : List Token} {value : Expr}
      (alone : Expression .equality (token :: tokens) value) :
      Statement (token :: tokens) (some (.expression token value))

/-- Statements with line ends between them, and line ends before and after them. -/
inductive Lines : List Token → List Stmt → Prop
  | blank {ends : List Token} (empty : LineEnds ends) : Lines ends []
  | first {ends tokens rest : List Token} {stmt : Option Stmt} {stmts : List Stmt}
      (empty : LineEnds ends) (line : Statement tokens stmt) (others : MoreLines rest stmts) :
      Lines (ends ++ (tokens ++ rest)) (stmt.toList ++ stmts)

/-- What follows a statement on later lines. -/
inductive MoreLines : List Token → List Stmt → Prop
  | done {ends : List Token} (empty : LineEnds ends) : MoreLines ends []
  | more {ends tokens rest : List Token} {stmt : Option Stmt} {stmts : List Stmt}
      (empty : LineEnds ends) (apart : ends ≠ []) (line : Statement tokens stmt)
      (others : MoreLines rest stmts) :
      MoreLines (ends ++ (tokens ++ rest)) (stmt.toList ++ stmts)

inductive Braces : List Token → Block → Prop
  | mk {opening closing : Token} {inside : List Token} {stmts : List Stmt}
      (opens : opening.kind = .leftBrace) (lines : Lines inside stmts)
      (closes : closing.kind = .rightBrace) :
      Braces (opening :: (inside ++ [closing])) (.mk opening stmts)

end

end Grammar

end Polyglot
