import Polyglot.Dialect

/-! Tokens: a kind, the text it stands for and the bytes of the source it covers. -/
namespace Polyglot

inductive TokenKind where
  | endOfInput | illegal | identifier | integer | float | string
  | assign | plus | minus | bang | asterisk | slash
  | equal | notEqual | greater | less | greaterEqual | lessEqual
  | comma | leftParen | rightParen | leftBrace | rightBrace | newLine | tilde
  | keyword (word : Keyword)
  deriving DecidableEq, Repr

def Keyword.kindName : Keyword → String
  | .fnWord => "FUNCTION"
  | .letWord => "LET"
  | .trueWord => "TRUE"
  | .falseWord => "FALSE"
  | .ifWord => "IF"
  | .elseWord => "ELSE"
  | .elsifWord => "ELSIF"
  | .returnWord => "RETURN"
  | .andWord => "AND"
  | .orWord => "OR"
  | .forWord => "FOR"
  | .whileWord => "WHILE"

namespace TokenKind

/-- The name of a kind in messages: operators and delimiters are named by themselves. -/
def name : TokenKind → String
  | endOfInput => "EOF"
  | illegal => "ILLEGAL"
  | identifier => "IDENTIFIER"
  | integer => "INTEGER"
  | float => "FLOAT"
  | string => "STRING"
  | assign => "="
  | plus => "+"
  | minus => "-"
  | bang => "!"
  | asterisk => "*"
  | slash => "/"
  | equal => "=="
  | notEqual => "!="
  | greater => ">"
  | less => "<"
  | greaterEqual => ">="
  | lessEqual => "<="
  | comma => ","
  | leftParen => "("
  | rightParen => ")"
  | leftBrace => "\x7b"
  | rightBrace => "\x7d"
  | newLine => "NEW_LINE"
  | tilde => "~"
  | keyword word => word.kindName

def keyword? : TokenKind → Option Keyword
  | keyword word => some word
  | _ => none

end TokenKind

def Dialect.classify (dialect : Dialect) (word : String) : TokenKind :=
  match dialect.keyword? word with
  | some keyword => .keyword keyword
  | none => .identifier

structure Token where
  kind : TokenKind
  /-- The text as written; for a string its contents. -/
  literal : String
  /-- The first byte of the source that it covers. -/
  start : Nat
  /-- The first byte after it. -/
  stop : Nat
  deriving DecidableEq, Repr

/-- The text with keywords in the standard spelling. -/
def Token.canonical (token : Token) : String :=
  match token.kind with
  | .keyword word => word.canonical
  | _ => token.literal

end Polyglot
