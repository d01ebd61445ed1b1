import Polyglot.Text.Alphabetic
import Polyglot.Token.Basic

/-! Scanning. A scanner stands before the unread part of a source and yields the token in front,
the longest one that the text allows. Where a token ends does not depend on the dialect, which
only tells keywords from identifiers among the runs of letters. -/
namespace Polyglot

/-- What separates tokens and belongs to none. -/
def isBlank (c : Char) : Bool :=
  c == ' ' || c == '\t' || c == '\r'

def isLetter (c : Char) : Bool :=
  Text.isAlphabetic c || c == '_'

def byteLength : List Char → Nat
  | [] => 0
  | c :: rest => c.utf8Size + byteLength rest

/-- What a lexeme is before a dialect has classified it. -/
inductive LexemeKind where
  | word
  | other (kind : TokenKind)
  deriving DecidableEq, Repr

def LexemeKind.kind (dialect : Dialect) (literal : String) : LexemeKind → TokenKind
  | word => dialect.classify literal
  | other kind => kind

/-- The start of a text that makes one token. -/
structure Lexeme where
  kind : LexemeKind
  literal : List Char
  /-- The characters that it covers. -/
  span : List Char
  deriving DecidableEq, Repr

namespace Lexeme

/-- A lexeme that stands for the very characters it covers. -/
def plain (kind : TokenKind) (span : List Char) : Lexeme :=
  ⟨.other kind, span, span⟩

def symbol? (c : Char) (rest : List Char) : Option Lexeme :=
  match c, rest with
  | '\n', _ => some (plain .newLine [c])
  | '~', _ => some (plain .tilde [c])
  | '=', '=' :: _ => some (plain .equal [c, '='])
  | '=', _ => some (plain .assign [c])
  | '!', '=' :: _ => some (plain .notEqual [c, '='])
  | '!', _ => some (plain .bang [c])
  | '<', '=' :: _ => some (plain .lessEqual [c, '='])
  | '<', _ => some (plain .less [c])
  | '>', '=' :: _ => some (plain .greaterEqual [c, '='])
  | '>', _ => some (plain .greater [c])
  | '+', _ => some (plain .plus [c])
  | '-', _ => some (plain .minus [c])
  | '*', _ => some (plain .asterisk [c])
  | '/', _ => some (plain .slash [c])
  | ',', _ => some (plain .comma [c])
  | '(', _ => some (plain .leftParen [c])
  | ')', _ => some (plain .rightParen [c])
  | '\x7b', _ => some (plain .leftBrace [c])
  | '\x7d', _ => some (plain .rightBrace [c])
  | _, _ => none

/-- What a backslash and the character after it stand for. An unknown escape stands for itself. -/
def unescape : Char → List Char
  | 'n' => ['\n']
  | 't' => ['\t']
  | '"' => ['"']
  | '\\' => ['\\']
  | c => ['\\', c]

/-- The rest of a string after its opening quote: its contents, and the characters up to and with
the closing quote. None if the quote is never closed. -/
def closing? : List Char → Option (List Char × List Char)
  | [] => none
  | '"' :: _ => some ([], ['"'])
  | '\\' :: c :: rest =>
    (closing? rest).map fun (contents, span) => (unescape c ++ contents, '\\' :: c :: span)
  | c :: rest => (closing? rest).map fun (contents, span) => (c :: contents, c :: span)

/-- A string, or all that is left of the source if its quote is never closed. -/
def string (rest : List Char) : Lexeme :=
  match closing? rest with
  | some (contents, span) => ⟨.other .string, contents, '"' :: span⟩
  | none => plain .illegal ('"' :: rest)

/-- Digits, and a fraction if a digit follows the point. -/
def number (text : List Char) : Lexeme :=
  let whole := text.takeWhile Char.isDigit
  match text.dropWhile Char.isDigit with
  | '.' :: rest =>
    match rest.takeWhile Char.isDigit with
    | [] => plain .integer whole
    | digit :: digits => plain .float (whole ++ '.' :: digit :: digits)
  | _ => plain .integer whole

def word (text : List Char) : Lexeme :=
  let letters := text.takeWhile isLetter
  ⟨.word, letters, letters⟩

/-- The lexeme at the start of a text that begins with this character, which is not a blank. -/
def first (c : Char) (rest : List Char) : Lexeme :=
  match symbol? c rest with
  | some lexeme => lexeme
  | none =>
    if c == '"' then string rest
    else if isLetter c then word (c :: rest)
    else if c.isDigit then number (c :: rest)
    else plain .illegal [c]

end Lexeme

structure Scanner where
  /-- The characters not read yet. -/
  rest : List Char
  /-- The byte at which they start. -/
  offset : Nat
  dialect : Dialect

namespace Scanner

def ofText (dialect : Dialect) (text : String) : Scanner :=
  ⟨text.toList, 0, dialect⟩

/-- The token in front and the scanner behind it. At the end of the source the token is empty, and
the scanner stays there. -/
def next (scanner : Scanner) : Token × Scanner :=
  let start := scanner.offset + byteLength (scanner.rest.takeWhile isBlank)
  match scanner.rest.dropWhile isBlank with
  | [] => (⟨.endOfInput, "", start, start⟩, ⟨[], start, scanner.dialect⟩)
  | c :: rest =>
    let lexeme := Lexeme.first c rest
    let literal := String.ofList lexeme.literal
    let stop := start + byteLength lexeme.span
    (⟨lexeme.kind.kind scanner.dialect literal, literal, start, stop⟩,
      ⟨(c :: rest).drop lexeme.span.length, stop, scanner.dialect⟩)

def tokensWithin : Nat → Scanner → List Token × Scanner
  | 0, scanner => ([], scanner)
  | bound + 1, scanner =>
    let (token, after) := scanner.next
    if token.kind = .endOfInput then ([], after)
    else
      let (tokens, last) := tokensWithin bound after
      (token :: tokens, last)

/-- All tokens up to the end of the source, without the one that marks the end. Each token takes a
character or more, so the characters left bound their number. -/
def tokens (scanner : Scanner) : List Token × Scanner :=
  tokensWithin (scanner.rest.length + 1) scanner

end Scanner

end Polyglot
