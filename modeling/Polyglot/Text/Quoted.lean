import Polyglot.Text.Extending
import Polyglot.Text.Printable

/-! The quoted form of a text: what stands between the quotes is on one line and shows every
character that a reader could not see or would take for a part of its neighbour. -/
namespace Polyglot.Text

def shortEscape? : Char → Option Char
  | '\x00' => some '0'
  | '\t' => some 't'
  | '\r' => some 'r'
  | '\n' => some 'n'
  | '"' => some '"'
  | '\\' => some '\\'
  | _ => none

/-- The escape by code point, in lower-case hexadecimal. -/
def codeEscape (c : Char) : List Char :=
  '\\' :: 'u' :: '\x7b' :: (Nat.toDigits 16 c.toNat ++ ['\x7d'])

/-- The half-width sound marks: extending characters that are letters with a place of their own. -/
def soundMarks : Ranges :=
  [(0xff9e, 0xff9f)]

/-- Whether a character is drawn upon the one in front of it. -/
def isMark (c : Char) : Bool :=
  isExtending c && !Ranges.contains c.toNat soundMarks

/-- Whether a character without a short escape stands for itself. -/
def isPlain (c : Char) : Bool :=
  isPrintable c && !isMark c

def escape (c : Char) : List Char :=
  match shortEscape? c with
  | some letter => ['\\', letter]
  | none => if isPlain c then [c] else codeEscape c

def quoted (text : List Char) : List Char :=
  '"' :: (text.flatMap escape ++ ['"'])

def quote (text : String) : String :=
  String.ofList (quoted text.toList)

end Polyglot.Text
