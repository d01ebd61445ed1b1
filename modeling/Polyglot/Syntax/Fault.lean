import Polyglot.Syntax.Basic
import Polyglot.Text.Quoted

/-! What can be wrong with a source text, and at which token. -/
namespace Polyglot

inductive SyntaxFault where
  | unexpected (expected : TokenKind) (found : Token)
  /-- No expression starts with this token. -/
  | noOperand (found : Token)
  | integerRange (found : Token)
  | floatForm (found : Token)
  | nesting (limit : Nat) (found : Token)
  deriving DecidableEq, Repr

namespace SyntaxFault

def token : SyntaxFault → Token
  | unexpected _ found | noOperand found | integerRange found | floatForm found
  | nesting _ found => found

def message : SyntaxFault → String
  | unexpected expected found =>
    "expected next token to be " ++ expected.name ++ ", got " ++ found.kind.name ++ " instead"
  | noOperand found => "no prefix parse function for " ++ found.kind.name ++ " found"
  | integerRange found => "could not parse " ++ Text.quote found.literal ++ " as integer"
  | floatForm found => "could not parse " ++ Text.quote found.literal ++ " as float"
  | nesting limit _ => "expression nesting exceeds the maximum depth of " ++ toString limit

end SyntaxFault

end Polyglot
