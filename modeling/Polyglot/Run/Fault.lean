import Polyglot.Value.Basic

/-! What can go wrong while a program runs. -/
namespace Polyglot

inductive RunFault where
  | unknownIdentifier (name : String)
  | typeMismatch (left : ValueKind) (op : BinaryOp) (right : ValueKind)
  | unknownBinary (left : ValueKind) (op : BinaryOp) (right : ValueKind)
  | unknownUnary (op : UnaryOp) (operand : ValueKind)
  | notAFunction (kind : ValueKind)
  | argumentCount (expected found : Nat)
  | divisionByZero
  | callDepth (limit : Nat)
  | builtinArgumentCount (builtin : Builtin) (found expected : Nat)
  | builtinArgumentKind (builtin : Builtin) (kind : ValueKind)
  deriving DecidableEq, Repr

namespace RunFault

/-- Builtin functions complain in the language of their name. -/
def message : RunFault → String
  | unknownIdentifier name => "identifier not found: " ++ name
  | typeMismatch left op right =>
    "type mismatch: " ++ left.name ++ " " ++ op.text ++ " " ++ right.name
  | unknownBinary left op right =>
    "unknown operator: " ++ left.name ++ " " ++ op.text ++ " " ++ right.name
  | unknownUnary op operand => "unknown operator: " ++ op.text ++ operand.name
  | notAFunction kind => "not a function: " ++ kind.name
  | argumentCount expected found =>
    "wrong number of arguments: expected " ++ toString expected ++ ", got " ++ toString found
  | divisionByZero => "division by zero"
  | callDepth limit => "maximum call depth of " ++ toString limit ++ " exceeded"
  | builtinArgumentCount (.length .eng) found expected =>
    "wrong number of arguments. got=" ++ toString found ++ ", want=" ++ toString expected
  | builtinArgumentCount (.length .trk) found expected =>
    "yanlış sayıda argüman. got=" ++ toString found ++ ", want=" ++ toString expected
  | builtinArgumentCount (.length .qzq) found expected =>
    "аргументтердің қате саны. алды=" ++ toString found ++ ", келеді=" ++ toString expected
  | builtinArgumentKind (.length .eng) kind =>
    "argument to `len` not supported, got " ++ kind.name
  | builtinArgumentKind (.length .trk) kind =>
    "`uzunluk` argümanı desteklenmiyor, " ++ kind.name ++ " alındı"
  | builtinArgumentKind (.length .qzq) kind =>
    "`ұзындығы` аргументіне қолдау көрсетілмейді, " ++ kind.name ++ " алынды"

end RunFault

end Polyglot
