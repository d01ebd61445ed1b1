import Polyglot.Decimal.Shortest
import Polyglot.Syntax.Canonical

/-! Values. A function value is a closure: the code of a function literal and the scope in which it
was evaluated. Scopes are known by their number in a store. -/
namespace Polyglot

abbrev ScopeId := Nat

structure Closure where
  parameters : List String
  body : Block
  /-- The scope in which the literal was evaluated. -/
  scope : ScopeId
  /-- The run that evaluated the literal. -/
  run : Nat

/-- Whether two closures are of the same literal of the same program in the same scope. Within a
program a literal is known by where its body starts. -/
def Closure.same (f g : Closure) : Bool :=
  f.run == g.run && f.body.token.start == g.body.token.start && f.scope == g.scope

/-- The functions that need no definition: the length of a string, in each dialect's words. -/
inductive Builtin where
  | length (tongue : Dialect)
  deriving DecidableEq, Repr

namespace Builtin

def all : List Builtin := Dialect.all.map length

def name : Builtin → String
  | length .eng => "len"
  | length .trk => "uzunluk"
  | length .qzq => "ұзындығы"

def ofName? (name : String) : Option Builtin :=
  all.find? (·.name == name)

end Builtin

inductive Value where
  | integer (value : Int64)
  | float (value : Float)
  | boolean (value : Bool)
  | string (value : String)
  | function (closure : Closure)
  | builtin (known : Builtin)
  | null

inductive ValueKind where
  | integer | float | boolean | string | function | builtin | null
  deriving DecidableEq, Repr

def ValueKind.name : ValueKind → String
  | integer => "INTEGER"
  | float => "FLOAT"
  | boolean => "BOOLEAN"
  | string => "STRING"
  | function => "FUNCTION"
  | builtin => "BUILTIN"
  | null => "NULL"

namespace Value

def kind : Value → ValueKind
  | integer _ => .integer
  | float _ => .float
  | boolean _ => .boolean
  | string _ => .string
  | function _ => .function
  | builtin _ => .builtin
  | null => .null

/-- Null and false count as false, all else as true. -/
def truthy : Value → Bool
  | null | boolean false => false
  | _ => true

/-- From `1e-4` up to `1e16` numbers are written without an exponent. -/
def floatFormat : FloatFormat where
  leastPlain := -4
  leastScientific := 16
  infinity := "inf"
  notANumber := "NaN"

def text : Value → String
  | integer value => toString value.toInt
  | float value => floatFormat.write value
  | boolean true => "true"
  | boolean false => "false"
  | string value => value
  | function closure =>
    "fn(" ++ ", ".intercalate closure.parameters ++ ") " ++ closure.body.text
  | builtin known => "builtin function " ++ known.name
  | null => "null"

/-- Equality within a kind: numbers as numbers, functions by identity. -/
def same : Value → Value → Bool
  | integer a, integer b => a == b
  | float a, float b => a == b
  | boolean a, boolean b => a == b
  | string a, string b => a == b
  | function f, function g => f.same g
  | builtin f, builtin g => f == g
  | null, null => true
  | _, _ => false

end Value

end Polyglot
