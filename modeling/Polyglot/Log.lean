import Polyglot.Syntax.Operator
import Polyglot.Text.Quoted

/-! What is worth noting while a source is read and run. Events are data; a run lists them in the
order in which they happened. -/
namespace Polyglot

inductive Level where
  | warn | info | debug | trace
  deriving DecidableEq, Repr

namespace Level

def name : Level → String
  | warn => "WARN"
  | info => "INFO"
  | debug => "DEBUG"
  | trace => "TRACE"

/-- The more severe, the lower. -/
def rank : Level → Nat
  | warn => 0
  | info => 1
  | debug => 2
  | trace => 3

end Level

inductive Event where
  /-- No dialect has this name, so the standard one is taken. -/
  | unknownDialect (name : String)
  /-- The output took less than a line's outcome. -/
  | outputFull
  /-- A token was scanned. -/
  | token (scanned : Token)
  /-- An expression begins with a token of this kind and ends before what binds no tighter. -/
  | operand (kind : TokenKind) (floor : Precedence)
  | dialectSwitched (requested : String) (active : Dialect)
  | sessionDialectChanged (before after : Dialect)
  | applying (depth arity : Nat)
  | callDepthReached (limit : Nat)
  /-- A line is read from an input that is no terminal. -/
  | plainInput
  deriving DecidableEq, Repr

/-- A field of an event, written between quotes if its value is a free text. -/
structure Field where
  name : String
  value : String
  isText : Bool

namespace Event

def level : Event → Level
  | unknownDialect _ | outputFull => .warn
  | token _ | operand _ _ => .trace
  | dialectSwitched _ _ | sessionDialectChanged _ _ | applying _ _ | callDepthReached _
  | plainInput => .debug

def message : Event → String
  | unknownDialect _ => "unknown dialect, keeping the default keyword table"
  | outputFull => "could not write repl output"
  | token _ => "token"
  | operand _ _ => "prefix"
  | dialectSwitched _ _ => "switched keyword dialect"
  | sessionDialectChanged _ _ => "repl dialect changed"
  | applying _ _ => "applying function"
  | callDepthReached _ => "call depth limit reached"
  | plainInput => "stdin is not a tty"

def fields : Event → List Field
  | unknownDialect name => [⟨"dialect", name, true⟩, ⟨"fallback", Dialect.standard.name, true⟩]
  | outputFull => [⟨"err", "failed to write whole buffer", false⟩]
  | token scanned =>
    [⟨"kind", scanned.kind.name, false⟩, ⟨"literal", scanned.literal, false⟩,
     ⟨"start", toString scanned.start, false⟩]
  | operand kind floor => [⟨"kind", kind.name, false⟩, ⟨"precedence", floor.name, false⟩]
  | dialectSwitched requested active =>
    [⟨"requested", requested, true⟩, ⟨"active", active.name, false⟩]
  | sessionDialectChanged before after => [⟨"from", before.name, false⟩, ⟨"to", after.name, false⟩]
  | applying depth arity =>
    [⟨"depth", toString depth, false⟩, ⟨"arity", toString arity, false⟩]
  | callDepthReached limit => [⟨"limit", toString limit, false⟩]
  | plainInput => []

def isAt (threshold : Level) (event : Event) : Bool :=
  event.level.rank ≤ threshold.rank

def line (event : Event) : String :=
  " ".intercalate (event.level.name :: event.message :: event.fields.map fun field =>
    field.name ++ "=" ++ if field.isText then Text.quote field.value else field.value)

end Event

/-- The event of resolving a dialect's name, if the name is not known. -/
def Dialect.resolution (name : String) : List Event :=
  match Dialect.ofName? name with
  | some _ => []
  | none => [.unknownDialect name]

end Polyglot
