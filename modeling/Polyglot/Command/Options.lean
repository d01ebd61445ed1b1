import Polyglot.Run.Execute

/-! The arguments of the command: options with a value, a repeatable flag and at most one path. -/
namespace Polyglot.Command

structure Options where
  dialect : String
  maxCallDepth : Nat
  maxNesting : Nat
  verbosity : Nat
  path : Option String
  deriving DecidableEq, Repr

inductive Valued where
  | dialect | maxCallDepth | maxNesting
  deriving DecidableEq, Repr

def Valued.ofName? : String → Option Valued
  | "dialect" => some .dialect
  | "max-call-depth" => some .maxCallDepth
  | "max-nesting" => some .maxNesting
  | _ => none

structure Draft where
  dialect : Option String
  maxCallDepth : Option Nat
  maxNesting : Option Nat
  verbosity : Nat
  path : Option String

def Draft.empty : Draft := ⟨none, none, none, 0, none⟩

/-- A count: digits, with an optional plus sign, of a number of at most 64 bits. -/
def count? (text : String) : Option Nat :=
  let digits := match text.toList with
    | '+' :: digits => digits
    | digits => digits
  let value := Decimal.natOfDigits digits
  if digits.isEmpty || !digits.all Char.isDigit || twoTo 64 ≤ value then none else some value

namespace Draft

/-- Gives an option its value, which must fit it and be its first. -/
def assign (draft : Draft) (option : Valued) (value : String) : Option Draft :=
  match option with
  | .dialect => if draft.dialect.isNone then some { draft with dialect := some value } else none
  | .maxCallDepth =>
    if draft.maxCallDepth.isNone then
      (count? value).map fun n => { draft with maxCallDepth := some n }
    else none
  | .maxNesting =>
    if draft.maxNesting.isNone then (count? value).map fun n => { draft with maxNesting := some n }
    else none

def addPath (draft : Draft) (path : String) : Option Draft :=
  if draft.path.isNone && !path.isEmpty then some { draft with path := some path } else none

/-- An option by its long name, with its value after an equals sign or in the next argument. -/
def long (draft : Draft) (text : List Char) : Option (Draft × Option Valued) :=
  let name := String.ofList (text.takeWhile (· != '='))
  match text.dropWhile (· != '=') with
  | [] =>
    if name = "verbose" then some ({ draft with verbosity := draft.verbosity + 1 }, none)
    else (Valued.ofName? name).map fun option => (draft, some option)
  | _ :: value => do
    let option ← Valued.ofName? name
    let draft ← draft.assign option (String.ofList value)
    return (draft, none)

/-- Options by their letters. The first that takes a value takes all that follows it, or the next
argument if nothing does. -/
def short (draft : Draft) : List Char → Option (Draft × Option Valued)
  | [] => some (draft, none)
  | 'v' :: rest => short { draft with verbosity := draft.verbosity + 1 } rest
  | ['d'] => some (draft, some .dialect)
  | 'd' :: '=' :: value => (draft.assign .dialect (String.ofList value)).map (·, none)
  | 'd' :: value => (draft.assign .dialect (String.ofList value)).map (·, none)
  | _ => none

/-- Reads the arguments in turn. An option may wait for its value, which cannot look like an
option. -/
def read (draft : Draft) : Option Valued → List String → Option Draft
  | none, [] => some draft
  | some _, [] => none
  | waiting, argument :: rest =>
    match argument.toList, waiting with
    | ['-', '-'], none => rest.foldlM addPath draft
    | '-' :: '-' :: text, none => do
      let (draft, waiting) ← draft.long text
      draft.read waiting rest
    | '-' :: letter :: letters, none => do
      let (draft, waiting) ← draft.short (letter :: letters)
      draft.read waiting rest
    | '-' :: _ :: _, some _ => none
    | _, some option => do
      let draft ← draft.assign option argument
      draft.read none rest
    | _, none => do
      let draft ← draft.addPath argument
      draft.read none rest

end Draft

def Options.ofArguments? (arguments : List String) : Option Options :=
  (Draft.empty.read none arguments).map fun draft => {
    dialect := draft.dialect.getD Dialect.standard.name
    maxCallDepth := draft.maxCallDepth.getD Settings.standard.maxCallDepth
    maxNesting := draft.maxNesting.getD Settings.standard.maxNesting
    verbosity := draft.verbosity
    path := draft.path }

namespace Options

def settings (options : Options) : Settings where
  dialect := .resolve options.dialect
  maxNesting := options.maxNesting
  maxCallDepth := options.maxCallDepth

/-- The level of the log, raised by each repetition of the flag. -/
def level (options : Options) : Level :=
  match options.verbosity with
  | 0 => .warn
  | 1 => .info
  | 2 => .debug
  | _ => .trace

end Options

end Polyglot.Command
