import Polyglot.Run.Evaluate
import Polyglot.Syntax.Parse

/-! From a source text to its outcome. Nothing runs unless the whole text parses. -/
namespace Polyglot

structure Settings where
  /-- The dialect at the start of a text. -/
  dialect : Dialect
  maxNesting : Nat
  maxCallDepth : Nat

def Settings.standard : Settings where
  dialect := .standard
  maxNesting := 256
  maxCallDepth := 2048

inductive Outcome where
  | value (result : Option Value)
  | failed (fault : RunFault)
  | rejected (faults : List SyntaxFault)

namespace Outcome

def isOk : Outcome → Bool
  | value _ => true
  | failed _ | rejected _ => false

def faultLines (faults : List SyntaxFault) : String :=
  "parser errors:\n" ++ String.join (faults.map fun fault => "\t" ++ fault.message ++ "\n")

/-- What is shown of an outcome: nothing where there is no value. -/
def text : Outcome → String
  | value none => ""
  | value (some result) => result.text ++ "\n"
  | failed fault => "ERROR: " ++ fault.message ++ "\n"
  | rejected faults => faultLines faults

def pieces : Outcome → List String
  | value none => []
  | value (some result) => [result.text, "\n"]
  | failed fault => ["ERROR: ", fault.message, "\n"]
  | rejected faults =>
    "parser errors:\n" :: faults.flatMap fun fault => ["\t", fault.message, "\n"]

end Outcome

structure Execution where
  outcome : Outcome
  /-- The dialect at the end of the text. -/
  dialect : Dialect
  /-- What was noted while the text was read. -/
  reading : List Event
  /-- What was noted while the program ran. -/
  running : List Event
  machine : Machine

def execute (settings : Settings) (scope : ScopeId) (text : String) (machine : Machine) :
    Execution :=
  let (parsed, reader) := (Reader.ofText settings.dialect text).parse settings.maxNesting
  let reading := reader.noted.reverse
  if parsed.faults.isEmpty then
    let (result, after) := parsed.program.run settings.maxCallDepth scope machine
    {
      outcome := match result with
        | .ok value => .value value
        | .error fault => .failed fault
      dialect := reader.dialect
      reading
      running := after.noted.reverse
      machine := { after with noted := [] } }
  else
    {
      outcome := .rejected parsed.faults
      dialect := reader.dialect
      reading
      running := []
      machine }

/-- Runs a text as a script: in a scope of its own, with the end of its last line added. -/
def executeScript (settings : Settings) (text : String) : Outcome × List Event :=
  let (scope, store) := Store.empty.openScope none
  let execution := execute settings scope (text ++ "\n") { Machine.initial with store }
  (execution.outcome, execution.reading ++ execution.running)

end Polyglot
