import Polyglot.Command.Line
import Polyglot.Command.Options
import Polyglot.Session

/-! What the command does: it runs a script, or the lines of its input as a session. Input and
output are bytes and texts here; who calls this moves them. -/
namespace Polyglot.Command

def notText : String := "stream did not contain valid UTF-8"

structure Report where
  code : Nat
  output : String
  errors : String

def logText (level : Level) (events : List Event) : String :=
  String.join ((events.filter (·.isAt level)).map fun event => event.line ++ "\n")

def greeting (options : Options) : String :=
  logText options.level (Dialect.resolution options.dialect)

def runScript (options : Options) (path : String) (contents : Except String ByteArray) : Report :=
  let unreadable (reason : String) : Report :=
    ⟨1, "", greeting options ++ "Error: could not read " ++ path ++ ": " ++ reason ++ "\n"⟩
  match contents with
  | .error reason => unreadable reason
  | .ok bytes =>
    match String.fromUTF8? bytes with
    | none => unreadable notText
    | some text =>
      let (outcome, events) := executeScript options.settings text
      let log := greeting options ++ logText options.level events
      match outcome with
      | .value _ => ⟨0, outcome.text, log⟩
      | .failed _ | .rejected _ => ⟨1, "", log ++ outcome.text⟩

def farewell : String := "CTRL-D\n"

/-- The text for input that is no text, after which no more is read. -/
def unreadableLine : String :=
  "Error: Io(Error \x7b kind: InvalidData, message: " ++ Text.quote notText ++ " \x7d)\n"

def prompt (level : Level) : String :=
  logText level [.plainInput]

/-- Runs one line of input: what it prints and logs, and the session after it. None is left at the
end of the input and where it is no text. -/
def answer (level : Level) (session : Session) : Option ByteArray → String × String × Option Session
  | none => (farewell, "", none)
  | some line =>
    match String.fromUTF8? line with
    | none => (unreadableLine, "", none)
    | some text =>
      let (outcome, events, after) := session.step (meant text)
      (outcome.text, logText level events, some after)

def runLines (level : Level) (session : Session) : List (List UInt8) → String × String
  | [] =>
    let (shown, log, _) := answer level session none
    (shown, prompt level ++ log)
  | line :: rest =>
    let (shown, log, after) := answer level session (some ⟨line.toArray⟩)
    match after with
    | none => (shown, prompt level ++ log)
    | some next =>
      let (others, logs) := runLines level next rest
      (shown ++ others, prompt level ++ log ++ logs)

def runInput (options : Options) (input : ByteArray) : Report :=
  let (output, log) :=
    runLines options.level (.start options.settings) (splitLines [] input.toList)
  ⟨0, output, greeting options ++ log⟩

/-- The whole command: none if its arguments are wrong. -/
def run (arguments : List String) (readFile : String → Except String ByteArray)
    (input : ByteArray) : Option Report :=
  (Options.ofArguments? arguments).map fun options =>
    match options.path with
    | some path => runScript options path (readFile path)
    | none => runInput options input

end Polyglot.Command
