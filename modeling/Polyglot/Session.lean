import Polyglot.Run.Execute

/-! Sessions: lines run one after another in one scope. Bindings stay, and so does the dialect in
which a line ends, be the line sound or not. -/
namespace Polyglot

structure Session where
  settings : Settings
  /-- The dialect in which the last line ended. -/
  dialect : Dialect
  scope : ScopeId
  machine : Machine

namespace Session

def start (settings : Settings) : Session :=
  let (scope, store) := Store.empty.openScope none
  { settings, dialect := settings.dialect, scope, machine := { Machine.initial with store } }

/-- Runs one line: its outcome, what was noted, and the session after it. -/
def step (session : Session) (line : String) : Outcome × List Event × Session :=
  let settings := { session.settings with dialect := session.dialect }
  let execution := execute settings session.scope (line ++ "\n") session.machine
  let changed := if execution.dialect = session.dialect then []
    else [.sessionDialectChanged session.dialect execution.dialect]
  (execution.outcome, execution.reading ++ changed ++ execution.running,
    { session with dialect := execution.dialect, machine := execution.machine })

end Session

/-- An output that may take only so many bytes. -/
structure Output where
  /-- The bytes that it still takes; without a number it takes all. -/
  room : Option Nat

namespace Output

/-- Writes bytes: those taken, whether all were, and the output after it. -/
def write (output : Output) (bytes : ByteArray) : ByteArray × Bool × Output :=
  match output.room with
  | none => (bytes, true, output)
  | some room =>
    (bytes.extract 0 (min room bytes.size), bytes.size ≤ room, ⟨some (room - bytes.size)⟩)

/-- Writes pieces in turn, up to the first one that is not taken whole. -/
def writeAll (output : Output) : List ByteArray → ByteArray × Bool × Output
  | [] => (.empty, true, output)
  | piece :: rest =>
    let (taken, complete, after) := output.write piece
    if complete then
      let (others, finished, last) := after.writeAll rest
      (taken ++ others, finished, last)
    else (taken, false, after)

/-- Shows an outcome. An output that does not take all of it is noted. -/
def display (output : Output) (outcome : Outcome) : ByteArray × List Event × Output :=
  let (taken, complete, after) := output.writeAll (outcome.pieces.map String.toUTF8)
  (taken, if complete then [] else [.outputFull], after)

end Output

end Polyglot
