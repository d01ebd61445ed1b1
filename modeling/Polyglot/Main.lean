import Polyglot.Command.Console

/-! The command line: moves arguments, files and lines to the console and its texts back. -/
namespace Polyglot.Command

def usage : String :=
  "usage: [-d NAME] [--max-call-depth N] [--max-nesting N] [-v]... [PATH]\n"

def readFailure : IO.Error → String
  | .noFileOrDirectory _ _ _ => "No such file or directory (os error 2)"
  | .permissionDenied _ _ _ => "Permission denied (os error 13)"
  | .inappropriateType _ _ _ => "Is a directory (os error 21)"
  | other => toString other

def readContents (path : String) : IO (Except String ByteArray) := do
  try
    return .ok (← IO.FS.readBinFile path)
  catch failure =>
    return .error (readFailure failure)

/-- The bytes up to and with the next line's end, none at the end of the input. -/
def readLine (input : IO.FS.Stream) : IO (Option ByteArray) := do
  let mut line := ByteArray.empty
  repeat
    let next ← input.read 1
    line := line ++ next
    if next.isEmpty || next.toList == [10] then break
  return if line.isEmpty then none else some line

def converse (options : Options) : IO Unit := do
  let input ← IO.getStdin
  let output ← IO.getStdout
  let errors ← IO.getStderr
  let mut session := Session.start options.settings
  repeat
    errors.putStr (prompt options.level)
    let (shown, log, after) := answer options.level session (← readLine input)
    errors.putStr log
    output.putStr shown
    output.flush
    match after with
    | none => break
    | some next => session := next

end Polyglot.Command

open Polyglot.Command in
def main (arguments : List String) : IO UInt32 := do
  match Options.ofArguments? arguments with
  | none =>
    IO.eprint usage
    return 2
  | some options =>
    match options.path with
    | some path =>
      let report := runScript options path (← readContents path)
      IO.eprint report.errors
      IO.print report.output
      return report.code.toUInt32
    | none =>
      IO.eprint (greeting options)
      converse options
      return 0
