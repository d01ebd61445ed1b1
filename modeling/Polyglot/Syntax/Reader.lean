import Polyglot.Log
import Polyglot.Syntax.Fault
import Polyglot.Token.Scanner

/-! Reading tokens one at a time. A reader stands before a token, which it may look at any number of
times before it takes it. The first look is noted, later ones are not. -/
namespace Polyglot

structure Reader where
  /-- The scanner in front of the next token. -/
  scanner : Scanner
  /-- Whether the next token has been looked at. -/
  seen : Bool
  /-- What has been noted so far, the latest first. -/
  noted : List Event

def Reader.ofScanner (scanner : Scanner) : Reader :=
  ⟨scanner, false, []⟩

def Reader.ofText (dialect : Dialect) (text : String) : Reader :=
  .ofScanner (.ofText dialect text)

def Reader.dialect (reader : Reader) : Dialect :=
  reader.scanner.dialect

def Reader.next (reader : Reader) : Token :=
  reader.scanner.next.1

/-- Notes the next token unless that has been done or the source is at its end. -/
def Reader.look (reader : Reader) : Reader :=
  if reader.seen || reader.next.kind = .endOfInput then reader
  else { reader with seen := true, noted := .token reader.next :: reader.noted }

def Reader.advance (reader : Reader) : Reader :=
  { reader.look with scanner := reader.scanner.next.2, seen := false }

/-- From here on words are classified by the dialect of that name. If the next token has been looked
at, that was in the old dialect, so it is scanned again. -/
def Reader.switch (name : String) (reader : Reader) : Reader :=
  { reader with
    scanner := { reader.scanner with dialect := Dialect.resolve name }
    seen := false
    noted := .dialectSwitched name (Dialect.resolve name) ::
      (Dialect.resolution name ++ reader.noted) }

/-- What tokens can be had from, one at a time. -/
class TokenSource (σ : Type) where
  /-- The next token, which stays next. -/
  peek : σ → Token × σ
  take : σ → Token × σ
  switch : String → σ → σ
  /-- No more tokens than this are left, the end apart. -/
  remaining : σ → Nat

instance : TokenSource Reader where
  peek reader := (reader.next, reader.look)
  take reader := (reader.next, reader.advance)
  switch := Reader.switch
  remaining reader := reader.scanner.rest.length

/-- Reads a part of what a source has, or tells what is wrong with it. The source stays where a fault
left it. -/
abbrev ParseFrom (σ : Type) := EStateM SyntaxFault σ

abbrev Parse := ParseFrom Reader

namespace Parse

def note (event : Event) : Parse Unit :=
  modify fun reader => { reader with noted := event :: reader.noted }

variable {σ α : Type}

def attempt (part : ParseFrom σ α) : ParseFrom σ (Except SyntaxFault α) := fun source =>
  match part.run source with
  | .ok value after => .ok (.ok value) after
  | .error fault after => .ok (.error fault) after

def repeatWithin (step : ParseFrom σ (Option α)) : Nat → ParseFrom σ (List α)
  | 0 => return []
  | bound + 1 => do
    match ← step with
    | none => return []
    | some first => return first :: (← repeatWithin step bound)

variable [TokenSource σ]

def peek : ParseFrom σ Token :=
  modifyGet TokenSource.peek

def take : ParseFrom σ Token :=
  modifyGet TokenSource.take

def accept (kind : TokenKind) : ParseFrom σ Bool := do
  if (← peek).kind = kind then
    let _ ← take
    return true
  else return false

def expect (kind : TokenKind) : ParseFrom σ Token := do
  let found ← peek
  if found.kind = kind then take else throw (.unexpected kind found)

def switchDialect (name : String) : ParseFrom σ Unit :=
  modify (TokenSource.switch name)

/-- Repeats a step until it yields nothing. Every step that yields something takes a token, so the
tokens that are left bound their number. -/
def repeating (step : ParseFrom σ (Option α)) : ParseFrom σ (List α) := do
  repeatWithin step (TokenSource.remaining (← get) + 1)

end Parse

end Polyglot
