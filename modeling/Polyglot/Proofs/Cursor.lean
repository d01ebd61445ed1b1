import Polyglot.Proofs.Joining

/-! A parser with all of its state in one record: where it stands in the text, the dialect, the token
that it has read ahead and how deep it is nested. It keeps the depth by hand, one level for each
expression that it is inside of and one for each link behind an operand, and gives the levels back
on every way out. Everything else it reads by the same rules as a reader does. -/
namespace Polyglot

/-- The text from this byte on. -/
def textFrom : Nat → List Char → List Char
  | 0, text => text
  | _ + 1, [] => []
  | bytes + 1, c :: rest => textFrom (bytes + 1 - c.utf8Size) rest

/-- The scanner at a place of a text. -/
def Scanner.within (text : List Char) (place : Nat) (dialect : Dialect) : Scanner :=
  ⟨textFrom place text, place, dialect⟩

structure Cursor where
  text : List Char
  /-- The first byte not scanned yet. -/
  position : Nat
  dialect : Dialect
  /-- The token that has been scanned but not taken. -/
  peeked : Option Token
  depth : Int
  /-- All depths so far, the latest first. -/
  depths : List Int

namespace Cursor

def ofChars (dialect : Dialect) (text : List Char) : Cursor :=
  ⟨text, 0, dialect, none, 0, []⟩

def scanner (cursor : Cursor) : Scanner :=
  .within cursor.text cursor.position cursor.dialect

/-- Where the next token begins, or where it is looked for. -/
def place (cursor : Cursor) : Nat :=
  match cursor.peeked with
  | some token => token.start
  | none => cursor.position

/-- The next token and the cursor behind it. -/
def scan (cursor : Cursor) : Token × Cursor :=
  (cursor.scanner.next.1, { cursor with position := cursor.scanner.next.2.offset })

/-- The next token, which stays next. -/
def peek (cursor : Cursor) : Token × Cursor :=
  match cursor.peeked with
  | some token => (token, cursor)
  | none => (cursor.scan.1, { cursor.scan.2 with peeked := some cursor.scan.1 })

def take (cursor : Cursor) : Token × Cursor :=
  match cursor.peeked with
  | some token => (token, { cursor with peeked := none })
  | none => cursor.scan

/-- The cursor after a pragma with this name. What was read ahead was scanned in the old dialect, so
it is scanned again. -/
def switch (name : String) (cursor : Cursor) : Cursor :=
  { cursor with position := cursor.place, dialect := Dialect.resolve name, peeked := none }

def atDepth (depth : Int) (cursor : Cursor) : Cursor :=
  { cursor with depth, depths := depth :: cursor.depths }

end Cursor

instance : TokenSource Cursor where
  peek := Cursor.peek
  take := Cursor.take
  switch := Cursor.switch
  remaining cursor := cursor.text.length

abbrev Walk := ParseFrom Cursor

namespace Walk
open Parse (attempt continues link operand peek startsExpression take tooDeep)
variable {α : Type}

/-- One level deeper, unless that would be too deep. -/
def enter (limit : Nat) : Walk Unit := do
  let depth := (← get).depth
  if limit ≤ depth then tooDeep limit else modify (Cursor.atDepth (depth + 1))

def leave (levels : Nat) : Walk Unit :=
  modify fun cursor => cursor.atDepth (cursor.depth - levels)

def settle : Except SyntaxFault α → Walk α
  | .ok value => pure value
  | .error fault => throw fault

mutual

/-- An expression. The first number bounds the recursion, which the depth keeps from reaching
zero. -/
def expression (limit : Nat) : Nat → Precedence → Walk Expr
  | 0, _ => tooDeep limit
  | more + 1, floor => do
    enter limit
    let result ← attempt do
      let first ← peek
      if startsExpression first.kind then
        let token ← take
        let left ← operand (expression limit more) token
        let (result, count) ← links limit more floor left 0
        leave count
        settle result
      else throw (.noOperand first)
    leave 1
    settle result

/-- The links behind an operand, and how many levels have been entered for them. -/
def links (limit : Nat) :
    Nat → Precedence → Expr → Nat → Walk (Except SyntaxFault Expr × Nat)
  | 0, _, left, count => return (.ok left, count)
  | more + 1, floor, left, count => do
    if ← continues floor then
      match ← attempt (enter limit) with
      | .error fault => return (.error fault, count)
      | .ok _ =>
        let token ← take
        match ← attempt (link (expression limit more) left token) with
        | .ok longer => links limit more floor longer (count + 1)
        | .error fault => return (.error fault, count + 1)
    else return (.ok left, count)

end

def source (limit : Nat) : Walk Parsed := do
  return .ofLines (← Parse.repeating (Parse.nextLine (expression limit (limit + 1))))

end Walk

end Polyglot
