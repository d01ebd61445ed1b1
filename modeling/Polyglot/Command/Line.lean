import Polyglot.Text.Cluster

/-! Lines of input: where they end, and what is left of one after its backspaces. -/
namespace Polyglot.Command

/-- The pieces of input that end with a line's end, and what is left after the last one. -/
def splitLines (piece : List UInt8) : List UInt8 → List (List UInt8)
  | [] => if piece.isEmpty then [] else [piece.reverse]
  | byte :: rest =>
    if byte = 10 then (byte :: piece).reverse :: splitLines [] rest
    else splitLines (byte :: piece) rest

def withoutEnd (line : List Char) : List Char :=
  match line.reverse with
  | '\n' :: '\r' :: inner => inner.reverse
  | '\n' :: inner => inner.reverse
  | _ => line

/-- A line while it is typed, the latest first: its characters, and for each cluster that a backspace
can take back the bytes to take. They are counted in one byte, so a longer cluster loses only what the
count holds. -/
structure Typing where
  chars : List Char
  sizes : List UInt8

def Typing.empty : Typing := ⟨[], []⟩

/-- Takes characters off the front as long as they fit into a number of bytes. -/
def dropBytes : Nat → List Char → List Char
  | _, [] => []
  | bytes, c :: rest =>
    if c.utf8Size ≤ bytes then dropBytes (bytes - c.utf8Size) rest else c :: rest

def byteSize (cluster : List Char) : Nat :=
  cluster.foldr (fun c size => c.utf8Size + size) 0

def Typing.backspace (typing : Typing) : Typing :=
  match typing.sizes with
  | [] => typing
  | size :: sizes => ⟨dropBytes size.toNat typing.chars, sizes⟩

def Typing.add (typing : Typing) (cluster : List Char) : Typing :=
  if cluster = ['\x08'] then typing.backspace
  else ⟨cluster.reverse ++ typing.chars, UInt8.ofNat (byteSize cluster) :: typing.sizes⟩

/-- A line of input as it is meant: without its end and with its backspaces carried out. -/
def meant (line : String) : String :=
  let typing := (Text.clusters (withoutEnd line.toList)).foldl Typing.add .empty
  String.ofList typing.chars.reverse

end Polyglot.Command
