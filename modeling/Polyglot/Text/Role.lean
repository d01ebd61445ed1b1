import Polyglot.Text.Conjunct
import Polyglot.Text.Extending
import Polyglot.Text.Pictographic
import Polyglot.Text.Spacing

/-! What a character does to the cluster it stands in: the property Grapheme_Cluster_Break, with the
pictographs and the parts of Indic conjuncts told apart from the rest. -/
namespace Polyglot.Text

inductive Role where
  | carriageReturn
  | lineFeed
  | control
  | extend
  | linker
  | joiner
  | nonJoiner
  | spacing
  | prepended
  | regional
  | leading
  | vowel
  | trailing
  | openSyllable
  | closedSyllable
  | pictograph
  | consonant
  | other
  deriving DecidableEq, Repr

/-- Controls, formats and separators of lines: no character joins them. -/
def controls : Ranges :=
  [(0x0, 0x9), (0xb, 0xc), (0xe, 0x1f), (0x7f, 0x9f), (0xad, 0xad), (0x61c, 0x61c),
   (0x180e, 0x180e), (0x200b, 0x200b), (0x200e, 0x200f), (0x2028, 0x202e), (0x2060, 0x206f),
   (0xfeff, 0xfeff), (0xfff0, 0xfffb), (0x13430, 0x1343f), (0x1bca0, 0x1bca3), (0x1d173, 0x1d17a),
   (0xe0000, 0xe001f), (0xe0080, 0xe00ff), (0xe01f0, 0xe0fff)]

/-- Signs that belong to the character after them. -/
def prepended : Ranges :=
  [(0x600, 0x605), (0x6dd, 0x6dd), (0x70f, 0x70f), (0x890, 0x891), (0x8e2, 0x8e2), (0xd4e, 0xd4e),
   (0x110bd, 0x110bd), (0x110cd, 0x110cd), (0x111c2, 0x111c3), (0x113d1, 0x113d1),
   (0x1193f, 0x1193f), (0x11941, 0x11941), (0x11a84, 0x11a89), (0x11d46, 0x11d46),
   (0x11f02, 0x11f02)]

/-- Letters that begin, carry and end a syllable of an alphabet written in blocks. -/
def leadingLetters : Ranges :=
  [(0x1100, 0x115f), (0xa960, 0xa97c)]

def vowelLetters : Ranges :=
  [(0x1160, 0x11a7), (0xd7b0, 0xd7c6), (0x16d63, 0x16d63), (0x16d67, 0x16d6a)]

def trailingLetters : Ranges :=
  [(0x11a8, 0x11ff), (0xd7cb, 0xd7fb)]

/-- The tables of the roles, an earlier one before a later one that overlaps it. -/
def roles : List (Ranges × Role) :=
  [([(0xd, 0xd)], .carriageReturn), ([(0xa, 0xa)], .lineFeed), (controls, .control),
   ([(0x200c, 0x200c)], .nonJoiner), ([(0x200d, 0x200d)], .joiner), (linkers, .linker),
   (extending, .extend), ([(0x1f3fb, 0x1f3ff)], .extend), (spacing, .spacing),
   (prepended, .prepended), ([(0x1f1e6, 0x1f1ff)], .regional), (leadingLetters, .leading),
   (vowelLetters, .vowel), (trailingLetters, .trailing), (pictographic, .pictograph),
   (consonants, .consonant)]

/-- The precomposed syllables come in rows of 28, and only the first one of a row has no trailing
letter. -/
def Role.ofSyllable (index : Nat) : Role :=
  if index % 28 = 0 then .openSyllable else .closedSyllable

def Role.ofChar (c : Char) : Role :=
  if 0xac00 ≤ c.toNat && c.toNat ≤ 0xd7a3 then .ofSyllable (c.toNat - 0xac00)
  else match roles.find? fun (table, _) => Ranges.contains c.toNat table with
    | some (_, role) => role
    | none => .other

def Role.isApart : Role → Bool
  | .carriageReturn | .lineFeed | .control => true
  | _ => false

end Polyglot.Text
