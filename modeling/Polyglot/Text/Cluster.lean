import Polyglot.Text.Role

/-! Extended grapheme clusters: the pieces of a text that a reader takes for one character. -/
namespace Polyglot.Text

/-- How far a text is towards a character that joins it from behind. -/
inductive Progress where
  | none
  | begun
  | ready
  deriving DecidableEq, Repr

/-- What the end of a text says about the character after it. -/
structure Ending where
  role : Role
  /-- Ready after a pictograph with its extensions and one joiner. -/
  pictograph : Progress
  /-- Ready after a consonant with a linker among its extensions. -/
  conjunct : Progress
  /-- Whether an odd number of regional indicators stands at the end. -/
  halfFlag : Bool

def Progress.pictographAfter (progress : Progress) : Role → Progress
  | .pictograph => .begun
  | .extend | .linker | .nonJoiner => if progress = .begun then .begun else .none
  | .joiner => if progress = .begun then .ready else .none
  | _ => .none

def Progress.conjunctAfter (progress : Progress) : Role → Progress
  | .consonant => .begun
  | .extend | .joiner => progress
  | .linker => if progress = .none then .none else .ready
  | _ => .none

def Ending.ofRole (role : Role) : Ending :=
  ⟨role, Progress.none.pictographAfter role, Progress.none.conjunctAfter role, role = .regional⟩

def Ending.next (ending : Ending) (role : Role) : Ending :=
  ⟨role, ending.pictograph.pictographAfter role, ending.conjunct.conjunctAfter role,
    role = .regional && !ending.halfFlag⟩

/-- Whether two letters of a syllable stand in their order. -/
def Role.completes : Role → Role → Bool
  | .leading, .leading | .leading, .vowel | .leading, .openSyllable | .leading, .closedSyllable => true
  | .openSyllable, .vowel | .openSyllable, .trailing | .vowel, .vowel | .vowel, .trailing => true
  | .closedSyllable, .trailing | .trailing, .trailing => true
  | _, _ => false

def Ending.joins (ending : Ending) (role : Role) : Bool :=
  if ending.role.isApart || role.isApart then
    ending.role = .carriageReturn && role = .lineFeed
  else match role with
    | .extend | .linker | .joiner | .nonJoiner | .spacing => true
    | .pictograph => ending.role = .prepended || ending.pictograph = .ready
    | .consonant => ending.role = .prepended || ending.conjunct = .ready
    | .regional => ending.role = .prepended || ending.halfFlag
    | _ => ending.role = .prepended || ending.role.completes role

/-- The clusters of a text whose last cluster so far is given backwards. -/
def clustersAfter (ending : Ending) (last : List Char) : List Char → List (List Char)
  | [] => [last.reverse]
  | c :: rest =>
    let role := Role.ofChar c
    if ending.joins role then clustersAfter (ending.next role) (c :: last) rest
    else last.reverse :: clustersAfter (ending.next role) [c] rest

def clusters : List Char → List (List Char)
  | [] => []
  | c :: rest => clustersAfter (.ofRole (.ofChar c)) [c] rest

end Polyglot.Text
