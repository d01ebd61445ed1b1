import Polyglot.Proofs.Printing

/-! Texts for given kinds of tokens. A name, a keyword, a bracket or an equals sign can be written
down in every dialect, and behind a blank it is scanned back to a token of its kind whatever stands
before the blank. -/
namespace Polyglot

/-- The kinds for which a text is given. -/
def TokenKind.writable : TokenKind → Bool
  | .identifier | .keyword _ | .assign | .leftParen | .rightParen | .leftBrace | .rightBrace => true
  | _ => false

/-- The kinds that are written alike in every dialect. -/
def TokenKind.neutral : TokenKind → Bool
  | .keyword _ => false
  | kind => kind.writable

/-- A lexeme of this kind in the dialect. -/
def Lexeme.ofKind (dialect : Dialect) : TokenKind → Lexeme
  | .identifier => ⟨.word, ['x'], ['x']⟩
  | .keyword word => ⟨.word, (dialect.spelling word).toList, (dialect.spelling word).toList⟩
  | kind => plain kind kind.name.toList

theorem Lexeme.ofKind_form (dialect : Dialect) {kind : TokenKind} (known : kind.writable = true)
    (after : List Char) : (ofKind dialect kind).Form after := by
  cases kind <;> try cases known
  case identifier =>
    have letter : isLetter 'x' = true := isLetter_of_ascii (by decide)
    exact .word (List.cons_ne_nil _ _) (List.forall_mem_singleton.mpr letter) after
  case keyword word =>
    have spelled := dialect.spelling_letters word
    exact .word spelled.1 spelled.2 after
  all_goals exact .symbol (by decide) after

theorem Lexeme.ofKind_kind (dialect : Dialect) {kind : TokenKind} (known : kind.writable = true)
    (start : Nat) : ((ofKind dialect kind).token dialect start).kind = kind := by
  cases kind <;> try cases known
  case identifier =>
    show dialect.classify (String.ofList ['x']) = _
    cases dialect <;> decide
  case keyword word =>
    show dialect.classify (String.ofList (dialect.spelling word).toList) = _
    rw [String.ofList_toList, Dialect.classify_spelling]
  all_goals rfl

/-- Lexemes of these kinds, each behind a blank. -/
def wording (dialect : Dialect) (kinds : List TokenKind) : List Char :=
  kinds.flatMap fun kind => ' ' :: (Lexeme.ofKind dialect kind).span

theorem wording_breaks (dialect : Dialect) (kinds : List TokenKind) :
    Breaks (wording dialect kinds) := by
  cases kinds with
  | nil => exact breaks_nil
  | cons kind kinds => exact breaks_cons (by decide) _

/-- The first lexeme of a wording. -/
theorem Scanner.next_wording {scanner : Scanner} {kind : TokenKind} {kinds : List TokenKind}
    (known : kind.writable = true)
    (text : scanner.rest = wording scanner.dialect (kind :: kinds)) :
    scanner.next.1.kind = kind ∧ scanner.next.2.rest = wording scanner.dialect kinds ∧
      scanner.next.2.dialect = scanner.dialect := by
  have step := next_of_form (List.forall_mem_singleton.mpr (by decide : isBlank ' ' = true))
    (Lexeme.ofKind_form scanner.dialect known _) (wording_breaks scanner.dialect kinds _) text
  rw [step]
  exact ⟨Lexeme.ofKind_kind scanner.dialect known _, rfl, rfl⟩

theorem Scanner.switchingAfter_wording_nil {scanner : Scanner} {afterTilde : Bool}
    (text : scanner.rest = wording scanner.dialect []) :
    scanner.switchingAfter afterTilde = [] := by
  have ended : scanner.next.1.kind = .endOfInput := by
    rw [next_kind_end_iff, text]
    rfl
  rw [switchingAfter_eq, if_pos ended]

theorem Scanner.switchingAfter_wording_cons {scanner : Scanner} {afterTilde : Bool}
    {kind : TokenKind} (known : kind.writable = true) (same : scanner.next.1.kind = kind) :
    scanner.switchingAfter afterTilde =
      scanner.next.1 :: (scanner.next.2.behind afterTilde scanner.next.1).switching := by
  have no_end : kind ≠ .endOfInput := by rintro rfl; cases known
  have no_tilde : kind ≠ .tilde := by rintro rfl; cases known
  rw [switchingAfter_eq, same, if_neg no_end, decide_eq_false no_tilde]
  rfl

/-- A wording is scanned back to its kinds. -/
theorem Scanner.switching_wording {kinds : List TokenKind}
    (known : ∀ kind ∈ kinds, kind.writable = true) {scanner : Scanner}
    (text : scanner.rest = wording scanner.dialect kinds) :
    scanner.switching.map Token.kind = kinds := by
  induction kinds generalizing scanner with
  | nil => rw [switching, switchingAfter_wording_nil text, List.map_nil]
  | cons kind kinds ih =>
    obtain ⟨here, later⟩ := List.forall_mem_cons.mp known
    obtain ⟨same, rest, dialect⟩ := next_wording here text
    rw [switching, switchingAfter_wording_cons here same, behind_false, List.map_cons, same]
    exact congrArg _ (ih later (dialect ▸ rest))

theorem TokenKind.writable_of_neutral {kind : TokenKind} (neutral : kind.neutral = true) :
    kind.writable = true := by
  cases kind <;> first | exact neutral | cases neutral

theorem wording_neutral {kinds : List TokenKind} (neutral : ∀ kind ∈ kinds, kind.neutral = true)
    (one other : Dialect) : wording one kinds = wording other kinds := by
  refine List.flatMap_congr fun kind member => ?_
  have known := neutral kind member
  cases kind <;> first | rfl | cases known

/-- What is written alike in every dialect is scanned back wherever it stands, even behind a
`~`. -/
theorem Scanner.switchingAfter_wording {kinds : List TokenKind}
    (neutral : ∀ kind ∈ kinds, kind.neutral = true) (afterTilde : Bool) {dialect : Dialect}
    {scanner : Scanner} (text : scanner.rest = wording dialect kinds) :
    (scanner.switchingAfter afterTilde).map Token.kind = kinds := by
  rw [wording_neutral neutral dialect scanner.dialect] at text
  cases kinds with
  | nil => rw [switchingAfter_wording_nil text, List.map_nil]
  | cons kind kinds =>
    obtain ⟨here, later⟩ := List.forall_mem_cons.mp neutral
    have known := TokenKind.writable_of_neutral here
    obtain ⟨same, rest, _⟩ := next_wording known text
    rw [switchingAfter_wording_cons known same, List.map_cons, same]
    -- The name behind a `~` may switch the dialect; what follows is written alike in the new one.
    refine congrArg _ (switching_wording (fun kind member =>
      TokenKind.writable_of_neutral (later kind member)) ?_)
    rw [behind_rest, rest]
    exact wording_neutral later _ _

end Polyglot
