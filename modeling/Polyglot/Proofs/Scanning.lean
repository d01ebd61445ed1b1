import Polyglot.Token.Scanner
import Mathlib.Data.List.Basic
import Mathlib.Data.List.TakeWhile

/-! What one step of a scanner takes from the text. A lexeme covers a start of the text that is not
empty, and the token of a lexeme never marks the end, so scanning comes to its end. -/
namespace Polyglot

/-- What holds of the characters with codes below a bound, seen code by code. -/
theorem char_below (holds : Char → Prop) {bound : Nat}
    (all : ∀ code < bound, holds (Char.ofNat code)) {c : Char} (below : c.toNat < bound) :
    holds c := by
  have here := all c.toNat below
  rwa [Char.ofNat_toNat] at here

theorem isDigit_bounds {c : Char} (digit : c.isDigit = true) : 48 ≤ c.toNat ∧ c.toNat < 58 := by
  simpa [Char.isDigit, UInt32.le_iff_toNat_le, Nat.lt_succ_iff] using digit

/-- Below 128 the letters are those of ASCII and the underscore. -/
theorem isLetter_of_ascii {c : Char} (ascii : c.toNat < 128) :
    isLetter c = (c.isAlpha || c == '_') :=
  char_below (fun c => isLetter c = (c.isAlpha || c == '_')) (by decide +kernel) ascii

/-- A character of ASCII that is neither a letter nor the underscore. -/
def isAsciiSign (c : Char) : Bool :=
  c.toNat < 128 && !(c.isAlpha || c == '_')

theorem not_letter_of_asciiSign {c : Char} (sign : isAsciiSign c = true) : isLetter c = false := by
  simp only [isAsciiSign, Bool.and_eq_true, decide_eq_true_eq, Bool.not_eq_true'] at sign
  rw [isLetter_of_ascii sign.1]
  exact sign.2

theorem byteLength_append (one other : List Char) :
    byteLength (one ++ other) = byteLength one + byteLength other := by
  induction one with
  | nil => rw [List.nil_append, byteLength, Nat.zero_add]
  | cons c one ih => rw [List.cons_append, byteLength, byteLength, ih, Nat.add_assoc]

namespace Lexeme

/-- A lexeme covers a start of the text, one character at least, and never stands for the end of the
source. -/
structure Covers (lexeme : Lexeme) (text : List Char) : Prop where
  start : lexeme.span <+: text
  nonempty : lexeme.span ≠ []
  more : lexeme.kind ≠ .other .endOfInput

theorem symbol?_covers {c : Char} {rest : List Char} {lexeme : Lexeme}
    (found : symbol? c rest = some lexeme) : lexeme.Covers (c :: rest) := by
  unfold symbol? at found
  split at found <;> cases found <;> constructor <;> simp [plain]

theorem closing?_start {text contents span : List Char}
    (closed : closing? text = some (contents, span)) : span <+: text := by
  fun_induction closing? text generalizing contents span with
  | case1 => cases closed
  | case2 =>
    cases closed
    simp
  | case3 c rest ih =>
    obtain ⟨⟨inner, covered⟩, tail, same⟩ := Option.map_eq_some_iff.mp closed
    cases same
    obtain ⟨left, rfl⟩ := ih tail
    exact ⟨left, rfl⟩
  | case4 c rest _ _ ih =>
    obtain ⟨⟨inner, covered⟩, tail, same⟩ := Option.map_eq_some_iff.mp closed
    cases same
    obtain ⟨left, rfl⟩ := ih tail
    exact ⟨left, rfl⟩

theorem string_covers (rest : List Char) : (string rest).Covers ('"' :: rest) := by
  unfold string
  split
  · rename_i contents span closed
    obtain ⟨left, same⟩ := closing?_start closed
    exact ⟨⟨left, by rw [← same]; rfl⟩, by simp, by simp⟩
  · exact ⟨List.prefix_rfl, by simp [plain], by simp [plain]⟩

theorem word_covers {c : Char} {rest : List Char} (letter : isLetter c = true) :
    (word (c :: rest)).Covers (c :: rest) where
  start := List.takeWhile_prefix _
  nonempty := by simp [word, letter]
  more := by simp [word]

theorem number_covers {c : Char} {rest : List Char} (digit : c.isDigit = true) :
    (number (c :: rest)).Covers (c :: rest) := by
  have parts := List.takeWhile_append_dropWhile (p := Char.isDigit) (l := c :: rest)
  have whole : (c :: rest).takeWhile Char.isDigit ≠ [] := by simp [digit]
  unfold number
  dsimp only
  split
  · rename_i tail dropped
    split
    · exact ⟨List.takeWhile_prefix _, whole, by simp [plain]⟩
    · rename_i first more taken
      refine ⟨?_, by simp [plain], by simp [plain]⟩
      have fraction := List.takeWhile_append_dropWhile (p := Char.isDigit) (l := tail)
      rw [taken] at fraction
      refine ⟨tail.dropWhile Char.isDigit, ?_⟩
      show ((c :: rest).takeWhile Char.isDigit ++ '.' :: first :: more) ++ _ = c :: rest
      rw [List.append_assoc, List.cons_append, fraction, ← dropped, parts]
  · exact ⟨List.takeWhile_prefix _, whole, by simp [plain]⟩

theorem first_covers (c : Char) (rest : List Char) : (first c rest).Covers (c :: rest) := by
  unfold first
  split
  · rename_i found
    exact symbol?_covers found
  split_ifs with quote letter digit
  · rw [eq_of_beq quote]
    exact string_covers rest
  · exact word_covers letter
  · exact number_covers digit
  · exact ⟨by simp [plain], by simp [plain], by simp [plain]⟩

theorem Covers.token_kind {lexeme : Lexeme} {text : List Char} (covers : lexeme.Covers text)
    (dialect : Dialect) (literal : String) :
    lexeme.kind.kind dialect literal ≠ .endOfInput := by
  cases kind : lexeme.kind with
  | word =>
    unfold LexemeKind.kind Dialect.classify
    dsimp only
    split <;> simp
  | other scanned =>
    intro same
    exact covers.more (kind.trans (congrArg _ same))

end Lexeme

namespace Scanner

theorem next_at_end {scanner : Scanner} (blank : scanner.rest.dropWhile isBlank = []) :
    scanner.next =
      (⟨.endOfInput, "", scanner.offset + byteLength (scanner.rest.takeWhile isBlank),
          scanner.offset + byteLength (scanner.rest.takeWhile isBlank)⟩,
        ⟨[], scanner.offset + byteLength (scanner.rest.takeWhile isBlank), scanner.dialect⟩) := by
  simp only [next, blank]

theorem next_at_lexeme {scanner : Scanner} {c : Char} {rest : List Char}
    (shown : scanner.rest.dropWhile isBlank = c :: rest) :
    scanner.next =
      let start := scanner.offset + byteLength (scanner.rest.takeWhile isBlank)
      let lexeme := Lexeme.first c rest
      let stop := start + byteLength lexeme.span
      (⟨lexeme.kind.kind scanner.dialect (String.ofList lexeme.literal),
          String.ofList lexeme.literal, start, stop⟩,
        ⟨(c :: rest).drop lexeme.span.length, stop, scanner.dialect⟩) := by
  simp only [next, shown]

theorem next_kind_end_iff (scanner : Scanner) :
    scanner.next.1.kind = .endOfInput ↔ scanner.rest.dropWhile isBlank = [] := by
  cases shown : scanner.rest.dropWhile isBlank with
  | nil => simp [next_at_end shown]
  | cons c rest =>
    rw [next_at_lexeme shown]
    simp [(Lexeme.first_covers c rest).token_kind]

theorem next_shorter {scanner : Scanner} (more : scanner.next.1.kind ≠ .endOfInput) :
    scanner.next.2.rest.length < scanner.rest.length := by
  cases shown : scanner.rest.dropWhile isBlank with
  | nil => exact absurd ((next_kind_end_iff scanner).mpr shown) more
  | cons c rest =>
    have covers := Lexeme.first_covers c rest
    have taken := List.length_pos_iff.mpr covers.nonempty
    have left : (scanner.rest.dropWhile isBlank).length ≤ scanner.rest.length :=
      (List.dropWhile_suffix isBlank).length_le
    rw [shown] at left
    rw [next_at_lexeme shown]
    simp only [List.length_drop]
    simp only [List.length_cons] at left ⊢
    omega

theorem not_blank_of_dropWhile {text rest : List Char} {c : Char}
    (shown : text.dropWhile isBlank = c :: rest) : isBlank c = false := by
  have head := List.head?_dropWhile_not isBlank text
  rw [shown] at head
  simpa using head

theorem next_total (scanner : Scanner) :
    scanner.next.2.offset + byteLength scanner.next.2.rest =
      scanner.offset + byteLength scanner.rest := by
  have parts := List.takeWhile_append_dropWhile (p := isBlank) (l := scanner.rest)
  cases shown : scanner.rest.dropWhile isBlank with
  | nil =>
    rw [shown, List.append_nil] at parts
    rw [next_at_end shown, parts, byteLength, Nat.add_zero]
  | cons c rest =>
    obtain ⟨left, split⟩ := (Lexeme.first_covers c rest).start
    have dropped : (c :: rest).drop (Lexeme.first c rest).span.length = left := by
      rw [← split, List.drop_left]
    rw [next_at_lexeme shown]
    dsimp only
    rw [dropped]
    conv_rhs => rw [← parts, shown, ← split, byteLength_append, byteLength_append]
    omega

theorem tokensWithin_bound (bound other : Nat) (scanner : Scanner)
    (enough : scanner.rest.length < bound) (plenty : scanner.rest.length < other) :
    tokensWithin bound scanner = tokensWithin other scanner := by
  induction bound generalizing other scanner with
  | zero => omega
  | succ bound ih =>
    obtain ⟨other, rfl⟩ : ∃ smaller, other = smaller + 1 := ⟨other - 1, by omega⟩
    unfold tokensWithin
    dsimp only
    by_cases ended : scanner.next.1.kind = .endOfInput
    · rw [if_pos ended, if_pos ended]
    · have shorter := next_shorter ended
      rw [if_neg ended, if_neg ended, ih other _ (by omega) (by omega)]

theorem tokens_eq (scanner : Scanner) :
    scanner.tokens.1 = if scanner.next.1.kind = .endOfInput then []
      else scanner.next.1 :: scanner.next.2.tokens.1 := by
  rw [tokens, tokensWithin]
  dsimp only
  split
  · rfl
  · rename_i more
    rw [tokens, tokensWithin_bound _ _ _ (next_shorter more) (Nat.lt_succ_self _)]

end Scanner

end Polyglot
