import Polyglot.Proofs.Printing

/-! Strings in canonical text. Quoting knows more escapes than the scanner does, and an escape that
the scanner does not know stands for its own characters. So a quoted text is always scanned as one
string, but the string is the text only if no such escape was needed. -/
namespace Polyglot

namespace Text

/-- What the scanner takes the quoted form of a character for. -/
def reread (c : Char) : List Char :=
  if Shown c then [c] else escape c

theorem digitChar_plain {digit : Nat} (small : digit < 16) :
    digit.digitChar ≠ '"' ∧ digit.digitChar ≠ '\\' := by
  have all : ∀ digit : Fin 16,
      Nat.digitChar digit.val ≠ '"' ∧ Nat.digitChar digit.val ≠ '\\' := by decide
  exact all ⟨digit, small⟩

theorem toDigits_plain (number : Nat) : ∀ c ∈ Nat.toDigits 16 number, c ≠ '"' ∧ c ≠ '\\' := by
  induction number using Nat.strong_induction_on with
  | _ number ih =>
    rw [Nat.toDigits_eq_if (by decide)]
    split
    · rename_i small
      exact List.forall_mem_singleton.mpr (digitChar_plain small)
    · exact List.forall_mem_append.mpr ⟨ih _ (Nat.div_lt_self (by omega) (by decide)),
        List.forall_mem_singleton.mpr (digitChar_plain (Nat.mod_lt _ (by decide)))⟩

/-- The escapes that the scanner does not know: two short ones and those by code point. -/
theorem escape_hidden {c : Char} (hidden : ¬ Shown c) :
    (c.utf8Size = 1 ∧ ∃ letter, escape c = ['\\', letter] ∧
      Lexeme.unescape letter = ['\\', letter]) ∨ escape c = codeEscape c := by
  cases short : shortEscape? c with
  | none =>
    right
    have unescaped : ¬ isPlain c = true := by
      intro plain
      apply hidden
      left
      rw [escape, short]
      exact if_pos plain
    rw [escape, short]
    exact if_neg unescaped
  | some letter =>
    left
    unfold shortEscape? at short
    split at short <;> cases short
    · exact ⟨rfl, '0', rfl, rfl⟩
    · exact absurd (Or.inr (by decide)) hidden
    · exact ⟨rfl, 'r', rfl, rfl⟩
    · exact absurd (Or.inr (by decide)) hidden
    · exact absurd (Or.inr (by decide)) hidden
    · exact absurd (Or.inr (by decide)) hidden

end Text

theorem length_le_byteLength (text : List Char) : text.length ≤ byteLength text := by
  induction text with
  | nil => exact Nat.le_refl 0
  | cons c rest ih =>
    have := c.utf8Size_pos
    rw [List.length_cons, byteLength]
    omega

namespace Lexeme

theorem Contents.append {one other text literal : List Char} (first : Contents one text)
    (second : Contents other literal) : Contents (one ++ other) (text ++ literal) := by
  induction first with
  | empty => exact second
  | plain no_quote no_escape _ ih => exact .plain no_quote no_escape ih
  | escape _ ih =>
    rw [List.append_assoc]
    exact .escape ih

theorem contents_plain {text : List Char} (plain : ∀ c ∈ text, c ≠ '"' ∧ c ≠ '\\') :
    Contents text text := by
  induction text with
  | nil => exact .empty
  | cons c text ih =>
    obtain ⟨here, later⟩ := List.forall_mem_cons.mp plain
    exact .plain here.1 here.2 (ih later)

theorem contents_codeEscape (c : Char) : Contents (Text.codeEscape c) (Text.codeEscape c) := by
  refine .escape (contents_plain ?_)
  refine List.forall_mem_cons.mpr ⟨by decide, List.forall_mem_append.mpr ⟨?_, ?_⟩⟩
  · exact Text.toDigits_plain c.toNat
  · exact List.forall_mem_singleton.mpr (by decide)

theorem contents_reread (c : Char) : Contents (Text.escape c) (Text.reread c) := by
  by_cases shown : Text.Shown c
  · rw [Text.reread, if_pos shown]
    have known := contents_escape (List.forall_mem_singleton.mpr shown)
    rwa [List.flatMap_singleton] at known
  · rw [Text.reread, if_neg shown]
    rcases Text.escape_hidden shown with ⟨_, letter, written, unknown⟩ | written
    · have kept : Contents ['\\', letter] (unescape letter ++ []) := .escape .empty
      rw [unknown] at kept
      rw [written]
      exact kept
    · rw [written]
      exact contents_codeEscape c

/-- Between the quotes stands a string, whatever the text. -/
theorem contents_quoted (text : List Char) :
    Contents (text.flatMap Text.escape) (text.flatMap Text.reread) := by
  induction text with
  | nil => exact .empty
  | cons c text ih =>
    rw [List.flatMap_cons, List.flatMap_cons]
    exact (contents_reread c).append ih

end Lexeme

namespace Text

theorem reread_longer {c : Char} (hidden : ¬ Shown c) :
    1 < (reread c).length ∧ c.utf8Size < byteLength (reread c) := by
  rw [reread, if_neg hidden]
  rcases escape_hidden hidden with ⟨size, letter, written, _⟩ | written
  · have bytes := length_le_byteLength ['\\', letter]
    rw [written, size]
    exact ⟨Nat.lt_succ_self 1, bytes⟩
  · have some_digit : 0 < (Nat.toDigits 16 c.toNat).length := Nat.length_toDigits_pos
    have length : (codeEscape c).length = (Nat.toDigits 16 c.toNat).length + 4 := by
      simp [codeEscape]
    have bytes := length_le_byteLength (codeEscape c)
    have size := c.utf8Size_le_four
    rw [written]
    omega

/-- The string is the text if every character is shown, and longer than the text if one is not. -/
theorem flatMap_reread (text : List Char) :
    (∀ c ∈ text, Shown c) ∧ text.flatMap reread = text ∨
      (¬ ∀ c ∈ text, Shown c) ∧ text.length < (text.flatMap reread).length ∧
        byteLength text < byteLength (text.flatMap reread) := by
  induction text with
  | nil => exact Or.inl ⟨List.forall_mem_nil _, rfl⟩
  | cons c text ih =>
    rw [List.flatMap_cons, List.forall_mem_cons, List.length_append, List.length_cons, byteLength,
      byteLength_append]
    by_cases shown : Shown c
    · have itself : reread c = [c] := if_pos shown
      rw [itself]
      rcases ih with ⟨all, same⟩ | ⟨some_hidden, longer, wider⟩
      · left
        exact ⟨⟨shown, all⟩, by rw [same]; rfl⟩
      · right
        refine ⟨fun all => some_hidden all.2, ?_, ?_⟩
        · rw [List.length_singleton]
          omega
        · rw [byteLength, byteLength]
          omega
    · right
      obtain ⟨longer, wider⟩ := reread_longer shown
      refine ⟨fun all => shown all.1, ?_⟩
      rcases ih with ⟨_, same⟩ | ⟨_, more, further⟩
      · rw [same]
        omega
      · omega

end Text

theorem Scanner.tokens_quoted (dialect : Dialect) (text : List Char) :
    (Scanner.mk (Text.quoted text) 0 dialect).tokens.1 =
      [⟨.string, String.ofList (text.flatMap Text.reread), 0, byteLength (Text.quoted text)⟩] := by
  have none : ∀ c ∈ ([] : List Char), isBlank c = true := List.forall_mem_nil _
  have splits := Splits.piece none (.string (Lexeme.contents_quoted text) []) trivial (.blank none)
  have tokens := splits.tokens 0 dialect
  rw [List.nil_append, List.append_nil] at tokens
  rw [Text.quoted, tokens]
  simp [Piece.tokens, Lexeme.token, LexemeKind.kind, byteLength]

/-- Quoting and scanning agree on the strings whose characters are all shown, and on no others. The
canonical text of a string is scanned, in every dialect, as one string that covers all of it. What it
stands for is the string if every character of that is printed as it is or by an escape that the
scanner knows, and is longer than the string otherwise. -/
theorem Expr.string_text_scans (dialect : Dialect) (token : Token) :
    let text := (Expr.string token).text
    ∃ literal : String,
      (Scanner.ofText dialect text).tokens.1 = [⟨.string, literal, 0, text.utf8ByteSize⟩] ∧
      (literal = token.literal ↔ ∀ c ∈ token.literal.toList, Text.Shown c) ∧
      ((¬ ∀ c ∈ token.literal.toList, Text.Shown c) →
        token.literal.length < literal.length ∧
          token.literal.utf8ByteSize < literal.utf8ByteSize) := by
  intro text
  have quoted : text.toList = Text.quoted token.literal.toList := String.toList_ofList
  refine ⟨String.ofList (token.literal.toList.flatMap Text.reread), ?_, ?_⟩
  · rw [Scanner.ofText, quoted, Scanner.tokens_quoted, byteLength_eq, ← quoted, String.ofList_toList]
  · rw [← String.toList_inj, String.toList_ofList, String.length_ofList, ← String.length_toList,
      ← byteLength_eq, show token.literal.utf8ByteSize = byteLength token.literal.toList by
        rw [byteLength_eq, String.ofList_toList]]
    rcases Text.flatMap_reread token.literal.toList with ⟨all, same⟩ | ⟨some_hidden, longer, wider⟩
    · exact ⟨⟨fun _ => all, fun _ => same⟩, fun some_hidden => absurd all some_hidden⟩
    · refine ⟨⟨fun same => ?_, fun all => absurd all some_hidden⟩, fun _ => ⟨longer, wider⟩⟩
      rw [same] at longer
      exact absurd longer (Nat.lt_irrefl _)

-- A carriage return is quoted as a backslash and a letter, and stays both.
example : (Scanner.ofText .standard (Text.quote "\r\n")).tokens.1 =
    [⟨.string, "\\r\n", 0, 6⟩] := by
  decide +kernel

end Polyglot
