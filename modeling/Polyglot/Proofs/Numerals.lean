import Mathlib.Data.List.Induction
import Polyglot.Proofs.Grammar
import Polyglot.Proofs.Lexicon

/-! Tokens as they are written. What the scanner yields is written as its kind demands. So an integer
denotes the value of its digits, which is what reading them one by one comes to, and the text of a
float can always be read as a number. -/
namespace Polyglot

/-- What tokens of a kind are written with. -/
def TokenKind.Written (kind : TokenKind) (text : List Char) : Prop :=
  match kind with
  | .identifier | .keyword _ => text ≠ [] ∧ ∀ c ∈ text, isLetter c = true
  | .integer => text ≠ [] ∧ ∀ c ∈ text, c.isDigit = true
  | .float => ∃ whole fraction, text = whole ++ '.' :: fraction ∧ whole ≠ [] ∧ fraction ≠ [] ∧
      (∀ c ∈ whole, c.isDigit = true) ∧ ∀ c ∈ fraction, c.isDigit = true
  | .endOfInput | .illegal | .string | .newLine => True
  | _ => text = kind.name.toList

theorem Lexeme.Form.written {lexeme : Lexeme} {after : List Char} (form : lexeme.Form after)
    (dialect : Dialect) (start : Nat) :
    (lexeme.token dialect start).kind.Written lexeme.literal := by
  cases form with
  | @symbol span kind known =>
    have all : ∀ symbol ∈ symbols, symbol.2.Written symbol.1 := by
      simp [symbols, TokenKind.Written, TokenKind.name]
    exact all _ known
  | word some_letter letters =>
    unfold token LexemeKind.kind Dialect.classify
    dsimp only
    split <;> exact ⟨some_letter, letters⟩
  | integer some_digit digits => exact ⟨some_digit, digits⟩
  | float some_digit some_other digits others =>
    exact ⟨_, _, rfl, some_digit, some_other, digits, others⟩
  | string | unclosed | stray => trivial

theorem Scanner.next_written (scanner : Scanner) :
    scanner.next.1.kind.Written scanner.next.1.literal.toList := by
  cases shown : scanner.rest.dropWhile isBlank with
  | nil =>
    rw [scanner.next_kind_end_iff.mpr shown]
    trivial
  | cons c rest =>
    obtain ⟨left, split, step⟩ := Scanner.next_lexeme shown
    have form := Lexeme.first_form_left (Scanner.not_blank_of_dropWhile shown) split
    rw [step]
    dsimp only
    have written := form.written scanner.dialect
      (scanner.offset + byteLength (scanner.rest.takeWhile isBlank))
    rwa [← String.toList_ofList (l := (Lexeme.first c rest).literal)] at written

namespace Decimal

theorem digitChar_toNat {digit : Nat} (decimal : digit < 10) :
    (Nat.digitChar digit).toNat - 48 = digit := by
  have all : ∀ digit < 10, (Nat.digitChar digit).toNat - 48 = digit := by decide
  exact all digit decimal

theorem digitChar_of_isDigit {c : Char} (digit : c.isDigit = true) :
    c.toNat - 48 < 10 ∧ Nat.digitChar (c.toNat - 48) = c := by
  obtain ⟨low, high⟩ := isDigit_bounds digit
  have written := char_below (fun c => 48 ≤ c.toNat → Nat.digitChar (c.toNat - 48) = c)
    (by decide) high
  exact ⟨by omega, written low⟩

theorem natOfDigits_append (digits : List Char) (c : Char) :
    natOfDigits (digits ++ [c]) = 10 * natOfDigits digits + (c.toNat - 48) := by
  simp [natOfDigits]

theorem natOfDigits_digitChar {digits : List Nat} (decimal : ∀ digit ∈ digits, digit < 10) :
    natOfDigits (digits.map Nat.digitChar) = Nat.ofDigits 10 digits.reverse := by
  induction digits using List.reverseRecOn with
  | nil => rfl
  | append_singleton digits last ih =>
    simp only [List.forall_mem_append, List.forall_mem_singleton] at decimal
    rw [List.map_append, List.map_singleton, natOfDigits_append, ih decimal.1,
      digitChar_toNat decimal.2, List.reverse_append, List.reverse_singleton, List.singleton_append,
      Nat.ofDigits_cons, Nat.add_comm]

theorem magnitude?_isSome {text : List Char} (written : TokenKind.Written .float text) :
    ∃ decimal, magnitude? text = some decimal := by
  obtain ⟨whole, fraction, rfl, some_digit, _, digits, others⟩ := written
  have point : Char.isDigit '.' = false := by decide
  have taken : (whole ++ '.' :: fraction).takeWhile Char.isDigit = whole := by
    rw [List.takeWhile_append_of_pos digits]
    simp [point]
  have dropped : (whole ++ '.' :: fraction).dropWhile Char.isDigit = '.' :: fraction := by
    rw [List.dropWhile_append_of_pos digits]
    simp [point]
  have left : fraction.dropWhile Char.isDigit = [] := List.dropWhile_eq_nil_iff.mpr others
  have present : whole.isEmpty = false := by
    rw [List.isEmpty_eq_false_iff]
    exact some_digit
  unfold magnitude?
  simp only [taken, dropped, left, present, exponent?, Bool.false_and, Bool.false_eq_true,
    if_false, Option.map_some]
  exact ⟨_, rfl⟩

end Decimal

theorem readFloat?_isSome {text : List Char} (written : TokenKind.Written .float text) :
    ∃ value, readFloat? text = some value := by
  obtain ⟨decimal, read⟩ := Decimal.magnitude?_isSome written
  obtain ⟨whole, fraction, rfl, some_digit, _, digits, _⟩ := written
  obtain ⟨digit, more, rfl⟩ := List.exists_cons_of_ne_nil some_digit
  have first : digit.isDigit = true := digits digit List.mem_cons_self
  unfold readFloat?
  split
  rename_i negative magnitude same
  split at same
  · rename_i text sign
    cases sign
    cases first
  · rename_i text sign
    cases sign
    cases first
  · cases same
    dsimp only
    split
    · exact ⟨_, rfl⟩
    · split
      · exact ⟨_, rfl⟩
      · rw [read]
        exact ⟨_, rfl⟩

namespace Token
variable {token : Token}

theorem Denotes.value_eq {value : Nat} (denotes : token.Denotes value) :
    value = Decimal.natOfDigits token.literal.toList := by
  obtain ⟨digits, _, decimal, written, rfl⟩ := denotes
  rw [written, Decimal.natOfDigits_digitChar decimal]

theorem denotes_of_written (written : TokenKind.Written .integer token.literal.toList) :
    token.Denotes (Decimal.natOfDigits token.literal.toList) := by
  obtain ⟨some_digit, digits⟩ := written
  have back : (token.literal.toList.map fun c => c.toNat - 48).map Nat.digitChar =
      token.literal.toList := by
    rw [List.map_map]
    calc token.literal.toList.map (Nat.digitChar ∘ fun c => c.toNat - 48)
      _ = token.literal.toList.map id :=
        List.map_congr_left fun c member => (Decimal.digitChar_of_isDigit (digits c member)).2
      _ = token.literal.toList := List.map_id _
  have decimal : ∀ digit ∈ token.literal.toList.map fun c => c.toNat - 48, digit < 10 := by
    intro digit inside
    obtain ⟨c, member, rfl⟩ := List.mem_map.mp inside
    exact (Decimal.digitChar_of_isDigit (digits c member)).1
  refine ⟨_, ?_, decimal, back.symm, ?_⟩
  · simpa using some_digit
  · rw [← Decimal.natOfDigits_digitChar decimal, back]

end Token

end Polyglot
