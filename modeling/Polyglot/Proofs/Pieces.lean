import Polyglot.Proofs.Lexicon

/-! Texts in pieces: lexemes with the blanks before them. How far a lexeme goes depends on no more
than the next character or two, so a text that is put together from lexemes is scanned back to
them where none of them goes on with what follows it. -/
namespace Polyglot

namespace Lexeme

/-- The lexeme does not go on with this text. -/
def Stops (lexeme : Lexeme) (after : List Char) : Prop :=
  match lexeme.kind with
  | .word => ∀ c ∈ after.head?, isLetter c = false
  | .other .integer => (∀ c ∈ after.head?, c.isDigit = false) ∧
      ∀ c more, after = '.' :: c :: more → c.isDigit = false
  | .other .float => ∀ c ∈ after.head?, c.isDigit = false
  | .other .assign | .other .bang | .other .less | .other .greater => after.head? ≠ some '='
  | _ => True

theorem takeWhile_run {p : Char → Bool} {run after : List Char} (all : ∀ c ∈ run, p c = true)
    (ended : ∀ c ∈ after.head?, p c = false) : (run ++ after).takeWhile p = run := by
  have none : after.takeWhile p = [] := by
    cases after with
    | nil => rfl
    | cons c after => exact List.takeWhile_cons_of_neg (by simp [ended c rfl])
  rw [List.takeWhile_append_of_pos all, none, List.append_nil]

theorem dropWhile_run {p : Char → Bool} {run after : List Char} (all : ∀ c ∈ run, p c = true)
    (ended : ∀ c ∈ after.head?, p c = false) : (run ++ after).dropWhile p = after := by
  have parts := List.takeWhile_append_dropWhile (p := p) (l := run ++ after)
  rw [takeWhile_run all ended] at parts
  exact List.append_cancel_left parts

/-- A symbol stops unless an equals sign behind it makes another symbol of it. -/
theorem stops_symbol_iff {span : List Char} {kind : TokenKind} (known : (span, kind) ∈ symbols)
    {after : List Char} : (plain kind span).Stops after ↔
      ((∃ other, (span ++ ['='], other) ∈ symbols) → after.head? ≠ some '=') := by
  have all : ∀ symbol ∈ symbols, symbol.2 ≠ .integer ∧ symbol.2 ≠ .float ∧
      ((∃ other ∈ symbols, other.1 = symbol.1 ++ ['=']) ↔
        symbol.2 ∈ [TokenKind.assign, .bang, .less, .greater]) := by decide
  obtain ⟨no_integer, no_float, extended⟩ := all _ known
  have same : (∃ other, (span ++ ['='], other) ∈ symbols) ↔
      ∃ other ∈ symbols, other.1 = span ++ ['='] := by
    constructor
    · rintro ⟨other, longer⟩
      exact ⟨_, longer, rfl⟩
    · rintro ⟨⟨_, other⟩, longer, rfl⟩
      exact ⟨other, longer⟩
  rw [same, extended]
  cases kind <;> simp_all [Stops, plain]

theorem symbol?_of_stops {span : List Char} {kind : TokenKind} (known : (span, kind) ∈ symbols)
    {after : List Char} (stops : (plain kind span).Stops after) {c : Char} {rest : List Char}
    (same : span ++ after = c :: rest) : symbol? c rest = some (plain kind span) := by
  obtain ⟨lexeme, found, shorter | rfl⟩ := symbol_atMost known after same
  · obtain ⟨other, -, longer⟩ := symbol?_mem found
    obtain ⟨⟨left, split⟩, -⟩ := symbol?_covers found
    -- Of two symbols that begin alike, the longer one has an equals sign more.
    have all : ∀ one ∈ symbols, ∀ other ∈ symbols, one.1 <+: other.1 →
        one.1.length < other.1.length → other.1 = one.1 ++ ['='] := by decide
    have begins : span <+: lexeme.span :=
      List.prefix_of_prefix_length_le (List.prefix_append span after)
        (by rw [same, ← split]; exact List.prefix_append _ left) shorter.le
    have extended : lexeme.span = span ++ ['='] := all _ known _ longer begins shorter
    rw [extended] at longer split
    refine absurd ?_ ((stops_symbol_iff known).mp stops ⟨other, longer⟩)
    rw [← same, List.append_assoc, List.append_cancel_left_eq] at split
    rw [← split]
    rfl
  · exact found

theorem number_of_integer {span after : List Char} (digits : ∀ c ∈ span, c.isDigit = true)
    (stops : (plain .integer span).Stops after) :
    number (span ++ after) = plain .integer span := by
  obtain ⟨no_digit, no_fraction⟩ := stops
  unfold number
  dsimp only
  rw [takeWhile_run digits no_digit, dropWhile_run digits no_digit]
  split
  · rename_i rest
    cases rest with
    | nil => rfl
    | cons c more =>
      rw [List.takeWhile_cons_of_neg (by simp [no_fraction c more rfl])]
  · rfl

theorem number_of_float {whole fraction after : List Char} (some_other : fraction ≠ [])
    (digits : ∀ c ∈ whole, c.isDigit = true) (others : ∀ c ∈ fraction, c.isDigit = true)
    (stops : (plain .float (whole ++ '.' :: fraction)).Stops after) :
    number ((whole ++ '.' :: fraction) ++ after) = plain .float (whole ++ '.' :: fraction) := by
  have point : ∀ c ∈ ('.' :: (fraction ++ after)).head?, c.isDigit = false := by simp
  unfold number
  dsimp only
  rw [List.append_assoc, List.cons_append, takeWhile_run digits point, dropWhile_run digits point]
  split
  · rename_i rest same
    cases same
    rw [takeWhile_run others stops]
    obtain ⟨digit, more, rfl⟩ := List.exists_cons_of_ne_nil some_other
    rfl
  · rename_i no_point
    exact absurd rfl (no_point _)

theorem Form.first_eq {lexeme : Lexeme} {after : List Char} (form : lexeme.Form after)
    (stops : lexeme.Stops after) {c : Char} {rest : List Char}
    (same : lexeme.span ++ after = c :: rest) : first c rest = lexeme := by
  cases form with
  | symbol known => exact first_of_symbol (symbol?_of_stops known stops same)
  | @word span some_letter letters =>
    obtain ⟨letter, more, rfl⟩ := List.exists_cons_of_ne_nil some_letter
    obtain rfl : letter = c := (List.cons.inj same).1
    rw [first_of_letter (letters _ List.mem_cons_self), Lexeme.word, ← same,
      takeWhile_run letters stops]
  | integer some_digit digits =>
    rw [first_of_number some_digit digits after same, ← same]
    exact number_of_integer digits stops
  | @float whole fraction some_digit some_other digits others =>
    have number : first c rest = number (c :: rest) := by
      apply first_of_number some_digit digits ('.' :: fraction ++ after)
      rw [← same]
      simp [plain]
    rw [number, ← same]
    exact number_of_float some_other digits others stops
  | string contents => exact first_of_string contents same
  | unclosed never => exact first_of_unclosed never same
  | stray other => exact first_of_stray other same

theorem Longest.not_longer {lexeme other : Lexeme} {after later : List Char}
    (longest : lexeme.Longest after) (form : other.Form later)
    (same : other.span ++ later = lexeme.span ++ after) :
    ¬ lexeme.span.length < other.span.length :=
  not_lt.mpr (longest.longest other later form same)

/-- A lexeme that is the longest at its place does not go on. -/
theorem Longest.stops {lexeme : Lexeme} {after : List Char} (longest : lexeme.Longest after) :
    lexeme.Stops after := by
  have form := longest.form
  cases form with
  | @symbol span kind known =>
    apply (stops_symbol_iff known).mpr
    rintro ⟨other, extended⟩ head
    obtain ⟨more, rfl⟩ := List.head?_eq_some_iff.mp head
    exact longest.not_longer (.symbol extended more) (by simp [plain]) (by simp [plain])
  | @word span some_letter letters =>
    intro c head
    obtain ⟨more, rfl⟩ := List.head?_eq_some_iff.mp head
    rw [← Bool.not_eq_true]
    intro letter
    have form : Form ⟨.word, span ++ [c], span ++ [c]⟩ more :=
      .word (by simp) (by simpa [or_imp, forall_and] using ⟨letters, letter⟩) more
    exact longest.not_longer form (by simp) (by simp)
  | @integer span some_digit digits =>
    constructor
    · intro c head
      obtain ⟨more, rfl⟩ := List.head?_eq_some_iff.mp head
      rw [← Bool.not_eq_true]
      intro digit
      have form : Form (plain .integer (span ++ [c])) more :=
        .integer (by simp) (by simpa [or_imp, forall_and] using ⟨digits, digit⟩) more
      exact longest.not_longer form (by simp [plain]) (by simp [plain])
    · rintro c more rfl
      rw [← Bool.not_eq_true]
      intro digit
      have form : Form (plain .float (span ++ '.' :: [c])) more :=
        .float some_digit (List.cons_ne_nil _ _) digits (by simpa using digit) more
      exact longest.not_longer form (by simp [plain]) (by simp [plain])
  | @float whole fraction some_digit some_other digits others =>
    intro c head
    obtain ⟨more, rfl⟩ := List.head?_eq_some_iff.mp head
    rw [← Bool.not_eq_true]
    intro digit
    have form : Form (plain .float (whole ++ '.' :: (fraction ++ [c]))) more :=
      .float some_digit (by simp) digits (by simpa [or_imp, forall_and] using ⟨others, digit⟩) more
    exact longest.not_longer form (by simp [plain]) (by simp [plain])
  | string | unclosed | stray => trivial

/-- A lexeme may stand in front of every text unless it is a string that is never closed. -/
theorem Form.free {lexeme : Lexeme} {after : List Char} (form : lexeme.Form after) :
    (∀ later, lexeme.Form later) ∨
      after = [] ∧ ∃ inside, Open inside ∧ lexeme = plain .illegal ('"' :: inside) := by
  cases form with
  | symbol known => exact Or.inl fun later => .symbol known later
  | word some_letter letters => exact Or.inl fun later => .word some_letter letters later
  | integer some_digit digits => exact Or.inl fun later => .integer some_digit digits later
  | float some_digit some_other digits others =>
    exact Or.inl fun later => .float some_digit some_other digits others later
  | string contents => exact Or.inl fun later => .string contents later
  | unclosed never => exact Or.inr ⟨rfl, _, never, rfl⟩
  | stray other => exact Or.inl fun later => .stray other later

theorem Form.token_kind {lexeme : Lexeme} {after : List Char} (form : lexeme.Form after)
    (dialect : Dialect) (start : Nat) : (lexeme.token dialect start).kind ≠ .endOfInput := by
  cases form with
  | symbol known =>
    have others : ∀ symbol ∈ symbols, symbol.2 ≠ .endOfInput := by decide
    exact others _ known
  | word =>
    unfold token LexemeKind.kind Dialect.classify
    dsimp only
    split <;> simp
  | integer | float | string | unclosed | stray => exact TokenKind.noConfusion

end Lexeme

theorem Scanner.next_of_form {scanner : Scanner} {blanks after : List Char} {lexeme : Lexeme}
    (all : ∀ c ∈ blanks, isBlank c = true) (form : lexeme.Form after) (stops : lexeme.Stops after)
    (text : scanner.rest = blanks ++ (lexeme.span ++ after)) :
    let start := scanner.offset + byteLength blanks
    scanner.next = (lexeme.token scanner.dialect start,
      ⟨after, start + byteLength lexeme.span, scanner.dialect⟩) := by
  obtain ⟨c, more, begins, no_blank⟩ := form.head
  have ended : ∀ d ∈ (lexeme.span ++ after).head?, isBlank d = false := by
    rw [begins]
    simpa using no_blank
  have taken : scanner.rest.takeWhile isBlank = blanks := by
    rw [text, Lexeme.takeWhile_run all ended]
  have shown : scanner.rest.dropWhile isBlank = c :: (more ++ after) := by
    rw [text, Lexeme.dropWhile_run all ended, begins, List.cons_append]
  have same : lexeme.span ++ after = c :: (more ++ after) := by rw [begins, List.cons_append]
  obtain ⟨left, split, step⟩ := next_lexeme shown
  rw [form.first_eq stops same] at split step
  rw [← same] at split
  rw [step, taken, List.append_cancel_left split]

/-- A lexeme and the blanks before it. -/
structure Piece where
  blanks : List Char
  lexeme : Lexeme

/-- The text consists of these pieces and of blanks behind them. -/
inductive Splits : List Char → List Piece → Prop
  | blank {text : List Char} (all : ∀ c ∈ text, isBlank c = true) : Splits text []
  | piece {blanks after : List Char} {lexeme : Lexeme} {pieces : List Piece}
      (all : ∀ c ∈ blanks, isBlank c = true) (form : lexeme.Form after)
      (stops : lexeme.Stops after) (rest : Splits after pieces) :
      Splits (blanks ++ (lexeme.span ++ after)) (⟨blanks, lexeme⟩ :: pieces)

theorem exists_splits (text : List Char) : ∃ pieces, Splits text pieces := by
  induction length : text.length using Nat.strong_induction_on generalizing text with
  | _ size ih =>
    have parts := List.takeWhile_append_dropWhile (p := isBlank) (l := text)
    cases shown : text.dropWhile isBlank with
    | nil =>
      rw [List.dropWhile_eq_nil_iff] at shown
      exact ⟨[], .blank shown⟩
    | cons c rest =>
      have covers := Lexeme.first_covers c rest
      obtain ⟨left, split⟩ := covers.start
      have longest := Lexeme.longest_first (Scanner.not_blank_of_dropWhile shown) split
      have all : ∀ d ∈ text.takeWhile isBlank, isBlank d = true := fun _ => List.mem_takeWhile_imp
      rw [shown, ← split] at parts
      have shorter : left.length < size := by
        have taken := List.length_pos_iff.mpr covers.nonempty
        rw [← length, ← parts, List.length_append, List.length_append]
        omega
      obtain ⟨pieces, splits⟩ := ih left.length shorter left rfl
      rw [← parts]
      exact ⟨_, .piece all longest.form longest.stops splits⟩

/-- The tokens of pieces that start at this byte. -/
def Piece.tokens (dialect : Dialect) : Nat → List Piece → List Token
  | _, [] => []
  | offset, piece :: rest =>
    let start := offset + byteLength piece.blanks
    piece.lexeme.token dialect start :: tokens dialect (start + byteLength piece.lexeme.span) rest

theorem Splits.tokens {text : List Char} {pieces : List Piece} (splits : Splits text pieces)
    (offset : Nat) (dialect : Dialect) :
    (Scanner.mk text offset dialect).tokens.1 = Piece.tokens dialect offset pieces := by
  induction splits generalizing offset with
  | blank all =>
    rw [Scanner.tokens_eq, if_pos]
    · rfl
    · rw [Scanner.next_kind_end_iff, List.dropWhile_eq_nil_iff]
      exact all
  | @piece blanks after lexeme pieces all form stops rest ih =>
    have step : (Scanner.mk (blanks ++ (lexeme.span ++ after)) offset dialect).next = _ :=
      Scanner.next_of_form all form stops rfl
    rw [Scanner.tokens_eq, step, if_neg (form.token_kind _ _), Piece.tokens, ih]

end Polyglot
