import Polyglot.Proofs.Scanning

/-! The lexical grammar, and scanning as the longest match over it. A rule of the grammar says which
characters make a lexeme and what may follow them; the scanner takes at every place the longest
lexeme that some rule allows. -/
namespace Polyglot

namespace Lexeme

/-- The operators and delimiters. -/
def symbols : List (List Char × TokenKind) :=
  [(['\n'], .newLine), (['~'], .tilde), (['='], .assign), (['=', '='], .equal), (['!'], .bang),
   (['!', '='], .notEqual), (['<'], .less), (['<', '='], .lessEqual), (['>'], .greater),
   (['>', '='], .greaterEqual), (['+'], .plus), (['-'], .minus), (['*'], .asterisk),
   (['/'], .slash), ([','], .comma), (['('], .leftParen), ([')'], .rightParen),
   (['\x7b'], .leftBrace), (['\x7d'], .rightBrace)]

/-- What is written between the quotes of a string, and what it stands for. Every quote in it is
behind a backslash. -/
inductive Contents : List Char → List Char → Prop
  | empty : Contents [] []
  | plain {c : Char} {text literal : List Char} (no_quote : c ≠ '"') (no_escape : c ≠ '\\')
      (more : Contents text literal) : Contents (c :: text) (c :: literal)
  | escape {c : Char} {text literal : List Char} (more : Contents text literal) :
      Contents ('\\' :: c :: text) (unescape c ++ literal)

/-- What is written behind a quote that is never closed. It may end with a backslash. -/
def Open (text : List Char) : Prop :=
  ∃ front literal, Contents front literal ∧ (text = front ∨ text = front ++ ['\\'])

/-- A character with which no other lexeme begins. -/
structure Stray (c : Char) : Prop where
  no_blank : isBlank c = false
  no_letter : isLetter c = false
  no_digit : c.isDigit = false
  no_quote : c ≠ '"'
  no_symbol : ∀ symbol ∈ symbols, symbol.1.head? ≠ some c

/-- The rules of the lexical grammar: the lexeme may stand in front of this text. -/
inductive Form : Lexeme → List Char → Prop
  | symbol {span : List Char} {kind : TokenKind} (known : (span, kind) ∈ symbols)
      (after : List Char) : Form (plain kind span) after
  | word {span : List Char} (some_letter : span ≠ []) (letters : ∀ c ∈ span, isLetter c = true)
      (after : List Char) : Form ⟨.word, span, span⟩ after
  | integer {span : List Char} (some_digit : span ≠ []) (digits : ∀ c ∈ span, c.isDigit = true)
      (after : List Char) : Form (plain .integer span) after
  | float {whole fraction : List Char} (some_digit : whole ≠ []) (some_other : fraction ≠ [])
      (digits : ∀ c ∈ whole, c.isDigit = true) (others : ∀ c ∈ fraction, c.isDigit = true)
      (after : List Char) : Form (plain .float (whole ++ '.' :: fraction)) after
  | string {inside literal : List Char} (contents : Contents inside literal)
      (after : List Char) : Form ⟨.other .string, literal, '"' :: (inside ++ ['"'])⟩ after
  | unclosed {inside : List Char} (never : Open inside) :
      Form (plain .illegal ('"' :: inside)) []
  | stray {c : Char} (other : Stray c) (after : List Char) : Form (plain .illegal [c]) after

/-- Of all lexemes with which the text could begin this one is the longest. -/
structure Longest (lexeme : Lexeme) (after : List Char) : Prop where
  form : lexeme.Form after
  longest : ∀ (other : Lexeme) (later : List Char), other.Form later →
    other.span ++ later = lexeme.span ++ after → other.span.length ≤ lexeme.span.length

theorem Contents.closing? {inside literal : List Char} (contents : Contents inside literal)
    (after : List Char) :
    Lexeme.closing? (inside ++ '"' :: after) = some (literal, inside ++ ['"']) := by
  induction contents with
  | empty => rfl
  | plain no_quote no_escape _ ih =>
    rw [List.cons_append, Lexeme.closing?, ih]
    · rfl
    · exact no_quote
    · exact fun _ _ escape => absurd escape no_escape
  | escape _ ih =>
    rw [List.cons_append, List.cons_append, Lexeme.closing?, ih]
    rfl

theorem closing?_none_of_contents {front literal : List Char} (contents : Contents front literal)
    {tail : List Char} (never : closing? tail = none) : closing? (front ++ tail) = none := by
  induction contents with
  | empty => exact never
  | plain no_quote no_escape _ ih =>
    rw [List.cons_append, closing?, ih]
    · rfl
    · exact no_quote
    · exact fun _ _ escape => absurd escape no_escape
  | escape _ ih =>
    rw [List.cons_append, List.cons_append, closing?, ih]
    rfl

theorem Open.closing? {text : List Char} (never : Open text) : Lexeme.closing? text = none := by
  obtain ⟨front, literal, contents, rfl | rfl⟩ := never
  · rw [← List.append_nil text]
    exact closing?_none_of_contents contents rfl
  · exact closing?_none_of_contents contents rfl

theorem contents_of_closing? {text contents span : List Char}
    (closed : closing? text = some (contents, span)) :
    ∃ inside, Contents inside contents ∧ span = inside ++ ['"'] := by
  fun_induction closing? text generalizing contents span with
  | case1 => cases closed
  | case2 =>
    cases closed
    exact ⟨[], .empty, rfl⟩
  | case3 c rest ih =>
    obtain ⟨⟨inner, covered⟩, tail, same⟩ := Option.map_eq_some_iff.mp closed
    cases same
    obtain ⟨inside, described, rfl⟩ := ih tail
    exact ⟨'\\' :: c :: inside, .escape described, rfl⟩
  | case4 c rest no_quote no_escape ih =>
    obtain ⟨⟨inner, covered⟩, tail, same⟩ := Option.map_eq_some_iff.mp closed
    cases same
    obtain ⟨inside, described, rfl⟩ := ih tail
    have plain : c ≠ '\\' := by
      intro escape
      cases rest with
      | nil => cases tail
      | cons d rest => exact no_escape d rest escape rfl
    exact ⟨c :: inside, .plain no_quote plain described, rfl⟩

theorem open_of_closing? {text : List Char} (never : closing? text = none) : Open text := by
  fun_induction closing? text with
  | case1 => exact ⟨[], [], .empty, Or.inl rfl⟩
  | case2 => cases never
  | case3 c rest ih =>
    obtain ⟨front, literal, contents, same⟩ := ih (Option.map_eq_none_iff.mp never)
    refine ⟨'\\' :: c :: front, _, .escape contents, ?_⟩
    rcases same with rfl | rfl
    · exact Or.inl rfl
    · exact Or.inr rfl
  | case4 c rest no_quote no_escape ih =>
    obtain ⟨front, literal, contents, same⟩ := ih (Option.map_eq_none_iff.mp never)
    by_cases escape : c = '\\'
    · -- A backslash that escapes nothing is the last character.
      cases rest with
      | nil => exact ⟨[], [], .empty, Or.inr (by rw [escape]; rfl)⟩
      | cons d rest => exact absurd rfl (no_escape d rest escape)
    · refine ⟨c :: front, _, .plain no_quote escape contents, ?_⟩
      rcases same with rfl | rfl
      · exact Or.inl rfl
      · exact Or.inr rfl

/-- The first lexeme is shorter than the second, or it is the second. -/
def AtMost (lexeme other : Lexeme) : Prop :=
  lexeme.span.length < other.span.length ∨ lexeme = other

theorem AtMost.length_le {lexeme other : Lexeme} (most : lexeme.AtMost other) :
    lexeme.span.length ≤ other.span.length := by
  rcases most with shorter | rfl
  · exact shorter.le
  · exact le_rfl

theorem atMost_of_prefix {kind : LexemeKind} (span more : List Char) :
    AtMost ⟨kind, span, span⟩ ⟨kind, span ++ more, span ++ more⟩ := by
  cases more with
  | nil => exact Or.inr (by rw [List.append_nil])
  | cons c more => exact Or.inl (by simp)

theorem not_letter_of_digit {c : Char} (digit : c.isDigit = true) : isLetter c = false := by
  have sign := char_below (fun c => c.isDigit = true → isAsciiSign c = true) (by decide)
    (isDigit_bounds digit).2
  exact not_letter_of_asciiSign (sign digit)

theorem not_blank {p : Char → Bool} (space : p ' ' = false) (tab : p '\t' = false)
    (turn : p '\r' = false) {c : Char} (holds : p c = true) : isBlank c = false := by
  rw [← Bool.not_eq_true]
  intro blank
  simp only [isBlank, Bool.or_eq_true, beq_iff_eq] at blank
  rcases blank with (rfl | rfl) | rfl
  · exact absurd holds (by simp [space])
  · exact absurd holds (by simp [tab])
  · exact absurd holds (by simp [turn])

theorem not_blank_of_digit {c : Char} (digit : c.isDigit = true) : isBlank c = false :=
  not_blank rfl rfl rfl digit

theorem not_blank_of_letter {c : Char} (letter : isLetter c = true) : isBlank c = false :=
  not_blank (not_letter_of_asciiSign rfl) (not_letter_of_asciiSign rfl)
    (not_letter_of_asciiSign rfl) letter

theorem symbol?_mem {c : Char} {rest : List Char} {lexeme : Lexeme}
    (found : symbol? c rest = some lexeme) :
    ∃ kind, lexeme = plain kind lexeme.span ∧ (lexeme.span, kind) ∈ symbols := by
  unfold symbol? at found
  split at found <;> cases found <;> exact ⟨_, rfl, by decide⟩

theorem symbol?_eq_none {c : Char} (outside : ∀ symbol ∈ symbols, symbol.1.head? ≠ some c)
    (rest : List Char) : symbol? c rest = none := by
  cases found : symbol? c rest with
  | none => rfl
  | some lexeme =>
    obtain ⟨kind, -, known⟩ := symbol?_mem found
    obtain ⟨⟨left, same⟩, nonempty, -⟩ := symbol?_covers found
    refine absurd ?_ (outside _ known)
    rw [← List.head?_append_of_ne_nil _ nonempty, same, List.head?_cons]

theorem symbols_head {symbol : List Char × TokenKind} (known : symbol ∈ symbols) :
    ∀ c ∈ symbol.1.head?, isLetter c = false ∧ c.isDigit = false ∧ isBlank c = false := by
  have all : ∀ symbol ∈ symbols, symbol.1.head?.all (fun c =>
      isAsciiSign c && !c.isDigit && !isBlank c) = true := by decide
  intro c head
  have here := all symbol known
  rw [Option.mem_def.mp head] at here
  simp only [Option.all_some, Bool.and_eq_true, Bool.not_eq_true'] at here
  exact ⟨not_letter_of_asciiSign here.1.1, here.1.2, here.2⟩

theorem first_of_letter {c : Char} (letter : isLetter c = true) (rest : List Char) :
    first c rest = word (c :: rest) := by
  have outside : ∀ symbol ∈ symbols, symbol.1.head? ≠ some c := by
    intro symbol known head
    rw [(symbols_head known c head).1] at letter
    cases letter
  have no_quote : (c == '"') = false := by
    rw [beq_eq_false_iff_ne]
    rintro rfl
    rw [not_letter_of_asciiSign rfl] at letter
    cases letter
  simp [first, symbol?_eq_none outside, no_quote, letter]

theorem first_of_digit {c : Char} (digit : c.isDigit = true) (rest : List Char) :
    first c rest = number (c :: rest) := by
  have outside : ∀ symbol ∈ symbols, symbol.1.head? ≠ some c := by
    intro symbol known head
    rw [(symbols_head known c head).2.1] at digit
    cases digit
  have no_quote : (c == '"') = false := by
    rw [beq_eq_false_iff_ne]
    rintro rfl
    revert digit
    decide
  simp [first, symbol?_eq_none outside, no_quote, not_letter_of_digit digit, digit]

theorem first_of_symbol {c : Char} {rest : List Char} {lexeme : Lexeme}
    (found : symbol? c rest = some lexeme) : first c rest = lexeme := by
  simp only [first, found]

theorem symbol_atMost {span : List Char} {kind : TokenKind} (known : (span, kind) ∈ symbols)
    (later : List Char) {c : Char} {rest : List Char} (same : span ++ later = c :: rest) :
    ∃ lexeme, symbol? c rest = some lexeme ∧ (plain kind span).AtMost lexeme := by
  simp only [symbols, List.mem_cons, Prod.mk.injEq, List.not_mem_nil, or_false] at known
  rcases known with ⟨rfl, rfl⟩ | ⟨rfl, rfl⟩ | ⟨rfl, rfl⟩ | ⟨rfl, rfl⟩ | ⟨rfl, rfl⟩ | ⟨rfl, rfl⟩ |
    ⟨rfl, rfl⟩ | ⟨rfl, rfl⟩ | ⟨rfl, rfl⟩ | ⟨rfl, rfl⟩ | ⟨rfl, rfl⟩ | ⟨rfl, rfl⟩ | ⟨rfl, rfl⟩ |
    ⟨rfl, rfl⟩ | ⟨rfl, rfl⟩ | ⟨rfl, rfl⟩ | ⟨rfl, rfl⟩ | ⟨rfl, rfl⟩ | ⟨rfl, rfl⟩
  all_goals cases same
  all_goals unfold symbol?
  all_goals split <;> simp_all [AtMost, plain]

theorem symbol?_ne_none {symbol : List Char × TokenKind} (known : symbol ∈ symbols) {c : Char}
    (head : symbol.1.head? = some c) (rest : List Char) : symbol? c rest ≠ none := by
  -- The first character of a symbol is itself a symbol.
  have shorter : ∀ symbol ∈ symbols, ∃ other ∈ symbols, other.1 = symbol.1.head?.toList := by
    decide
  obtain ⟨⟨span, kind⟩, single, same⟩ := shorter symbol known
  rw [head] at same
  obtain rfl : span = [c] := same
  obtain ⟨lexeme, found, -⟩ :=
    symbol_atMost single rest List.singleton_append
  rw [found]
  exact Option.some_ne_none lexeme

theorem word_atMost {span : List Char} (letters : ∀ c ∈ span, isLetter c = true)
    (later : List Char) : AtMost ⟨.word, span, span⟩ (word (span ++ later)) := by
  unfold word
  dsimp only
  rw [List.takeWhile_append_of_pos letters]
  exact atMost_of_prefix span _

theorem integer_atMost {span : List Char} (digits : ∀ c ∈ span, c.isDigit = true)
    (later : List Char) : (plain .integer span).AtMost (number (span ++ later)) := by
  unfold number
  dsimp only
  rw [List.takeWhile_append_of_pos digits, List.dropWhile_append_of_pos digits]
  split
  · split
    · exact atMost_of_prefix span _
    · exact Or.inl (by simp only [plain, List.length_append, List.length_cons]; omega)
  · exact atMost_of_prefix span _

theorem float_atMost {whole fraction : List Char} (some_other : fraction ≠ [])
    (digits : ∀ c ∈ whole, c.isDigit = true) (others : ∀ c ∈ fraction, c.isDigit = true)
    (later : List Char) :
    (plain .float (whole ++ '.' :: fraction)).AtMost
      (number ((whole ++ '.' :: fraction) ++ later)) := by
  have point : Char.isDigit '.' = false := by decide
  unfold number
  dsimp only
  rw [List.append_assoc, List.takeWhile_append_of_pos digits, List.dropWhile_append_of_pos digits,
    List.cons_append, List.takeWhile_cons_of_neg (by simp [point]),
    List.dropWhile_cons_of_neg (by simp [point])]
  split
  · rename_i tail same
    cases same
    rw [List.takeWhile_append_of_pos others]
    split
    · rename_i none
      exact absurd (List.append_eq_nil_iff.mp none).1 some_other
    · rename_i digit more taken
      rw [← taken, List.append_nil, ← List.cons_append, ← List.append_assoc]
      exact atMost_of_prefix _ _
  · rename_i no_point
    exact absurd rfl (no_point _)

theorem first_of_number {c : Char} {rest span : List Char} (some_digit : span ≠ [])
    (digits : ∀ c ∈ span, c.isDigit = true) (later : List Char)
    (same : span ++ later = c :: rest) : first c rest = number (c :: rest) := by
  obtain ⟨digit, more, rfl⟩ := List.exists_cons_of_ne_nil some_digit
  cases same
  exact first_of_digit (digits _ List.mem_cons_self) _

theorem first_of_string {inside literal later : List Char} (contents : Contents inside literal)
    {c : Char} {rest : List Char} (same : '"' :: (inside ++ ['"']) ++ later = c :: rest) :
    first c rest = ⟨.other .string, literal, '"' :: (inside ++ ['"'])⟩ := by
  have closed := contents.closing? later
  rw [List.cons_append, List.append_assoc, List.singleton_append] at same
  cases same
  simp [first, symbol?, string, closed]

theorem first_of_unclosed {inside : List Char} (never : Open inside) {c : Char} {rest : List Char}
    (same : '"' :: inside ++ [] = c :: rest) : first c rest = plain .illegal ('"' :: inside) := by
  have none := never.closing?
  rw [List.append_nil] at same
  cases same
  simp [first, symbol?, string, none]

theorem first_of_stray {d : Char} (other : Stray d) {later : List Char} {c : Char}
    {rest : List Char} (same : [d] ++ later = c :: rest) :
    first c rest = plain .illegal [d] := by
  cases same
  simp [first, symbol?_eq_none other.no_symbol, other.no_quote, other.no_letter, other.no_digit]

theorem Form.atMost_first {lexeme : Lexeme} {later : List Char} (form : lexeme.Form later)
    {c : Char} {rest : List Char} (same : lexeme.span ++ later = c :: rest) :
    lexeme.AtMost (first c rest) := by
  cases form with
  | symbol known =>
    obtain ⟨longer, found, most⟩ := symbol_atMost known later same
    rw [first_of_symbol found]
    exact most
  | @word span some_letter letters =>
    obtain ⟨letter, more, rfl⟩ := List.exists_cons_of_ne_nil some_letter
    have most := word_atMost letters later
    cases same
    rw [first_of_letter (letters _ List.mem_cons_self)]
    exact most
  | integer some_digit digits =>
    rw [first_of_number some_digit digits later same, ← same]
    exact integer_atMost digits later
  | @float whole fraction some_digit some_other digits others =>
    have number : first c rest = number (c :: rest) := by
      refine first_of_number some_digit digits ('.' :: fraction ++ later) ?_
      rw [← same]
      simp [plain]
    rw [number, ← same]
    exact float_atMost some_other digits others later
  | string contents => exact Or.inr (first_of_string contents same).symm
  | unclosed never => exact Or.inr (first_of_unclosed never same).symm
  | stray other => exact Or.inr (first_of_stray other same).symm

theorem number_form {c : Char} {rest : List Char} (digit : c.isDigit = true) (after : List Char) :
    (number (c :: rest)).Form after := by
  have some_digit : (c :: rest).takeWhile Char.isDigit ≠ [] := by simp [digit]
  have digits : ∀ d ∈ (c :: rest).takeWhile Char.isDigit, d.isDigit = true :=
    fun _ => List.mem_takeWhile_imp
  unfold number
  dsimp only
  split
  · split
    · exact .integer some_digit digits after
    · rename_i tail _ _ first more taken
      have others : ∀ d ∈ first :: more, d.isDigit = true := by
        rw [← taken]
        exact fun _ => List.mem_takeWhile_imp
      exact .float some_digit (List.cons_ne_nil _ _) digits others after
  · exact .integer some_digit digits after

theorem string_form (rest : List Char) :
    (string rest).Form (('"' :: rest).drop (string rest).span.length) := by
  unfold string
  cases closed : closing? rest with
  | none =>
    dsimp only [plain]
    rw [List.drop_length]
    exact .unclosed (open_of_closing? closed)
  | some found =>
    obtain ⟨contents, span⟩ := found
    obtain ⟨inside, described, rfl⟩ := contents_of_closing? closed
    exact .string described _

theorem first_form {c : Char} (no_blank : isBlank c = false) (rest : List Char) :
    (first c rest).Form ((c :: rest).drop (first c rest).span.length) := by
  cases found : symbol? c rest with
  | some lexeme =>
    rw [first_of_symbol found]
    obtain ⟨kind, same, known⟩ := symbol?_mem found
    rw [same]
    exact .symbol known _
  | none =>
    unfold first
    rw [found]
    dsimp only
    split_ifs with quote letter digit
    · rw [eq_of_beq quote]
      exact string_form rest
    · have some_letter : (c :: rest).takeWhile isLetter ≠ [] := by simp [letter]
      exact .word some_letter (fun _ => List.mem_takeWhile_imp) _
    · exact number_form digit _
    · refine .stray ⟨no_blank, by simpa using letter, by simpa using digit, by simpa using quote,
        fun symbol known head => ?_⟩ _
      exact symbol?_ne_none known head rest found

theorem Form.head {lexeme : Lexeme} {after : List Char} (form : lexeme.Form after) :
    ∃ c more, lexeme.span = c :: more ∧ isBlank c = false := by
  cases form with
  | symbol known =>
    have nonempty : ∀ symbol ∈ symbols, symbol.1 ≠ [] := by decide
    obtain ⟨c, more, same⟩ := List.exists_cons_of_ne_nil (nonempty _ known)
    exact ⟨c, more, same, (symbols_head known c (by rw [same]; rfl)).2.2⟩
  | word some_letter letters =>
    obtain ⟨c, more, rfl⟩ := List.exists_cons_of_ne_nil some_letter
    exact ⟨c, more, rfl, not_blank_of_letter (letters c List.mem_cons_self)⟩
  | integer some_digit digits =>
    obtain ⟨c, more, rfl⟩ := List.exists_cons_of_ne_nil some_digit
    exact ⟨c, more, rfl, not_blank_of_digit (digits c List.mem_cons_self)⟩
  | float some_digit _ digits =>
    obtain ⟨c, more, rfl⟩ := List.exists_cons_of_ne_nil some_digit
    exact ⟨c, _, rfl, not_blank_of_digit (digits c List.mem_cons_self)⟩
  | string => exact ⟨'"', _, rfl, by decide⟩
  | unclosed => exact ⟨'"', _, rfl, by decide⟩
  | stray other => exact ⟨_, [], rfl, other.no_blank⟩

theorem first_form_left {c : Char} (no_blank : isBlank c = false) {rest left : List Char}
    (split : (first c rest).span ++ left = c :: rest) : (first c rest).Form left := by
  have form := first_form no_blank rest
  rwa [← split, List.drop_left] at form

theorem longest_first {c : Char} (no_blank : isBlank c = false) {rest left : List Char}
    (split : (first c rest).span ++ left = c :: rest) : (first c rest).Longest left where
  form := first_form_left no_blank split
  longest _ _ form begins := (form.atMost_first (begins.trans split)).length_le

theorem Longest.eq_first {lexeme : Lexeme} {after : List Char} (longest : lexeme.Longest after)
    {c : Char} {rest : List Char} (same : lexeme.span ++ after = c :: rest) :
    lexeme = first c rest := by
  obtain ⟨d, more, begins, no_blank⟩ := longest.form.head
  obtain rfl : d = c := by
    rw [begins] at same
    cases same
    rfl
  rcases longest.form.atMost_first same with shorter | equal
  · obtain ⟨left, split⟩ := (first_covers d rest).start
    have form := first_form_left no_blank split
    have := longest.longest _ left form (split.trans same.symm)
    omega
  · exact equal

/-- The token of a lexeme that starts at this byte. -/
def token (lexeme : Lexeme) (dialect : Dialect) (start : Nat) : Token :=
  ⟨lexeme.kind.kind dialect (String.ofList lexeme.literal), String.ofList lexeme.literal, start,
    start + byteLength lexeme.span⟩

@[simp] theorem token_start (lexeme : Lexeme) (dialect : Dialect) (start : Nat) :
    (lexeme.token dialect start).start = start := rfl

@[simp] theorem token_stop (lexeme : Lexeme) (dialect : Dialect) (start : Nat) :
    (lexeme.token dialect start).stop = start + byteLength lexeme.span := rfl

end Lexeme

/-- The tokens of a text that starts at this byte, said without the scanner. -/
structure Tokenizes (dialect : Dialect) (offset : Nat) (text : List Char) (tokens : List Token) :
    Prop where
  /-- Each token stands for the longest lexeme at its place. -/
  lexemes : ∀ token ∈ tokens, ∃ (before : List Char) (lexeme : Lexeme) (after : List Char),
    text = before ++ (lexeme.span ++ after) ∧ lexeme.Longest after ∧
      token = lexeme.token dialect (offset + byteLength before)
  /-- They stand in their order and do not overlap. -/
  apart : tokens.Pairwise (·.stop ≤ ·.start)
  /-- What no token covers is blank. -/
  covered : ∀ (before : List Char) (c : Char) (after : List Char), text = before ++ c :: after →
    isBlank c = false → ∃ token ∈ tokens,
      token.start ≤ offset + byteLength before ∧ offset + byteLength before < token.stop

theorem byteLength_pos {text : List Char} (some_char : text ≠ []) : 0 < byteLength text := by
  obtain ⟨c, rest, rfl⟩ := List.exists_cons_of_ne_nil some_char
  have := c.utf8Size_pos
  rw [byteLength]
  omega

/-- Of two places in one text the one at the smaller byte stands before the other. -/
theorem exists_between {one other later after : List Char} (same : one ++ later = other ++ after)
    (before : byteLength one ≤ byteLength other) :
    ∃ between, other = one ++ between ∧ later = between ++ after := by
  rcases List.append_eq_append_iff.mp same with ⟨between, rfl, rfl⟩ | ⟨between, rfl, rfl⟩
  · exact ⟨between, rfl, rfl⟩
  · -- The two places are one, since each character takes a byte.
    rw [byteLength_append] at before
    obtain rfl : between = [] := by
      by_contra some_char
      have := byteLength_pos some_char
      omega
    exact ⟨[], by simp, by simp⟩

namespace Tokenizes

variable {dialect : Dialect} {offset : Nat} {text : List Char} {tokens : List Token}

theorem start_lt_stop (tokenizes : Tokenizes dialect offset text tokens) {token : Token}
    (inside : token ∈ tokens) : token.start < token.stop := by
  obtain ⟨before, lexeme, after, -, longest, rfl⟩ := tokenizes.lexemes token inside
  obtain ⟨c, more, begins, -⟩ := longest.form.head
  have some_byte : 0 < byteLength lexeme.span := byteLength_pos (by rw [begins]; simp)
  rw [Lexeme.token_start, Lexeme.token_stop]
  omega

/-- No token starts inside the blanks. -/
theorem blanks_le_start {blanks rest : List Char} (all : ∀ c ∈ blanks, isBlank c = true)
    (tokenizes : Tokenizes dialect offset (blanks ++ rest) tokens) {token : Token}
    (inside : token ∈ tokens) : offset + byteLength blanks ≤ token.start := by
  obtain ⟨before, lexeme, after, split, longest, rfl⟩ := tokenizes.lexemes token inside
  obtain ⟨c, more, begins, no_blank⟩ := longest.form.head
  rw [begins, List.cons_append] at split
  rw [Lexeme.token_start]
  rcases List.append_eq_append_iff.mp split with ⟨between, rfl, -⟩ | ⟨between, same, tail⟩
  · rw [byteLength_append]
    omega
  · cases between with
    | nil =>
      rw [List.append_nil] at same
      rw [same]
    | cons d between =>
      rw [List.cons_append, List.cons.injEq] at tail
      obtain ⟨rfl, -⟩ := tail
      rw [all c (by rw [same]; simp)] at no_blank
      cases no_blank

theorem nil (all : ∀ c ∈ text, isBlank c = true) : Tokenizes dialect offset text [] where
  lexemes := by simp
  apart := List.Pairwise.nil
  covered := by
    rintro before c after rfl no_blank
    rw [all c (by simp)] at no_blank
    cases no_blank

theorem eq_nil (all : ∀ c ∈ text, isBlank c = true)
    (tokenizes : Tokenizes dialect offset text tokens) : tokens = [] := by
  rw [List.eq_nil_iff_forall_not_mem]
  intro token inside
  obtain ⟨before, lexeme, after, rfl, longest, -⟩ := tokenizes.lexemes token inside
  obtain ⟨c, more, begins, no_blank⟩ := longest.form.head
  rw [all c (by rw [begins]; simp)] at no_blank
  cases no_blank

theorem cons {blanks left : List Char} (all : ∀ c ∈ blanks, isBlank c = true) {lexeme : Lexeme}
    (longest : lexeme.Longest left)
    (tokenizes :
      Tokenizes dialect (offset + byteLength blanks + byteLength lexeme.span) left tokens) :
    Tokenizes dialect offset (blanks ++ (lexeme.span ++ left))
      (lexeme.token dialect (offset + byteLength blanks) :: tokens) where
  lexemes := by
    rintro token (_ | ⟨_, inside⟩)
    · exact ⟨blanks, lexeme, left, rfl, longest, rfl⟩
    · obtain ⟨before, other, after, rfl, later, rfl⟩ := tokenizes.lexemes token inside
      refine ⟨blanks ++ (lexeme.span ++ before), other, after, by simp, later, ?_⟩
      rw [byteLength_append, byteLength_append, ← Nat.add_assoc, ← Nat.add_assoc]
  apart := by
    refine List.Pairwise.cons (fun token inside => ?_) tokenizes.apart
    obtain ⟨before, other, after, -, -, rfl⟩ := tokenizes.lexemes token inside
    rw [Lexeme.token_start, Lexeme.token_stop]
    omega
  covered := by
    intro before c after split no_blank
    rcases lt_or_ge (byteLength before) (byteLength blanks) with early | behind
    · -- The character is one of the blanks.
      obtain ⟨between, rfl, tail⟩ := exists_between split.symm early.le
      cases between with
      | nil => simp at early
      | cons d between =>
        rw [List.cons_append, List.cons.injEq] at tail
        rw [all c (by rw [tail.1]; simp)] at no_blank
        cases no_blank
    · obtain ⟨between, rfl, tail⟩ := exists_between split behind
      rw [byteLength_append]
      rcases lt_or_ge (byteLength between) (byteLength lexeme.span) with early | behind
      · refine ⟨_, List.mem_cons_self, ?_, ?_⟩
        · rw [Lexeme.token_start]
          omega
        · rw [Lexeme.token_stop]
          omega
      · obtain ⟨further, rfl, last⟩ := exists_between tail behind
        obtain ⟨token, inside, low, high⟩ := tokenizes.covered further c after last no_blank
        rw [byteLength_append]
        exact ⟨token, List.mem_cons_of_mem _ inside, by omega, by omega⟩

/-- The first token stands at the first character that is not blank. -/
theorem exists_cons {blanks rest : List Char} {c : Char} (all : ∀ c ∈ blanks, isBlank c = true)
    (no_blank : isBlank c = false)
    (tokenizes : Tokenizes dialect offset (blanks ++ c :: rest) tokens) :
    ∃ more, tokens = (Lexeme.first c rest).token dialect (offset + byteLength blanks) :: more := by
  obtain ⟨token, inside, low, high⟩ := tokenizes.covered blanks c rest rfl no_blank
  obtain ⟨first, more, rfl⟩ := List.exists_cons_of_ne_nil (List.ne_nil_of_mem inside)
  have above := tokenizes.blanks_le_start all inside
  have front : token = first := by
    rcases List.mem_cons.mp inside with same | later
    · exact same
    · -- Otherwise the first token would lie among the blanks.
      have apart := List.rel_of_pairwise_cons tokenizes.apart later
      have first_above := tokenizes.blanks_le_start all List.mem_cons_self
      have first_more := tokenizes.start_lt_stop List.mem_cons_self
      omega
  subst front
  refine ⟨more, ?_⟩
  obtain ⟨before, lexeme, after, split, longest, rfl⟩ := tokenizes.lexemes token inside
  rw [Lexeme.token_start] at low above
  have start : byteLength before = byteLength blanks := by omega
  obtain ⟨between, same, tail⟩ := exists_between split start.ge
  obtain rfl : between = [] := by
    by_contra some_char
    have := byteLength_pos some_char
    rw [same, byteLength_append] at start
    omega
  rw [start, longest.eq_first tail.symm]

theorem of_cons {blanks left : List Char} {lexeme : Lexeme}
    (tokenizes : Tokenizes dialect offset (blanks ++ (lexeme.span ++ left))
      (lexeme.token dialect (offset + byteLength blanks) :: tokens)) :
    Tokenizes dialect (offset + byteLength blanks + byteLength lexeme.span) left tokens where
  lexemes := by
    intro token inside
    obtain ⟨before, other, after, split, longest, rfl⟩ :=
      tokenizes.lexemes token (List.mem_cons_of_mem _ inside)
    have apart := List.rel_of_pairwise_cons tokenizes.apart inside
    rw [Lexeme.token_start, Lexeme.token_stop] at apart
    have behind : byteLength (blanks ++ lexeme.span) ≤ byteLength before := by
      rw [byteLength_append]
      omega
    rw [← List.append_assoc] at split
    obtain ⟨between, rfl, tail⟩ := exists_between split behind
    refine ⟨between, other, after, tail, longest, ?_⟩
    rw [byteLength_append, byteLength_append, ← Nat.add_assoc, ← Nat.add_assoc]
  apart := tokenizes.apart.of_cons
  covered := by
    intro before c after split no_blank
    obtain ⟨token, inside, low, high⟩ :=
      tokenizes.covered (blanks ++ (lexeme.span ++ before)) c after (by simp [split]) no_blank
    rw [byteLength_append, byteLength_append] at low high
    rcases List.mem_cons.mp inside with rfl | later
    · rw [Lexeme.token_stop] at high
      omega
    · exact ⟨token, later, by omega, by omega⟩

end Tokenizes

namespace Scanner

/-- The scanner behind so many tokens. -/
def after : Nat → Scanner → Scanner
  | 0, scanner => scanner
  | count + 1, scanner => after count scanner.next.2

/-- The token that the scanner yields when it is asked again and again, counted from zero. -/
def nth (count : Nat) (scanner : Scanner) : Token :=
  (scanner.after count).next.1

theorem next_lexeme {scanner : Scanner} {c : Char} {rest : List Char}
    (shown : scanner.rest.dropWhile isBlank = c :: rest) :
    ∃ left, (Lexeme.first c rest).span ++ left = c :: rest ∧
      scanner.next =
        let start := scanner.offset + byteLength (scanner.rest.takeWhile isBlank)
        let lexeme := Lexeme.first c rest
        (lexeme.token scanner.dialect start,
          ⟨left, start + byteLength lexeme.span, scanner.dialect⟩) := by
  obtain ⟨left, split⟩ := (Lexeme.first_covers c rest).start
  have dropped : (c :: rest).drop (Lexeme.first c rest).span.length = left := by
    rw [← split, List.drop_left]
  refine ⟨left, split, ?_⟩
  rw [next_at_lexeme shown]
  dsimp only
  rw [dropped]
  rfl

theorem tokenizes_iff (scanner : Scanner) (tokens : List Token) :
    Tokenizes scanner.dialect scanner.offset scanner.rest tokens ↔ tokens = scanner.tokens.1 := by
  cases shown : scanner.rest.dropWhile isBlank with
  | nil =>
    rw [tokens_eq, if_pos ((next_kind_end_iff scanner).mpr shown)]
    rw [List.dropWhile_eq_nil_iff] at shown
    constructor
    · exact Tokenizes.eq_nil shown
    · rintro rfl
      exact Tokenizes.nil shown
  | cons c rest =>
    have more : scanner.next.1.kind ≠ .endOfInput := by
      rw [Ne, next_kind_end_iff, shown]
      exact List.cons_ne_nil c rest
    have all : ∀ c ∈ scanner.rest.takeWhile isBlank, isBlank c = true :=
      fun _ => List.mem_takeWhile_imp
    have no_blank := not_blank_of_dropWhile shown
    have shorter := next_shorter more
    have ih := tokenizes_iff scanner.next.2
    obtain ⟨left, split, step⟩ := next_lexeme shown
    have longest := Lexeme.longest_first no_blank split
    rw [tokens_eq, if_neg more, ← List.takeWhile_append_dropWhile (p := isBlank) (l := scanner.rest),
      shown]
    rw [step] at ih ⊢
    constructor
    · intro tokenizes
      obtain ⟨later, rfl⟩ := tokenizes.exists_cons all no_blank
      rw [← split] at tokenizes
      rw [(ih later).mp tokenizes.of_cons]
    · rintro rfl
      rw [← split]
      exact Tokenizes.cons all longest ((ih _).mpr rfl)
termination_by scanner.rest.length

theorem next_of_end {scanner : Scanner} (ended : scanner.next.1.kind = .endOfInput) :
    let total := scanner.offset + byteLength scanner.rest
    scanner.next = (⟨.endOfInput, "", total, total⟩, ⟨[], total, scanner.dialect⟩) := by
  have blank := (next_kind_end_iff scanner).mp ended
  have all : scanner.rest.takeWhile isBlank = scanner.rest := by
    rw [List.takeWhile_eq_self_iff, ← List.dropWhile_eq_nil_iff]
    exact blank
  dsimp only
  rw [next_at_end blank, all]

theorem nth_eq (scanner : Scanner) (count : Nat) :
    scanner.nth count =
      let total := scanner.offset + byteLength scanner.rest
      (scanner.tokens.1[count]?).getD ⟨.endOfInput, "", total, total⟩ := by
  induction count generalizing scanner with
  | zero =>
    rw [nth, after, tokens_eq]
    split
    · rename_i ended
      rw [next_of_end ended]
      rfl
    · rfl
  | succ count ih =>
    have behind : scanner.nth (count + 1) = scanner.next.2.nth count := rfl
    rw [behind, ih, next_total scanner, tokens_eq scanner]
    split
    · rename_i ended
      have stays : scanner.next.2.tokens.1 = [] := by
        rw [next_of_end ended]
        rfl
      rw [stays]
      rfl
    · rfl

end Scanner

theorem byteLength_eq (text : List Char) : byteLength text = (String.ofList text).utf8ByteSize := by
  induction text with
  | nil => rfl
  | cons c rest ih =>
    rw [byteLength, ih, String.ofList_cons, String.utf8ByteSize_append,
      String.utf8ByteSize_singleton]

theorem Lexeme.Form.literal_eq {lexeme : Lexeme} {after : List Char} (form : lexeme.Form after)
    (other : lexeme.kind ≠ .other .string) : lexeme.literal = lexeme.span := by
  cases form with
  | string => exact absurd rfl other
  | symbol | word | integer | float | unclosed | stray => rfl

theorem Tokenizes.literal {dialect : Dialect} {offset : Nat} {text : List Char}
    {tokens : List Token} (tokenizes : Tokenizes dialect offset text tokens) {token : Token}
    (inside : token ∈ tokens) (other : token.kind ≠ .string) :
    ∃ before after, text = before ++ token.literal.toList ++ after ∧
      token.start = offset + byteLength before ∧
        token.stop = token.start + byteLength token.literal.toList := by
  obtain ⟨before, lexeme, after, rfl, longest, rfl⟩ := tokenizes.lexemes token inside
  have literal : lexeme.literal = lexeme.span := by
    apply longest.form.literal_eq
    intro kind
    apply other
    rw [Lexeme.token, kind]
    rfl
  refine ⟨before, after, ?_, rfl, ?_⟩
  · simp [Lexeme.token, literal]
  · simp [Lexeme.token, literal]

/-- Scanning is longest match. The tokens of a text are the only ones that it can be divided into by
taking the longest word at every place. All but strings are pieces of the text, from their start to
their stop, and behind the last of them the end of the text is read any number of times. -/
theorem Scanner.tokens_longest_match (dialect : Dialect) (text : String) :
    let scanner := Scanner.ofText dialect text
    (∀ tokens, Tokenizes dialect 0 text.toList tokens ↔ tokens = scanner.tokens.1) ∧
      (∀ token ∈ scanner.tokens.1, token.kind ≠ .string → ∃ before after : String,
        text = before ++ token.literal ++ after ∧ token.start = before.utf8ByteSize ∧
          token.stop = (before ++ token.literal).utf8ByteSize) ∧
      ∀ count, scanner.nth count = (scanner.tokens.1[count]?).getD
        ⟨.endOfInput, "", text.utf8ByteSize, text.utf8ByteSize⟩ := by
  intro scanner
  have unique : ∀ tokens, Tokenizes dialect 0 text.toList tokens ↔ tokens = scanner.tokens.1 :=
    scanner.tokenizes_iff
  refine ⟨unique, fun token inside other => ?_, fun count => ?_⟩
  · obtain ⟨before, after, split, start, stop⟩ :=
      ((unique _).mpr rfl).literal inside other
    refine ⟨String.ofList before, String.ofList after, ?_, ?_, ?_⟩
    · rw [← String.toList_inj]
      simpa using split
    · rw [start, byteLength_eq, Nat.zero_add]
    · rw [stop, start, byteLength_eq, byteLength_eq, String.utf8ByteSize_append,
        String.ofList_toList, Nat.zero_add]
  · rw [nth_eq, byteLength_eq]
    simp [scanner, ofText]

end Polyglot
