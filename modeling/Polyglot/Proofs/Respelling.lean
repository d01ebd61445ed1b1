import Polyglot.Proofs.LastLine
import Polyglot.Proofs.Pieces

/-! Texts in another dialect. A text whose keywords are respelled is cut at the same places, and its
tokens are the same in the other dialect. -/
namespace Polyglot

namespace Dialect

theorem spelling_letters (dialect : Dialect) (word : Keyword) :
    (dialect.spelling word).toList ≠ [] ∧
      ∀ c ∈ (dialect.spelling word).toList, isLetter c = true := by
  have all : ∀ dialect ∈ Dialect.all, ∀ word ∈ Keyword.all,
      (dialect.spelling word).toList ≠ [] ∧
        (dialect.spelling word).toList.all isLetter = true := by decide +kernel
  obtain ⟨some_letter, letters⟩ :=
    all dialect (by cases dialect <;> decide) word (by cases word <;> decide)
  exact ⟨some_letter, List.all_eq_true.mp letters⟩

theorem keyword?_spelling (dialect : Dialect) (word : Keyword) :
    dialect.keyword? (dialect.spelling word) = some word := by
  have all : ∀ dialect ∈ Dialect.all, ∀ word ∈ Keyword.all,
      dialect.keyword? (dialect.spelling word) = some word := by decide +kernel
  exact all dialect (by cases dialect <;> decide) word (by cases word <;> decide)

theorem classify_spelling (dialect : Dialect) (word : Keyword) :
    dialect.classify (dialect.spelling word) = .keyword word := by
  rw [classify, keyword?_spelling]

end Dialect

/-- The lexeme in another dialect. Only keywords change. -/
def Lexeme.respell (source target : Dialect) (lexeme : Lexeme) : Lexeme :=
  match lexeme.kind.kind source (String.ofList lexeme.literal) with
  | .keyword word => ⟨.word, (target.spelling word).toList, (target.spelling word).toList⟩
  | _ => lexeme

theorem Lexeme.Form.respell_cases {lexeme : Lexeme} {after : List Char} (form : lexeme.Form after)
    (source target : Dialect) :
    lexeme.respell source target = lexeme ∨
      (lexeme.kind = .word ∧ ∀ c ∈ lexeme.span, isLetter c = true) ∧ ∃ word,
        lexeme.respell source target =
          ⟨.word, (target.spelling word).toList, (target.spelling word).toList⟩ := by
  cases form with
  | @symbol span kind known =>
    have others : ∀ symbol ∈ symbols, symbol.2.keyword? = none := by decide
    have plain : kind.keyword? = none := others _ known
    unfold Lexeme.respell
    split
    · rename_i word same
      rw [show kind = .keyword word from same] at plain
      cases plain
    · exact Or.inl rfl
  | word _ letters =>
    unfold Lexeme.respell
    split
    · rename_i word _
      exact Or.inr ⟨⟨rfl, letters⟩, word, rfl⟩
    · exact Or.inl rfl
  | integer | float | string | unclosed | stray => exact Or.inl rfl

namespace Dialect

def respellWithin (source target : Dialect) : Nat → List Char → List Char
  | 0, text => text
  | bound + 1, text =>
    match text.dropWhile isBlank with
    | [] => text
    | c :: rest =>
      let lexeme := Lexeme.first c rest
      text.takeWhile isBlank ++ ((lexeme.respell source target).span ++
        respellWithin source target bound ((c :: rest).drop lexeme.span.length))

/-- The text with each of its keywords spelled as the target spells it. Every lexeme takes a
character or more, so the characters bound their number. -/
def respell (source target : Dialect) (text : List Char) : List Char :=
  respellWithin source target text.length text

variable (source target : Dialect)

theorem respellWithin_blank (bound : Nat) {text : List Char} (all : ∀ c ∈ text, isBlank c = true) :
    respellWithin source target bound text = text := by
  cases bound with
  | zero => rfl
  | succ bound => rw [respellWithin, List.dropWhile_eq_nil_iff.mpr all]

theorem respellWithin_piece (bound : Nat) {blanks after : List Char} {lexeme : Lexeme}
    (all : ∀ c ∈ blanks, isBlank c = true) (form : lexeme.Form after)
    (stops : lexeme.Stops after) :
    respellWithin source target (bound + 1) (blanks ++ (lexeme.span ++ after)) =
      blanks ++ ((lexeme.respell source target).span ++
        respellWithin source target bound after) := by
  obtain ⟨c, more, begins, no_blank⟩ := form.head
  have same : lexeme.span ++ after = c :: (more ++ after) := by rw [begins, List.cons_append]
  have ended : ∀ d ∈ (lexeme.span ++ after).head?, isBlank d = false := by
    rw [same]
    simpa using no_blank
  rw [respellWithin, Lexeme.takeWhile_run all ended, Lexeme.dropWhile_run all ended, same]
  dsimp only
  rw [form.first_eq stops same, ← same, List.drop_left]

theorem respellWithin_eq {text : List Char} {pieces : List Piece} (splits : Splits text pieces)
    {bound : Nat} (enough : text.length ≤ bound) :
    respellWithin source target bound text = source.respell target text := by
  rw [respell]
  induction splits generalizing bound with
  | blank all => rw [respellWithin_blank _ _ _ all, respellWithin_blank _ _ _ all]
  | @piece blanks after lexeme pieces all form stops rest ih =>
    obtain ⟨c, more, begins, _⟩ := form.head
    have size : (blanks ++ (lexeme.span ++ after)).length =
        (blanks.length + more.length + after.length) + 1 := by
      rw [begins]
      simp only [List.length_append, List.length_cons]
      omega
    rw [size] at enough ⊢
    obtain ⟨bound, rfl⟩ : ∃ less, bound = less + 1 := ⟨bound - 1, by omega⟩
    have least : after.length ≤ blanks.length + more.length + after.length := by omega
    rw [respellWithin_piece _ _ _ all form stops, respellWithin_piece _ _ _ all form stops,
      ih least, ih (least.trans (Nat.le_of_succ_le_succ enough))]

theorem respell_blank {text : List Char} (all : ∀ c ∈ text, isBlank c = true) :
    source.respell target text = text :=
  respellWithin_blank source target _ all

theorem respell_piece {blanks after : List Char} {lexeme : Lexeme}
    (all : ∀ c ∈ blanks, isBlank c = true) (form : lexeme.Form after)
    (stops : lexeme.Stops after) :
    source.respell target (blanks ++ (lexeme.span ++ after)) =
      blanks ++ ((lexeme.respell source target).span ++ source.respell target after) := by
  obtain ⟨pieces, splits⟩ := exists_splits after
  have longer : (blanks ++ (lexeme.span ++ after)).length ≤
      (blanks ++ (lexeme.span ++ after)).length + 1 := Nat.le_succ _
  have shorter : after.length ≤ (blanks ++ (lexeme.span ++ after)).length := by
    rw [List.length_append, List.length_append]
    omega
  rw [← respellWithin_eq _ _ (.piece all form stops splits) longer,
    respellWithin_piece _ _ _ all form stops, respellWithin_eq _ _ splits shorter]

theorem respell_head (text : List Char) : ∀ d ∈ (source.respell target text).head?,
    ∃ c ∈ text.head?, d = c ∨ isLetter c = true ∧ isLetter d = true := by
  intro d head
  obtain ⟨pieces, splits⟩ := exists_splits text
  cases splits with
  | blank all =>
    rw [respell_blank _ _ all] at head
    exact ⟨d, head, Or.inl rfl⟩
  | @piece blanks after lexeme pieces all form stops rest =>
    rw [respell_piece _ _ all form stops] at head
    cases blanks with
    | cons c blanks =>
      obtain rfl := Option.some.inj head
      exact ⟨c, rfl, Or.inl rfl⟩
    | nil =>
      obtain ⟨c, more, begins, _⟩ := form.head
      have first : c ∈ ([] ++ (lexeme.span ++ after)).head? := by
        rw [begins]
        rfl
      rcases form.respell_cases source target with same | ⟨⟨_, letters⟩, word, same⟩
      · rw [same, begins] at head
        obtain rfl := Option.some.inj head
        exact ⟨c, first, Or.inl rfl⟩
      · obtain ⟨nonempty, all_letters⟩ := target.spelling_letters word
        obtain ⟨e, others, spelled⟩ := List.exists_cons_of_ne_nil nonempty
        rw [same, spelled] at head
        obtain rfl := Option.some.inj head
        refine ⟨c, first, Or.inr ⟨letters c ?_, all_letters e ?_⟩⟩
        · rw [begins]
          exact List.mem_cons_self
        · rw [spelled]
          exact List.mem_cons_self

theorem respell_point (rest : List Char) :
    source.respell target ('.' :: rest) = '.' :: source.respell target rest := by
  have stray : Lexeme.Stray '.' :=
    ⟨by decide, not_letter_of_asciiSign rfl, by decide, by decide, by decide⟩
  exact respell_piece source target (by simp : ∀ c ∈ [], isBlank c = true) (.stray stray rest)
    trivial

end Dialect

namespace Lexeme
variable {source target : Dialect} {lexeme : Lexeme} {after : List Char}

/-- Where a run of such characters ends, it ends in every dialect. -/
theorem respell_ended {p : Char → Bool} (apart : ∀ c, isLetter c = true → p c = false)
    (ended : ∀ c ∈ after.head?, p c = false) :
    ∀ c ∈ (source.respell target after).head?, p c = false := by
  intro d head
  obtain ⟨c, there, rfl | ⟨_, letter⟩⟩ := source.respell_head target after d head
  · exact ended d there
  · exact apart d letter

theorem not_digit_of_letter {c : Char} (letter : isLetter c = true) : c.isDigit = false := by
  rw [← Bool.not_eq_true]
  intro digit
  rw [not_letter_of_digit digit] at letter
  cases letter

theorem respell_no_sign (no_sign : after.head? ≠ some '=') :
    (source.respell target after).head? ≠ some '=' := by
  intro head
  obtain ⟨c, there, rfl | ⟨_, letter⟩⟩ := source.respell_head target after '=' head
  · exact no_sign there
  · rw [not_letter_of_asciiSign rfl] at letter
    cases letter

theorem Stops.respell (stops : lexeme.Stops after) :
    lexeme.Stops (source.respell target after) := by
  unfold Stops at stops ⊢
  split at stops
  · intro d head
    obtain ⟨c, there, rfl | ⟨letter, _⟩⟩ := source.respell_head target after d head
    · exact stops d there
    · rw [stops c there] at letter
      cases letter
  · obtain ⟨no_digit, no_fraction⟩ := stops
    refine ⟨respell_ended (fun _ => not_digit_of_letter) no_digit, fun d more same => ?_⟩
    obtain ⟨c, there, rfl | ⟨_, letter⟩⟩ := source.respell_head target after '.' (by rw [same]; rfl)
    · obtain ⟨rest, rfl⟩ := List.head?_eq_some_iff.mp there
      rw [Dialect.respell_point, List.cons.injEq] at same
      have ended : ∀ c ∈ rest.head?, c.isDigit = false := by
        intro c head
        obtain ⟨last, rfl⟩ := List.head?_eq_some_iff.mp head
        exact no_fraction c last rfl
      exact respell_ended (fun _ => not_digit_of_letter) ended d (by rw [same.2]; rfl)
    · rw [not_letter_of_asciiSign rfl] at letter
      cases letter
  · exact respell_ended (fun _ => not_digit_of_letter) stops
  · exact respell_no_sign stops
  · exact respell_no_sign stops
  · exact respell_no_sign stops
  · exact respell_no_sign stops
  · trivial

theorem Form.respell (form : lexeme.Form after) (stops : lexeme.Stops after)
    (source target : Dialect) :
    (lexeme.respell source target).Form (source.respell target after) ∧
      (lexeme.respell source target).Stops (source.respell target after) := by
  have moved : lexeme.Stops (source.respell target after) := stops.respell
  rcases form.respell_cases source target with same | ⟨⟨kind, _⟩, word, same⟩
  · rw [same]
    refine ⟨?_, moved⟩
    rcases form.free with free | ⟨rfl, inside, never, rfl⟩
    · exact free _
    · rw [Dialect.respell_blank _ _ (List.forall_mem_nil _)]
      exact .unclosed never
  · rw [same]
    obtain ⟨nonempty, letters⟩ := target.spelling_letters word
    refine ⟨.word nonempty letters _, ?_⟩
    rw [Stops, kind] at moved
    exact moved

end Lexeme

def Piece.respell (source target : Dialect) (piece : Piece) : Piece :=
  { piece with lexeme := piece.lexeme.respell source target }

theorem Splits.respell {text : List Char} {pieces : List Piece} (splits : Splits text pieces)
    (source target : Dialect) :
    Splits (source.respell target text) (pieces.map (Piece.respell source target)) := by
  induction splits with
  | blank all =>
    rw [Dialect.respell_blank _ _ all]
    exact .blank all
  | piece all form stops _ ih =>
    obtain ⟨form', stops'⟩ := form.respell stops source target
    rw [Dialect.respell_piece _ _ all form stops]
    exact .piece all form' stops' ih

/-- The text of a token in the target's spelling. -/
def Token.respelled (target : Dialect) (token : Token) : String :=
  match token.kind with
  | .keyword word => target.spelling word
  | _ => token.literal

namespace Lexeme

/-- The lexeme is no pragma and no name that the target would take for a keyword. -/
def Clear (source target : Dialect) (lexeme : Lexeme) : Prop :=
  ∀ start, (lexeme.token source start).kind ≠ .tilde ∧
    ((lexeme.token source start).kind = .identifier →
      target.keyword? (lexeme.token source start).literal = none)

theorem token_respell {source target : Dialect} {lexeme : Lexeme}
    (clear : lexeme.Clear source target) (start place : Nat) :
    ((lexeme.respell source target).token target place).kind = (lexeme.token source start).kind ∧
      ((lexeme.respell source target).token target place).literal =
        (lexeme.token source start).respelled target := by
  have known : (lexeme.token source start).kind =
      lexeme.kind.kind source (String.ofList lexeme.literal) := rfl
  unfold respell Token.respelled
  rw [known]
  split
  · rename_i word kind
    rw [kind]
    constructor
    · show target.classify (String.ofList (target.spelling word).toList) = _
      rw [String.ofList_toList, target.classify_spelling]
    · exact String.ofList_toList
  · rename_i no_keyword
    refine ⟨?_, ?_⟩
    · show lexeme.kind.kind target (String.ofList lexeme.literal) = _
      cases shape : lexeme.kind with
      | other kind => rfl
      | word =>
        -- A word that is no keyword of the source is a name, so it is none of the target either.
        rw [shape] at known no_keyword
        unfold LexemeKind.kind Dialect.classify at known no_keyword ⊢
        dsimp only at known no_keyword ⊢
        cases found : source.keyword? (String.ofList lexeme.literal) with
        | some word =>
          rw [found] at no_keyword
          exact absurd rfl (no_keyword word)
        | none =>
          rw [found] at known
          have free := (clear start).2 known
          rw [show target.keyword? (String.ofList lexeme.literal) = none from free]
    · rfl

end Lexeme

/-- Tokens that differ at most in their places and in the spelling of keywords. -/
def Token.Twin (target : Dialect) (one other : Token) : Prop :=
  other.kind = one.kind ∧ other.literal = one.respelled target

theorem Piece.tokens_respell {source target : Dialect} {pieces : List Piece}
    (clear : ∀ piece ∈ pieces, piece.lexeme.Clear source target) (offset place : Nat) :
    List.Forall₂ (Token.Twin target) (Piece.tokens source offset pieces)
      (Piece.tokens target place (pieces.map (Piece.respell source target))) := by
  induction pieces generalizing offset place with
  | nil => exact .nil
  | cons piece pieces ih =>
    obtain ⟨here, later⟩ := List.forall_mem_cons.mp clear
    exact .cons (Lexeme.token_respell here _ _) (ih later _ _)

theorem Piece.clear_of_tokens {source target : Dialect} {pieces : List Piece} {offset : Nat}
    (no_pragma : ∀ token ∈ Piece.tokens source offset pieces, token.kind ≠ .tilde)
    (no_clash : ∀ token ∈ Piece.tokens source offset pieces, token.kind = .identifier →
      target.keyword? token.literal = none) :
    ∀ piece ∈ pieces, piece.lexeme.Clear source target := by
  induction pieces generalizing offset with
  | nil => exact List.forall_mem_nil _
  | cons piece pieces ih =>
    obtain ⟨no_tilde, no_pragma⟩ := List.forall_mem_cons.mp no_pragma
    obtain ⟨no_keyword, no_clash⟩ := List.forall_mem_cons.mp no_clash
    exact List.forall_mem_cons.mpr ⟨fun _ => ⟨no_tilde, no_keyword⟩, ih no_pragma no_clash⟩

theorem Piece.no_pragma {source target : Dialect} {pieces : List Piece}
    (clear : ∀ piece ∈ pieces, piece.lexeme.Clear source target) (offset : Nat) :
    ∀ token ∈ Piece.tokens source offset pieces, token.kind ≠ .tilde := by
  induction pieces generalizing offset with
  | nil => exact List.forall_mem_nil _
  | cons piece pieces ih =>
    obtain ⟨here, later⟩ := List.forall_mem_cons.mp clear
    exact List.forall_mem_cons.mpr ⟨(here _).1, ih later _⟩

namespace Lexeme

theorem Stops.lineEnd {lexeme : Lexeme} {after : List Char} (stops : lexeme.Stops after) :
    lexeme.Stops (after ++ ['\n']) := by
  have head {c : Char} (there : c ∈ (after ++ ['\n']).head?) : c ∈ after.head? ∨ c = '\n' := by
    cases after with
    | nil => exact Or.inr (Option.some.inj there).symm
    | cons d after => exact Or.inl there
  have ended {p : Char → Bool} (stop : p '\n' = false) (before : ∀ c ∈ after.head?, p c = false) :
      ∀ c ∈ (after ++ ['\n']).head?, p c = false := by
    intro c there
    rcases head there with inside | rfl
    · exact before c inside
    · exact stop
  have no_sign (before : after.head? ≠ some '=') : (after ++ ['\n']).head? ≠ some '=' := by
    intro there
    rcases head there with inside | stop
    · exact before inside
    · cases stop
  unfold Stops at stops ⊢
  split at stops
  · exact ended (not_letter_of_asciiSign rfl) stops
  · refine ⟨ended (by decide) stops.1, fun d more same => ?_⟩
    cases after with
    | nil => cases same
    | cons c after =>
      cases after with
      | nil =>
        cases same
        decide
      | cons e after =>
        cases same
        exact stops.2 d after rfl
  · exact ended (by decide) stops
  · exact no_sign stops
  · exact no_sign stops
  · exact no_sign stops
  · exact no_sign stops
  · trivial

theorem Open.lineEnd {inside : List Char} (never : Open inside) : Open (inside ++ ['\n']) :=
  open_of_closing? (closing?_lineEnd never.closing?)

end Lexeme

/-- The end of a line behind a text is no matter of the dialect. -/
theorem Splits.lineEnd {text : List Char} {pieces : List Piece} (splits : Splits text pieces)
    {source target : Dialect} (clear : ∀ piece ∈ pieces, piece.lexeme.Clear source target) :
    (∃ others, Splits (text ++ ['\n']) others ∧
        ∀ piece ∈ others, piece.lexeme.Clear source target) ∧
      source.respell target (text ++ ['\n']) = source.respell target text ++ ['\n'] := by
  have newline : (Lexeme.plain .newLine ['\n']).Form [] := .symbol (by decide) []
  have nothing : ∀ c ∈ [], isBlank c = true := List.forall_mem_nil _
  induction splits with
  | @blank text all =>
    refine ⟨⟨[⟨text, .plain .newLine ['\n']⟩], .piece all newline trivial (.blank nothing), ?_⟩, ?_⟩
    · exact List.forall_mem_singleton.mpr fun _ => ⟨TokenKind.noConfusion, TokenKind.noConfusion⟩
    · have moved := Dialect.respell_piece source target all newline trivial
      rw [Dialect.respell_blank _ _ nothing] at moved
      rw [Dialect.respell_blank _ _ all]
      exact moved
  | @piece blanks after lexeme pieces all form stops rest ih =>
    obtain ⟨here, later⟩ := List.forall_mem_cons.mp clear
    obtain ⟨⟨others, splits, clear⟩, moved⟩ := ih later
    rw [List.append_assoc, List.append_assoc, Dialect.respell_piece _ _ all form stops]
    rcases form.free with free | ⟨rfl, inside, never, rfl⟩
    · refine ⟨⟨_, .piece all (free _) stops.lineEnd splits, ?_⟩, ?_⟩
      · exact List.forall_mem_cons.mpr ⟨here, clear⟩
      · rw [Dialect.respell_piece _ _ all (free _) stops.lineEnd, moved]
        simp
    · have longer : (Lexeme.plain .illegal ('"' :: (inside ++ ['\n']))).Form [] :=
        .unclosed never.lineEnd
      have text : blanks ++ ((Lexeme.plain .illegal ('"' :: inside)).span ++ ([] ++ ['\n'])) =
          blanks ++ ((Lexeme.plain .illegal ('"' :: (inside ++ ['\n']))).span ++ []) := by
        simp [Lexeme.plain]
      rw [text]
      refine ⟨⟨_, .piece all longer trivial (.blank nothing), ?_⟩, ?_⟩
      · exact List.forall_mem_singleton.mpr fun _ => ⟨TokenKind.noConfusion, TokenKind.noConfusion⟩
      · rw [Dialect.respell_piece source target all longer trivial,
          Dialect.respell_blank _ _ nothing]
        simp [Lexeme.respell, Lexeme.plain, LexemeKind.kind]

end Polyglot
