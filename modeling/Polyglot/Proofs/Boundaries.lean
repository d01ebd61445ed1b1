import Polyglot.Proofs.Lookahead

/-! Where tokens begin and end. The dialect has no part in it: however the dialect is switched while a
text is scanned, the tokens are cut in the same places, and no more than the kind of a word depends
on the dialect of the moment. -/
namespace Polyglot

/-- The first byte of a token and the first one behind it. -/
def Token.bounds (token : Token) : Nat × Nat :=
  (token.start, token.stop)

/-- Letters, one at least. -/
def IsWord (span : List Char) : Prop :=
  span ≠ [] ∧ ∀ c ∈ span, isLetter c = true

/-- The token stands for these characters of the text. -/
def Token.Covers (text span : List Char) (token : Token) : Prop :=
  ∃ before after, text = before ++ (span ++ after) ∧ token.start = byteLength before ∧
    token.stop = byteLength (before ++ span)

/-- Tokens from one place of a text, each scanned in the dialect beside it. They differ in their kind
at most, and only if they are a word. -/
structure CutAlike (text : List Char) (one other : Dialect × Token) : Prop where
  start : one.2.start = other.2.start
  stop : one.2.stop = other.2.stop
  literal : one.2.literal = other.2.literal
  kind : ∃ span, one.2.Covers text span ∧
    (IsWord span → one.2.literal = String.ofList span ∧
      one.2.kind = one.1.classify (String.ofList span) ∧
      other.2.kind = other.1.classify (String.ofList span)) ∧
    (¬ IsWord span → one.2.kind = other.2.kind)

namespace Lexeme

theorem isWord_word {c : Char} (letter : isLetter c = true) (rest : List Char) :
    IsWord (word (c :: rest)).span :=
  ⟨by simp [word, letter], fun _ => List.mem_takeWhile_imp⟩

theorem first_kind_of_not_letter {c : Char} (no_letter : isLetter c = false) (rest : List Char) :
    ∃ kind, (first c rest).kind = .other kind := by
  unfold first
  split
  · rename_i lexeme found
    obtain ⟨kind, same, -⟩ := symbol?_mem found
    exact ⟨kind, by rw [same]; rfl⟩
  · simp only [no_letter, Bool.false_eq_true, if_false]
    split_ifs
    · unfold string
      split
      · exact ⟨.string, rfl⟩
      · exact ⟨.illegal, rfl⟩
    · unfold number
      dsimp only
      split
      · split
        · exact ⟨.integer, rfl⟩
        · exact ⟨.float, rfl⟩
      · exact ⟨.integer, rfl⟩
    · exact ⟨.illegal, rfl⟩

/-- The words are the lexemes of letters alone. -/
theorem first_word_or_other (c : Char) (rest : List Char) :
    let lexeme := first c rest
    (IsWord lexeme.span ∧ lexeme.kind = .word ∧ lexeme.literal = lexeme.span) ∨
      (¬ IsWord lexeme.span ∧ ∃ kind, lexeme.kind = .other kind) := by
  intro lexeme
  cases letter : isLetter c with
  | true =>
    left
    rw [show lexeme = word (c :: rest) from first_of_letter letter rest]
    exact ⟨isWord_word letter rest, rfl, rfl⟩
  | false =>
    right
    refine ⟨fun word => ?_, first_kind_of_not_letter letter rest⟩
    obtain ⟨left, split⟩ := (first_covers c rest).start
    obtain ⟨d, more, begins⟩ := List.exists_cons_of_ne_nil word.1
    have split : lexeme.span ++ left = c :: rest := split
    rw [begins, List.cons_append] at split
    obtain ⟨rfl, -⟩ := List.cons.inj split
    have letters := word.2 d (by rw [begins]; exact List.mem_cons_self)
    rw [letter] at letters
    cases letters

end Lexeme

namespace Scanner

def inDialect (dialect : Dialect) (scanner : Scanner) : Scanner :=
  { scanner with dialect }

theorem next_inDialect_at_end {scanner : Scanner} (shown : scanner.rest.dropWhile isBlank = [])
    (dialect : Dialect) :
    (scanner.inDialect dialect).next =
      (⟨.endOfInput, "", scanner.settled.offset, scanner.settled.offset⟩,
        ⟨[], scanner.settled.offset, dialect⟩) := by
  have here : (scanner.inDialect dialect).rest.dropWhile isBlank = [] := shown
  rw [next_at_end here]
  rfl

theorem next_inDialect_at_lexeme {scanner : Scanner} {c : Char} {rest : List Char}
    (shown : scanner.rest.dropWhile isBlank = c :: rest) (dialect : Dialect) :
    (scanner.inDialect dialect).next =
      ((Lexeme.first c rest).token dialect scanner.settled.offset,
        ⟨(c :: rest).drop (Lexeme.first c rest).span.length,
          scanner.settled.offset + byteLength (Lexeme.first c rest).span, dialect⟩) := by
  have here : (scanner.inDialect dialect).rest.dropWhile isBlank = c :: rest := shown
  rw [next_at_lexeme here]
  rfl

theorem next_inDialect (dialect : Dialect) (scanner : Scanner) :
    (scanner.inDialect dialect).next.2 = scanner.next.2.inDialect dialect := by
  cases shown : scanner.rest.dropWhile isBlank with
  | nil =>
    rw [next_inDialect_at_end shown, next_at_end shown]
    rfl
  | cons c rest =>
    rw [next_inDialect_at_lexeme shown, next_at_lexeme shown]
    rfl

theorem after_inDialect (dialect : Dialect) (count : Nat) (scanner : Scanner) :
    (scanner.inDialect dialect).after count = (scanner.after count).inDialect dialect := by
  induction count generalizing scanner with
  | zero => rfl
  | succ count ih => rw [after, next_inDialect, ih, after]

theorem after_add (count more : Nat) (scanner : Scanner) :
    scanner.after (count + more) = (scanner.after count).after more := by
  induction count generalizing scanner with
  | zero => rw [Nat.zero_add, after]
  | succ count ih => rw [Nat.succ_add, after, after, ih]

theorem next_bounds_inDialect (dialect : Dialect) (scanner : Scanner) :
    (scanner.inDialect dialect).next.1.bounds = scanner.next.1.bounds := by
  cases shown : scanner.rest.dropWhile isBlank with
  | nil =>
    rw [next_inDialect_at_end shown, next_at_end shown]
    rfl
  | cons c rest =>
    rw [next_inDialect_at_lexeme shown, next_at_lexeme shown]
    rfl

theorem next_start_inDialect (dialect : Dialect) (scanner : Scanner) :
    (scanner.inDialect dialect).next.1.start = scanner.next.1.start :=
  congrArg Prod.fst (next_bounds_inDialect dialect scanner)

theorem next_end_inDialect_iff (dialect : Dialect) (scanner : Scanner) :
    (scanner.inDialect dialect).next.1.kind = .endOfInput ↔ scanner.next.1.kind = .endOfInput := by
  rw [next_kind_end_iff, next_kind_end_iff]
  rfl

theorem Inside.inDialect {text : List Char} {scanner : Scanner} (inside : scanner.Inside text)
    (dialect : Dialect) : (scanner.inDialect dialect).Inside text :=
  inside

theorem Inside.after {text : List Char} {scanner : Scanner} (inside : scanner.Inside text)
    (count : Nat) : (scanner.after count).Inside text := by
  induction count generalizing scanner with
  | zero => exact inside
  | succ count ih => exact ih inside.next

/-- What is scanned at one place in two dialects. -/
theorem next_cutAlike {text : List Char} {scanner : Scanner} (inside : scanner.Inside text)
    (one other : Dialect) :
    CutAlike text (one, (scanner.inDialect one).next.1) (other, (scanner.inDialect other).next.1) := by
  obtain ⟨passed, whole, place⟩ := inside.settled
  cases shown : scanner.rest.dropWhile isBlank with
  | nil =>
    rw [next_inDialect_at_end shown, next_inDialect_at_end shown]
    refine ⟨rfl, rfl, rfl, [], ⟨passed, [], ?_, place.symm, ?_⟩, fun word => absurd rfl word.1,
      fun _ => rfl⟩
    · rw [whole, settled, shown]
      rfl
    · rw [List.append_nil]
      exact place.symm
  | cons c rest =>
    obtain ⟨left, split⟩ := (Lexeme.first_covers c rest).start
    rw [next_inDialect_at_lexeme shown, next_inDialect_at_lexeme shown]
    refine ⟨rfl, rfl, rfl, (Lexeme.first c rest).span, ⟨passed, left, ?_, place.symm, ?_⟩, ?_⟩
    · rw [whole, settled, split, shown]
    · rw [byteLength_append, place]
      rfl
    · unfold Lexeme.token
      dsimp only
      rcases Lexeme.first_word_or_other c rest with ⟨word, kind, literal⟩ | ⟨no_word, kind, same⟩
      · rw [kind, literal]
        exact ⟨fun _ => ⟨rfl, rfl, rfl⟩, fun no_word => absurd word no_word⟩
      · rw [same]
        exact ⟨fun word => absurd word no_word, fun _ => rfl⟩

/-- What a scanner may be asked for: the next token, or to go on in the dialect of that name. -/
inductive Request where
  | token
  | dialect (name : String)

/-- The tokens that a scanner yields when it is asked for this, one after the other, each with the
dialect that was active. -/
def scans : List Request → Scanner → List (Dialect × Token)
  | [], _ => []
  | .token :: more, scanner => (scanner.dialect, scanner.next.1) :: scans more scanner.next.2
  | .dialect name :: more, scanner => scans more (scanner.inDialect (Dialect.resolve name))

/-- However the dialects have been switched, the scanner stands where it would stand without that, in
the dialect of the moment. -/
theorem scans_getElem? {requests : List Request} {scanner : Scanner} {count : Nat}
    {dialect : Dialect} {token : Token}
    (scanned : (scans requests scanner)[count]? = some (dialect, token)) :
    token = ((scanner.after count).inDialect dialect).next.1 := by
  induction requests generalizing scanner count with
  | nil => cases scanned
  | cons request more ih =>
    cases request with
    | dialect name =>
      have later := ih scanned
      rwa [after_inDialect] at later
    | token =>
      cases count with
      | zero =>
        cases scanned
        rfl
      | succ count =>
        rw [scans, List.getElem?_cons_succ] at scanned
        have later := ih scanned
        exact later

/-- Two runs over one text, from one place and from any dialects, yield alike tokens. -/
theorem scans_cutAlike {text : List Char} {scanner : Scanner} (inside : scanner.Inside text)
    {requests others : List Request} {start active : Dialect} {count : Nat}
    {one other : Dialect × Token}
    (first : (scans requests (scanner.inDialect start))[count]? = some one)
    (second : (scans others (scanner.inDialect active))[count]? = some other) :
    CutAlike text one other := by
  obtain ⟨dialect, token⟩ := one
  obtain ⟨foreign, twin⟩ := other
  rw [scans_getElem? first, scans_getElem? second, after_inDialect, after_inDialect]
  exact next_cutAlike (inside.after count) dialect foreign

theorem within_start {text : List Char} {scanner : Scanner} (inside : scanner.Inside text)
    (dialect : Dialect) :
    within text scanner.next.1.start dialect = scanner.settled.inDialect dialect := by
  rw [next_start]
  exact (inside.settled.inDialect dialect).within_eq

/-- To go back to the start of a token is to go back to where the scanner stood, blanks apart. -/
theorem nth_within_start {text : List Char} {scanner : Scanner} (inside : scanner.Inside text)
    (start dialect : Dialect) (count : Nat) :
    (((within text scanner.next.1.start start).after count).inDialect dialect).next.1 =
      ((scanner.after count).inDialect dialect).next.1 := by
  rw [within_start inside, after_inDialect]
  cases count with
  | zero => exact congrArg Prod.fst (next_settled (scanner.inDialect dialect))
  | succ count =>
    rw [after, after, next_settled]
    rfl

/-- Dialects never move the bounds of tokens. In any two runs over a text, whatever dialects they begin
with and switch to and wherever they do, the tokens with the same number begin and end in the same
places and have the same literal. So do the tokens of a run that goes back to the start of a token,
in any dialect. Kinds are the same too, but for words, which are looked up in the dialect that is
active when they are scanned. -/
theorem dialects_keep_boundaries (text : String) (first second : Dialect)
    (requests others : List Request) {count : Nat} {one other : Dialect × Token}
    (left : (scans requests (ofText first text))[count]? = some one)
    (right : (scans others (ofText second text))[count]? = some other) :
    CutAlike text.toList one other ∧
      ∀ (third : Dialect) (again : List Request) (more : Nat) (two twin : Dialect × Token),
        (scans again (within text.toList one.2.start third))[more]? = some two →
        (scans others (ofText second text))[count + more]? = some twin →
        CutAlike text.toList two twin := by
  have inside : (ofText second text).Inside text.toList := ⟨[], rfl, rfl⟩
  refine ⟨scans_cutAlike inside left right, fun third again more two twin rescanned later => ?_⟩
  obtain ⟨dialect, token⟩ := one
  obtain ⟨active, copy⟩ := two
  obtain ⟨foreign, image⟩ := twin
  let place := (ofText second text).after count
  have there : place.Inside text.toList := inside.after count
  have start : token.start = place.next.1.start := by
    have same : (ofText first text).after count = place.inDialect first :=
      after_inDialect first count (ofText second text)
    rw [scans_getElem? left, next_start_inDialect, same, next_start_inDialect]
  have copied : copy = ((place.after more).inDialect active).next.1 := by
    rw [scans_getElem? rescanned, start, nth_within_start there]
  rw [copied, scans_getElem? later, after_add]
  exact next_cutAlike (there.after more) active foreign

/-- The word `olsun`: a name in one run, a keyword in the other, and a name again when the scanner has
gone back to it. Behind it there is a string with the same literal. -/
theorem dialects_keep_boundaries_olsun :
    let text := "x\tolsun \"olsun\""
    let word (dialect : Dialect) (kind : TokenKind) : Dialect × Token :=
      (dialect, ⟨kind, "olsun", 2, 7⟩)
    let string (dialect : Dialect) : Dialect × Token := (dialect, ⟨.string, "olsun", 8, 15⟩)
    let requests : List Request := [.token, .token, .dialect "trk", .token]
    let others : List Request := [.token, .dialect "trk", .token, .dialect "none", .token]
    (scans requests (ofText .eng text))[1]? = some (word .eng .identifier) ∧
    (scans others (ofText .qzq text))[1]? = some (word .trk (.keyword .letWord)) ∧
    CutAlike text.toList (word .eng .identifier) (word .trk (.keyword .letWord)) ∧
    (scans requests (within text.toList 2 .qzq))[1]? = some (string .qzq) ∧
    (scans others (ofText .qzq text))[2]? = some (string .eng) ∧
    CutAlike text.toList (string .qzq) (string .eng) := by
  intro text word string requests others
  have left : (scans requests (ofText .eng text))[1]? = some (word .eng .identifier) := by
    decide +kernel
  have right : (scans others (ofText .qzq text))[1]? = some (word .trk (.keyword .letWord)) := by
    decide +kernel
  have again : (scans requests (within text.toList 2 .qzq))[1]? = some (string .qzq) := by
    decide +kernel
  have later : (scans others (ofText .qzq text))[2]? = some (string .eng) := by decide +kernel
  obtain ⟨alike, rescanned⟩ := dialects_keep_boundaries text .eng .qzq requests others left right
  exact ⟨left, right, alike, again, later, rescanned .qzq requests 1 _ _ again later⟩

end Scanner

end Polyglot
