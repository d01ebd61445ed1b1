import Polyglot.Proofs.Correspondence

/-! Parsing composes at the ends of lines. A text followed by a line end and a second text is
scanned as the first one up to there, unclosed strings apart, and then as the second one at another
offset. Whatever the parser makes of the parts it makes of the whole, unless the first part breaks
off: a fault at its end would be no fault, or another one, if more followed. -/
namespace Polyglot

namespace Lexeme

/-- Of what follows an operator only a `=` right behind it matters. -/
theorem symbol?_congr (c : Char) {rest other : List Char}
    (same : (∃ tail, rest = '=' :: tail) ↔ ∃ tail, other = '=' :: tail) :
    symbol? c rest = symbol? c other := by
  unfold symbol?
  split <;> first | rfl | (split <;> simp_all)

theorem symbol?_append (c : Char) (rest more : List Char) :
    symbol? c (rest ++ '\n' :: more) = symbol? c rest := by
  apply symbol?_congr
  cases rest <;> simp

theorem closing?_append {text contents span : List Char}
    (closed : closing? text = some (contents, span)) (more : List Char) :
    closing? (text ++ more) = some (contents, span) := by
  fun_induction closing? text generalizing contents span with
  | case1 => cases closed
  | case2 =>
    rw [← closed]
    rfl
  | case3 c rest ih =>
    obtain ⟨⟨inner, covered⟩, tail, same⟩ := Option.map_eq_some_iff.mp closed
    rw [List.cons_append, List.cons_append, closing?, ih tail]
    exact congrArg some same
  | case4 c rest no_quote no_escape ih =>
    obtain ⟨⟨inner, covered⟩, tail, same⟩ := Option.map_eq_some_iff.mp closed
    have plain : c ≠ '\\' := by
      intro escape
      cases rest with
      | nil => cases tail
      | cons d rest => exact no_escape d rest escape rfl
    rw [List.cons_append, closing?, ih tail]
    · exact congrArg some same
    · exact no_quote
    · exact fun _ _ escape => absurd escape plain

theorem takeWhile_append_lineEnd {p : Char → Bool} (stops : p '\n' = false)
    (text more : List Char) : (text ++ '\n' :: more).takeWhile p = text.takeWhile p := by
  induction text with
  | nil => simp [stops]
  | cons c text ih => rw [List.cons_append, List.takeWhile_cons, List.takeWhile_cons, ih]

theorem dropWhile_append_lineEnd {p : Char → Bool} (stops : p '\n' = false)
    (text more : List Char) :
    (text ++ '\n' :: more).dropWhile p = text.dropWhile p ++ '\n' :: more := by
  induction text with
  | nil => simp [stops]
  | cons c text ih =>
    rw [List.cons_append, List.dropWhile_cons, List.dropWhile_cons, ih]
    split <;> rfl

theorem number_append (text more : List Char) :
    number (text ++ '\n' :: more) = number text := by
  have stops : Char.isDigit '\n' = false := by decide
  unfold number
  rw [takeWhile_append_lineEnd stops, dropWhile_append_lineEnd stops]
  cases dropped : text.dropWhile Char.isDigit with
  | nil => rfl
  | cons c rest =>
    rw [List.cons_append]
    dsimp only
    split
    · rename_i same
      obtain ⟨rfl, rfl⟩ := List.cons.inj same
      rw [takeWhile_append_lineEnd stops]
      rfl
    · rename_i other
      split
      · rename_i same
        obtain ⟨rfl, rfl⟩ := List.cons.inj same
        exact absurd rfl (other _)
      · rfl

/-- A string whose quote is never closed. -/
def Unclosed (lexeme : Lexeme) : Prop :=
  lexeme.kind = .other .illegal ∧ lexeme.literal.head? = some '"'

theorem string_append {rest : List Char} (closed : ¬ (string rest).Unclosed) (more : List Char) :
    string (rest ++ more) = string rest := by
  unfold string at closed ⊢
  cases found : closing? rest with
  | none =>
    rw [found] at closed
    exact absurd ⟨rfl, rfl⟩ closed
  | some parts => rw [closing?_append found]

/-- A lexeme ends where its line ends at the latest, an unclosed string apart. -/
theorem first_append {c : Char} {rest : List Char} (closed : ¬ (first c rest).Unclosed)
    (more : List Char) : first c (rest ++ '\n' :: more) = first c rest := by
  have letters : isLetter '\n' = false := not_letter_of_asciiSign rfl
  unfold first at closed ⊢
  rw [symbol?_append]
  cases found : symbol? c rest with
  | some lexeme => rfl
  | none =>
    rw [found] at closed
    dsimp only at closed ⊢
    split_ifs at closed ⊢ with quote letter digit
    · exact string_append closed _
    · rw [word, word, ← List.cons_append, takeWhile_append_lineEnd letters]
    · rw [← List.cons_append, number_append]
    · rfl

end Lexeme

/-- A string whose quote is never closed is scanned as an illegal token that starts with the
quote. -/
def Token.Unclosed (token : Token) : Prop :=
  token.kind = .illegal ∧ token.literal.toList.head? = some '"'

instance (token : Token) : Decidable token.Unclosed :=
  inferInstanceAs (Decidable (_ ∧ _))

namespace Scanner

/-- No string in front is left unclosed. -/
def Closed (scanner : Scanner) : Prop :=
  ∀ token ∈ scanner.tokens.1, ¬ token.Unclosed

theorem closed_iff (scanner : Scanner) :
    scanner.Closed ↔ (scanner.next.1.kind ≠ .endOfInput →
      ¬ scanner.next.1.Unclosed ∧ scanner.next.2.Closed) := by
  unfold Closed
  rw [tokens_eq]
  split
  · simp [*]
  · rename_i more
    rw [List.forall_mem_cons]
    simp [more]

theorem next_unclosed_iff {scanner : Scanner} {c : Char} {rest : List Char}
    (shown : scanner.rest.dropWhile isBlank = c :: rest) :
    scanner.next.1.Unclosed ↔ (Lexeme.first c rest).Unclosed := by
  rw [next_at_lexeme shown]
  unfold Token.Unclosed Lexeme.Unclosed
  dsimp only
  rw [String.toList_ofList]
  refine and_congr_left fun _ => ?_
  cases (Lexeme.first c rest).kind with
  | word =>
    unfold LexemeKind.kind Dialect.classify
    dsimp only
    split <;> simp
  | other kind => simp [LexemeKind.kind]

/-- Whether strings are closed does not depend on the dialect. -/
theorem Closed.of_rest {scanner other : Scanner} (closed : scanner.Closed)
    (same : other.rest = scanner.rest) : other.Closed := by
  induction length : scanner.rest.length using Nat.strong_induction_on
    generalizing scanner other with
  | _ size ih =>
    rw [closed_iff]
    intro more
    cases shown : scanner.rest.dropWhile isBlank with
    | nil => exact absurd ((next_kind_end_iff other).mpr (by rw [same]; exact shown)) more
    | cons c rest =>
      have ahead : other.rest.dropWhile isBlank = c :: rest := by rw [same]; exact shown
      have goes_on : scanner.next.1.kind ≠ .endOfInput := by
        rw [Ne, next_kind_end_iff, shown]
        exact List.cons_ne_nil _ _
      obtain ⟨plain, later⟩ := (closed_iff scanner).mp closed goes_on
      -- Both scanners cut the same lexeme; the dialects differ in what they call it.
      refine ⟨?_, ih _ (length ▸ next_shorter goes_on) later ?_ rfl⟩
      · rw [next_unclosed_iff ahead, ← next_unclosed_iff shown]
        exact plain
      · rw [next_at_lexeme ahead, next_at_lexeme shown]

/-- The second scanner reads what the first one reads, then the end of a line and more. All in all
the first one comes to this many bytes. -/
structure Ahead (size : Nat) (more : List Char) (one other : Scanner) : Prop where
  rest : other.rest = one.rest ++ '\n' :: more
  offset : other.offset = one.offset
  dialect : other.dialect = one.dialect
  closed : one.Closed
  total : one.offset + byteLength one.rest = size

theorem Ahead.next {size : Nat} {more : List Char} {one other : Scanner}
    (ahead : Ahead size more one other) (goes_on : one.next.1.kind ≠ .endOfInput) :
    other.next.1 = one.next.1 ∧ Ahead size more one.next.2 other.next.2 := by
  have blank : isBlank '\n' = false := by decide
  obtain ⟨plain, later⟩ := (closed_iff one).mp ahead.closed goes_on
  cases shown : one.rest.dropWhile isBlank with
  | nil => exact absurd ((next_kind_end_iff one).mpr shown) goes_on
  | cons c rest =>
    have there : other.rest.dropWhile isBlank = c :: (rest ++ '\n' :: more) := by
      rw [ahead.rest, Lexeme.dropWhile_append_lineEnd blank, shown, List.cons_append]
    have blanks : other.rest.takeWhile isBlank = one.rest.takeWhile isBlank := by
      rw [ahead.rest, Lexeme.takeWhile_append_lineEnd blank]
    have same := Lexeme.first_append (mt (next_unclosed_iff shown).mpr plain) more
    have fits := (Lexeme.first_covers c rest).start.length_le
    have total := next_total one
    rw [next_at_lexeme shown] at later total
    rw [next_at_lexeme there, next_at_lexeme shown]
    dsimp only at later total ⊢
    rw [same, blanks, ahead.offset, ahead.dialect]
    refine ⟨rfl, ?_, rfl, rfl, later, total.trans ahead.total⟩
    rw [← List.cons_append, List.drop_append_of_le_length fits]

theorem Ahead.next_at_end {size : Nat} {more : List Char} {one other : Scanner}
    (ahead : Ahead size more one other) (ended : one.next.1.kind = .endOfInput) :
    other.next.1.kind = .newLine ∧ other.next.2 = ⟨more, size + 1, one.dialect⟩ := by
  have blank : isBlank '\n' = false := by decide
  have shown := (next_kind_end_iff one).mp ended
  have there : other.rest.dropWhile isBlank = '\n' :: more := by
    rw [ahead.rest, Lexeme.dropWhile_append_lineEnd blank, shown, List.nil_append]
  have blanks : other.rest.takeWhile isBlank = one.rest := by
    rw [ahead.rest, Lexeme.takeWhile_append_lineEnd blank]
    have parts := List.takeWhile_append_dropWhile (p := isBlank) (l := one.rest)
    rw [shown, List.append_nil] at parts
    exact parts
  rw [next_at_lexeme there]
  refine ⟨rfl, ?_⟩
  dsimp only
  rw [blanks, ahead.offset, ahead.dialect, ahead.total]
  rfl

/-- The second scanner reads the same text at an offset that is greater by this number. -/
structure Shifted (distance : Nat) (one other : Scanner) : Prop where
  rest : other.rest = one.rest
  offset : other.offset = one.offset + distance
  dialect : other.dialect = one.dialect

end Scanner

/-- The token further on in a text. -/
def Token.shift (distance : Nat) (token : Token) : Token :=
  { token with start := token.start + distance, stop := token.stop + distance }

theorem Scanner.Shifted.next {distance : Nat} {one other : Scanner}
    (shifted : Shifted distance one other) :
    other.next.1 = one.next.1.shift distance ∧ Shifted distance one.next.2 other.next.2 := by
  cases shown : one.rest.dropWhile isBlank with
  | nil =>
    have there : other.rest.dropWhile isBlank = [] := by rw [shifted.rest]; exact shown
    rw [Scanner.next_at_end there, Scanner.next_at_end shown, shifted.rest, shifted.offset,
      shifted.dialect]
    refine ⟨?_, rfl, ?_, rfl⟩
    · simp only [Token.shift]
      congr 1 <;> omega
    · dsimp only
      omega
  | cons c rest =>
    have there : other.rest.dropWhile isBlank = c :: rest := by rw [shifted.rest]; exact shown
    rw [next_at_lexeme there, next_at_lexeme shown, shifted.rest, shifted.offset, shifted.dialect]
    refine ⟨?_, rfl, ?_, rfl⟩
    · simp only [Token.shift]
      congr 1 <;> omega
    · dsimp only
      omega

namespace Correspondence

/-- A text, and the same text with a line end and more behind it. -/
def joined (size : Nat) (more : List Char) : Correspondence where
  near := Scanner.Ahead size more
  left := id
  right := id
  excused fault := fault.token.kind = .endOfInput
  meets := by
    intro one other ahead
    by_cases ended : one.next.1.kind = .endOfInput
    · refine Or.inr ⟨.text ended ?_, Or.inl (ahead.next_at_end ended).1⟩
      intro fault same
      rw [same]
      exact ended
    · left
      rw [(ahead.next ended).1]
      exact ⟨rfl, rfl, fun _ => rfl⟩
  passes := fun ahead _ more => (ahead.next more).2
  switches := by
    intro one other ahead tilde named dialect
    have first := (ahead.next (by rw [tilde]; decide)).2
    have second := (first.next (by rw [named]; decide)).2
    exact ⟨second.rest, second.offset, rfl, second.closed.of_rest rfl, second.total⟩

/-- A text, and the same text further on. -/
def shifted (distance : Nat) : Correspondence where
  near := Scanner.Shifted distance
  left := Token.shift distance
  right := id
  excused _ := False
  meets := by
    intro one other shifted
    left
    rw [shifted.next.1]
    exact ⟨rfl, rfl, fun _ => rfl⟩
  passes := fun shifted _ _ => shifted.next.2
  switches := by
    intro one other shifted _ _ dialect
    have behind := shifted.next.2.next.2
    exact ⟨behind.rest, behind.offset, rfl⟩

end Correspondence

/-- A line of a source with its tokens replaced. -/
def Parsed.mapLine (f : Token → Token) :
    Except SyntaxFault (Option Stmt) → Except SyntaxFault (Option Stmt)
  | .ok stmt => .ok (stmt.map (Stmt.mapTokens f))
  | .error fault => .error (fault.mapToken f)

theorem Parsed.mapLine_id (line : Except SyntaxFault (Option Stmt)) :
    mapLine id line = line := by
  cases line with
  | ok stmt =>
    cases stmt with
    | none => rfl
    | some stmt => rw [mapLine, Option.map_some, Stmt.mapTokens_id]
  | error fault => rw [mapLine, SyntaxFault.mapToken_id]

theorem Parsed.ofLines_append (lines others : List (Except SyntaxFault (Option Stmt))) :
    ofLines (lines ++ others) =
      ⟨(ofLines lines).program ++ (ofLines others).program,
        (ofLines lines).faults ++ (ofLines others).faults⟩ := by
  simp only [ofLines, List.filterMap_append]

theorem Parsed.ofLines_map (f : Token → Token) (lines : List (Except SyntaxFault (Option Stmt))) :
    ofLines (lines.map (mapLine f)) =
      ⟨(ofLines lines).program.map (Stmt.mapTokens f),
        (ofLines lines).faults.map (SyntaxFault.mapToken f)⟩ := by
  simp only [ofLines, List.filterMap_map, List.map_filterMap]
  congr 1 <;> refine List.filterMap_congr fun line _ => ?_ <;> cases line <;> rfl

theorem Parsed.ofLines_join (f : Token → Token)
    (lines others : List (Except SyntaxFault (Option Stmt))) :
    ofLines (lines ++ .ok none :: others.map (mapLine f)) =
      ⟨(ofLines lines).program ++ (ofLines others).program.map (Stmt.mapTokens f),
        (ofLines lines).faults ++ (ofLines others).faults.map (SyntaxFault.mapToken f)⟩ := by
  have behind : ofLines (.ok none :: others.map (mapLine f)) = ofLines (others.map (mapLine f)) :=
    rfl
  rw [ofLines_append, behind, ofLines_map]

namespace Correspondence
open Parse
variable {c : Correspondence}

theorem eq_map_of_sameStmt (plain : c.right = id) {stmt image : Option Stmt}
    (same : Option.Rel c.SameStmt stmt image) : image = stmt.map (Stmt.mapTokens c.left) := by
  cases same with
  | none => rfl
  | some same =>
    rw [SameStmt, plain, Stmt.mapTokens_id] at same
    rw [Option.map_some, same]

theorem eq_map_of_sameLines (plain : c.right = id)
    {items images : List (Except SyntaxFault (Option Stmt))}
    (same : List.Forall₂ c.SameLine items images) : images = items.map (Parsed.mapLine c.left) := by
  have line {item image : Except SyntaxFault (Option Stmt)} (same : c.SameLine item image) :
      image = Parsed.mapLine c.left item := by
    cases same with
    | ok same => rw [Parsed.mapLine, eq_map_of_sameStmt plain same]
    | error same =>
      obtain ⟨same, _⟩ := same
      rw [plain, SyntaxFault.mapToken_id] at same
      rw [Parsed.mapLine, same]
  induction same with
  | nil => rfl
  | cons first _ ih => rw [line first, ih, List.map_cons]

/-- Where no fault is excused, both sources are read to their ends in step. -/
theorem readsTo_end (strict : ∀ fault, ¬ c.excused fault) {limit : Nat}
    {first second stop : Reader} {items : List (Except SyntaxFault (Option Stmt))}
    (near : c.near first.scanner second.scanner) (reads : ReadsTo limit first items stop)
    (ended : stop.next.kind = .endOfInput) :
    ∃ images last, ReadsTo limit second images last ∧ last.next.kind = .endOfInput ∧
      List.Forall₂ c.SameLine items images ∧ c.near stop.scanner last.scanner := by
  obtain ⟨before, rest, images, after, last, rfl, _, two, moved, lines, close, parted⟩ :=
    readsTo_inStep .same near reads ended fun fault _ => strict fault
  have at_end : after.next.kind = .endOfInput ∧ last.next.kind = .endOfInput := by
    rcases parted with both | ⟨ending, _⟩
    · exact both
    · cases ending with
      | text _ free => exact absurd (free (.noOperand after.next) rfl) (strict _)
      | line _ _ free _ => exact absurd (free (.noOperand after.next) rfl) (strict _)
  obtain ⟨rfl, rfl⟩ := two.of_end at_end.1
  rw [List.append_nil]
  exact ⟨images, last, moved, at_end.2, lines, close⟩

theorem readsTo_shifted {limit distance : Nat} {first second stop : Reader}
    {items : List (Except SyntaxFault (Option Stmt))}
    (near : Scanner.Shifted distance first.scanner second.scanner)
    (reads : ReadsTo limit first items stop) (ended : stop.next.kind = .endOfInput) :
    ∃ last, ReadsTo limit second (items.map (Parsed.mapLine (Token.shift distance))) last ∧
      last.next.kind = .endOfInput ∧ last.dialect = stop.dialect := by
  obtain ⟨images, last, moved, at_end, lines, close⟩ :=
    readsTo_end (c := shifted distance) (fun _ => id) near reads ended
  rw [eq_map_of_sameLines rfl lines] at moved
  exact ⟨last, moved, at_end, close.dialect⟩

theorem readsTo_joined {limit size : Nat} {more : List Char} {first second stop : Reader}
    {items : List (Except SyntaxFault (Option Stmt))}
    (near : Scanner.Ahead size more first.scanner second.scanner)
    (reads : ReadsTo limit first items stop) (ended : stop.next.kind = .endOfInput)
    (counts : ∀ fault, .error fault ∈ items → fault.token.kind ≠ .endOfInput) :
    ∃ last, ReadsTo limit second (items ++ [.ok none]) last ∧
      last.scanner = ⟨more, size + 1, stop.dialect⟩ := by
  obtain ⟨before, rest, images, after, last, rfl, _, two, moved, lines, close, parted⟩ :=
    readsTo_inStep (c := joined size more) .same near reads ended counts
  have close : Scanner.Ahead size more after.scanner last.scanner := close
  have at_end : after.next.kind = .endOfInput := by
    rcases parted with both | ⟨ending, _⟩
    · exact both.1
    · cases ending with
      | text ended _ => exact ended
      | line _ _ free _ => exact free (.noOperand after.next) rfl
  obtain ⟨line_end, behind⟩ := close.next_at_end at_end
  obtain ⟨rfl, rfl⟩ := two.of_end at_end
  have ran : (sourceItem limit).run last = _ := sourceItem_at_lineEnd limit line_end
  have same : images = before := by
    rw [eq_map_of_sameLines rfl lines]
    exact (List.map_congr_left fun line _ => Parsed.mapLine_id line).trans (List.map_id _)
  rw [same] at moved
  rw [List.append_nil]
  exact ⟨last.advance, moved.append (.step ran (.here _)), behind⟩

end Correspondence

/-- Two texts with a line end between them are read to the lines of both. -/
theorem Parse.ReadsTo.join {limit : Nat} {dialect : Dialect} {one other : List Char}
    {items others : List (Except SyntaxFault (Option Stmt))} {stop last : Reader}
    (first : ReadsTo limit (.ofScanner ⟨one, 0, dialect⟩) items stop)
    (ended : stop.next.kind = .endOfInput)
    (second : ReadsTo limit (.ofScanner ⟨other, 0, stop.dialect⟩) others last)
    (finished : last.next.kind = .endOfInput)
    (closed : Scanner.Closed ⟨one, 0, dialect⟩)
    (counts : ∀ fault, .error fault ∈ items → fault.token.kind ≠ .endOfInput) :
    ∃ final, ReadsTo limit (.ofScanner ⟨one ++ '\n' :: other, 0, dialect⟩)
        (items ++ .ok none :: others.map (Parsed.mapLine (Token.shift (byteLength one + 1))))
        final ∧
      final.next.kind = .endOfInput ∧ final.dialect = last.dialect := by
  have ahead : Scanner.Ahead (byteLength one) other (Reader.ofScanner ⟨one, 0, dialect⟩).scanner
      (Reader.ofScanner ⟨one ++ '\n' :: other, 0, dialect⟩).scanner :=
    ⟨rfl, rfl, rfl, closed, Nat.zero_add _⟩
  obtain ⟨middle, reads, there⟩ := Correspondence.readsTo_joined ahead first ended counts
  have shifted : Scanner.Shifted (byteLength one + 1) ⟨other, 0, stop.dialect⟩ middle.scanner := by
    rw [there]
    exact ⟨rfl, (Nat.zero_add _).symm, rfl⟩
  obtain ⟨final, moved, at_end, same⟩ := Correspondence.readsTo_shifted shifted second finished
  exact ⟨final, by simpa using reads.append moved, at_end, same⟩

theorem Reader.look_dialect (reader : Reader) : reader.look.dialect = reader.dialect := by
  rw [dialect, look_scanner, dialect]

/-- Parsing composes at a line end, faults included: the outcome for two texts with a line end
between them is that for the first one and that for the second one, read in the dialect in which the
first one ended and moved behind it. -/
theorem Reader.parse_join (limit : Nat) (dialect : Dialect) (one other : String)
    (closed : ∀ token ∈ (Scanner.ofText dialect one).tokens.1, ¬ token.Unclosed)
    (finished : ∀ fault ∈ ((Reader.ofText dialect one).parse limit).1.faults,
      fault.token.kind ≠ .endOfInput) :
    let first := (Reader.ofText dialect one).parse limit
    let second := (Reader.ofText first.2.dialect other).parse limit
    let whole := (Reader.ofText dialect (one ++ "\n" ++ other)).parse limit
    let moved := Token.shift (byteLength one.toList + 1)
    whole.1.program = first.1.program ++ second.1.program.map (Stmt.mapTokens moved) ∧
      whole.1.faults = first.1.faults ++ second.1.faults.map (SyntaxFault.mapToken moved) ∧
      whole.2.dialect = second.2.dialect := by
  intro first second whole moved
  obtain ⟨items, stop, reads, ended⟩ := Parse.exists_readsTo limit (Reader.ofText dialect one)
  have begun : first = (.ofLines items, stop.look) := parse_of_readsTo reads ended
  obtain ⟨others, last, later, stopped⟩ :=
    Parse.exists_readsTo limit (Reader.ofText first.2.dialect other)
  have gone_on : second = (.ofLines others, last.look) := parse_of_readsTo later stopped
  have counts : ∀ fault, .error fault ∈ items → fault.token.kind ≠ .endOfInput := by
    intro fault member
    refine finished fault ?_
    show fault ∈ first.1.faults
    rw [begun]
    exact List.mem_filterMap.mpr ⟨_, member, rfl⟩
  have goes_on : first.2.dialect = stop.dialect := by rw [begun, look_dialect]
  rw [goes_on] at later
  have text : (one ++ "\n" ++ other).toList = one.toList ++ '\n' :: other.toList := by simp
  obtain ⟨final, all, at_end, same⟩ := reads.join ended later stopped closed counts
  rw [← text] at all
  have joined : whole = (.ofLines _, final.look) := parse_of_readsTo all at_end
  rw [joined, begun, gone_on, Parsed.ofLines_join, look_dialect, look_dialect]
  exact ⟨rfl, rfl, same⟩

theorem Reader.parse_join_fault :
    ((Reader.ofText .standard ("~trk\nlet x 5" ++ "\n" ++ "olsun y = 1\n(y))")).parse
      9).1.faults.map (fun fault => fault.token.start) = [9, 28] := by
  obtain ⟨_, faults, _⟩ := parse_join 9 .standard "~trk\nlet x 5" "olsun y = 1\n(y))"
    (by decide +kernel) (by decide +kernel)
  rw [faults]
  decide +kernel

end Polyglot
