import Polyglot.Proofs.Joining
import Polyglot.Proofs.Soundness

/-! The end of the last line. A source without faults has no illegal token, so all its strings are
closed, and it is read in the same way whether or not a line end closes it. -/
namespace Polyglot

namespace Grammar

def Legal (tokens : List Token) : Prop :=
  ∀ token ∈ tokens, token.kind ≠ .illegal

@[simp] theorem legal_nil : Legal [] := List.forall_mem_nil _

@[simp] theorem legal_cons (token : Token) (tokens : List Token) :
    Legal (token :: tokens) ↔ token.kind ≠ .illegal ∧ Legal tokens :=
  List.forall_mem_cons

@[simp] theorem legal_append (tokens others : List Token) :
    Legal (tokens ++ others) ↔ Legal tokens ∧ Legal others :=
  List.forall_mem_append

theorem LineEnds.legal {tokens : List Token} (ends : LineEnds tokens) : Legal tokens := by
  intro token member
  rw [ends token member]
  decide

theorem MoreParameters.legal {tokens names : List Token} (rule : MoreParameters tokens names) :
    Legal tokens := by
  induction rule with
  | done => exact legal_nil
  | more separates named _ ih => simp [separates, named, ih]

theorem Parameters.legal {tokens names : List Token} (rule : Parameters tokens names) :
    Legal tokens := by
  cases rule with
  | empty => exact legal_nil
  | first named others => simp [named, others.legal]

theorem Stratum.legal_of_binary {stratum : Stratum} {kind : TokenKind} {op : BinaryOp}
    (operator : stratum.binary? kind = some op) : kind ≠ .illegal := by
  rintro rfl
  cases stratum <;> cases operator

theorem legal_of_unary {kind : TokenKind} {op : UnaryOp} (operator : unary? kind = some op) :
    kind ≠ .illegal := by
  rintro rfl
  cases operator

mutual

theorem Expression.legal {stratum : Stratum} {tokens : List Token} {expr : Expr} :
    Expression stratum tokens expr → Legal tokens
  | .raise _ inner => inner.legal
  | .binary _ first operator second => by
    simp [first.legal, Stratum.legal_of_binary operator, second.legal]
  | .unary operator inner => by simp [legal_of_unary operator, inner.legal]
  | .call first opens given closes => by simp [first.legal, opens, given.legal, closes]
  | .identifier kind | .integer kind _ _ | .float kind | .string kind | .trueWord kind
  | .falseWord kind => by simp [kind]
  | .group opens inner closes => by simp [opens, inner.legal, closes]
  | .conditional word opens asked closes holds => by
    simp [word, opens, asked.legal, closes, holds.legal]
  | .alternative word opens asked closes holds otherwise fails => by
    simp [word, opens, asked.legal, closes, holds.legal, otherwise, fails.legal]
  | .function word opens named closes runs => by
    simp [word, opens, named.legal, closes, runs.legal]

theorem Arguments.legal {tokens : List Token} {exprs : List Expr} :
    Arguments tokens exprs → Legal tokens
  | .empty => legal_nil
  | .first given others => by simp [given.legal, others.legal]

theorem MoreArguments.legal {tokens : List Token} {exprs : List Expr} :
    MoreArguments tokens exprs → Legal tokens
  | .done => legal_nil
  | .more separates next others => by simp [separates, next.legal, others.legal]

theorem Statement.legal {tokens : List Token} {stmt : Option Stmt} :
    Statement tokens stmt → Legal tokens
  | .binding word named assigns bound => by simp [word, named, assigns, bound.legal]
  | .result word given => by simp [word, given.legal]
  | .pragma tilde named => by simp [tilde, named]
  | .expression alone => alone.legal

theorem Lines.legal {tokens : List Token} {stmts : List Stmt} :
    Lines tokens stmts → Legal tokens
  | .blank empty => empty.legal
  | .first empty line others => by simp [empty.legal, line.legal, others.legal]

theorem MoreLines.legal {tokens : List Token} {stmts : List Stmt} :
    MoreLines tokens stmts → Legal tokens
  | .done empty => empty.legal
  | .more empty _ line others => by simp [empty.legal, line.legal, others.legal]

theorem Braces.legal {tokens : List Token} {block : Block} : Braces tokens block → Legal tokens
  | .mk opens lines closes => by simp [opens, lines.legal, closes]

end

end Grammar

namespace Scanner

/-- Where no token is illegal no string is left unclosed. -/
theorem closed_of_legal {afterTilde : Bool} {scanner : Scanner}
    (legal : Grammar.Legal (scanner.switchingAfter afterTilde)) : scanner.Closed := by
  induction length : scanner.rest.length using Nat.strong_induction_on
    generalizing afterTilde scanner with
  | _ size ih =>
    rw [closed_iff]
    intro more
    rw [switchingAfter_eq, if_neg more, Grammar.legal_cons] at legal
    have shorter := next_shorter more
    have later := ih _ (by rw [behind_rest, ← length]; exact shorter) legal.2 rfl
    exact ⟨fun unclosed => legal.1 unclosed.1, later.of_rest (behind_rest _ _ _).symm⟩

end Scanner

namespace Lexeme

theorem closing?_lineEnd {text : List Char} (missing : closing? text = none) :
    closing? (text ++ ['\n']) = none := by
  fun_induction closing? text with
  | case1 => rfl
  | case2 => cases missing
  | case3 c rest ih =>
    rw [List.cons_append, List.cons_append, closing?, ih (Option.map_eq_none_iff.mp missing)]
    rfl
  | case4 c rest no_quote no_escape ih =>
    have later := ih (Option.map_eq_none_iff.mp missing)
    cases rest with
    | nil =>
      -- A backslash at the end takes the line end as what it escapes.
      by_cases escape : c = '\\'
      · rw [escape]
        rfl
      · rw [List.cons_append, closing?, later]
        · rfl
        · exact no_quote
        · exact fun _ _ same => absurd same escape
    | cons d rest =>
      rw [List.cons_append, closing?, later]
      · rfl
      · exact no_quote
      · exact fun _ _ same => absurd rfl (no_escape d rest same)

theorem string_unclosed_lineEnd {rest : List Char} (unclosed : (string rest).Unclosed) :
    (string (rest ++ ['\n'])).Unclosed := by
  unfold string at unclosed ⊢
  cases found : closing? rest with
  | none =>
    rw [closing?_lineEnd found]
    exact ⟨rfl, rfl⟩
  | some parts =>
    rw [found] at unclosed
    cases unclosed.1

theorem first_unclosed_lineEnd {c : Char} {rest : List Char}
    (unclosed : (first c rest).Unclosed) : (first c (rest ++ ['\n'])).Unclosed := by
  unfold first at unclosed ⊢
  rw [symbol?_append]
  cases found : symbol? c rest with
  | some lexeme =>
    rw [found] at unclosed
    exact unclosed
  | none =>
    rw [found] at unclosed
    dsimp only at unclosed ⊢
    split_ifs at unclosed ⊢ with quote letter digit
    · exact string_unclosed_lineEnd unclosed
    · cases unclosed.1
    · rw [← List.cons_append, number_append]
      exact unclosed
    · exact unclosed

end Lexeme

namespace Scanner

theorem Closed.of_lineEnd {one other : Scanner} (closed : other.Closed)
    (longer : other.rest = one.rest ++ ['\n']) : one.Closed := by
  have blank : isBlank '\n' = false := by decide
  induction length : one.rest.length using Nat.strong_induction_on generalizing one other with
  | _ size ih =>
    rw [closed_iff]
    intro more
    cases shown : one.rest.dropWhile isBlank with
    | nil => exact absurd ((next_kind_end_iff one).mpr shown) more
    | cons c rest =>
      have there : other.rest.dropWhile isBlank = c :: (rest ++ ['\n']) := by
        rw [longer, Lexeme.dropWhile_append_lineEnd blank, shown, List.cons_append]
      have goes_on : other.next.1.kind ≠ .endOfInput := by
        rw [Ne, next_kind_end_iff, there]
        exact List.cons_ne_nil _ _
      obtain ⟨plain, later⟩ := (closed_iff other).mp closed goes_on
      have open_not : ¬ (Lexeme.first c rest).Unclosed := fun unclosed =>
        plain ((next_unclosed_iff there).mpr (Lexeme.first_unclosed_lineEnd unclosed))
      have shorter := next_shorter more
      refine ⟨mt (next_unclosed_iff shown).mp open_not, ih _ (length ▸ shorter) later ?_ rfl⟩
      have fits := (Lexeme.first_covers c rest).start.length_le
      rw [next_at_lexeme there, next_at_lexeme shown]
      dsimp only
      rw [Lexeme.first_append open_not, ← List.cons_append, List.drop_append_of_le_length fits]

theorem Ahead.goes_on {size : Nat} {more : List Char} {one other : Scanner}
    (ahead : Ahead size more one other) : other.next.1.kind ≠ .endOfInput := by
  by_cases ended : one.next.1.kind = .endOfInput
  · rw [(ahead.next_at_end ended).1]
    decide
  · rw [(ahead.next ended).1]
    exact ended

theorem Ahead.next_inner {size : Nat} {more : List Char} {one other : Scanner}
    (ahead : Ahead size more one other) (inner : other.next.1.kind ≠ .newLine) :
    Ahead size more one.next.2 other.next.2 :=
  (ahead.next fun ended => inner (ahead.next_at_end ended).1).2

theorem Ahead.at_end {size : Nat} {one other : Scanner} (ahead : Ahead size [] one other)
    (last : other.next.2.next.1.kind = .endOfInput) : one.next.1.kind = .endOfInput := by
  by_contra goes_on
  exact (ahead.next goes_on).2.goes_on last

end Scanner

/-- A text with a line end behind it, and the same text without. Faults are not compared. -/
def Correspondence.trimmed (size : Nat) : Correspondence where
  near one other := Scanner.Ahead size [] other one
  left := id
  right := id
  excused _ := True
  meets := by
    intro one other ahead
    by_cases ended : other.next.1.kind = .endOfInput
    · obtain ⟨line_end, behind⟩ := ahead.next_at_end ended
      refine Or.inr ⟨.line line_end ?_ (fun _ _ => trivial) (fun _ _ => trivial), Or.inr ended⟩
      rw [behind]
      rfl
    · left
      rw [(ahead.next ended).1]
      exact ⟨rfl, rfl, fun _ => rfl⟩
  passes := by
    intro one other ahead same more
    exact (ahead.next (by rw [← same.kind]; exact more)).2
  switches := by
    intro one other ahead tilde named dialect
    have first := ahead.next_inner (by rw [tilde]; decide)
    have second := first.next_inner (by rw [named]; decide)
    exact ⟨second.rest, second.offset, rfl, second.closed.of_rest rfl, second.total⟩

namespace Parse

theorem ReadsTo.closed {limit : Nat} {scanner : Scanner} {stop : Reader}
    {items : List (Except SyntaxFault (Option Stmt))}
    (reads : ReadsTo limit (.ofScanner scanner) items stop) (ended : stop.next.kind = .endOfInput)
    (sound : (Parsed.ofLines items).faults = []) : scanner.Closed := by
  have ran : (source limit).run (.ofScanner scanner) = .ok (.ofLines items) stop.look := by
    rw [source, bind_ok (reads.repeating ended), EStateM.run_pure]
  have lines := source_sound ran sound
  exact Scanner.closed_of_legal lines.legal

/-- A text that is read without a fault is read to the same lines when its last line end is
missing. -/
theorem ReadsTo.trim {limit : Nat} {dialect : Dialect} {text : List Char} {stop : Reader}
    {items : List (Except SyntaxFault (Option Stmt))}
    (reads : ReadsTo limit (.ofScanner ⟨text ++ ['\n'], 0, dialect⟩) items stop)
    (ended : stop.next.kind = .endOfInput) (sound : (Parsed.ofLines items).faults = []) :
    ∃ lines last, ReadsTo limit (.ofScanner ⟨text, 0, dialect⟩) lines last ∧
      last.next.kind = .endOfInput ∧ items = lines ++ [.ok none] ∧
      last.dialect = stop.dialect := by
  have closed : Scanner.Closed ⟨text, 0, dialect⟩ :=
    (reads.closed ended sound).of_lineEnd rfl
  have ahead : Scanner.Ahead (byteLength text) [] (Reader.ofScanner ⟨text, 0, dialect⟩).scanner
      (Reader.ofScanner ⟨text ++ ['\n'], 0, dialect⟩).scanner :=
    ⟨rfl, rfl, rfl, closed, Nat.zero_add _⟩
  have faultless (fault : SyntaxFault) : .error fault ∉ items :=
    fun member => faults_ofLines_eq_nil_iff.mp sound _ member rfl
  obtain ⟨before, rest, images, after, last, rfl, _, two, moved, same, close, parted⟩ :=
    Correspondence.readsTo_inStep (c := .trimmed (byteLength text)) .same ahead reads ended
      fun fault member => absurd member (faultless fault)
  have close : Scanner.Ahead (byteLength text) [] last.scanner after.scanner := close
  have at_end : last.next.kind = .endOfInput := by
    rcases parted with both | ⟨ending, _⟩
    · exact both.2
    · cases ending with
      | text ended _ => exact absurd ended close.goes_on
      | line _ ended _ _ => exact close.at_end ended
  obtain ⟨line_end, behind⟩ := close.next_at_end at_end
  have equal : images = before := by
    rw [Correspondence.eq_map_of_sameLines rfl same]
    exact (List.map_congr_left fun line _ => Parsed.mapLine_id line).trans (List.map_id _)
  rw [equal] at moved
  cases two with
  | here => exact absurd ended close.goes_on
  | step ran later =>
    cases (sourceItem_at_lineEnd limit line_end).symm.trans ran
    have finished : after.advance.next.kind = .endOfInput := by
      show after.scanner.next.2.next.1.kind = .endOfInput
      rw [behind]
      rfl
    obtain ⟨rfl, rfl⟩ := later.of_end finished
    exact ⟨before, last, moved, at_end, rfl, (congrArg Scanner.dialect behind).symm⟩

end Parse

end Polyglot
