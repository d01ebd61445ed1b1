import Polyglot.Proofs.Boundaries
import Polyglot.Proofs.Lines

/-! The log of a parse as a record of scanning. Every token of the source is noted once and in its
order, when it is first looked at. A pragma switches the dialect right behind its name, before
anything that follows has been scanned. -/
namespace Polyglot

namespace Event

/-- The dialect that is active after these events, the latest first. -/
def active (initial : Dialect) : List Event → Dialect
  | [] => initial
  | .dialectSwitched _ dialect :: _ => dialect
  | _ :: earlier => active initial earlier

/-- The tokens that a log reports, in the order in which they were scanned, each with the dialect that
the last switch before it has set. The log has the latest event first. -/
def scans (initial : Dialect) : List Event → List (Dialect × Token)
  | [] => []
  | .token scanned :: earlier => scans initial earlier ++ [(active initial earlier, scanned)]
  | _ :: earlier => scans initial earlier

/-- The latest events are the two tokens of the pragma for that dialect, and what its resolution
notes. -/
def BehindPragma (name : String) (log : List Event) : Prop :=
  ∃ tilde word before, log = Dialect.resolution name ++ .token word :: .token tilde :: before ∧
    tilde.kind = .tilde ∧ word.kind = .identifier ∧ word.literal = name

theorem scans_pragma (initial dialect : Dialect) (name : String) (earlier : List Event) :
    scans initial (.dialectSwitched name dialect :: (Dialect.resolution name ++ earlier)) =
      scans initial earlier := by
  unfold Dialect.resolution
  split <;> rfl

end Event

/-- From this scanner on, scanning and switching as the log says, the latest event first, leads to
that scanner. -/
inductive Trace (start : Scanner) : List Event → Scanner → Prop
  | start : Trace start [] start
  | token {log : List Event} {scanner : Scanner} (trace : Trace start log scanner)
      (more : scanner.next.1.kind ≠ .endOfInput) :
      Trace start (.token scanner.next.1 :: log) scanner.next.2
  /-- The end of the source is not noted. -/
  | ended {log : List Event} {scanner : Scanner} (trace : Trace start log scanner)
      (ended : scanner.next.1.kind = .endOfInput) : Trace start log scanner.next.2
  | operand {log : List Event} {scanner : Scanner} (trace : Trace start log scanner)
      (kind : TokenKind) (floor : Precedence) : Trace start (.operand kind floor :: log) scanner
  | pragma {log : List Event} {scanner : Scanner} {tilde name : Token}
      (trace : Trace start (.token name :: .token tilde :: log) scanner)
      (opens : tilde.kind = .tilde) (named : name.kind = .identifier) :
      Trace start (.dialectSwitched name.literal (Dialect.resolve name.literal) ::
          (Dialect.resolution name.literal ++ .token name :: .token tilde :: log))
        (scanner.inDialect (Dialect.resolve name.literal))

namespace Reader

/-- Where scanning has come to: behind the next token if that has been looked at. -/
def ahead (reader : Reader) : Scanner :=
  if reader.seen then reader.scanner.next.2 else reader.scanner

theorem look_seen {reader : Reader} (more : reader.next.kind ≠ .endOfInput) :
    reader.look.seen = true := by
  unfold look
  split
  · rename_i settled
    simpa [more] using settled
  · rfl

theorem look_unseen (reader : Reader) (fresh : reader.seen = false)
    (more : reader.next.kind ≠ .endOfInput) :
    reader.look = { reader with seen := true, noted := .token reader.next :: reader.noted } := by
  rw [look, if_neg (by simp [fresh, more])]

/-- The reader's log tells how it has come to where it stands, and ends with the next token if that
has been looked at. -/
structure Recorded (start : Scanner) (reader : Reader) : Prop where
  trace : Trace start reader.noted reader.ahead
  front : reader.seen = true → ∃ log, reader.noted = .token reader.next :: log

namespace Recorded
variable {start : Scanner} {reader : Reader}

theorem unseen (fresh : reader.seen = false) (trace : Trace start reader.noted reader.scanner) :
    Recorded start reader where
  trace := by
    rw [ahead, fresh]
    exact trace
  front seen := by
    rw [fresh] at seen
    cases seen

theorem trace_of_unseen (recorded : Recorded start reader) (fresh : reader.seen = false) :
    Trace start reader.noted reader.scanner := by
  have trace := recorded.trace
  rw [ahead, fresh] at trace
  exact trace

theorem look (recorded : Recorded start reader) : Recorded start reader.look := by
  by_cases settled : reader.seen || reader.next.kind = .endOfInput
  · rw [Reader.look, if_pos settled]
    exact recorded
  · simp only [Bool.or_eq_true, decide_eq_true_eq, not_or, Bool.not_eq_true] at settled
    obtain ⟨fresh, more⟩ := settled
    rw [look_unseen reader fresh more]
    exact ⟨(recorded.trace_of_unseen fresh).token more, fun _ => ⟨reader.noted, rfl⟩⟩

theorem advance_trace (recorded : Recorded start reader) :
    Trace start reader.advance.noted reader.advance.scanner := by
  have looked := recorded.look.trace
  rw [ahead, look_scanner] at looked
  split at looked
  · exact looked
  · rename_i fresh
    -- A look leaves a token unseen only at the end of the source.
    have ended : reader.next.kind = .endOfInput := by
      by_contra more
      exact fresh (look_seen more)
    exact looked.ended ended

theorem advance (recorded : Recorded start reader) : Recorded start reader.advance :=
  .unseen rfl recorded.advance_trace

/-- Right behind a token, that token is the latest event. -/
theorem advance_noted (recorded : Recorded start reader)
    (more : reader.next.kind ≠ .endOfInput) :
    ∃ log, reader.advance.noted = .token reader.next :: log := by
  obtain ⟨log, noted⟩ := recorded.look.front (look_seen more)
  rw [look_next] at noted
  exact ⟨log, noted⟩

theorem pragma (recorded : Recorded start reader) (tilde : reader.next.kind = .tilde)
    (named : reader.advance.next.kind = .identifier) :
    Recorded start (reader.advance.advance.switch reader.advance.next.literal) := by
  obtain ⟨log, noted⟩ := recorded.advance_noted (by rw [tilde]; decide)
  have latest : reader.advance.advance.noted =
      .token reader.advance.next :: .token reader.next :: log := by
    have looked := look_unseen reader.advance rfl (by rw [named]; decide)
    rw [← noted]
    exact congrArg Reader.noted looked
  have trace := recorded.advance.advance_trace
  rw [latest] at trace
  refine .unseen rfl ?_
  rw [switch, latest]
  exact trace.pragma tilde named

end Recorded

/-- Every step of the parser is told by the log. -/
theorem recorded_stepwise (start : Scanner) :
    Parse.Stepwise fun before after => Recorded start before → Recorded start after where
  refl _ := id
  trans _ _ _ one two := two ∘ one
  look _ := Recorded.look
  advance _ := Recorded.advance
  operand _ kind floor recorded := .unseen rfl (recorded.advance_trace.operand kind floor)
  pragma _ tilde named recorded := recorded.pragma tilde named

end Reader

namespace Scanner

theorem tokens_inDialect_of_next {scanner : Scanner} (more : scanner.next.1.kind ≠ .endOfInput)
    (dialect : Dialect) :
    (scanner.inDialect dialect).tokens.1 =
      (scanner.inDialect dialect).next.1 :: (scanner.next.2.inDialect dialect).tokens.1 := by
  rw [tokens_eq, if_neg (by rwa [next_end_inDialect_iff]), next_inDialect]

theorem tokens_inDialect_of_end {scanner : Scanner} (ended : scanner.next.1.kind = .endOfInput)
    (dialect : Dialect) : (scanner.inDialect dialect).tokens.1 = [] := by
  rw [tokens_eq, if_pos (by rwa [next_end_inDialect_iff])]

/-- At the end of the source one more step changes nothing. -/
theorem next_end_of_end {scanner : Scanner} (ended : scanner.next.1.kind = .endOfInput) :
    scanner.next.2.next.1.kind = .endOfInput := by
  rw [next_of_end ended]
  rfl

theorem tokens_bounds_inDialect (dialect : Dialect) (scanner : Scanner) :
    (scanner.inDialect dialect).tokens.1.map Token.bounds = scanner.tokens.1.map Token.bounds := by
  induction length : scanner.rest.length using Nat.strong_induction_on generalizing scanner with
  | _ size ih =>
    by_cases ended : scanner.next.1.kind = .endOfInput
    · rw [tokens_inDialect_of_end ended, tokens_eq, if_pos ended]
    · have shorter := next_shorter ended
      rw [tokens_inDialect_of_next ended, tokens_eq scanner, if_neg ended, List.map_cons,
        List.map_cons, next_bounds_inDialect, ih _ (length ▸ shorter) scanner.next.2 rfl]

end Scanner

namespace Trace
variable {start scanner : Scanner} {log : List Event}

theorem dialect_eq (trace : Trace start log scanner) :
    scanner.dialect = Event.active start.dialect log := by
  induction trace with
  | start => rfl
  | token _ _ ih => exact (Scanner.next_dialect _).trans ih
  | ended _ _ ih => exact (Scanner.next_dialect _).trans ih
  | operand _ _ _ ih => exact ih
  | pragma _ _ _ _ => rfl

/-- What has not been scanned yet is what is left of the tokens, in every dialect. -/
theorem tokens_drop (trace : Trace start log scanner) (dialect : Dialect) :
    (start.inDialect dialect).tokens.1.drop (Event.scans start.dialect log).length =
      (scanner.inDialect dialect).tokens.1 := by
  induction trace with
  | start => rfl
  | token _ more ih =>
    rw [Event.scans, List.length_append, List.length_singleton, ← List.drop_drop, ih,
      Scanner.tokens_inDialect_of_next more, List.drop_one, List.tail_cons]
  | ended _ ended ih =>
    rw [ih, Scanner.tokens_inDialect_of_end ended,
      Scanner.tokens_inDialect_of_end (Scanner.next_end_of_end ended)]
  | operand _ _ _ ih => exact ih
  | pragma _ _ _ ih =>
    rw [Event.scans_pragma]
    exact ih

/-- Each token that the log reports is the one with its number in the dialect that was active. -/
theorem scans_getElem? (trace : Trace start log scanner) {count : Nat} {dialect : Dialect}
    {token : Token}
    (scanned : (Event.scans start.dialect log)[count]? = some (dialect, token)) :
    (start.inDialect dialect).tokens.1[count]? = some token := by
  induction trace with
  | start => cases scanned
  | @token log scanner trace more ih =>
    rw [Event.scans] at scanned
    rcases Nat.lt_or_ge count (Event.scans start.dialect log).length with before | behind
    · rw [List.getElem?_append_left before] at scanned
      exact ih scanned
    · rw [List.getElem?_append_right behind, List.getElem?_singleton] at scanned
      split at scanned
      · rename_i last
        cases scanned
        have left := trace.tokens_drop (Event.active start.dialect log)
        rw [← trace.dialect_eq] at left ⊢
        have first : scanner.tokens.1[0]? = some scanner.next.1 := by
          rw [Scanner.tokens_eq, if_neg more]
          rfl
        have there : count = (Event.scans start.dialect log).length + 0 := by omega
        rw [there, ← List.getElem?_drop, left]
        exact first
      · cases scanned
  | ended _ _ ih => exact ih scanned
  | operand _ _ _ ih => exact ih scanned
  | pragma _ _ _ ih =>
    rw [Event.scans_pragma] at scanned
    exact ih scanned

/-- A switch is noted right behind its pragma: the latest token then is the name. -/
theorem switched (trace : Trace start log scanner) {name : String} {active : Dialect}
    {earlier : List Event} (noted : .dialectSwitched name active :: earlier <:+ log) :
    active = Dialect.resolve name ∧ Event.BehindPragma name earlier := by
  induction trace with
  | start => simp at noted
  | token _ _ ih =>
    rcases List.suffix_cons_iff.mp noted with latest | before
    · cases latest
    · exact ih before
  | ended _ _ ih => exact ih noted
  | operand _ _ _ ih =>
    rcases List.suffix_cons_iff.mp noted with latest | before
    · cases latest
    · exact ih before
  | @pragma _ _ tilde word _ opens named ih =>
    rcases List.suffix_cons_iff.mp noted with latest | before
    · cases latest
      exact ⟨rfl, tilde, word, _, rfl, opens, named, rfl⟩
    · refine ih ?_
      -- Resolving the name notes no switch of its own.
      unfold Dialect.resolution at before
      split at before
      · exact before
      · rcases List.suffix_cons_iff.mp before with latest | before
        · cases latest
        · exact before

/-- When the end is reached, the log reports every token, and each of them once. -/
theorem scans_bounds (trace : Trace start log scanner)
    (ended : scanner.next.1.kind = .endOfInput) :
    (Event.scans start.dialect log).map (fun scan => scan.2.bounds) =
      start.tokens.1.map Token.bounds := by
  apply List.ext_getElem?
  intro count
  rw [List.getElem?_map, List.getElem?_map]
  cases scanned : (Event.scans start.dialect log)[count]? with
  | none =>
    have all := trace.tokens_drop start.dialect
    rw [Scanner.tokens_inDialect_of_end ended, List.drop_eq_nil_iff] at all
    have beyond : start.tokens.1[count]? = none :=
      List.getElem?_eq_none (all.trans (List.getElem?_eq_none_iff.mp scanned))
    rw [beyond]
    rfl
  | some scan =>
    have found := trace.scans_getElem? scanned
    have alike := congrArg (fun bounds => bounds[count]?)
      (Scanner.tokens_bounds_inDialect scan.1 start)
    rw [List.getElem?_map, List.getElem?_map, found] at alike
    exact alike

end Trace

theorem Reader.recorded_ofText (dialect : Dialect) (text : String) :
    Recorded (.ofText dialect text) (.ofText dialect text) :=
  .unseen rfl .start

theorem Reader.ahead_end {reader : Reader} (ended : reader.next.kind = .endOfInput) :
    reader.ahead.next.1.kind = .endOfInput := by
  unfold ahead
  split
  · exact Scanner.next_end_of_end ended
  · exact ended

/-- The log of a parse tells how the scanner has come to the end of the source. -/
theorem Reader.parse_trace (limit : Nat) (dialect : Dialect) (text : String) :
    ∃ scanner, Trace (.ofText dialect text) ((Reader.ofText dialect text).parse limit).2.noted
      scanner ∧ scanner.next.1.kind = .endOfInput := by
  obtain ⟨items, stop, reads, ended⟩ := Parse.exists_readsTo limit (Reader.ofText dialect text)
  rw [parse_of_readsTo reads ended]
  have recorded := reads.within (recorded_stepwise (.ofText dialect text))
    (recorded_ofText dialect text)
  refine ⟨_, recorded.look.trace, ahead_end ?_⟩
  rw [look_next]
  exact ended

/-- Every token of a source is scanned once and in order: the log of a parse reports tokens with
the bounds that scanning alone finds, each as the dialect of the last pragma before it classifies
it. A pragma is executed when its name is the last token that has been scanned. -/
theorem Reader.parse_scans_once (limit : Nat) (dialect : Dialect) (text : String) :
    let log := ((Reader.ofText dialect text).parse limit).2.noted
    let scans := Event.scans dialect log
    scans.map (fun scan => scan.2.bounds) =
        (Scanner.ofText dialect text).tokens.1.map Token.bounds ∧
      (∀ (count : Nat) (active : Dialect) (token : Token),
        scans[count]? = some (active, token) →
          (Scanner.ofText active text).tokens.1[count]? = some token) ∧
      ∀ (name : String) (active : Dialect) (earlier : List Event),
        .dialectSwitched name active :: earlier <:+ log →
          active = Dialect.resolve name ∧ Event.BehindPragma name earlier := by
  intro log scans
  obtain ⟨scanner, trace, ended⟩ := parse_trace limit dialect text
  refine ⟨trace.scans_bounds ended, ?_, ?_⟩
  · intro count active token scanned
    exact trace.scans_getElem? scanned
  · intro name active earlier noted
    exact trace.switched noted

/-- A fault in the first line, the pragma in the second, and the same word before and behind them. -/
theorem Reader.parse_scans_once_trk :
    let text := "olsun ~\n~ trk\nolsun"
    let log := ((Reader.ofText .eng text).parse 0).2.noted
    let keyword : Token := ⟨.keyword .letWord, "olsun", 14, 19⟩
    (Event.scans .eng log)[0]? = some (.eng, ⟨.identifier, "olsun", 0, 5⟩) ∧
      (Event.scans .eng log)[6]? = some (.trk, keyword) ∧
      (Scanner.ofText .trk text).tokens.1[6]? = some keyword ∧
      (Event.scans .eng log).map (fun scan => scan.2.bounds) =
        (Scanner.ofText .eng text).tokens.1.map Token.bounds := by
  intro text log keyword
  have first : (Event.scans .eng log)[0]? = some (.eng, ⟨.identifier, "olsun", 0, 5⟩) := by
    decide +kernel
  have again : (Event.scans .eng log)[6]? = some (.trk, keyword) := by decide +kernel
  obtain ⟨bounds, classified, _⟩ := parse_scans_once 0 .eng text
  exact ⟨first, again, classified 6 .trk keyword again, bounds⟩

end Polyglot
