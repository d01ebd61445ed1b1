import Polyglot.Proofs.Boundaries
import Polyglot.Proofs.Lines
import Polyglot.Proofs.Traversal
import Mathlib.Data.List.Chain

/-! Going on after a fault. The loops of the parser come to an end of their own on every source, and
the last one of them at the end of the source. A line with a fault is skipped to its end, so between
two faults there is always the end of a line. -/
namespace Polyglot

/-- No dialect has a word for the end of a line. -/
theorem Lexeme.token_of_newLine {lexeme : Lexeme} {dialect : Dialect} {offset : Nat}
    (ended : (lexeme.token dialect offset).kind = .newLine) (other : Dialect) :
    lexeme.token dialect offset = lexeme.token other offset := by
  cases sort : lexeme.kind with
  | word =>
    unfold token LexemeKind.kind Dialect.classify at ended
    rw [sort] at ended
    dsimp only at ended
    split at ended <;> cases ended
  | other kind =>
    unfold token
    rw [sort]
    rfl

namespace Scanner

/-- The ends of the lines that are still to come. -/
def lineEnds (scanner : Scanner) : List Token :=
  scanner.tokens.1.filter fun token => token.kind = .newLine

theorem offset_le_start (scanner : Scanner) : scanner.offset ≤ scanner.next.1.start := by
  rw [next_start]
  exact Nat.le_add_right _ _

theorem start_le_next (scanner : Scanner) :
    scanner.next.1.start ≤ scanner.next.2.next.1.start := by
  have onward := scanner.next.2.offset_le_start
  by_cases ended : scanner.next.1.kind = .endOfInput
  · rw [next_of_end ended] at onward ⊢
    exact onward
  · obtain ⟨_, some_byte, there⟩ := next_place ended
    omega

theorem start_le_after (count : Nat) (scanner : Scanner) :
    scanner.next.1.start ≤ (scanner.after count).next.1.start := by
  induction count generalizing scanner with
  | zero => exact Nat.le_refl _
  | succ count ih => exact scanner.start_le_next.trans (ih scanner.next.2)

theorem next_inDialect_of_newLine {scanner : Scanner} {dialect : Dialect}
    (ended : (scanner.inDialect dialect).next.1.kind = .newLine) :
    (scanner.inDialect dialect).next.1 = scanner.next.1 := by
  cases shown : scanner.rest.dropWhile isBlank with
  | nil =>
    rw [next_inDialect_at_end shown] at ended
    cases ended
  | cons c rest =>
    rw [next_inDialect_at_lexeme shown] at ended ⊢
    rw [next_at_lexeme shown]
    exact Lexeme.token_of_newLine ended scanner.dialect

theorem mem_lineEnds_iff {scanner : Scanner} {token : Token} :
    token ∈ scanner.lineEnds ↔
      token.kind = .newLine ∧ ∃ count, (scanner.after count).next.1 = token := by
  rw [lineEnds, List.mem_filter, decide_eq_true_iff, and_comm]
  refine and_congr_right fun ended => ?_
  rw [List.mem_iff_getElem?]
  refine exists_congr fun count => ?_
  have numbered := scanner.nth_eq count
  rw [nth] at numbered
  rw [numbered]
  cases found : scanner.tokens.1[count]? with
  | none =>
    refine ⟨fun same => (Option.some_ne_none _ same.symm).elim, fun same => ?_⟩
    rw [← same] at ended
    cases ended
  | some other => exact Option.some_inj

theorem start_lt_stop_of_lineEnd {scanner : Scanner} {token : Token}
    (member : token ∈ scanner.lineEnds) : token.start < token.stop := by
  obtain ⟨ended, count, rfl⟩ := mem_lineEnds_iff.mp member
  exact (next_place (by rw [ended]; decide)).2.1

end Scanner

namespace Reader

/-- The second reader stands some number of tokens behind the first one, in whatever dialect. -/
def Reaches (before after : Reader) : Prop :=
  ∃ count dialect, after.scanner = (before.scanner.after count).inDialect dialect

namespace Reaches
variable {first second third : Reader}

theorem refl (reader : Reader) : reader.Reaches reader :=
  ⟨0, reader.scanner.dialect, rfl⟩

theorem trans (one : first.Reaches second) (two : second.Reaches third) : first.Reaches third := by
  obtain ⟨count, dialect, reached⟩ := one
  obtain ⟨more, active, behind⟩ := two
  refine ⟨count + more, active, ?_⟩
  rw [behind, reached, Scanner.after_inDialect, ← Scanner.after_add]
  rfl

theorem of_scanner {reader after : Reader} (same : after.scanner = reader.scanner) :
    reader.Reaches after :=
  ⟨0, reader.scanner.dialect, same⟩

theorem advance (reader : Reader) : reader.Reaches reader.advance :=
  ⟨1, reader.scanner.dialect, by
    rw [advance_scanner, Scanner.inDialect, Scanner.after, Scanner.after, ← Scanner.next_dialect]⟩

theorem start_le (reaches : first.Reaches second) : first.next.start ≤ second.next.start := by
  obtain ⟨count, dialect, reached⟩ := reaches
  rw [next, next, reached, Scanner.next_start_inDialect]
  exact Scanner.start_le_after count first.scanner

theorem mem_lineEnds (reaches : first.Reaches second) (ended : second.next.kind = .newLine) :
    second.next ∈ first.scanner.lineEnds := by
  obtain ⟨count, dialect, reached⟩ := reaches
  refine Scanner.mem_lineEnds_iff.mpr ⟨ended, count, ?_⟩
  rw [next, reached] at ended ⊢
  exact (Scanner.next_inDialect_of_newLine ended).symm

theorem stepwise : Parse.Stepwise Reaches where
  refl := refl
  trans _ _ _ one two := one.trans two
  look reader := .of_scanner (look_scanner reader)
  advance := advance
  operand reader kind floor := advance reader
  pragma reader _ _ := by
    obtain ⟨count, _, reached⟩ := (advance reader).trans (advance reader.advance)
    exact ⟨count, Dialect.resolve reader.advance.next.literal, by
      rw [switch, reached]; rfl⟩

end Reaches

end Reader

namespace SyntaxFault

/-- A line ends at the token of the first fault or behind it, and before the token of the other. -/
def Parted (lineEnds : List Token) (one other : SyntaxFault) : Prop :=
  ∃ lineEnd ∈ lineEnds, one.token.start ≤ lineEnd.start ∧ lineEnd.stop ≤ other.token.start

variable {scanner : Scanner}

theorem Parted.start_lt {one other : SyntaxFault} (parted : Parted scanner.lineEnds one other) :
    one.token.start < other.token.start := by
  obtain ⟨lineEnd, member, behind, before⟩ := parted
  have some_byte := Scanner.start_lt_stop_of_lineEnd member
  omega

/-- Behind the other fault there is an end of a line less than behind the first. -/
theorem Parted.fewer {one other : SyntaxFault} (parted : Parted scanner.lineEnds one other) :
    (scanner.lineEnds.filter fun lineEnd => other.token.start ≤ lineEnd.start).length <
      (scanner.lineEnds.filter fun lineEnd => one.token.start ≤ lineEnd.start).length := by
  have later := parted.start_lt
  obtain ⟨lineEnd, member, behind, before⟩ := parted
  have some_byte := Scanner.start_lt_stop_of_lineEnd member
  have rest : (scanner.lineEnds.filter fun lineEnd => other.token.start ≤ lineEnd.start) =
      (scanner.lineEnds.filter fun lineEnd => one.token.start ≤ lineEnd.start).filter
        fun lineEnd => other.token.start ≤ lineEnd.start := by
    rw [List.filter_filter]
    refine List.filter_congr fun lineEnd _ => ?_
    rw [Bool.eq_iff_iff]
    simp only [decide_eq_true_eq, Bool.and_eq_true]
    omega
  rw [rest, List.length_filter_lt_length_iff_exists]
  refine ⟨lineEnd, List.mem_filter.mpr ⟨member, decide_eq_true behind⟩, ?_⟩
  rw [decide_eq_true_eq]
  omega

theorem length_le_of_parted {faults : List SyntaxFault}
    (chain : faults.IsChain (Parted scanner.lineEnds)) :
    faults.length ≤ scanner.lineEnds.length + 1 := by
  have behind (fault : SyntaxFault) (faults : List SyntaxFault)
      (chain : (fault :: faults).IsChain (Parted scanner.lineEnds)) : faults.length ≤
        (scanner.lineEnds.filter fun lineEnd => fault.token.start ≤ lineEnd.start).length := by
    induction faults generalizing fault with
    | nil => exact Nat.zero_le _
    | cons next faults ih =>
      obtain ⟨parted, rest⟩ := List.isChain_cons_cons.mp chain
      exact Nat.lt_of_le_of_lt (ih next rest) parted.fewer
  cases faults with
  | nil => exact Nat.zero_le _
  | cons fault faults =>
    exact Nat.succ_le_succ ((behind fault faults chain).trans (List.length_filter_le _ _))

end SyntaxFault

namespace Parse

/-- A fault is not found before its reader, and behind the end of a line that the reader is at. -/
def FoundBehind (reader : Reader) (fault : SyntaxFault) : Prop :=
  reader.next.start ≤ fault.token.start ∧
    (reader.next.kind = .newLine → reader.next.stop ≤ fault.token.start)

theorem FoundBehind.of_advance {reader : Reader} {fault : SyntaxFault}
    (ended : reader.next.kind = .newLine) (found : FoundBehind reader.advance fault) :
    FoundBehind reader fault := by
  have more : reader.next.kind ≠ .endOfInput := by rw [ended]; decide
  obtain ⟨_, some_byte, there⟩ := Scanner.next_place more
  have behind : reader.next.stop ≤ fault.token.start :=
    calc reader.next.stop
      _ = reader.advance.scanner.offset := there.symm
      _ ≤ reader.advance.next.start := Scanner.offset_le_start _
      _ ≤ fault.token.start := found.1
  exact ⟨(Nat.le_of_lt some_byte).trans behind, fun _ => behind⟩

theorem FoundBehind.of_reaches {reader after : Reader} {fault : SyntaxFault}
    (no_line : reader.next.kind ≠ .newLine) (reaches : reader.Reaches after)
    (found : FoundBehind after fault) : FoundBehind reader fault :=
  ⟨reaches.start_le.trans found.1, fun ended => absurd ended no_line⟩

/-- A faulty line is skipped to its end, which is at the fault or behind it. -/
theorem faulty_line {limit : Nat} {reader middle after : Reader} {fault : SyntaxFault}
    (read : (line limit).run reader.look = .error fault middle)
    (skipped : skipLine.run middle = .ok () after) :
    reader.next.start ≤ fault.token.start ∧ fault.token.start ≤ after.next.start ∧
      (after.next.kind = .newLine ∨ after.next.kind = .endOfInput) := by
  have found := line_within Reader.Reaches.stepwise limit reader.look
  rw [read] at found
  obtain ⟨here, reached, same, left⟩ := found
  have passed := skipLine_within Reader.Reaches.stepwise middle
  rw [skipped] at passed
  obtain ⟨last, skips, _, _, ended⟩ := skipLine_run middle
  cases skipped.symm.trans skips
  rw [same]
  refine ⟨?_, (left.trans passed).start_le, ended⟩
  rw [← reader.look_next]
  exact reached.start_le

theorem ReadsTo.parted {limit : Nat} {start reader stop : Reader}
    {items : List (Except SyntaxFault (Option Stmt))} (reads : ReadsTo limit reader items stop)
    (reached : start.Reaches reader) :
    (∀ fault ∈ (Parsed.ofLines items).faults.head?, FoundBehind reader fault) ∧
      (Parsed.ofLines items).faults.IsChain (SyntaxFault.Parted start.scanner.lineEnds) := by
  induction reads with
  | here reader => exact ⟨fun _ none => (Option.not_mem_none _ none).elim, .nil⟩
  | @step reader after stop item items ran later ih =>
    have moved := sourceItem_within Reader.Reaches.stepwise limit reader
    rw [ran] at moved
    obtain ⟨behind, chain⟩ := ih (reached.trans moved)
    cases sourceItem_step ran with
    | lineEnd ended => exact ⟨fun fault first => (behind fault first).of_advance ended, chain⟩
    | sound no_end no_line read =>
      exact ⟨fun fault first => (behind fault first).of_reaches no_line moved, chain⟩
    | @faulty fault middle _ no_end no_line read skipped =>
      obtain ⟨from_here, before, ended⟩ := faulty_line read skipped
      refine ⟨fun first same => ?_, .cons chain fun next first => ?_⟩
      · cases same
        exact ⟨from_here, fun ended => absurd ended no_line⟩
      · rcases ended with line_end | finished
        · exact ⟨after.next, (reached.trans moved).mem_lineEnds line_end, before,
            (behind next first).2 line_end⟩
        · obtain ⟨rfl, _⟩ := later.of_end finished
          cases first

/-- Every loop of the parser comes to an end of its own. -/
structure LoopsEnd (limit : Nat) : Prop where
  lines : Terminates (sourceItem limit)
  skipped : Terminates skipToken
  block : ∀ budget, Terminates (blockItem (expression limit budget))
  arguments : ∀ budget, Terminates (afterComma (expression limit budget .lowest))
  parameters : Terminates (afterComma (expect .identifier))

theorem loopsEnd (limit : Nat) : LoopsEnd limit where
  lines := (sourceItem_advances limit).terminates
  skipped := skipToken_advances.terminates
  block budget := (blockItem_advances (expression_consumes limit budget)).terminates
  arguments budget :=
    (afterComma_advances (expression_consumes limit budget .lowest).goesOnward).terminates
  parameters := (afterComma_advances (expect_goesOnward .identifier)).terminates

end Parse

/-- A reader that has come from the start of a text to its end. -/
theorem Reader.Reaches.next_at_end {dialect : Dialect} {text : String} {reader : Reader}
    (reaches : (Reader.ofText dialect text).Reaches reader)
    (ended : reader.next.kind = .endOfInput) :
    reader.next = ⟨.endOfInput, "", text.utf8ByteSize, text.utf8ByteSize⟩ := by
  obtain ⟨count, active, reached⟩ := reaches
  have start : (Scanner.ofText dialect text).Inside text.toList := ⟨[], rfl, rfl⟩
  have inside : reader.scanner.Inside text.toList := by
    rw [reached]
    exact (start.after count).inDialect active
  obtain ⟨passed, whole, place⟩ := inside
  have total : reader.scanner.offset + byteLength reader.scanner.rest = text.utf8ByteSize := by
    rw [← place, ← byteLength_append, ← whole, byteLength_eq, String.ofList_toList]
  rw [next, Scanner.next_of_end ended, total]

/-- On every source the parser goes on to the end, whatever faults there are. A line ends between
each fault and the next, so the faults stand in order, and there is one in each line at most. -/
theorem Reader.parse_recovers (limit : Nat) (dialect : Dialect) (text : String) :
    let reader := Reader.ofText dialect text
    let outcome := reader.parse limit
    let faults := outcome.1.faults
    let lineEnds := (Scanner.ofText dialect text).lineEnds
    Parse.LoopsEnd limit ∧ (Parse.source limit).run reader = .ok outcome.1 outcome.2 ∧
      outcome.2.next = ⟨.endOfInput, "", text.utf8ByteSize, text.utf8ByteSize⟩ ∧
      faults.IsChain (SyntaxFault.Parted lineEnds) ∧
      (faults.map fun fault => fault.token.start).Pairwise (· < ·) ∧
      faults.length ≤ lineEnds.length + 1 := by
  intro reader outcome faults lineEnds
  obtain ⟨items, stop, reads, ended⟩ := Parse.exists_readsTo limit reader
  have same : outcome = (.ofLines items, stop.look) := parse_of_readsTo reads ended
  have chain : faults.IsChain (SyntaxFault.Parted lineEnds) := by
    have found : faults = (Parsed.ofLines items).faults := by
      show outcome.1.faults = _
      rw [same]
    rw [found]
    exact (reads.parted (.refl reader)).2
  refine ⟨Parse.loopsEnd limit, ?_, ?_, chain, ?_, SyntaxFault.length_le_of_parted chain⟩
  · rw [same]
    exact Parse.source_of_readsTo reads ended
  · rw [same, look_next]
    exact (reads.within Reaches.stepwise).next_at_end ended
  · rw [← List.isChain_iff_pairwise, List.isChain_map]
    exact chain.imp fun _ _ parted => parted.start_lt

/-- A fault in every line, and not one more than there are ends of lines between them. -/
example : ((Reader.ofText .eng "fn (\n)\nx (").parse 1).1.faults.map (fun fault =>
    (fault.token.kind, fault.token.start)) =
      [(.newLine, 4), (.rightParen, 5), (.leftParen, 9)] := by
  decide +kernel

end Polyglot
