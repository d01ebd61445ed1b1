import Polyglot.Proofs.Branches
import Polyglot.Proofs.Printing
import Polyglot.Proofs.ScanLog

/-! Literals and the faults that are found with them. A number in a parsed program has the value of
its digits. A number that is too large is reported, but only where an expression starts with it, which
the log tells; the text of a float is never refused, and a token that starts no expression is refused
before it is taken. -/
namespace Polyglot

/-- The token is an integer beyond the largest of 64 bits. -/
def Token.TooLarge (token : Token) : Prop :=
  token.kind = .integer ∧ ∃ value, token.Denotes value ∧ 2 ^ 63 ≤ value

namespace Token
variable {token : Token}

theorem tooLarge_iff (scanned : Parse.Scanned token) (integer : token.kind = .integer) :
    token.TooLarge ↔ twoTo 63 ≤ Decimal.natOfDigits token.literal.toList := by
  constructor
  · rintro ⟨_, value, denotes, large⟩
    rw [denotes.value_eq] at large
    exact large
  · intro large
    exact ⟨integer, _, denotes_of_written (integer ▸ scanned.written), large⟩

end Token

namespace Event

def isOperand : Event → Bool
  | .operand _ _ => true
  | _ => false

/-- The tokens that expressions start with: those that were the latest when an operand was noted. The
log has the latest event first. -/
def openers : List Event → List Token
  | .operand _ _ :: .token first :: earlier => first :: openers earlier
  | _ :: earlier => openers earlier
  | [] => []

/-- Every operand is noted right behind its first token, which is of the kind that is noted. -/
def Opening (log : List Event) : Prop :=
  ∀ kind floor earlier, .operand kind floor :: earlier <:+ log →
    ∃ first before, earlier = .token first :: before ∧ first.kind = kind ∧
      Parse.startsExpression kind = true

theorem openers_append {events : List Event} (plain : ∀ event ∈ events, event.isOperand = false)
    (log : List Event) : openers (events ++ log) = openers log := by
  induction events with
  | nil => rfl
  | cons event events ih =>
    obtain ⟨here, later⟩ := List.forall_mem_cons.mp plain
    rw [List.cons_append, ← ih later]
    cases event with
    | operand kind floor => cases here
    | _ => rfl

namespace Opening
variable {log : List Event}

theorem append {events : List Event} (plain : ∀ event ∈ events, event.isOperand = false)
    (opening : Opening log) : Opening (events ++ log) := by
  induction events with
  | nil => exact opening
  | cons event events ih =>
    obtain ⟨here, later⟩ := List.forall_mem_cons.mp plain
    intro kind floor earlier noted
    rcases List.suffix_cons_iff.mp noted with latest | before
    · cases latest
      cases here
    · exact ih later kind floor earlier before

theorem operand {first : Token} (opening : Opening (.token first :: log)) (floor : Precedence)
    (starts : Parse.startsExpression first.kind = true) :
    Opening (.operand first.kind floor :: .token first :: log) := by
  intro kind other earlier noted
  rcases List.suffix_cons_iff.mp noted with latest | before
  · cases latest
    exact ⟨first, log, rfl, rfl, starts⟩
  · exact opening kind other earlier before

end Opening

end Event

namespace Reader

/-- Nothing is noted from the first reader to the second but tokens and dialects. -/
def Plainly (before after : Reader) : Prop :=
  ∃ events, (∀ event ∈ events, event.isOperand = false) ∧ after.noted = events ++ before.noted

theorem look_plainly (reader : Reader) : reader.Plainly reader.look := by
  unfold look
  split
  · exact ⟨[], List.forall_mem_nil _, rfl⟩
  · exact ⟨[.token reader.next], by simp [Event.isOperand], rfl⟩

theorem advance_plainly (reader : Reader) : reader.Plainly reader.advance :=
  reader.look_plainly

theorem switch_plainly (reader : Reader) (name : String) : reader.Plainly (reader.switch name) := by
  refine ⟨.dialectSwitched name (Dialect.resolve name) :: Dialect.resolution name, ?_, rfl⟩
  unfold Dialect.resolution
  split <;> simp [Event.isOperand]

theorem Plainly.trans {first second third : Reader} (one : first.Plainly second)
    (two : second.Plainly third) : first.Plainly third := by
  obtain ⟨events, plain, noted⟩ := one
  obtain ⟨others, more, added⟩ := two
  refine ⟨others ++ events, List.forall_mem_append.mpr ⟨more, plain⟩, ?_⟩
  rw [added, noted, List.append_assoc]

/-- The reader's log tells how it came here and where expressions start. -/
structure Logged (start : Scanner) (reader : Reader) : Prop where
  recorded : Recorded start reader
  opening : Event.Opening reader.noted

/-- On the way from the first reader to the second these faults are found: no expression starts with
a number that is too large but for those that they report. -/
def Accounts (start : Scanner) (faults : List SyntaxFault) (before after : Reader) : Prop :=
  Logged start before → Logged start after ∧ ∀ token : Token, token.TooLarge →
    (token ∈ Event.openers after.noted ↔
      token ∈ Event.openers before.noted ∨ .integerRange token ∈ faults)

namespace Accounts
variable {start : Scanner} {reader first second third : Reader} {faults others : List SyntaxFault}

theorem refl (reader : Reader) : Accounts start [] reader reader :=
  fun logged => ⟨logged, fun token large => by simp⟩

theorem trans (one : Accounts start faults first second)
    (two : Accounts start others second third) :
    Accounts start (faults ++ others) first third := by
  intro logged
  obtain ⟨there, reported⟩ := one logged
  obtain ⟨last, more⟩ := two there
  refine ⟨last, fun token large => ?_⟩
  rw [more token large, reported token large, List.mem_append, or_assoc]

theorem of_plainly (recorded : Recorded start first → Recorded start second)
    (plainly : first.Plainly second) : Accounts start [] first second := by
  intro logged
  obtain ⟨events, plain, noted⟩ := plainly
  refine ⟨⟨recorded logged.recorded, ?_⟩, fun token large => ?_⟩
  · rw [noted]
    exact logged.opening.append plain
  · rw [noted, Event.openers_append plain]
    simp

theorem of_other {fault : SyntaxFault} (accounts : Accounts start [] first second)
    (other : ∀ token, fault ≠ .integerRange token) : Accounts start [fault] first second := by
  intro logged
  obtain ⟨there, same⟩ := accounts logged
  refine ⟨there, fun token large => ?_⟩
  rw [same token large]
  simp [(other token).symm]

theorem look (reader : Reader) : Accounts start [] reader reader.look :=
  of_plainly Recorded.look reader.look_plainly

theorem advance (reader : Reader) : Accounts start [] reader reader.advance :=
  of_plainly Recorded.advance reader.advance_plainly

theorem pragma (tilde : reader.next.kind = .tilde)
    (named : reader.advance.next.kind = .identifier) :
    Accounts start [] reader (reader.advance.advance.switch reader.advance.next.literal) := by
  apply of_plainly
  · intro recorded
    exact recorded.pragma tilde named
  · apply Plainly.trans (reader.advance_plainly.trans reader.advance.advance_plainly)
    exact switch_plainly _ _

theorem operand (starts : Parse.startsExpression reader.next.kind = true) (floor : Precedence)
    (reported : ∀ token : Token, token.TooLarge →
      (token = reader.next ↔ .integerRange token ∈ faults)) :
    Accounts start faults reader
      (reader.advance.noting (.operand reader.next.kind floor)) := by
  intro logged
  have more : reader.next.kind ≠ .endOfInput := by
    intro ended
    rw [ended] at starts
    cases starts
  obtain ⟨log, noted⟩ := logged.recorded.advance_noted more
  obtain ⟨there, same⟩ := advance reader logged
  have opening := there.opening
  rw [noted] at opening same
  refine ⟨⟨?_, ?_⟩, fun token large => ?_⟩
  · exact .unseen rfl (logged.recorded.advance_trace.operand _ floor)
  · rw [noting, noted]
    exact opening.operand floor starts
  · have unchanged : token ∈ Event.openers log ↔ token ∈ Event.openers reader.noted := by
      simpa [Event.openers] using same token large
    rw [noting, noted, Event.openers, List.mem_cons, reported token large, unchanged, or_comm]

end Accounts

end Reader

namespace Parse

/-- The course on which the log accounts for numbers that are too large. -/
def Course.accounted (start : Scanner) : Course where
  ends := Reader.Accounts start []
  stops reader fault after := Reader.Accounts start [fault] reader after

theorem accounted_complete (start : Scanner) : (Course.accounted start).Complete where
  refl := Reader.Accounts.refl
  trans _ _ _ one two := one.trans two
  look := Reader.Accounts.look
  advance := Reader.Accounts.advance
  operand reader floor starts small := by
    refine .operand starts floor fun token large => ?_
    simp only [List.not_mem_nil, iff_false]
    rintro rfl
    have beyond := (Token.tooLarge_iff ⟨reader.scanner, rfl⟩ large.1).mp large
    exact Nat.not_lt_of_le beyond (small large.1)
  pragma _ tilde named := .pragma tilde named
  later _ _ _ _ moved stops := moved.trans stops
  unexpected reader kind := (Reader.Accounts.look reader).of_other (by simp)
  nesting reader limit := (Reader.Accounts.look reader).of_other (by simp)
  noOperand reader _ := (Reader.Accounts.look reader).of_other (by simp)
  integerRange reader floor integer _ := by
    refine .operand (by rw [integer]; rfl) floor fun token _ => ?_
    simp

theorem ReadsTo.accounts {limit : Nat} {reader stop : Reader}
    {items : List (Except SyntaxFault (Option Stmt))} (start : Scanner)
    (reads : ReadsTo limit reader items stop) :
    Reader.Accounts start (Parsed.ofLines items).faults reader stop := by
  have complete := accounted_complete start
  induction reads with
  | here reader => exact .refl reader
  | @step reader after stop item items ran _ ih =>
    have read_line := line_covered complete limit reader.look
    cases sourceItem_step ran with
    | lineEnd ended => exact (Reader.Accounts.advance reader).trans ih
    | sound _ _ read =>
      rw [read] at read_line
      exact ((Reader.Accounts.look reader).trans read_line).trans ih
    | @faulty fault middle _ _ _ read skipped =>
      have skip := skipLine_covered complete middle
      rw [read] at read_line
      rw [skipped] at skip
      exact (((Reader.Accounts.look reader).trans read_line).trans skip).trans ih

/-- The fault is for a reason that its token shows, and where no operand was found its token has not
been taken. -/
def Justified (after : Reader) : SyntaxFault → Prop
  | .unexpected _ _ | .nesting _ _ => True
  | .noOperand token => startsExpression token.kind = false ∧ after.next = token
  | .integerRange token => token.TooLarge
  | .floatForm _ => False

theorem justified_complete :
    Course.Complete ⟨fun _ _ => True, fun _ fault after => Justified after fault⟩ where
  refl _ := trivial
  trans _ _ _ _ _ := trivial
  look _ := trivial
  advance _ := trivial
  operand _ _ _ _ := trivial
  pragma _ _ _ := trivial
  later _ _ _ _ _ stops := stops
  unexpected _ _ := trivial
  nesting _ _ := trivial
  noOperand reader starts_none := ⟨starts_none, reader.look_next⟩
  integerRange reader _ integer large :=
    (Token.tooLarge_iff ⟨reader.scanner, rfl⟩ integer).mpr large

theorem ReadsTo.justified {limit : Nat} {reader stop : Reader} {fault : SyntaxFault}
    {items : List (Except SyntaxFault (Option Stmt))} (reads : ReadsTo limit reader items stop)
    (found : fault ∈ (Parsed.ofLines items).faults) :
    ∃ earlier before after, ReadsTo limit reader earlier before ∧
      (line limit).run before.look = .error fault after ∧ Justified after fault := by
  induction reads with
  | here reader => cases found
  | @step reader after stop item items ran _ ih =>
    cases item with
    | ok stmt =>
      obtain ⟨earlier, before, last, reads, read⟩ := ih found
      exact ⟨.ok stmt :: earlier, before, last, .step ran reads, read⟩
    | error other =>
      rcases List.mem_cons.mp found with rfl | behind
      · cases sourceItem_step ran with
        | @faulty _ middle _ _ _ read _ =>
          have covered := line_covered justified_complete limit reader.look
          rw [read] at covered
          exact ⟨[], reader, middle, .here reader, read, covered⟩
      · obtain ⟨earlier, before, last, reads, read⟩ := ih behind
        exact ⟨.error other :: earlier, before, last, .step ran reads, read⟩

end Parse

def Part.integer? : Part → Option (Token × Int64)
  | .expr (.integer token value) => some (token, value)
  | _ => none

theorem Part.mem_of_integer? {parts : List Part} {token : Token} {value : Int64}
    (found : (token, value) ∈ parts.filterMap integer?) :
    .expr (.integer token value) ∈ parts := by
  obtain ⟨part, member, same⟩ := List.mem_filterMap.mp found
  unfold integer? at same
  split at same
  · cases same
    exact member
  · cases same

namespace Reader

theorem logged_ofText (dialect : Dialect) (text : String) :
    Logged (.ofText dialect text) (.ofText dialect text) := by
  refine ⟨recorded_ofText dialect text, ?_⟩
  intro kind floor earlier noted
  cases List.suffix_nil.mp noted

theorem integer_denotes {limit : Nat} {reader : Reader} {token : Token} {value : Int64}
    (part : .expr (.integer token value) ∈ Stmt.allParts (reader.parse limit).1.program) :
    token.kind = .integer ∧ ∃ number : Nat, token.Denotes number ∧ value.toInt = number := by
  obtain ⟨⟨integer, number, denotes, small, rfl⟩, _⟩ := reader.parse_fits limit _ part
  exact ⟨integer, number, denotes, Int64.toInt_ofNat_of_lt small⟩

/-- Only genuine faults of literals are reported. Integers of a parsed program have the values of
their digits. An integer is reported as too large exactly if an expression starts with it, which is
what the log notes behind it, and its value takes more than 63 bits; no float is reported. A token at
which an operand is missing starts no expression and is still in front of the reader, so the branches
for other tokens are never taken, whatever they do. -/
theorem parse_literals (limit : Nat) (dialect : Dialect) (text : String) :
    let parsed := ((Reader.ofText dialect text).parse limit).1
    let log := ((Reader.ofText dialect text).parse limit).2.noted
    (∀ (token : Token) (value : Int64),
      .expr (.integer token value) ∈ Stmt.allParts parsed.program →
        token.kind = .integer ∧ ∃ number : Nat, token.Denotes number ∧ value.toInt = number) ∧
    (∀ token : Token, .integerRange token ∈ parsed.faults ↔
      token ∈ Event.openers log ∧ token.TooLarge) ∧
    Event.Opening log ∧
    (∀ token : Token, .floatForm token ∉ parsed.faults) ∧
    (∀ token : Token, .noOperand token ∈ parsed.faults →
      Parse.startsExpression token.kind = false ∧
        ∃ earlier before after, Parse.ReadsTo limit (.ofText dialect text) earlier before ∧
          (Parse.line limit).run before.look = .error (.noOperand token) after ∧
          after.next = token) ∧
    (∀ token : Token,
      (∀ expr : Precedence → Parse Expr, Parse.operand expr token = throw (.noOperand token)) ↔
        Parse.startsExpression token.kind = false) ∧
    ∀ (arms : Parse.Arms) (budget : Nat),
      Parse.expressionOr arms limit budget = Parse.expression limit budget := by
  intro parsed log
  obtain ⟨items, stop, reads, ended⟩ := Parse.exists_readsTo limit (Reader.ofText dialect text)
  have same : (Reader.ofText dialect text).parse limit = (.ofLines items, stop.look) :=
    parse_of_readsTo reads ended
  have faults : parsed.faults = (Parsed.ofLines items).faults := congrArg (·.1.faults) same
  have noted : log = stop.look.noted := congrArg (·.2.noted) same
  obtain ⟨logged, accounts⟩ :=
    (reads.accounts (.ofText dialect text)).trans (.look stop) (logged_ofText dialect text)
  rw [faults, noted]
  refine ⟨fun token value => integer_denotes, fun token => ?_, logged.opening, ?_, ?_,
    Parse.operand_refuses_iff, fun arms budget => (Parse.expressionOr_linksOr_eq arms limit budget).1⟩
  · constructor
    · intro reported
      obtain ⟨_, _, _, _, _, large⟩ := reads.justified reported
      refine ⟨(accounts token large).mpr ?_, large⟩
      simpa using Or.inr reported
    · rintro ⟨opens, large⟩
      rcases (accounts token large).mp opens with before | reported
      · cases before
      · simpa using reported
  · intro token reported
    obtain ⟨_, _, _, _, _, impossible⟩ := reads.justified reported
    exact impossible
  · intro token reported
    obtain ⟨earlier, before, after, came, read, starts_none, unread⟩ := reads.justified reported
    exact ⟨starts_none, earlier, before, after, came, read, unread⟩

/-- The source `-0042`, `9223372036854775808 + 1`, `2 * )`. -/
theorem parse_literals_stray :
    let text := "-0042\n9223372036854775808 + 1\n2 * )"
    let parsed := ((Reader.ofText .eng text).parse 3).1
    let log := ((Reader.ofText .eng text).parse 3).2.noted
    let number : Token := ⟨.integer, "0042", 1, 5⟩
    let large : Token := ⟨.integer, "9223372036854775808", 6, 25⟩
    let stray : Token := ⟨.rightParen, ")", 34, 35⟩
    .expr (.integer number 42) ∈ Stmt.allParts parsed.program ∧ number.Denotes 42 ∧
      large ∈ Event.openers log ∧ large.TooLarge ∧
      parsed.faults = [.integerRange large, .noOperand stray] ∧
      Parse.startsExpression stray.kind = false := by
  intro text parsed log number large stray
  obtain ⟨values, range, _, _, refused, _⟩ := parse_literals 3 .eng text
  have faults : parsed.faults = [.integerRange large, .noOperand stray] := by decide +kernel
  have integers : (Stmt.allParts parsed.program).filterMap Part.integer? = [(number, 42)] := by
    decide +kernel
  have part : .expr (.integer number 42) ∈ Stmt.allParts parsed.program :=
    Part.mem_of_integer? (by rw [integers]; simp)
  obtain ⟨_, value, denotes, same⟩ := values number 42 part
  obtain rfl : 42 = value := Int.ofNat.inj same
  obtain ⟨opens, beyond⟩ := (range large).mp (by rw [faults]; simp)
  exact ⟨part, denotes, opens, beyond, faults, (refused stray (by rw [faults]; simp)).1⟩

end Reader

end Polyglot
