import Polyglot.Proofs.Completeness
import Polyglot.Proofs.Completion
import Polyglot.Proofs.LastLine
import Polyglot.Proofs.Lookahead

/-! The first fault of a source stands at the earliest possible token. The text before a misplaced
token can be completed to a sound one, and with the token nothing can. -/
namespace Polyglot

/-- A lexeme that stops before a text stops before every text that begins in the same way and then
breaks off with a blank. -/
theorem Lexeme.Stops.cut {lexeme : Lexeme} {front back : List Char}
    (stops : lexeme.Stops (front ++ back)) (more : List Char) :
    lexeme.Stops (front ++ ' ' :: more) := by
  cases front with
  | nil => exact breaks_cons (by decide) more lexeme
  | cons c front =>
    -- But for an integer only the first character matters.
    obtain ⟨kind, literal, span⟩ := lexeme
    cases kind with
    | word => exact stops
    | other kind =>
      cases kind
      case integer =>
        refine ⟨stops.1, fun d rest same => ?_⟩
        obtain ⟨point, follows⟩ := List.cons.inj same
        cases front with
        | nil =>
          cases follows
          rfl
        | cons e front =>
          cases follows
          exact stops.2 _ (front ++ back) (by rw [point]; rfl)
      all_goals exact stops

namespace Scanner

theorem switchingAfter_settled (afterTilde : Bool) (scanner : Scanner) :
    scanner.settled.switchingAfter afterTilde = scanner.switchingAfter afterTilde := by
  rw [switchingAfter_eq, next_settled, ← switchingAfter_eq]

theorem switchingAfter_blanks (afterTilde : Bool) {blanks : List Char}
    (all : ∀ c ∈ blanks, isBlank c = true) (text : List Char) (offset : Nat) (dialect : Dialect) :
    (Scanner.mk (blanks ++ text) offset dialect).switchingAfter afterTilde =
      (Scanner.mk text (offset + byteLength blanks) dialect).switchingAfter afterTilde := by
  rw [← switchingAfter_settled, ← switchingAfter_settled afterTilde (mk text _ _), settled,
    settled]
  dsimp only
  rw [List.dropWhile_append_of_pos all, List.takeWhile_append_of_pos all, byteLength_append,
    Nat.add_assoc]

/-- What follows a token does not matter for the dialect behind it. -/
theorem exists_behind (afterTilde : Bool) (token : Token) (offset : Nat) (dialect : Dialect) :
    ∃ active, ∀ rest, (Scanner.mk rest offset dialect).behind afterTilde token =
      ⟨rest, offset, active⟩ := by
  by_cases named : afterTilde ∧ token.kind = .identifier
  · exact ⟨Dialect.resolve token.literal, fun rest => by rw [behind, if_pos named]⟩
  · exact ⟨dialect, fun rest => by rw [behind, if_neg named]⟩

/-- A lexeme makes one token, and what it is followed by matters only in that the lexeme stops
there. -/
theorem exists_switchingAfter_piece (afterTilde : Bool) {blanks : List Char}
    (all : ∀ c ∈ blanks, isBlank c = true) (lexeme : Lexeme) (offset : Nat) (dialect : Dialect) :
    let start := offset + byteLength blanks
    let token := lexeme.token dialect start
    ∃ active, ∀ text, lexeme.Form text → lexeme.Stops text →
      (Scanner.mk (blanks ++ (lexeme.span ++ text)) offset dialect).switchingAfter afterTilde =
        token :: (Scanner.mk text (start + byteLength lexeme.span) active).switchingAfter
          (token.kind = .tilde) := by
  intro start token
  obtain ⟨active, switched⟩ :=
    exists_behind afterTilde token (start + byteLength lexeme.span) dialect
  refine ⟨active, fun text form stops => ?_⟩
  have step : (Scanner.mk (blanks ++ (lexeme.span ++ text)) offset dialect).next =
      (token, ⟨text, start + byteLength lexeme.span, dialect⟩) := next_of_form all form stops rfl
  rw [switchingAfter_eq, step, if_neg (form.token_kind dialect start), switched]

/-- A text that is cut off right before a token is scanned up to there as the whole text is,
whatever follows behind a blank. -/
theorem switchingAfter_cut {text : List Char} {afterTilde : Bool} {offset : Nat}
    {dialect : Dialect} {taken rest : List Token}
    (tokens : (Scanner.mk text offset dialect).switchingAfter afterTilde = taken ++ rest)
    (legal : Grammar.Legal taken) :
    ∃ front back, text = front ++ back ∧
      (∀ token ∈ rest.head?, token.start = offset + byteLength front) ∧ (rest = [] → back = []) ∧
      ∀ more, ∃ flag place active,
        (Scanner.mk (front ++ ' ' :: more) offset dialect).switchingAfter afterTilde =
          taken ++ (Scanner.mk (' ' :: more) place active).switchingAfter flag := by
  induction taken generalizing text afterTilde offset dialect with
  | nil =>
    have blank : ∀ c ∈ text.takeWhile isBlank, isBlank c = true :=
      fun c member => List.mem_takeWhile_imp member
    refine ⟨text.takeWhile isBlank, text.dropWhile isBlank,
      (List.takeWhile_append_dropWhile).symm, fun token first => ?_, fun none => ?_,
      fun more => ⟨afterTilde, _, dialect, switchingAfter_blanks afterTilde blank _ _ _⟩⟩
    · rw [List.nil_append, switchingAfter_eq] at tokens
      split at tokens
      · rw [← tokens] at first
        cases first
      · rw [← tokens] at first
        cases first
        exact next_start _
    · rw [none, List.nil_append, switchingAfter_eq] at tokens
      split at tokens
      · rename_i ended
        exact (next_kind_end_iff _).mp ended
      · cases tokens
  | cons token taken ih =>
    obtain ⟨pieces, splits⟩ := exists_splits text
    cases splits with
    | blank all =>
      have ended : (Scanner.mk text offset dialect).next.1.kind = .endOfInput :=
        (next_kind_end_iff _).mpr (List.dropWhile_eq_nil_iff.mpr all)
      rw [switchingAfter_eq, if_pos ended] at tokens
      cases tokens
    | @piece blanks after lexeme pieces all form stops _ =>
      obtain ⟨active, whole⟩ := exists_switchingAfter_piece afterTilde all lexeme offset dialect
      rw [whole after form stops] at tokens
      obtain ⟨rfl, tail⟩ := List.cons.inj tokens
      obtain ⟨here, later⟩ := (Grammar.legal_cons _ taken).mp legal
      obtain ⟨front, back, rfl, starts, ended, goes_on⟩ := ih tail later
      -- Only a string that is never closed would go on behind the cut, and its token is illegal.
      have free : ∀ text, lexeme.Form text := form.free.resolve_right fun unclosed => by
        obtain ⟨_, inside, _, rfl⟩ := unclosed
        exact here rfl
      refine ⟨blanks ++ (lexeme.span ++ front), back, by simp, fun token first => ?_, ended,
        fun more => ?_⟩
      · rw [starts token first, byteLength_append, byteLength_append, Nat.add_assoc, Nat.add_assoc]
      · obtain ⟨flag, place, dialect, same⟩ := goes_on more
        refine ⟨flag, place, dialect, ?_⟩
        rw [List.append_assoc, List.append_assoc, whole _ (free _) (stops.cut more), same,
          List.cons_append]

end Scanner

namespace Reader

theorem start_of_end {reader : Reader} (ended : reader.next.kind = .endOfInput) :
    reader.next.start = reader.size := by
  have blank := (Scanner.next_kind_end_iff reader.scanner).mp ended
  have parts := List.takeWhile_append_dropWhile (p := isBlank) (l := reader.scanner.rest)
  rw [blank, List.append_nil] at parts
  rw [next, Scanner.next_at_end blank, parts, size]

/-- No sound source begins with the kinds of the tokens before the first misplaced one and of that
one. -/
theorem refuses_of_fault {limit : Nat} {reader after : Reader} {fault : SyntaxFault}
    {before : List Token} (ran : (Parse.strictLines limit).run reader = .error fault after)
    (misplaced : fault.Misplaced) (coming : reader.remaining = before ++ after.remaining)
    {other : Reader} {deeper : Nat} (sound : (other.parse deeper).1.faults = []) :
    ¬ before.map Token.kind ++ [fault.token.kind] <+: other.kinds := by
  obtain ⟨next, taken, passes, fails⟩ :=
    (Parse.strictLines_decides limit deeper reader).refuses fault after ran misplaced
  obtain ⟨stmts, last, done⟩ := strictLines_of_sound sound
  rintro ⟨tail, same⟩
  have same_taken : taken = before.map Token.kind := by
    refine passes.taken_unique ⟨?_, passes.size⟩
    rw [kinds, coming, List.map_append, List.append_assoc, kinds]
  refine fails other tail ?_ stmts last done
  rw [← same, same_taken, next, List.append_assoc]
  rfl

/-- If some tokens complete those before a place of a text, then some text completes the text before
that place. -/
theorem exists_completion {dialect : Dialect} {text : String} {before behind : List Token}
    {kinds : List TokenKind}
    (coming : (Scanner.ofText dialect text).switching = before ++ behind)
    (completes : Parse.Completes kinds
      fun tokens => ∃ stmts, Grammar.Lines (before ++ tokens) stmts) :
    ∃ front back completion : String, text = front ++ back ∧
      (∀ token ∈ behind.head?, token.start = byteLength front.toList) ∧
      (behind = [] → back = "") ∧
      ∀ limit, (Scanner.ofText dialect (front ++ " " ++ completion)).switching.length < limit →
        ((ofText dialect (front ++ " " ++ completion)).parse limit).1.faults = [] := by
  have legal : Grammar.Legal before := by
    obtain ⟨tokens, same⟩ := Parse.exists_tokens kinds
    obtain ⟨stmts, lines⟩ := completes.holds tokens same
    exact ((Grammar.legal_append before tokens).mp lines.legal).1
  obtain ⟨front, back, parts, starts, ended, goes_on⟩ := Scanner.switchingAfter_cut coming legal
  obtain ⟨flag, place, active, scanned⟩ := goes_on (wording dialect kinds)
  refine ⟨.ofList front, .ofList back, .ofList (wording dialect kinds), ?_, ?_, ?_, ?_⟩
  · rw [← String.ofList_append, ← parts, String.ofList_toList]
  · intro token head
    rw [String.toList_ofList, starts token head, Nat.zero_add]
  · intro none
    rw [ended none]
  · intro limit enough
    have text_eq : (String.ofList front ++ " " ++ String.ofList (wording dialect kinds)).toList =
        front ++ ' ' :: wording dialect kinds := by simp
    have blank : ∀ c ∈ [' '], isBlank c = true := List.forall_mem_singleton.mpr rfl
    let last : Scanner := ⟨wording dialect kinds, place + byteLength [' '], active⟩
    have skipped : (Scanner.mk (' ' :: wording dialect kinds) place active).switchingAfter flag =
        last.switchingAfter flag :=
      Scanner.switchingAfter_blanks flag blank (wording dialect kinds) place active
    have whole : (Scanner.ofText dialect (String.ofList front ++ " " ++
        String.ofList (wording dialect kinds))).switching =
          before ++ last.switchingAfter flag := by
      rw [Scanner.ofText, text_eq, Scanner.switching, scanned, skipped]
    have read : (last.switchingAfter flag).map Token.kind = kinds :=
      Scanner.switchingAfter_wording completes.neutral flag rfl
    obtain ⟨stmts, lines⟩ := completes.holds _ read
    rw [← whole] at lines
    have parsed : ((ofText dialect (String.ofList front ++ " " ++
        String.ofList (wording dialect kinds))).parse limit).1 = ⟨stmts, []⟩ :=
      parse_of_lines lines enough
    rw [parsed]

end Reader

/-- The first fault of a source, if it is that of a misplaced token, stands at the earliest possible
place. The text before the token can be completed to a sound source, and no sound source has the
tokens before it and then this one. -/
theorem Reader.first_fault_earliest {limit : Nat} {dialect : Dialect} {text : String}
    {fault : SyntaxFault}
    (first : ((Reader.ofText dialect text).parse limit).1.faults.head? = some fault)
    (misplaced : fault.Misplaced) :
    ∃ before behind : List Token,
      (Scanner.ofText dialect text).switching = before ++ behind ∧
      (behind.head? = some fault.token ∨ behind = [] ∧ fault.token.kind = .endOfInput) ∧
      (∃ front back completion : String, text = front ++ back ∧
        byteLength front.toList = fault.token.start ∧
        ∀ deeper, (Scanner.ofText dialect (front ++ " " ++ completion)).switching.length < deeper →
          ((Reader.ofText dialect (front ++ " " ++ completion)).parse deeper).1.faults = []) ∧
      ∀ (other : Dialect) (sound : String) (deeper : Nat),
        ((Reader.ofText other sound).parse deeper).1.faults = [] →
        ¬ before.map Token.kind ++ [fault.token.kind] <+:
          (Scanner.ofText other sound).switching.map Token.kind ++ [.endOfInput] := by
  obtain ⟨after, ran⟩ := strictLines_of_fault first
  obtain ⟨next, taken, passes, _⟩ :=
    (Parse.strictLines_decides limit limit _).refuses fault after ran misplaced
  obtain ⟨before, kinds, coming, completes⟩ :=
    Parse.strictLines_repairs limit _ fault after ran misplaced
  obtain ⟨front, back, completion, parts, starts, ended, sound⟩ :=
    exists_completion coming (completes.mono fun _ done => done.elim fun _ lines => ⟨_, lines⟩)
  have place : (after.remaining.head? = some fault.token ∨
      after.remaining = [] ∧ fault.token.kind = .endOfInput) ∧
      byteLength front.toList = fault.token.start := by
    rw [next]
    by_cases last : after.next.kind = .endOfInput
    · have none := (remaining_eq_nil_iff after).mpr last
      have all : text = front := by rw [parts, ended none, String.append_empty]
      refine ⟨Or.inr ⟨none, last⟩, ?_⟩
      rw [start_of_end last, passes.size, ← all]
      exact (Nat.zero_add _).symm
    · have head : after.remaining.head? = some after.next := by
        rw [remaining_eq, if_neg last, List.head?_cons]
      exact ⟨Or.inl head, (starts _ head).symm⟩
  refine ⟨before, after.remaining, coming, place.1,
    ⟨front, back, completion, parts, place.2, sound⟩, fun other copy deeper parsed => ?_⟩
  have refused := refuses_of_fault ran misplaced coming parsed
  exact refused

/-- A comma promises one more name, so the parenthesis behind it is the fault. -/
theorem Reader.first_fault_earliest_comma :
    ((Reader.ofText .standard "~trk\nolsun f = fn(a, )").parse 9).1.faults.head? =
      some (.unexpected .identifier ⟨.rightParen, ")", 21, 22⟩) ∧
    ∃ front back completion : String, "~trk\nolsun f = fn(a, )" = front ++ back ∧
      byteLength front.toList = 21 ∧
      ∀ deeper, (Scanner.ofText .standard (front ++ " " ++ completion)).switching.length < deeper →
        ((Reader.ofText .standard (front ++ " " ++ completion)).parse deeper).1.faults = [] := by
  have first : ((Reader.ofText .standard "~trk\nolsun f = fn(a, )").parse 9).1.faults.head? =
      some (.unexpected .identifier ⟨.rightParen, ")", 21, 22⟩) := by decide +kernel
  obtain ⟨_, _, _, _, completed, _⟩ := first_fault_earliest first trivial
  exact ⟨first, completed⟩

end Polyglot
