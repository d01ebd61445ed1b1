import Polyglot.Proofs.Steps

/-! Parsing goes onward. A part of the source that is read with success takes a token or more; one
with a fault leaves the scanner where it was or further on. So no loop of the parser is cut short
by its bound. -/
namespace Polyglot

namespace Reader

/-- The second reader stands where the first one does, or behind it. -/
def Onward (before after : Reader) : Prop :=
  after.scanner = before.scanner ∨ after.scanner.rest.length < before.scanner.rest.length

/-- The second reader stands behind the first one. -/
def Beyond (before after : Reader) : Prop :=
  after.scanner.rest.length < before.scanner.rest.length

theorem Onward.refl (reader : Reader) : reader.Onward reader := Or.inl rfl

theorem Onward.length_le {before after : Reader} (onward : before.Onward after) :
    after.scanner.rest.length ≤ before.scanner.rest.length := by
  rcases onward with same | shorter
  · rw [same]
  · exact Nat.le_of_lt shorter

theorem Onward.trans (first second third : Reader) (one : first.Onward second)
    (two : second.Onward third) : first.Onward third := by
  rcases two with same | shorter
  · rcases one with earlier | earlier
    · exact Or.inl (same.trans earlier)
    · exact Or.inr (by rw [same]; exact earlier)
  · exact Or.inr (Nat.lt_of_lt_of_le shorter one.length_le)

theorem Beyond.onward {first second third : Reader} (one : first.Beyond second)
    (two : second.Onward third) : first.Beyond third :=
  Nat.lt_of_le_of_lt two.length_le one

theorem look_onward (reader : Reader) : reader.Onward reader.look :=
  Or.inl (look_scanner reader)

theorem advance_beyond {reader : Reader} (more : reader.next.kind ≠ .endOfInput) :
    reader.Beyond reader.advance :=
  Scanner.next_shorter more

/-- At the end of the source there may be blanks to step over, or nothing at all. -/
theorem advance_onward (reader : Reader) : reader.Onward reader.advance := by
  by_cases ended : reader.next.kind = .endOfInput
  · have blank := (Scanner.next_kind_end_iff reader.scanner).mp ended
    unfold Onward
    rw [advance_scanner, Scanner.next_at_end blank]
    cases text : reader.scanner.rest with
    | nil =>
      left
      rw [List.takeWhile_nil, byteLength, Nat.add_zero, ← text]
    | cons c rest =>
      right
      simp
  · exact Or.inr (advance_beyond ended)

theorem Onward.stepwise : Parse.Stepwise Onward where
  refl := Onward.refl
  trans := Onward.trans
  look := look_onward
  advance := advance_onward
  operand reader _ _ := advance_onward reader
  pragma reader tilde _ := by
    have first : reader.Beyond reader.advance := advance_beyond (by rw [tilde]; decide)
    have second : reader.Beyond reader.advance.advance :=
      first.onward (advance_onward reader.advance)
    exact Or.inr second

end Reader

namespace Parse
variable {α β : Type}

open Reader (Onward Beyond)

/-- Whatever comes of it, the reader goes onward. -/
abbrev GoesOnward (part : Parse α) : Prop := (Course.keeping Onward).Covers part

theorem goesOnward : (Course.keeping Onward).Complete := Onward.stepwise.keeps

/-- A result that ends behind the reader with success, there or behind with a fault. -/
def Moves (reader : Reader) : EStateM.Result SyntaxFault Reader α → Prop
  | .ok _ after => reader.Beyond after
  | .error _ after => reader.Onward after

/-- With success the reader ends behind where it stood, with a fault there or behind. -/
def Consumes (part : Parse α) : Prop :=
  ∀ reader, Moves reader (part.run reader)

theorem Moves.of_look {reader : Reader} {result : EStateM.Result SyntaxFault Reader α}
    (moves : Moves reader.look result) : Moves reader result := by
  cases result with
  | ok value after => simpa [Moves, Beyond] using moves
  | error fault after => simpa [Moves, Onward] using moves

theorem Consumes.goesOnward {part : Parse α} (consumes : Consumes part) : GoesOnward part := by
  intro reader
  have step := consumes reader
  cases ran : part.run reader with
  | ok value after =>
    rw [ran] at step
    exact Or.inr step
  | error fault after =>
    rw [ran] at step
    exact step

theorem Moves.of_beyond {reader middle : Reader} (beyond : reader.Beyond middle)
    {result : EStateM.Result SyntaxFault Reader α}
    (goes : (Course.keeping Onward).Allows middle result) : Moves reader result := by
  cases result with
  | ok value after => exact beyond.onward goes
  | error fault after => exact Or.inr (beyond.onward goes)

theorem Consumes.bind {first : Parse α} {next : α → Parse β} (consumes : Consumes first)
    (later : ∀ value, GoesOnward (next value)) : Consumes (first >>= next) := by
  intro reader
  have step := consumes reader
  cases ran : first.run reader with
  | error fault after =>
    rw [ran] at step
    rw [bind_error ran]
    exact step
  | ok value after =>
    rw [ran] at step
    rw [bind_ok ran]
    exact .of_beyond step (later value after)

theorem Moves.of_take {reader : Reader} (more : reader.next.kind ≠ .endOfInput)
    {next : Token → Parse β} (later : ∀ token, GoesOnward (next token)) :
    Moves reader ((take >>= next).run reader) := by
  rw [bind_ok (take_run reader)]
  exact .of_beyond (Reader.advance_beyond more) (later _ _)

theorem expect_goesOnward (kind : TokenKind) : GoesOnward (expect kind) :=
  expect_covered goesOnward kind

theorem afterComma_advances {element : Parse α} (goes : GoesOnward element) :
    Advances (afterComma element) := by
  intro reader value after ran
  obtain ⟨found, middle, accepted, rest⟩ := bind_success ran
  rw [accept_run] at accepted
  split at accepted
  · rename_i comma
    cases accepted
    obtain ⟨first, last, read, done⟩ := bind_success rest
    cases done
    have step := goes reader.advance
    rw [read] at step
    exact (Reader.advance_beyond (by rw [comma]; decide)).onward step
  · cases accepted
    cases rest

section
variable {expr : Precedence → Parse Expr}

theorem pragma_moves {reader : Reader} (tilde : reader.next.kind = .tilde) :
    Moves reader (pragma.run reader) := by
  have first : reader.Beyond reader.advance := Reader.advance_beyond (by rw [tilde]; decide)
  by_cases named : reader.advance.next.kind = .identifier
  · have second : reader.Beyond reader.advance.advance :=
      first.onward (Reader.advance_onward reader.advance)
    rw [pragma_named named]
    exact second
  · rw [pragma_unnamed named]
    exact Or.inr (first.onward (Reader.look_onward _))

theorem statement_consumes (consumes : ∀ floor, Consumes (expr floor)) :
    Consumes (statement expr) := by
  have inner := (consumes .lowest).goesOnward
  intro reader
  unfold statement
  rw [bind_ok (peek_run reader)]
  refine .of_look ?_
  split
  · rename_i word
    refine .of_take (by rw [Reader.look_next, word]; decide) fun token => ?_
    refine .bind goesOnward (expect_goesOnward _) fun name => ?_
    refine .bind goesOnward (expect_goesOnward _) fun _ => ?_
    exact .bind goesOnward inner fun value => .pure goesOnward _
  · rename_i word
    refine .of_take (by rw [Reader.look_next, word]; decide) fun token => ?_
    exact .bind goesOnward inner fun value => .pure goesOnward _
  · rename_i tilde
    exact pragma_moves (by rw [Reader.look_next, tilde])
  · exact (consumes _).bind (fun value => .pure goesOnward _) _

theorem blockItem_advances (consumes : ∀ floor, Consumes (expr floor)) :
    Advances (blockItem expr) := by
  intro reader value after ran
  unfold blockItem at ran
  rw [bind_ok (peek_run reader)] at ran
  split at ran
  · cases ran
  · cases ran
  · rename_i line
    rw [bind_ok (take_run _), EStateM.run_pure, Reader.look_advance] at ran
    cases ran
    exact Reader.advance_beyond (by rw [line]; decide)
  · obtain ⟨stmt, middle, read, rest⟩ := bind_success ran
    have step := (statement_consumes consumes) reader.look
    rw [read] at step
    rw [bind_ok (peek_run middle)] at rest
    split at rest
    · cases rest
      exact step.of_look.onward (Reader.look_onward middle)
    · cases rest
      exact step.of_look.onward (Reader.look_onward middle)
    · cases rest
      exact step.of_look.onward (Reader.look_onward middle)
    · cases rest

end

theorem tooDeep_consumes (limit : Nat) : Consumes (tooDeep limit : Parse α) :=
  fun reader => Reader.look_onward reader

/-- The first token of an expression is taken, and whatever is read from there goes onward. -/
theorem expression_consumes (limit budget : Nat) (floor : Precedence) :
    Consumes (expression limit budget floor) := by
  cases budget with
  | zero =>
    unfold expression
    exact tooDeep_consumes limit
  | succ budget =>
    obtain ⟨inner, more⟩ := expression_links_covered goesOnward limit budget
    intro reader
    unfold expression
    rw [bind_ok (peek_run reader)]
    refine .of_look ?_
    split
    · rename_i starts
      rw [bind_ok (take_run _), bind_ok (note_run _ _), Reader.look_next]
      have beyond : reader.look.Beyond reader.look.advance := by
        refine Reader.advance_beyond fun ended => ?_
        rw [← Reader.look_next, ended] at starts
        cases starts
      refine .of_beyond beyond (.bind goesOnward ?_ (more floor))
      exact operand_covered goesOnward inner starts (Scanner.next_written _)
        (fun _ => Or.inl rfl) (fun _ _ => Or.inl rfl)
    · exact Onward.refl reader.look

theorem line_consumes (limit : Nat) : Consumes (line limit) :=
  (statement_consumes (expression_consumes limit limit)).bind (lineEnd_covered goesOnward)

theorem skipToken_advances : Advances skipToken := by
  intro reader token after ran
  rw [skipToken_run] at ran
  split at ran
  · cases ran
  · rename_i more
    cases ran
    exact Reader.advance_beyond fun ended => more (Or.inr ended)

/-- What is skipped ends before the end of a line. -/
theorem Loop.of_skipToken {reader : Reader} {result : EStateM.Result SyntaxFault Reader (List Token)}
    (loop : Loop skipToken reader result) :
    ∃ tokens after, result = .ok tokens after ∧ reader.Onward after ∧
      (reader.next.kind ≠ .newLine → reader.next.kind ≠ .endOfInput → reader.Beyond after) ∧
      (after.next.kind = .newLine ∨ after.next.kind = .endOfInput) := by
  induction loop with
  | @done reader _ ran =>
    rw [skipToken_run] at ran
    split at ran
    · rename_i ended
      cases ran
      refine ⟨[], reader.look, rfl, Reader.look_onward reader, fun no_line no_end => ?_, ?_⟩
      · exact absurd ended (by simpa using ⟨no_line, no_end⟩)
      · rw [Reader.look_next]
        exact ended
    · cases ran
  | failed ran =>
    rw [skipToken_run] at ran
    split at ran <;> cases ran
  | @again reader _ after _ _ ran rest ih =>
    rw [skipToken_run] at ran
    split at ran
    · cases ran
    · rename_i more
      cases ran
      obtain ⟨tokens, last, same, onward, _, ended⟩ := ih
      cases same
      have beyond : reader.Beyond after :=
        (Reader.advance_beyond fun kind => more (Or.inr kind)).onward onward
      exact ⟨_, after, rfl, Or.inr beyond, fun _ _ => beyond, ended⟩
  | broken _ _ ih =>
    obtain ⟨tokens, last, same, _⟩ := ih
    cases same

theorem skipLine_run (reader : Reader) :
    ∃ after, skipLine.run reader = .ok () after ∧ reader.Onward after ∧
      (reader.next.kind ≠ .newLine → reader.next.kind ≠ .endOfInput → reader.Beyond after) ∧
      (after.next.kind = .newLine ∨ after.next.kind = .endOfInput) := by
  obtain ⟨tokens, after, ran, stops⟩ := (skipToken_advances.terminates reader).of_skipToken
  refine ⟨after, ?_, stops⟩
  rw [skipLine, bind_ok ran]
  rfl

theorem sourceItem_at_end (limit : Nat) {reader : Reader}
    (ended : reader.next.kind = .endOfInput) :
    (sourceItem limit).run reader = .ok none reader.look := by
  unfold sourceItem nextLine
  rw [bind_ok (peek_run reader), ended, EStateM.run_pure]

theorem sourceItem_at_lineEnd (limit : Nat) {reader : Reader}
    (ended : reader.next.kind = .newLine) :
    (sourceItem limit).run reader = .ok (some (.ok none)) reader.advance := by
  unfold sourceItem nextLine
  rw [bind_ok (peek_run reader), ended]
  dsimp only
  rw [bind_ok (take_run _), EStateM.run_pure, Reader.look_advance]

theorem sourceItem_ok {limit : Nat} {reader after : Reader} {stmt : Option Stmt}
    (no_end : reader.next.kind ≠ .endOfInput) (no_line : reader.next.kind ≠ .newLine)
    (ran : (line limit).run reader.look = .ok stmt after) :
    (sourceItem limit).run reader = .ok (some (.ok stmt)) after := by
  have tried : (attempt (wholeLine (expression limit limit))).run reader.look =
      .ok (.ok stmt) after := by
    rw [attempt_run, show (wholeLine (expression limit limit)).run reader.look = _ from ran]
  unfold sourceItem nextLine
  rw [bind_ok (peek_run reader)]
  split
  · exact absurd ‹_› no_end
  · exact absurd ‹_› no_line
  · rw [bind_ok tried]
    rfl

theorem sourceItem_error {limit : Nat} {reader middle last : Reader} {fault : SyntaxFault}
    (no_end : reader.next.kind ≠ .endOfInput) (no_line : reader.next.kind ≠ .newLine)
    (ran : (line limit).run reader.look = .error fault middle)
    (skipped : skipLine.run middle = .ok () last) :
    (sourceItem limit).run reader = .ok (some (.error fault)) last := by
  have tried : (attempt (wholeLine (expression limit limit))).run reader.look =
      .ok (.error fault) middle := by
    rw [attempt_run, show (wholeLine (expression limit limit)).run reader.look = _ from ran]
  unfold sourceItem nextLine
  rw [bind_ok (peek_run reader)]
  split
  · exact absurd ‹_› no_end
  · exact absurd ‹_› no_line
  · rw [bind_ok tried]
    dsimp only
    rw [bind_ok skipped]
    rfl

/-- What the loop over a source does in one round: it takes the end of a line, or reads a line to its
end, or finds a fault in it and skips what is left of it. -/
inductive SourceStep (limit : Nat) (reader : Reader) :
    Except SyntaxFault (Option Stmt) → Reader → Prop
  | lineEnd (ended : reader.next.kind = .newLine) :
      SourceStep limit reader (.ok none) reader.advance
  | sound {stmt : Option Stmt} {after : Reader} (no_end : reader.next.kind ≠ .endOfInput)
      (no_line : reader.next.kind ≠ .newLine)
      (read : (line limit).run reader.look = .ok stmt after) :
      SourceStep limit reader (.ok stmt) after
  | faulty {fault : SyntaxFault} {middle after : Reader}
      (no_end : reader.next.kind ≠ .endOfInput) (no_line : reader.next.kind ≠ .newLine)
      (read : (line limit).run reader.look = .error fault middle)
      (skipped : skipLine.run middle = .ok () after) : SourceStep limit reader (.error fault) after

theorem sourceItem_step {limit : Nat} {reader after : Reader}
    {item : Except SyntaxFault (Option Stmt)}
    (ran : (sourceItem limit).run reader = .ok (some item) after) :
    SourceStep limit reader item after := by
  by_cases no_end : reader.next.kind = .endOfInput
  · rw [sourceItem_at_end limit no_end] at ran
    cases ran
  by_cases no_line : reader.next.kind = .newLine
  · rw [sourceItem_at_lineEnd limit no_line] at ran
    cases ran
    exact .lineEnd no_line
  cases read : (line limit).run reader.look with
  | ok stmt middle =>
    rw [sourceItem_ok no_end no_line read] at ran
    cases ran
    exact .sound no_end no_line read
  | error fault middle =>
    obtain ⟨last, skipped, _⟩ := skipLine_run middle
    rw [sourceItem_error no_end no_line read skipped] at ran
    cases ran
    exact .faulty no_end no_line read skipped

theorem sourceItem_advances (limit : Nat) : Advances (sourceItem limit) := by
  intro reader item after ran
  have step := line_consumes limit reader.look
  cases sourceItem_step ran with
  | lineEnd ended => exact Reader.advance_beyond (by rw [ended]; decide)
  | sound _ _ read =>
    rw [read] at step
    exact step.of_look
  | @faulty _ middle _ no_end no_line read skipped =>
    rw [read] at step
    obtain ⟨last, passed, onward, beyond, _⟩ := skipLine_run middle
    cases skipped.symm.trans passed
    rcases step.of_look with same | shorter
    · -- The fault took nothing, so the token in front is skipped.
      have next : middle.next = reader.next := by rw [Reader.next, same, Reader.next]
      have behind := beyond (by rw [next]; exact no_line) (by rw [next]; exact no_end)
      unfold Beyond at behind
      rw [same] at behind
      exact behind
    · exact Beyond.onward shorter onward

end Parse

end Polyglot
