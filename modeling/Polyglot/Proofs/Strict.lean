import Polyglot.Proofs.Soundness

/-! Reading a source up to its first fault. The parser goes on after a fault with the next line;
what it does up to there is what a loop does that does not go on. -/
namespace Polyglot

namespace Parse

/-- A line of a source or the end of one, none at the end of the source. A fault is not caught. -/
def strictItem (limit : Nat) : Parse (Option (Option Stmt)) := do
  match (← peek).kind with
  | .endOfInput => return none
  | .newLine =>
    let _ ← take
    return some none
  | _ => return some (← line limit)

/-- The lines of a source, up to its end or to the first fault. -/
def strictLines (limit : Nat) : Parse (List (Option Stmt)) :=
  repeating (strictItem limit)

theorem strictItem_at_end (limit : Nat) {reader : Reader}
    (ended : reader.next.kind = .endOfInput) :
    (strictItem limit).run reader = .ok none reader.look := by
  unfold strictItem
  rw [bind_ok (peek_run reader), ended, EStateM.run_pure]

theorem strictItem_at_lineEnd (limit : Nat) {reader : Reader}
    (ended : reader.next.kind = .newLine) :
    (strictItem limit).run reader = .ok (some none) reader.advance := by
  unfold strictItem
  rw [bind_ok (peek_run reader), ended]
  dsimp only
  rw [bind_ok (take_run _), EStateM.run_pure, Reader.look_advance]

theorem strictItem_at_line {limit : Nat} {reader : Reader}
    (no_end : reader.next.kind ≠ .endOfInput) (no_line : reader.next.kind ≠ .newLine) :
    (strictItem limit).run reader =
      (do return some (← line limit) : Parse (Option (Option Stmt))).run reader.look := by
  unfold strictItem
  rw [bind_ok (peek_run reader)]
  split
  · exact absurd ‹_› no_end
  · exact absurd ‹_› no_line
  · rfl

theorem sourceItem_of_strict {limit : Nat} {reader after : Reader} {found : Option (Option Stmt)}
    (ran : (strictItem limit).run reader = .ok found after) :
    (sourceItem limit).run reader = .ok (found.map .ok) after := by
  by_cases ended : reader.next.kind = .endOfInput
  · rw [strictItem_at_end limit ended] at ran
    cases ran
    exact sourceItem_at_end limit ended
  by_cases line_end : reader.next.kind = .newLine
  · rw [strictItem_at_lineEnd limit line_end] at ran
    cases ran
    exact sourceItem_at_lineEnd limit line_end
  rw [strictItem_at_line ended line_end] at ran
  obtain ⟨stmt, middle, read, done⟩ := bind_success ran
  cases done
  exact sourceItem_ok ended line_end read

theorem sourceItem_of_fault {limit : Nat} {reader after : Reader} {fault : SyntaxFault}
    (ran : (strictItem limit).run reader = .error fault after) :
    ∃ last, (sourceItem limit).run reader = .ok (some (.error fault)) last := by
  by_cases ended : reader.next.kind = .endOfInput
  · rw [strictItem_at_end limit ended] at ran
    cases ran
  by_cases line_end : reader.next.kind = .newLine
  · rw [strictItem_at_lineEnd limit line_end] at ran
    cases ran
  rw [strictItem_at_line ended line_end] at ran
  rcases bind_failure ran with read | ⟨stmt, middle, _, done⟩
  · obtain ⟨last, skipped, _⟩ := skipLine_run after
    exact ⟨last, sourceItem_error ended line_end read skipped⟩
  · cases done

theorem strictItem_lineLoop (limit : Nat) :
    LineLoop (strictItem limit) some fun kind => kind = .endOfInput where
  advances := fun _ _ _ ran => sourceItem_advances limit _ _ _ (sourceItem_of_strict ran)
  at_stop := fun _ ended => strictItem_at_end limit ended
  at_lineEnd := fun _ ended => ⟨none, strictItem_at_lineEnd limit ended, rfl⟩

theorem strictItem_readsStatements (limit : Nat) :
    ReadsStatements (strictItem limit) some fun kind => kind = .endOfInput := by
  intro reader no_end no_line found after ran
  obtain ⟨item, shape, described⟩ :=
    sourceItem_readsStatements limit reader no_end no_line _ _ (sourceItem_of_strict ran)
  obtain ⟨stmt, rfl, rfl⟩ := Option.map_eq_some_iff.mp shape
  refine ⟨stmt, rfl, fun shown shows => ?_⟩
  cases shows
  exact described stmt rfl

/-- Strict reading ends with the first fault of the source, if there is one. -/
theorem ReadsTo.strictLines {limit : Nat} {reader stop : Reader}
    {items : List (Except SyntaxFault (Option Stmt))} (reads : ReadsTo limit reader items stop)
    (ended : stop.next.kind = .endOfInput) :
    (Parsed.ofLines items).faults.head?.elim
      (∃ stmts after, (Parse.strictLines limit).run reader = .ok stmts after)
      fun fault => ∃ after, (Parse.strictLines limit).run reader = .error fault after := by
  have advances := (strictItem_lineLoop limit).advances
  unfold Parse.strictLines
  induction reads with
  | here reader =>
    refine ⟨[], reader.look, ?_⟩
    rw [repeating_eq advances, bind_ok (strictItem_at_end limit ended), EStateM.run_pure]
  | @step reader after stop item items ran _ ih =>
    rw [repeating_eq advances]
    cases read : (strictItem limit).run reader with
    | error fault middle =>
      obtain ⟨last, source⟩ := sourceItem_of_fault read
      cases ran.symm.trans source
      exact ⟨middle, bind_error read⟩
    | ok found middle =>
      cases found with
      | none => cases ran.symm.trans (sourceItem_of_strict read)
      | some stmt =>
        cases ran.symm.trans (sourceItem_of_strict read)
        have later := ih ended
        have same : (Parsed.ofLines (.ok stmt :: items)).faults = (Parsed.ofLines items).faults :=
          rfl
        rw [bind_ok read, same]
        cases first : (Parsed.ofLines items).faults.head? with
        | none =>
          rw [first] at later
          obtain ⟨stmts, last, rest⟩ := later
          exact ⟨stmt :: stmts, last, bind_ok rest⟩
        | some fault =>
          rw [first] at later
          obtain ⟨last, rest⟩ := later
          exact ⟨last, bind_error rest⟩

end Parse

theorem Reader.strictLines_of_fault {limit : Nat} {reader : Reader} {fault : SyntaxFault}
    (first : (reader.parse limit).1.faults.head? = some fault) :
    ∃ after, (Parse.strictLines limit).run reader = .error fault after := by
  obtain ⟨items, stop, reads, ended⟩ := Parse.exists_readsTo limit reader
  have strict := reads.strictLines ended
  rw [parse_of_readsTo reads ended] at first
  rwa [first] at strict

theorem Reader.strictLines_of_sound {limit : Nat} {reader : Reader}
    (sound : (reader.parse limit).1.faults = []) :
    ∃ stmts after, (Parse.strictLines limit).run reader = .ok stmts after := by
  obtain ⟨items, stop, reads, ended⟩ := Parse.exists_readsTo limit reader
  have strict := reads.strictLines ended
  rw [parse_of_readsTo reads ended] at sound
  rwa [sound] at strict

end Polyglot
