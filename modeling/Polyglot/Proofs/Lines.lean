import Polyglot.Proofs.Progress

/-! The loops over lines, of a block and of a whole source. They treat the ends of lines alike and
differ in where they stop and in what becomes of a fault. -/
namespace Polyglot

namespace Parse
variable {β : Type}

/-- A loop over lines up to a stop. What an item of it shows is the statement of a line, if the line
has one; an item that shows nothing at all is a fault. -/
structure LineLoop (step : Parse (Option β)) (shows : β → Option (Option Stmt))
    (stops : TokenKind → Prop) : Prop where
  advances : Advances step
  at_stop : ∀ reader, stops reader.next.kind → step.run reader = .ok none reader.look
  at_lineEnd : ∀ reader, reader.next.kind = .newLine →
    ∃ item, step.run reader = .ok (some item) reader.advance ∧ shows item = some none

/-- The statements that the items of a loop show. -/
def shown (shows : β → Option (Option Stmt)) (items : List β) : List Stmt :=
  items.filterMap fun item => (shows item).join

theorem blockItem_lineLoop {expr : Precedence → Parse Expr}
    (consumes : ∀ floor, Consumes (expr floor)) :
    LineLoop (blockItem expr) some fun kind => kind = .rightBrace ∨ kind = .endOfInput where
  advances := blockItem_advances consumes
  at_stop := by
    intro reader stopped
    unfold blockItem
    rw [bind_ok (peek_run reader)]
    rcases stopped with closed | ended
    · rw [closed, EStateM.run_pure]
    · rw [ended, EStateM.run_pure]
  at_lineEnd := by
    intro reader ended
    refine ⟨none, ?_, rfl⟩
    unfold blockItem
    rw [bind_ok (peek_run reader), ended]
    dsimp only
    rw [bind_ok (take_run _), EStateM.run_pure, Reader.look_advance]

/-- The lines of a block and the brace behind them. -/
def blockRest (expr : Precedence → Parse Expr) : Parse (List (Option Stmt)) := do
  let items ← repeating (blockItem expr)
  let _ ← expect .rightBrace
  return items

theorem block_eq (expr : Precedence → Parse Expr) :
    block expr = (do
      let token ← expect .leftBrace
      let items ← blockRest expr
      return .mk token (items.filterMap id)) := by
  simp only [block, blockRest, bind_assoc, pure_bind]

theorem blockRest_eq {expr : Precedence → Parse Expr}
    (consumes : ∀ floor, Consumes (expr floor)) (reader : Reader) :
    (blockRest expr).run reader = (do
      match ← blockItem expr with
      | none =>
        let _ ← expect .rightBrace
        return []
      | some first => return first :: (← blockRest expr) : Parse (List (Option Stmt))).run
        reader := by
  have loop := repeating_eq (blockItem_advances consumes) reader
  cases ran : (blockItem expr).run reader with
  | error fault after =>
    rw [bind_error ran] at loop ⊢
    exact bind_error loop
  | ok found after =>
    rw [bind_ok ran] at loop ⊢
    cases found with
    | none => exact bind_ok loop
    | some first =>
      dsimp only at loop ⊢
      cases rest : (repeating (blockItem expr)).run after with
      | error fault last =>
        rw [bind_error rest] at loop
        have failed : (blockRest expr).run after = .error fault last := bind_error rest
        rw [bind_error failed]
        exact bind_error loop
      | ok items last =>
        rw [bind_ok rest] at loop
        have read : (blockRest expr).run after = (do
            let _ ← expect .rightBrace
            return items : Parse (List (Option Stmt))).run last := bind_ok rest
        have whole : (blockRest expr).run reader = (do
            let _ ← expect .rightBrace
            return first :: items : Parse (List (Option Stmt))).run last := bind_ok loop
        rw [whole, EStateM.run_bind, EStateM.run_bind, read, EStateM.run_bind]
        cases (expect .rightBrace).run last <;> rfl

theorem sourceItem_lineLoop (limit : Nat) :
    LineLoop (sourceItem limit) Except.toOption fun kind => kind = .endOfInput where
  advances := sourceItem_advances limit
  at_stop := fun _ ended => sourceItem_at_end limit ended
  at_lineEnd := fun _ ended => ⟨.ok none, sourceItem_at_lineEnd limit ended, rfl⟩

end Parse

namespace Parse

theorem shown_ofLines (lines : List (Except SyntaxFault (Option Stmt))) :
    shown Except.toOption lines = (Parsed.ofLines lines).program := by
  refine List.filterMap_congr fun line _ => ?_
  cases line <;> simp [Except.toOption]

theorem faults_ofLines_eq_nil_iff {lines : List (Except SyntaxFault (Option Stmt))} :
    (Parsed.ofLines lines).faults = [] ↔ ∀ line ∈ lines, line.toOption ≠ none := by
  rw [Parsed.ofLines, List.filterMap_eq_nil_iff]
  refine forall₂_congr fun line _ => ?_
  cases line <;> simp [Except.toOption]

theorem sourceItem_total (limit : Nat) {reader : Reader}
    (more : reader.next.kind ≠ .endOfInput) :
    ∃ item after, (sourceItem limit).run reader = .ok (some item) after := by
  by_cases ended : reader.next.kind = .newLine
  · obtain ⟨item, ran, _⟩ := (sourceItem_lineLoop limit).at_lineEnd reader ended
    exact ⟨item, reader.advance, ran⟩
  cases read : (line limit).run reader.look with
  | ok stmt after => exact ⟨.ok stmt, after, sourceItem_ok more ended read⟩
  | error fault middle =>
    obtain ⟨last, skipped, _⟩ := skipLine_run middle
    exact ⟨.error fault, last, sourceItem_error more ended read skipped⟩

/-- From the first reader the loop over a source comes to the second one, and has read these lines
on its way. -/
inductive ReadsTo (limit : Nat) :
    Reader → List (Except SyntaxFault (Option Stmt)) → Reader → Prop
  | here (reader : Reader) : ReadsTo limit reader [] reader
  | step {reader after stop : Reader} {item : Except SyntaxFault (Option Stmt)}
      {items : List (Except SyntaxFault (Option Stmt))}
      (ran : (sourceItem limit).run reader = .ok (some item) after)
      (later : ReadsTo limit after items stop) : ReadsTo limit reader (item :: items) stop

theorem ReadsTo.append {limit : Nat} {reader middle stop : Reader}
    {items others : List (Except SyntaxFault (Option Stmt))}
    (first : ReadsTo limit reader items middle) (second : ReadsTo limit middle others stop) :
    ReadsTo limit reader (items ++ others) stop := by
  induction first with
  | here reader => exact second
  | step ran _ ih => exact .step ran (ih second)

theorem ReadsTo.of_end {limit : Nat} {reader stop : Reader}
    {items : List (Except SyntaxFault (Option Stmt))} (reads : ReadsTo limit reader items stop)
    (ended : reader.next.kind = .endOfInput) : items = [] ∧ stop = reader := by
  cases reads with
  | here reader => exact ⟨rfl, rfl⟩
  | step ran _ =>
    rw [sourceItem_at_end limit ended] at ran
    cases ran

theorem ReadsTo.within {allowed : Reader → Reader → Prop} (steps : Stepwise allowed)
    {limit : Nat} {reader stop : Reader}
    {items : List (Except SyntaxFault (Option Stmt))} (reads : ReadsTo limit reader items stop) :
    allowed reader stop := by
  induction reads with
  | here reader => exact steps.refl reader
  | @step reader after stop item items ran _ ih =>
    have ends := sourceItem_within steps limit reader
    rw [ran] at ends
    exact steps.trans _ _ _ ends ih

theorem exists_readsTo (limit : Nat) (reader : Reader) :
    ∃ items stop, ReadsTo limit reader items stop ∧ stop.next.kind = .endOfInput := by
  induction length : reader.scanner.rest.length using Nat.strong_induction_on
    generalizing reader with
  | _ size ih =>
    by_cases ended : reader.next.kind = .endOfInput
    · exact ⟨[], reader, .here reader, ended⟩
    · obtain ⟨item, after, ran⟩ := sourceItem_total limit ended
      have shorter := sourceItem_advances limit _ _ _ ran
      obtain ⟨items, stop, reads, last⟩ := ih _ (length ▸ shorter) after rfl
      exact ⟨item :: items, stop, .step ran reads, last⟩

theorem ReadsTo.repeating {limit : Nat} {reader stop : Reader}
    {items : List (Except SyntaxFault (Option Stmt))} (reads : ReadsTo limit reader items stop)
    (ended : stop.next.kind = .endOfInput) :
    (Parse.repeating (sourceItem limit)).run reader = .ok items stop.look := by
  induction reads with
  | here reader =>
    rw [repeating_eq (sourceItem_advances limit),
      bind_ok ((sourceItem_lineLoop limit).at_stop reader ended)]
    rfl
  | step ran _ ih =>
    rw [repeating_eq (sourceItem_advances limit), bind_ok ran]
    exact bind_ok (ih ended)

end Parse

theorem Parse.source_of_readsTo {limit : Nat} {reader stop : Reader}
    {items : List (Except SyntaxFault (Option Stmt))} (reads : ReadsTo limit reader items stop)
    (ended : stop.next.kind = .endOfInput) :
    (source limit).run reader = .ok (.ofLines items) stop.look := by
  rw [source, bind_ok (reads.repeating ended), EStateM.run_pure]

theorem Reader.parse_of_readsTo {limit : Nat} {reader stop : Reader}
    {items : List (Except SyntaxFault (Option Stmt))}
    (reads : Parse.ReadsTo limit reader items stop) (ended : stop.next.kind = .endOfInput) :
    reader.parse limit = (.ofLines items, stop.look) := by
  rw [parse, Parse.source_of_readsTo reads ended]

end Polyglot
