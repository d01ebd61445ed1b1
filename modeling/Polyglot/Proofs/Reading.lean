import Polyglot.Proofs.Computation
import Polyglot.Proofs.Scanning
import Polyglot.Syntax.Reader

/-! The steps of a reader, each as what it yields and the reader that it leaves. Looking changes
nothing but the notes; only taking a token moves the scanner. -/
namespace Polyglot

namespace Reader

/-- The reader with one more note. -/
def noting (event : Event) (reader : Reader) : Reader :=
  { reader with noted := event :: reader.noted }

@[simp] theorem look_scanner (reader : Reader) : reader.look.scanner = reader.scanner := by
  unfold look
  split <;> rfl

@[simp] theorem look_next (reader : Reader) : reader.look.next = reader.next := by
  unfold next
  rw [look_scanner]

@[simp] theorem look_look (reader : Reader) : reader.look.look = reader.look := by
  by_cases settled : reader.seen || reader.next.kind = .endOfInput
  · have same : reader.look = reader := by rw [look, if_pos settled]
    rw [same, same]
  · have seen : reader.look.seen = true := by rw [look, if_neg settled]
    rw [look, if_pos (by simp [seen])]

@[simp] theorem look_advance (reader : Reader) : reader.look.advance = reader.advance := by
  unfold advance
  rw [look_look, look_scanner]

@[simp] theorem advance_scanner (reader : Reader) :
    reader.advance.scanner = reader.scanner.next.2 :=
  rfl

end Reader

namespace Parse
variable {α β : Type}

@[simp] theorem peek_run (reader : Reader) : peek.run reader = .ok reader.next reader.look :=
  rfl

@[simp] theorem take_run (reader : Reader) : take.run reader = .ok reader.next reader.advance :=
  rfl

@[simp] theorem note_run (event : Event) (reader : Reader) :
    (note event).run reader = .ok () (reader.noting event) :=
  rfl

@[simp] theorem switchDialect_run (name : String) (reader : Reader) :
    (switchDialect name).run reader = .ok () (reader.switch name) :=
  rfl

@[simp] theorem accept_run (kind : TokenKind) (reader : Reader) :
    (accept kind).run reader =
      if reader.next.kind = kind then .ok true reader.advance else .ok false reader.look := by
  unfold accept
  rw [bind_ok (peek_run reader)]
  split
  · rw [bind_ok (take_run reader.look), EStateM.run_pure, Reader.look_advance]
  · rfl

@[simp] theorem expect_run (kind : TokenKind) (reader : Reader) :
    (expect kind).run reader =
      if reader.next.kind = kind then .ok reader.next reader.advance
      else .error (.unexpected kind reader.next) reader.look := by
  unfold expect
  rw [bind_ok (peek_run reader)]
  split
  · rw [take_run, Reader.look_next, Reader.look_advance]
  · rfl

theorem attempt_run {σ : Type} (part : ParseFrom σ α) (state : σ) :
    (attempt part).run state = match part.run state with
      | .ok value after => .ok (.ok value) after
      | .error fault after => .ok (.error fault) after := by
  show attempt part state = _
  unfold attempt
  cases part.run state <;> rfl

/-- A step that takes a character or more whenever it yields something. -/
def Advances (step : Parse (Option α)) : Prop :=
  ∀ reader value after, step.run reader = .ok (some value) after →
    after.scanner.rest.length < reader.scanner.rest.length

/-- Of a step that advances, no more repetitions are possible than there are characters left, so
every greater bound is as good. -/
theorem repeatWithin_bound {step : Parse (Option α)} (advances : Advances step)
    (bound other : Nat) (reader : Reader) (enough : reader.scanner.rest.length < bound)
    (plenty : reader.scanner.rest.length < other) :
    (repeatWithin step bound).run reader = (repeatWithin step other).run reader := by
  induction bound generalizing other reader with
  | zero => omega
  | succ bound ih =>
    obtain ⟨other, rfl⟩ : ∃ smaller, other = smaller + 1 := ⟨other - 1, by omega⟩
    unfold repeatWithin
    cases ran : step.run reader with
    | error fault after => rw [bind_error ran, bind_error ran]
    | ok found after =>
      rw [bind_ok ran, bind_ok ran]
      cases found with
      | none => rfl
      | some value =>
        have shorter := advances reader value after ran
        dsimp only
        rw [EStateM.run_bind, EStateM.run_bind, ih other after (by omega) (by omega)]

theorem repeating_run (step : Parse (Option α)) (reader : Reader) :
    (repeating step).run reader =
      (repeatWithin step (reader.scanner.rest.length + 1)).run reader :=
  rfl

/-- A step that advances is repeated as if there were no bound. -/
theorem repeating_eq {step : Parse (Option α)} (advances : Advances step) (reader : Reader) :
    (repeating step).run reader = (do
      match ← step with
      | none => return []
      | some first => return first :: (← repeating step) : Parse (List α)).run reader := by
  rw [repeating_run, repeatWithin]
  cases ran : step.run reader with
  | error fault after => rw [bind_error ran, bind_error ran]
  | ok found after =>
    rw [bind_ok ran, bind_ok ran]
    cases found with
    | none => rfl
    | some value =>
      have shorter := advances reader value after ran
      dsimp only
      rw [EStateM.run_bind, EStateM.run_bind, repeating_run,
        repeatWithin_bound advances _ _ after shorter (Nat.lt_succ_self _)]

/-- The course of a loop that has no bound: its step is taken again and again, until it yields
nothing or fails. -/
inductive Loop (step : Parse (Option α)) :
    Reader → EStateM.Result SyntaxFault Reader (List α) → Prop
  | done {reader after : Reader} (ran : step.run reader = .ok none after) :
      Loop step reader (.ok [] after)
  | failed {reader after : Reader} {fault : SyntaxFault}
      (ran : step.run reader = .error fault after) : Loop step reader (.error fault after)
  | again {reader middle after : Reader} {value : α} {values : List α}
      (ran : step.run reader = .ok (some value) middle)
      (rest : Loop step middle (.ok values after)) : Loop step reader (.ok (value :: values) after)
  | broken {reader middle after : Reader} {value : α} {fault : SyntaxFault}
      (ran : step.run reader = .ok (some value) middle)
      (rest : Loop step middle (.error fault after)) : Loop step reader (.error fault after)

/-- Wherever it begins, the loop comes to an end of its own and not to its bound. -/
def Terminates (step : Parse (Option α)) : Prop :=
  ∀ reader, Loop step reader ((repeating step).run reader)

theorem Advances.terminates {step : Parse (Option α)} (advances : Advances step) :
    Terminates step := by
  intro reader
  induction length : reader.scanner.rest.length using Nat.strong_induction_on
    generalizing reader with
  | _ size ih =>
    rw [repeating_eq advances]
    cases ran : step.run reader with
    | error fault after =>
      rw [bind_error ran]
      exact .failed ran
    | ok found middle =>
      rw [bind_ok ran]
      cases found with
      | none => exact .done ran
      | some value =>
        have rest := ih _ (length ▸ advances reader value middle ran) middle rfl
        dsimp only
        cases later : (repeating step).run middle with
        | ok values after =>
          rw [bind_ok later]
          exact .again ran (later ▸ rest)
        | error fault after =>
          rw [bind_error later]
          exact .broken ran (later ▸ rest)

end Parse

end Polyglot
