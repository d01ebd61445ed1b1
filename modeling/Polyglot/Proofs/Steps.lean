import Polyglot.Proofs.Numerals
import Polyglot.Proofs.Reading
import Polyglot.Syntax.Parse

/-! The parser step by step. Whatever part of a source it reads, it moves its reader by four kinds of
steps: it looks at the next token, takes it, takes the first token of an operand and notes that, or
executes a pragma. Where it stops with a fault, the fault is of one of four kinds, each for a reason
that the token in front of the reader shows. What all of this allows is allowed from the start of a
part to its end. -/
namespace Polyglot.Parse

/-- Where a part that begins at a reader may end, and with which fault it may stop. -/
structure Course where
  ends : Reader → Reader → Prop
  stops : Reader → SyntaxFault → Reader → Prop

namespace Course

/-- The course goes over every step of the parser and has every fault that it finds. -/
structure Complete (course : Course) : Prop where
  refl : ∀ reader, course.ends reader reader
  trans : ∀ first second third, course.ends first second → course.ends second third →
    course.ends first third
  look : ∀ reader, course.ends reader reader.look
  advance : ∀ reader, course.ends reader reader.advance
  operand : ∀ reader floor, startsExpression reader.next.kind = true →
    (reader.next.kind = .integer →
      Decimal.natOfDigits reader.next.literal.toList < twoTo 63) →
    course.ends reader (reader.advance.noting (.operand reader.next.kind floor))
  pragma : ∀ reader, reader.next.kind = .tilde → reader.advance.next.kind = .identifier →
    course.ends reader (reader.advance.advance.switch reader.advance.next.literal)
  later : ∀ first second fault after, course.ends first second → course.stops second fault after →
    course.stops first fault after
  unexpected : ∀ reader kind, course.stops reader (.unexpected kind reader.next) reader.look
  nesting : ∀ reader limit, course.stops reader (.nesting limit reader.next) reader.look
  noOperand : ∀ reader, startsExpression reader.next.kind = false →
    course.stops reader (.noOperand reader.next) reader.look
  integerRange : ∀ reader floor, reader.next.kind = .integer →
    twoTo 63 ≤ Decimal.natOfDigits reader.next.literal.toList →
    course.stops reader (.integerRange reader.next)
      (reader.advance.noting (.operand reader.next.kind floor))

variable {α β : Type} {course : Course}

def Allows (course : Course) (reader : Reader) : EStateM.Result SyntaxFault Reader α → Prop
  | .ok _ after => course.ends reader after
  | .error fault after => course.stops reader fault after

def Covers (course : Course) (part : Parse α) : Prop :=
  ∀ reader, course.Allows reader (part.run reader)

/-- What follows a look at the next token may find a fault with it. -/
theorem Covers.peek {next : Token → Parse β}
    (later : ∀ reader, course.Allows reader ((next reader.next).run reader.look)) :
    course.Covers (Parse.peek >>= next) := by
  intro reader
  rw [bind_ok (peek_run reader)]
  exact later reader

section
variable (steps : course.Complete)
include steps

theorem Allows.after {first second : Reader} (moved : course.ends first second)
    {result : EStateM.Result SyntaxFault Reader α} (ends : course.Allows second result) :
    course.Allows first result := by
  cases result with
  | ok value after => exact steps.trans _ _ _ moved ends
  | error fault after => exact steps.later _ _ _ _ moved ends

theorem Allows.bind {first : Parse α} {next : α → Parse β} {reader middle : Reader}
    (begins : course.Allows reader (first.run middle))
    (later : ∀ value, course.Covers (next value)) :
    course.Allows reader ((first >>= next).run middle) := by
  cases ran : first.run middle with
  | ok value after =>
    rw [ran] at begins
    rw [bind_ok ran]
    exact .after steps begins (later value after)
  | error fault after =>
    rw [ran] at begins
    rw [bind_error ran]
    exact begins

theorem Covers.pure (value : α) : course.Covers (Pure.pure value : Parse α) :=
  fun reader => steps.refl reader

theorem Covers.bind {first : Parse α} {next : α → Parse β} (begins : course.Covers first)
    (later : ∀ value, course.Covers (next value)) : course.Covers (first >>= next) :=
  fun reader => .bind steps (begins reader) later

theorem Allows.look {part : Parse α} (covered : course.Covers part) (reader : Reader) :
    course.Allows reader (part.run reader.look) :=
  .after steps (steps.look reader) (covered reader.look)

end

end Course

theorem pragma_look (reader : Reader) : pragma.run reader.look = pragma.run reader := by
  unfold pragma
  rw [bind_ok (take_run _), bind_ok (take_run _), Reader.look_advance]

theorem pragma_named {reader : Reader} (named : reader.advance.next.kind = .identifier) :
    pragma.run reader =
      .ok none (reader.advance.advance.switch reader.advance.next.literal) := by
  have taken : (expect .identifier).run reader.advance =
      .ok reader.advance.next reader.advance.advance := by rw [expect_run, if_pos named]
  unfold pragma
  rw [bind_ok (take_run reader), bind_ok taken, bind_ok (switchDialect_run _ _), EStateM.run_pure]

theorem pragma_unnamed {reader : Reader} (unnamed : reader.advance.next.kind ≠ .identifier) :
    pragma.run reader =
      .error (.unexpected .identifier reader.advance.next) reader.advance.look := by
  have refused : (expect .identifier).run reader.advance =
      .error (.unexpected .identifier reader.advance.next) reader.advance.look := by
    rw [expect_run, if_neg unnamed]
  unfold pragma
  rw [bind_ok (take_run reader), bind_error refused]

theorem skipToken_run (reader : Reader) :
    skipToken.run reader =
      if reader.next.kind = .newLine ∨ reader.next.kind = .endOfInput then .ok none reader.look
      else .ok (some reader.next) reader.advance := by
  unfold skipToken
  rw [bind_ok (peek_run reader)]
  split
  · rename_i line
    rw [if_pos (Or.inl line), EStateM.run_pure]
  · rename_i ended
    rw [if_pos (Or.inr ended), EStateM.run_pure]
  · rename_i no_line no_end
    rw [if_neg (by simpa using ⟨no_line, no_end⟩), bind_ok (take_run _), EStateM.run_pure,
      Reader.look_next, Reader.look_advance]

section
variable {α : Type} {course : Course} (steps : course.Complete)
include steps

theorem take_covered : course.Covers take :=
  fun reader => steps.advance reader

theorem accept_covered (kind : TokenKind) : course.Covers (accept kind) := by
  intro reader
  rw [accept_run]
  split
  · exact steps.advance reader
  · exact steps.look reader

theorem expect_covered (kind : TokenKind) : course.Covers (expect kind) := by
  intro reader
  rw [expect_run]
  split
  · exact steps.advance reader
  · exact steps.unexpected reader kind

theorem repeating_covered {step : Parse (Option α)} (covered : course.Covers step) :
    course.Covers (repeating step) := by
  have bounded (bound : Nat) : course.Covers (repeatWithin step bound) := by
    induction bound with
    | zero => exact .pure steps []
    | succ bound ih =>
      refine .bind steps covered fun found => ?_
      cases found with
      | none => exact .pure steps []
      | some value => exact .bind steps ih fun values => .pure steps _
  intro reader
  rw [repeating_run]
  exact bounded _ reader

theorem afterComma_covered {element : Parse α} (covered : course.Covers element) :
    course.Covers (afterComma element) := by
  refine .bind steps (accept_covered steps _) fun found => ?_
  cases found with
  | true => exact .bind steps covered fun value => .pure steps _
  | false => exact .pure steps _

theorem sequence_covered {element : Parse α} (covered : course.Covers element)
    (closing : TokenKind) : course.Covers (sequence element closing) := by
  refine .bind steps (accept_covered steps _) fun found => ?_
  cases found with
  | true => exact .pure steps _
  | false =>
    refine .bind steps covered fun first => ?_
    refine .bind steps (repeating_covered steps (afterComma_covered steps covered)) fun others => ?_
    exact .bind steps (expect_covered steps _) fun _ => .pure steps _

theorem pragma_covered {reader : Reader} (tilde : reader.next.kind = .tilde) :
    course.Allows reader (pragma.run reader.look) := by
  rw [pragma_look]
  by_cases named : reader.advance.next.kind = .identifier
  · rw [pragma_named named]
    exact steps.pragma reader tilde named
  · rw [pragma_unnamed named]
    exact steps.later _ _ _ _ (steps.advance reader) (steps.unexpected reader.advance .identifier)

variable {expr : Precedence → Parse Expr}

theorem statement_covered (inner : ∀ floor, course.Covers (expr floor)) :
    course.Covers (statement expr) := by
  refine .peek fun reader => ?_
  split
  · refine .look steps (.bind steps (take_covered steps) fun token => ?_) reader
    refine .bind steps (expect_covered steps _) fun name => ?_
    refine .bind steps (expect_covered steps _) fun _ => ?_
    exact .bind steps (inner _) fun value => .pure steps _
  · refine .look steps (.bind steps (take_covered steps) fun token => ?_) reader
    exact .bind steps (inner _) fun value => .pure steps _
  · rename_i tilde
    exact pragma_covered steps tilde
  · exact .look steps (.bind steps (inner _) fun value => .pure steps _) reader

theorem blockItem_covered (inner : ∀ floor, course.Covers (expr floor)) :
    course.Covers (blockItem expr) := by
  refine .peek fun reader => ?_
  split
  · exact .look steps (.pure steps _) reader
  · exact .look steps (.pure steps _) reader
  · exact .look steps (.bind steps (take_covered steps) fun _ => .pure steps _) reader
  · refine .look steps (.bind steps (statement_covered steps inner) fun stmt => ?_) reader
    refine .peek fun reader => ?_
    split
    · exact .look steps (.pure steps _) reader
    · exact .look steps (.pure steps _) reader
    · exact .look steps (.pure steps _) reader
    · exact steps.unexpected reader .newLine

theorem block_covered (inner : ∀ floor, course.Covers (expr floor)) :
    course.Covers (block expr) := by
  refine .bind steps (expect_covered steps _) fun token => ?_
  refine .bind steps (repeating_covered steps (blockItem_covered steps inner)) fun items => ?_
  exact .bind steps (expect_covered steps _) fun _ => .pure steps _

/-- An operand may find a fault with the token that it starts with, which has been taken. The last
branch is not for tokens that start an expression, and the text of a float has a value. -/
theorem operand_covered (inner : ∀ floor, course.Covers (expr floor)) {token : Token}
    {reader middle : Reader} (starts : startsExpression token.kind = true)
    (written : token.kind.Written token.literal.toList)
    (moved : (token.kind = .integer → Decimal.natOfDigits token.literal.toList < twoTo 63) →
      course.ends reader middle)
    (refused : token.kind = .integer → twoTo 63 ≤ Decimal.natOfDigits token.literal.toList →
      course.stops reader (.integerRange token) middle) :
    course.Allows reader ((operand expr token).run middle) := by
  have go {part : Parse Expr} {kind : TokenKind} (same : token.kind = kind)
      (other : kind ≠ .integer) (covered : course.Covers part) :
      course.Allows reader (part.run middle) :=
    .after steps (moved fun integer => absurd (same.symm.trans integer) other) (covered middle)
  have braces := block_covered steps inner
  unfold operand
  split
  case h_1 kind => exact go kind (by decide) (.pure steps _)
  case h_2 kind =>
    dsimp only
    split
    · rename_i small
      exact .after steps (moved fun _ => small) (steps.refl middle)
    · rename_i large
      exact refused kind (Nat.le_of_not_lt large)
  case h_3 kind =>
    rw [kind] at written
    obtain ⟨value, read⟩ := readFloat?_isSome written
    rw [read]
    exact go kind (by decide) (.pure steps _)
  case h_4 kind => exact go kind (by decide) (.pure steps _)
  case h_5 kind => exact go kind (by decide) (.pure steps _)
  case h_6 kind => exact go kind (by decide) (.pure steps _)
  case h_7 kind => exact go kind (by decide) (.bind steps (inner _) fun value => .pure steps _)
  case h_8 kind => exact go kind (by decide) (.bind steps (inner _) fun value => .pure steps _)
  case h_9 kind =>
    refine go kind (by decide) (.bind steps (inner _) fun value => ?_)
    exact .bind steps (expect_covered steps _) fun _ => .pure steps _
  case h_10 kind =>
    refine go kind (by decide) (.bind steps (expect_covered steps _) fun _ => ?_)
    refine .bind steps (inner _) fun condition => ?_
    refine .bind steps (expect_covered steps _) fun _ => ?_
    refine .bind steps braces fun consequence => ?_
    refine .bind steps (accept_covered steps _) fun found => ?_
    cases found with
    | true => exact .bind steps braces fun alternative => .pure steps _
    | false => exact .pure steps _
  case h_11 kind =>
    refine go kind (by decide) (.bind steps (expect_covered steps _) fun _ => ?_)
    refine .bind steps (sequence_covered steps (expect_covered steps _) _) fun parameters => ?_
    exact .bind steps braces fun body => .pure steps _
  case h_12 =>
    unfold startsExpression at starts
    split at starts <;> contradiction

theorem link_covered (inner : ∀ floor, course.Covers (expr floor)) (left : Expr)
    (token : Token) : course.Covers (link expr left token) := by
  unfold link
  split
  · exact .bind steps (inner _) fun right => .pure steps _
  · exact .bind steps (sequence_covered steps (inner _) _) fun arguments => .pure steps _

theorem tooDeep_covered (limit : Nat) : course.Covers (tooDeep limit : Parse α) :=
  .peek fun reader => steps.nesting reader limit

theorem continues_covered (floor : Precedence) : course.Covers (continues floor) :=
  .peek fun reader => .look steps (.pure steps _) reader

theorem expression_succ_covered {limit budget : Nat} {floor : Precedence}
    (inner : ∀ floor, course.Covers (expression limit budget floor))
    (more : ∀ left, course.Covers (links limit budget floor left)) :
    course.Covers (expression limit (budget + 1) floor) := by
  unfold expression
  refine .peek fun reader => ?_
  split
  · rename_i starts
    rw [bind_ok (take_run _), bind_ok (note_run _ _), Reader.look_next, Reader.look_advance]
    refine .bind steps (operand_covered steps inner starts (Scanner.next_written _) ?_ ?_) more
    · exact steps.operand reader floor starts
    · exact steps.integerRange reader floor
  · rename_i refused
    exact steps.noOperand reader (Bool.eq_false_iff.mpr refused)

theorem links_zero_covered (limit : Nat) (floor : Precedence) (left : Expr) :
    course.Covers (links limit 0 floor left) := by
  unfold links
  refine .bind steps (continues_covered steps floor) fun found => ?_
  split
  · exact tooDeep_covered steps limit
  · exact .pure steps _

theorem links_succ_covered {limit budget : Nat} {floor : Precedence}
    (inner : ∀ floor, course.Covers (expression limit budget floor))
    (more : ∀ left, course.Covers (links limit budget floor left)) (left : Expr) :
    course.Covers (links limit (budget + 1) floor left) := by
  unfold links
  refine .bind steps (continues_covered steps floor) fun found => ?_
  split
  · refine .bind steps (take_covered steps) fun token => ?_
    exact .bind steps (link_covered steps inner left token) more
  · exact .pure steps _

theorem expression_links_covered (limit budget : Nat) :
    (∀ floor, course.Covers (expression limit budget floor)) ∧
      ∀ floor left, course.Covers (links limit budget floor left) := by
  induction budget with
  | zero =>
    refine ⟨fun floor => ?_, links_zero_covered steps limit⟩
    unfold expression
    exact tooDeep_covered steps limit
  | succ budget ih =>
    exact ⟨fun floor => expression_succ_covered steps ih.1 (ih.2 floor),
      fun floor => links_succ_covered steps ih.1 (ih.2 floor)⟩

theorem lineEnd_covered (value : α) :
    course.Covers (do
      let next ← peek
      match next.kind with
      | .newLine | .endOfInput => return value
      | _ => throw (.unexpected .newLine next) : Parse α) := by
  refine .peek fun reader => ?_
  split
  · exact .look steps (.pure steps _) reader
  · exact .look steps (.pure steps _) reader
  · exact steps.unexpected reader .newLine

theorem line_covered (limit : Nat) : course.Covers (line limit) :=
  .bind steps (statement_covered steps (expression_links_covered steps limit limit).1)
    (lineEnd_covered steps)

theorem skipLine_covered : course.Covers skipLine := by
  have token : course.Covers skipToken := by
    intro reader
    rw [skipToken_run]
    split
    · exact steps.look reader
    · exact steps.advance reader
  exact .bind steps (repeating_covered steps token) fun _ => .pure steps ()

end

/-- A relation between an earlier and a later state of a reader that goes over every step. -/
structure Stepwise (allowed : Reader → Reader → Prop) : Prop where
  refl : ∀ reader, allowed reader reader
  trans : ∀ first second third, allowed first second → allowed second third → allowed first third
  look : ∀ reader, allowed reader reader.look
  advance : ∀ reader, allowed reader reader.advance
  operand : ∀ reader kind floor, allowed reader (reader.advance.noting (.operand kind floor))
  pragma : ∀ reader, reader.next.kind = .tilde → reader.advance.next.kind = .identifier →
    allowed reader (reader.advance.advance.switch reader.advance.next.literal)

/-- A part ends where it may, be it with success or with a fault. -/
def Course.keeping (allowed : Reader → Reader → Prop) : Course where
  ends := allowed
  stops reader _ after := allowed reader after

/-- A part ends where it may, and the token of a fault was in front of the reader before that. -/
def Course.within (allowed : Reader → Reader → Prop) : Course where
  ends := allowed
  stops reader fault after :=
    ∃ here, allowed reader here ∧ fault.token = here.next ∧ allowed here after

section
variable {α : Type} {allowed : Reader → Reader → Prop} (steps : Stepwise allowed)
include steps

theorem Stepwise.complete : (Course.within allowed).Complete where
  refl := steps.refl
  trans := steps.trans
  look := steps.look
  advance := steps.advance
  operand reader floor _ _ := steps.operand reader _ floor
  pragma := steps.pragma
  later first second fault after moved stops := by
    obtain ⟨here, reached, same, left⟩ := stops
    exact ⟨here, steps.trans _ _ _ moved reached, same, left⟩
  unexpected reader kind := ⟨reader, steps.refl reader, rfl, steps.look reader⟩
  nesting reader limit := ⟨reader, steps.refl reader, rfl, steps.look reader⟩
  noOperand reader _ := ⟨reader, steps.refl reader, rfl, steps.look reader⟩
  integerRange reader floor _ _ := ⟨reader, steps.refl reader, rfl, steps.operand reader _ floor⟩

theorem Stepwise.keeps : (Course.keeping allowed).Complete where
  refl := steps.refl
  trans := steps.trans
  look := steps.look
  advance := steps.advance
  operand reader floor _ _ := steps.operand reader _ floor
  pragma := steps.pragma
  later first second _ after := steps.trans first second after
  unexpected reader _ := steps.look reader
  nesting reader _ := steps.look reader
  noOperand reader _ := steps.look reader
  integerRange reader floor _ _ := steps.operand reader _ floor

theorem line_within (limit : Nat) : (Course.within allowed).Covers (line limit) :=
  line_covered steps.complete limit

theorem skipLine_within : (Course.within allowed).Covers skipLine :=
  skipLine_covered steps.complete

theorem attempt_within {part : Parse α} (covered : (Course.within allowed).Covers part) :
    (Course.within allowed).Covers (attempt part) := by
  intro reader
  have ends := covered reader
  rw [attempt_run]
  cases ran : part.run reader with
  | ok value after =>
    rw [ran] at ends
    exact ends
  | error fault after =>
    rw [ran] at ends
    obtain ⟨here, reached, _, left⟩ := ends
    exact steps.trans _ _ _ reached left

theorem sourceItem_within (limit : Nat) :
    (Course.within allowed).Covers (sourceItem limit) := by
  have complete := steps.complete
  refine .peek fun reader => ?_
  split
  · exact .look complete (.pure complete _) reader
  · exact .look complete (.bind complete (take_covered complete) fun _ => .pure complete _) reader
  · have attempted := attempt_within steps (line_within steps limit)
    refine .look complete (.bind complete attempted fun result => ?_) reader
    cases result with
    | ok stmt => exact .pure complete _
    | error fault => exact .bind complete (skipLine_within steps) fun _ => .pure complete _

end

end Polyglot.Parse
