import Polyglot.Proofs.Lines

/-! What parsing returns. A property of expressions that may depend on the budget they are read with
is followed through the grammar once: from the expressions inside an operand to the operand, and from
link to link. Main statement: a property that is kept there holds of every statement of a parsed
source. -/
namespace Polyglot

def Stmt.value : Stmt → Expr
  | .binding _ _ value | .result _ value | .expression _ value => value

def Block.All (holds : Expr → Prop) (block : Block) : Prop :=
  ∀ stmt ∈ block.statements, holds stmt.value

def Expr.isLeaf : Expr → Bool
  | .identifier _ | .integer _ _ | .float _ _ | .string _ | .boolean _ _ => true
  | _ => false

namespace Parse
variable {α β : Type}

/-- Whatever the part yields is as described. -/
def Returns (described : α → Prop) (part : Parse α) : Prop :=
  ∀ reader value after, part.run reader = .ok value after → described value

namespace Returns
variable {described : α → Prop} {result : β → Prop}

theorem pure {value : α} (holds : described value) : Returns described (Pure.pure value) := by
  rintro reader _ _ ⟨⟩
  exact holds

theorem throw (fault : SyntaxFault) : Returns described (MonadExcept.throw fault) := by
  rintro reader _ _ ⟨⟩

theorem bind {first : Parse α} {next : α → Parse β} (begins : Returns described first)
    (later : ∀ value, described value → Returns result (next value)) :
    Returns result (first >>= next) := by
  intro reader value last ran
  obtain ⟨middle, after, begun, rest⟩ := bind_success ran
  exact later middle (begins _ _ _ begun) _ _ _ rest

/-- A part about whose value nothing is known. -/
theorem after {first : Parse α} {next : α → Parse β}
    (later : ∀ value, Returns result (next value)) : Returns result (first >>= next) := by
  have begins : Returns (fun _ => True) first := fun _ _ _ _ => trivial
  exact begins.bind fun value _ => later value

theorem repeating {step : Parse (Option α)}
    (once : Returns (fun found => ∀ value, found = some value → described value) step) :
    Returns (fun values => ∀ value ∈ values, described value) (Parse.repeating step) := by
  have within (bound : Nat) :
      Returns (fun values => ∀ value ∈ values, described value) (repeatWithin step bound) := by
    induction bound with
    | zero => exact .pure (List.forall_mem_nil _)
    | succ bound ih =>
      refine once.bind fun found holds => ?_
      cases found with
      | none => exact .pure (List.forall_mem_nil _)
      | some value =>
        exact ih.bind fun values others =>
          .pure (List.forall_mem_cons.mpr ⟨holds value rfl, others⟩)
  intro reader values last ran
  rw [repeating_run] at ran
  exact within _ _ _ _ ran

theorem sequence {element : Parse α} (once : Returns described element) (closing : TokenKind) :
    Returns (fun values => ∀ value ∈ values, described value) (Parse.sequence element closing) := by
  refine .after fun found => ?_
  cases found with
  | true => exact .pure (List.forall_mem_nil _)
  | false =>
    have more : Returns (fun found => ∀ value, found = some value → described value)
        (afterComma element) := by
      refine .after fun found => ?_
      cases found with
      | true =>
        refine once.bind fun value holds => .pure ?_
        rintro _ ⟨⟩
        exact holds
      | false => exact .pure (by rintro _ ⟨⟩)
    refine once.bind fun first holds => ?_
    refine more.repeating.bind fun others rest => .after fun _ => .pure ?_
    exact List.forall_mem_cons.mpr ⟨holds, rest⟩

end Returns

/-- What holds of the expressions inside an operand makes something hold of the operand. -/
structure Lifts (inside whole : Expr → Prop) : Prop where
  leaf : ∀ expr : Expr, expr.isLeaf = true → whole expr
  grouped : ∀ expr, inside expr → whole expr
  unary : ∀ token op operand, inside operand → whole (.unary token op operand)
  conditional : ∀ token condition consequence alternative, inside condition →
    consequence.All inside → (∀ other ∈ alternative, other.All inside) →
    whole (.conditional token condition consequence alternative)
  function : ∀ token parameters body, body.All inside → whole (.function token parameters body)

/-- What holds of an expression and of what is linked to it makes something hold of both
together. -/
structure Joins (left inside whole : Expr → Prop) : Prop where
  binary : ∀ token op first second, left first → inside second →
    whole (.binary token op first second)
  call : ∀ token callee arguments, left callee → (∀ expr ∈ arguments, inside expr) →
    whole (.call token callee arguments)

section
variable {expr : Precedence → Parse Expr} {inside whole : Expr → Prop}
  (read : ∀ floor, Returns inside (expr floor))
include read

theorem statement_returns :
    Returns (fun found => ∀ stmt, found = some stmt → inside stmt.value) (statement expr) := by
  refine .after fun first => ?_
  split
  · refine .after fun token => .after fun name => .after fun _ => ?_
    refine (read _).bind fun value holds => .pure ?_
    rintro _ ⟨⟩
    exact holds
  · refine .after fun token => (read _).bind fun value holds => .pure ?_
    rintro _ ⟨⟩
    exact holds
  · exact .after fun _ => .after fun name => .after fun _ => .pure (by rintro _ ⟨⟩)
  · refine (read _).bind fun value holds => .pure ?_
    rintro _ ⟨⟩
    exact holds

theorem blockItem_returns :
    Returns (fun found => ∀ item, found = some item →
      ∀ stmt, item = some stmt → inside stmt.value) (blockItem expr) := by
  refine .after fun first => ?_
  split
  · exact .pure (by rintro _ ⟨⟩)
  · exact .pure (by rintro _ ⟨⟩)
  · exact .after fun _ => .pure (by rintro _ ⟨⟩ _ ⟨⟩)
  · refine (statement_returns read).bind fun stmt holds => .after fun next => ?_
    have kept : Returns (fun found => ∀ item, found = some item →
        ∀ stmt, item = some stmt → inside stmt.value) (pure (some stmt)) := .pure (by
      rintro _ ⟨⟩
      exact holds)
    split
    · exact kept
    · exact kept
    · exact kept
    · exact .throw _

theorem block_returns : Returns (Block.All inside) (block expr) := by
  refine .after fun token => ?_
  refine (blockItem_returns read).repeating.bind fun items holds => .after fun _ => .pure ?_
  intro stmt member
  obtain ⟨item, among, same⟩ := List.mem_filterMap.mp member
  exact holds item among stmt same

theorem operand_returns (lifts : Lifts inside whole) (token : Token) :
    Returns whole (operand expr token) := by
  unfold operand
  split
  · exact .pure (lifts.leaf _ rfl)
  · dsimp only
    split
    · exact .pure (lifts.leaf _ rfl)
    · exact .throw _
  · split
    · exact .pure (lifts.leaf _ rfl)
    · exact .throw _
  · exact .pure (lifts.leaf _ rfl)
  · exact .pure (lifts.leaf _ rfl)
  · exact .pure (lifts.leaf _ rfl)
  · exact (read _).bind fun inner holds => .pure (lifts.unary _ _ inner holds)
  · exact (read _).bind fun inner holds => .pure (lifts.unary _ _ inner holds)
  · exact (read _).bind fun inner holds => .after fun _ => .pure (lifts.grouped inner holds)
  · refine .after fun _ => (read _).bind fun condition asked => .after fun _ => ?_
    refine (block_returns read).bind fun consequence holds => .after fun found => ?_
    cases found with
    | true =>
      refine (block_returns read).bind fun alternative fails => .pure ?_
      apply lifts.conditional _ _ _ _ asked holds
      rintro _ ⟨⟩
      exact fails
    | false =>
      refine .pure (lifts.conditional _ _ _ _ asked holds ?_)
      rintro _ ⟨⟩
  · refine .after fun _ => .after fun parameters => ?_
    exact (block_returns read).bind fun body holds => .pure (lifts.function _ _ body holds)
  · exact .throw _

theorem link_returns {before : Expr → Prop} (joins : Joins before inside whole) {left : Expr}
    (holds : before left) (token : Token) : Returns whole (link expr left token) := by
  unfold link
  split
  · exact (read _).bind fun right given => .pure (joins.binary _ _ _ right holds given)
  · exact ((read _).sequence _).bind fun arguments given =>
      .pure (joins.call _ _ arguments holds given)

end

/-- A property of what is read with so much budget, and one of what has been linked so far, after an
operand that left so much, when so much is still left. -/
structure Budgeted (read : Nat → Expr → Prop) (linking : Nat → Nat → Expr → Prop) : Prop where
  operand : ∀ budget, Lifts (read budget) (linking budget budget)
  link : ∀ budget left, left < budget →
    Joins (linking budget (left + 1)) (read left) (linking budget left)
  done : ∀ budget left expr, linking budget left expr → read (budget + 1) expr

section
variable {read : Nat → Expr → Prop} {linking : Nat → Nat → Expr → Prop}
  (budgeted : Budgeted read linking) {limit : Nat}
include budgeted

theorem links_returns {budget left : Nat} {floor : Precedence} (within : left ≤ budget)
    (smaller : ∀ less < left, ∀ floor, Returns (read less) (expression limit less floor))
    {expr : Expr} (holds : linking budget left expr) :
    Returns (read (budget + 1)) (links limit left floor expr) := by
  induction left generalizing expr with
  | zero =>
    refine .after fun found => ?_
    split
    · exact .after fun _ => .throw _
    · exact .pure (budgeted.done _ _ _ holds)
  | succ left ih =>
    refine .after fun found => ?_
    split
    · refine .after fun token => ?_
      refine (link_returns (smaller left (Nat.lt_succ_self left)) (budgeted.link budget left within)
        holds token).bind fun linked more => ?_
      exact ih (Nat.le_of_succ_le within)
        (fun less below => smaller less (Nat.lt_succ_of_lt below)) more
    · exact .pure (budgeted.done _ _ _ holds)

/-- The induction is on the budget, of which links need all that are smaller. -/
theorem expression_returns (limit budget : Nat) (floor : Precedence) :
    Returns (read budget) (expression limit budget floor) := by
  induction budget using Nat.strongRecOn generalizing floor with
  | _ budget ih =>
    cases budget with
    | zero =>
      unfold expression
      exact .after fun _ => .throw _
    | succ budget =>
      unfold expression
      refine .after fun first => ?_
      split
      · refine .after fun token => .after fun _ => ?_
        refine (operand_returns (ih budget (Nat.lt_succ_self budget)) (budgeted.operand budget)
          token).bind fun left holds => ?_
        exact links_returns budgeted (Nat.le_refl budget)
          (fun less below => ih less (Nat.lt_succ_of_lt below)) holds
      · exact .throw _

theorem line_returns (limit : Nat) :
    Returns (fun found => ∀ stmt, found = some stmt → read limit stmt.value) (line limit) := by
  refine (statement_returns (expression_returns budgeted limit limit)).bind fun stmt holds => ?_
  refine .after fun next => ?_
  split
  · exact .pure holds
  · exact .pure holds
  · exact .throw _

theorem sourceItem_returns (limit : Nat) :
    Returns (fun found => ∀ item, found = some item →
      ∀ stmt, item = .ok (some stmt) → read limit stmt.value) (sourceItem limit) := by
  have tried : Returns (fun item => ∀ stmt, item = .ok (some stmt) → read limit stmt.value)
      (attempt (line limit)) := by
    intro reader item after ran stmt same
    subst same
    rw [attempt_run] at ran
    split at ran <;> cases ran
    exact line_returns budgeted limit _ _ _ ‹_› stmt rfl
  refine .after fun first => ?_
  split
  · exact .pure (by rintro _ ⟨⟩)
  · exact .after fun _ => .pure (by rintro _ ⟨⟩ _ ⟨⟩)
  · refine tried.bind fun item holds => ?_
    have kept : Returns (fun found => ∀ item, found = some item →
        ∀ stmt, item = .ok (some stmt) → read limit stmt.value) (pure (some item)) := .pure (by
      rintro _ ⟨⟩
      exact holds)
    cases item with
    | ok stmt => exact kept
    | error fault => exact .after fun _ => kept

theorem source_returns (limit : Nat) :
    Returns (fun parsed => ∀ stmt ∈ parsed.program, read limit stmt.value) (source limit) := by
  rw [source]
  refine (sourceItem_returns budgeted limit).repeating.bind fun items holds => .pure ?_
  intro stmt member
  obtain ⟨item, among, same⟩ := List.mem_filterMap.mp member
  cases item with
  | ok found => exact holds _ among stmt (congrArg _ same)
  | error fault => cases same

end

end Parse

/-- What is kept in reading holds of every statement of a parsed source. -/
theorem Reader.parse_returns {read : Nat → Expr → Prop} {linking : Nat → Nat → Expr → Prop}
    (budgeted : Parse.Budgeted read linking) (limit : Nat) (reader : Reader) :
    ∀ stmt ∈ (reader.parse limit).1.program, read limit stmt.value := by
  unfold parse
  split
  · exact Parse.source_returns budgeted limit _ _ _ ‹_›
  · exact List.forall_mem_nil _

end Polyglot
