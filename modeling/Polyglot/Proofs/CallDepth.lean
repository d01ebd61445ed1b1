import Polyglot.Proofs.Derivations
import Polyglot.Proofs.Frame
import Polyglot.Proofs.Parallel

/-! The limit on nested calls. A smaller limit changes nothing about a run, or it cuts the run short:
then a call deeper than the limit was noted under the greater one. -/
namespace Polyglot

/-- Between the two machines these events and no others have been noted. -/
def Machine.Noted (events : List Event) (before after : Machine) : Prop :=
  after.noted = events ++ before.noted

/-- Whatever has been noted between the two machines is of this sort. -/
def Machine.Notes (sort : Event → Prop) (before after : Machine) : Prop :=
  ∃ events, before.Noted events after ∧ ∀ event ∈ events, sort event

/-- A call is noted at a depth from one up to the limit. -/
def Event.Within (limit : Nat) (event : Event) : Prop :=
  ∀ depth arity, event = .applying depth arity → 1 ≤ depth ∧ depth ≤ limit

namespace Machine
variable {sort : Event → Prop}

theorem Notes.refl (sort : Event → Prop) (machine : Machine) : machine.Notes sort machine :=
  ⟨[], rfl, List.forall_mem_nil _⟩

theorem Noted.refl (machine : Machine) : machine.Noted [] machine :=
  rfl

theorem Noted.trans {events others : List Event} {first second third : Machine}
    (earlier : first.Noted events second) (later : second.Noted others third) :
    first.Noted (others ++ events) third := by
  rw [Noted, later, earlier, List.append_assoc]

theorem Notes.trans {first second third : Machine} (earlier : first.Notes sort second)
    (later : second.Notes sort third) : first.Notes sort third := by
  obtain ⟨events, same, all⟩ := earlier
  obtain ⟨others, after, every⟩ := later
  exact ⟨others ++ events, same.trans after, List.forall_mem_append.mpr ⟨every, all⟩⟩

theorem Notes.of_same {before after : Machine} (same : after.noted = before.noted) :
    before.Notes sort after :=
  ⟨[], same, List.forall_mem_nil _⟩

theorem Notes.of_event {before after : Machine} {event : Event} (holds : sort event)
    (same : after.noted = event :: before.noted) : before.Notes sort after :=
  ⟨[event], same, List.forall_mem_singleton.mpr holds⟩

end Machine

open Machine (Notes)

theorem Closure.bindAll_notes (sort : Event → Prop) (scope : ScopeId)
    (entries : List (String × Value)) : Keeps (Notes sort) (bindAll scope entries) := by
  intro machine
  rw [Rules.bindAll_run]
  exact .of_same rfl

theorem Context.allows_notes {sort : Event → Prop} {context : Context} (names : List String)
    (calls : ∀ closure arguments, Keeps (Notes sort) (context.apply closure arguments)) :
    context.Allows names (Notes sort) where
  refl := .refl sort
  trans _ _ _ := .trans
  binds _ _ _ _ := .of_same rfl
  applies := calls

theorem Block.value_notes {sort : Event → Prop} (body : Block) (context : Context)
    (calls : ∀ closure arguments, Keeps (Notes sort) (context.apply closure arguments)) :
    Keeps (Notes sort) (Eval.bodyValue (body.eval context)) :=
  Eval.bodyValue_keeps
    (Block.eval_keeps (Context.allows_notes body.targets calls) body fun _ member => member)

/-- A call notes its own depth, and calls inside it note theirs. -/
theorem Closure.applyWithin_notes {limit remaining : Nat} (within : remaining ≤ limit)
    (closure : Closure) (arguments : List Value) :
    Keeps (Notes (Event.Within limit)) (closure.applyWithin limit remaining arguments) := by
  induction remaining generalizing closure arguments with
  | zero =>
    refine Keeps.bind (fun _ _ _ => .trans) (checkArity_keeps (.refl _) _ _) fun _ => ?_
    refine Keeps.bind (fun _ _ _ => .trans) (fun _ => .of_event ?_ rfl) fun _ => ?_
    · rintro _ _ ⟨⟩
    · exact Keeps.throw (.refl _) _
  | succ remaining ih =>
    refine Keeps.bind (fun _ _ _ => .trans) (checkArity_keeps (.refl _) _ _) fun _ => ?_
    refine Keeps.bind (fun _ _ _ => .trans) (fun _ => .of_same rfl) fun scope => ?_
    refine Keeps.bind (fun _ _ _ => .trans) (bindAll_notes _ scope _) fun _ => ?_
    refine Keeps.bind (fun _ _ _ => .trans) (fun _ => .of_event ?_ rfl) fun _ => ?_
    · rintro _ _ ⟨⟩
      omega
    · exact closure.body.value_notes _ (ih (Nat.le_of_succ_le within))

section
variable {α β : Type}

/-- The same end. -/
def SameEnd (related : α → β → Prop) :
    EStateM.Result Exit Machine α → EStateM.Result Exit Machine β → Prop
  | .ok value after, .ok image last => related value image ∧ after = last
  | .error exit after, .error image last => exit = image ∧ after = last
  | _, _ => False

/-- Of two ends after the same start the second one is for lack of further calls, and the first one
comes after a call that is too deep for it. -/
def StopsShort (limit : Nat) (before : Machine) (wide : EStateM.Result Exit Machine α)
    (tight : EStateM.Result Exit Machine β) : Prop :=
  (∃ after, tight = .error (.failed (.callDepth limit)) after) ∧
    ∃ events depth arity, before.Noted events (endState wide) ∧
      .applying depth arity ∈ events ∧ limit < depth

/-- How two evaluations from one machine compare when the second one has the smaller limit. The
first one yields nothing that the second one could not go on with. -/
structure Cuts (limit : Nat) (related : α → β → Prop) (wide : Eval α) (tight : Eval β)
    (before : Machine) : Prop where
  grows : ∃ events, before.Noted events (endState (wide.run before))
  total : ∀ value after, wide.run before = .ok value after → ∃ image, related value image
  ends : SameEnd related (wide.run before) (tight.run before) ∨
    StopsShort limit before (wide.run before) (tight.run before)

theorem StopsShort.goes_on {limit : Nat} {before middle : Machine} {events : List Event}
    {wide : EStateM.Result Exit Machine α} {tight : EStateM.Result Exit Machine β}
    (noted : before.Noted events middle) (stops : StopsShort limit middle wide tight) :
    StopsShort limit before wide tight := by
  obtain ⟨failed, others, depth, arity, later, member, deep⟩ := stops
  exact ⟨failed, others ++ events, depth, arity, noted.trans later,
    List.mem_append_left _ member, deep⟩

end

namespace Cuts
variable {α β γ δ : Type} {limit : Nat} {related : α → β → Prop} {result : γ → δ → Prop}
  {before : Machine}

theorem pure {value : α} {image : β} (same : related value image) :
    Cuts limit related (Pure.pure value) (Pure.pure image) before where
  grows := ⟨[], rfl⟩
  total := by
    rintro _ _ ⟨⟩
    exact ⟨image, same⟩
  ends := Or.inl ⟨same, rfl⟩

theorem throw (exit : Exit) :
    Cuts limit related (MonadExcept.throw exit) (MonadExcept.throw exit) before where
  grows := ⟨[], rfl⟩
  total := by rintro _ _ ⟨⟩
  ends := Or.inl ⟨rfl, rfl⟩

theorem bind {wide : Eval α} {tight : Eval β} {next : α → Eval γ} {image : β → Eval δ}
    (first : Cuts limit related wide tight before)
    (later : ∀ value copy, related value copy → ∀ machine,
      Cuts limit result (next value) (image copy) machine) :
    Cuts limit result (wide >>= next) (tight >>= image) before := by
  obtain ⟨⟨events, grown⟩, total, ends⟩ := first
  cases ran : wide.run before with
  | error exit after =>
    rw [ran] at grown ends
    constructor
    · rw [bind_error ran]
      exact ⟨events, grown⟩
    · intro value last done
      rw [bind_error ran] at done
      cases done
    · rw [bind_error ran]
      rcases ends with same | ⟨⟨last, failed⟩, deeper⟩
      · cases done : tight.run before with
        | ok value last =>
          rw [done] at same
          exact same.elim
        | error image last =>
          rw [done] at same
          rw [bind_error done]
          exact Or.inl same
      · rw [bind_error failed]
        exact Or.inr ⟨⟨last, rfl⟩, deeper⟩
  | ok value after =>
    obtain ⟨copy, fitting⟩ := total value after ran
    rw [ran] at grown ends
    obtain ⟨⟨others, growing⟩, yields, _⟩ := later value copy fitting after
    constructor
    · rw [bind_ok ran]
      exact ⟨others ++ events, grown.trans growing⟩
    · rw [bind_ok ran]
      exact yields
    · rw [bind_ok ran]
      rcases ends with same | ⟨⟨last, failed⟩, noted, depth, arity, there, member, deep⟩
      · cases done : tight.run before with
        | error image last =>
          rw [done] at same
          exact same.elim
        | ok found last =>
          rw [done] at same
          obtain ⟨same, rfl⟩ := same
          rw [bind_ok done]
          exact (later value found same after).ends.imp_right (.goes_on grown)
      · -- The second evaluation has ended; whatever the first one goes on to note, the deep call
        -- stays noted.
        rw [bind_error failed]
        exact Or.inr ⟨⟨last, rfl⟩, others ++ noted, depth, arity, there.trans growing,
          List.mem_append_right _ member, deep⟩

/-- Evaluations that end alike cut nothing. -/
theorem of_same {wide tight : Eval α} {related : α → α → Prop}
    (same : wide.run before = tight.run before) (refl : ∀ value, related value value)
    (grows : ∃ events, before.Noted events (endState (wide.run before))) :
    Cuts limit related wide tight before where
  grows := grows
  total value _ _ := ⟨value, refl value⟩
  ends := by
    left
    rw [← same]
    cases wide.run before with
    | ok value after => exact ⟨refl value, rfl⟩
    | error exit after => exact ⟨rfl, rfl⟩

/-- What both evaluations note before they part is noted in both. -/
theorem goes_on {wide within : Eval α} {tight inside : Eval β} {middle : Machine}
    {events : List Event} (noted : before.Noted events middle)
    (one : wide.run before = within.run middle) (other : tight.run before = inside.run middle)
    (cuts : Cuts limit related within inside middle) : Cuts limit related wide tight before := by
  obtain ⟨⟨others, grown⟩, total, ends⟩ := cuts
  constructor
  · rw [one]
    exact ⟨others ++ events, noted.trans grown⟩
  · rw [one]
    exact total
  · rw [one, other]
    exact ends.imp_right (.goes_on noted)

end Cuts

section
variable {limit : Nat} {before : Machine}

theorem Value.Alike.eq_iff {value image : Value} : value.Alike Eq image ↔ value = image := by
  constructor
  · rintro (_ | rfl) <;> rfl
  · rintro rfl
    cases value with
    | function closure => exact .function rfl
    | _ => exact .plain ValueKind.noConfusion

theorem Eval.bodyValue_endState (body : Eval (Option Value)) (machine : Machine) :
    endState ((bodyValue body).run machine) = endState (body.run machine) := by
  show endState (bodyValue body machine) = _
  unfold bodyValue
  rcases body.run machine with _ | ⟨_ | _, _⟩ <;> rfl

theorem Cuts.bodyValue {wide tight : Eval (Option Value)}
    (body : Cuts limit (Option.Rel (Value.Alike Eq)) wide tight before) :
    Cuts limit (Value.Alike Eq) (Eval.bodyValue wide) (Eval.bodyValue tight) before where
  grows := by
    rw [Eval.bodyValue_endState]
    exact body.grows
  total value _ _ := ⟨value, Value.Alike.eq_iff.mpr rfl⟩
  ends := by
    rcases body.ends with same | ⟨⟨after, failed⟩, events, depth, arity, noted, deeper⟩
    · left
      show SameEnd _ (Eval.bodyValue wide before) (Eval.bodyValue tight before)
      unfold Eval.bodyValue
      cases ran : wide.run before with
      | ok result after =>
        cases done : tight.run before with
        | ok image last =>
          rw [ran, done] at same
          exact ⟨Value.Alike.getD same.1, same.2⟩
        | error exit last =>
          rw [ran, done] at same
          exact same.elim
      | error exit after =>
        cases done : tight.run before with
        | ok image last =>
          rw [ran, done] at same
          exact same.elim
        | error image last =>
          rw [ran, done] at same
          obtain ⟨rfl, rfl⟩ := same
          cases exit with
          | returned value => exact ⟨Value.Alike.eq_iff.mpr rfl, rfl⟩
          | failed fault => exact ⟨rfl, rfl⟩
    · right
      rw [← Eval.bodyValue_endState] at noted
      refine ⟨⟨after, ?_⟩, events, depth, arity, noted, deeper⟩
      show Eval.bodyValue tight before = _
      unfold Eval.bodyValue
      rw [failed]

end

/-- Evaluations of which the second one has the smaller limit. -/
def cutting (limit : Nat) : Parallel where
  Stage := Unit
  later _ _ := True
  closures _ := Eq
  alike _ related wide tight := ∀ machine, Cuts limit (related ()) wide tight machine
  refl _ := trivial
  trans _ _ := trivial
  lasting _ same := same
  pure same _ := .pure same
  throw := by
    intro α β _ related exit image same machine
    cases same with
    | returned same =>
      rw [Value.Alike.eq_iff] at same
      rw [same]
      exact .throw _
    | failed fault => exact .throw (.failed fault)
  bind first later machine := (first machine).bind fun _ _ same => later trivial same

/-- Surroundings that differ in how closures are applied, and there only as the limits do. -/
theorem cutting_surround {limit run : Nat} {scope : ScopeId}
    {wide tight : Closure → List Value → Eval Value}
    (applies : ∀ closure arguments machine,
      Cuts limit (Value.Alike Eq) (wide closure arguments) (tight closure arguments) machine) :
    (cutting limit).Surround () ⟨wide, run, scope⟩ ⟨tight, run, scope⟩ where
  get _ name machine :=
    .of_same rfl (fun _ => Value.Alike.eq_iff.mpr rfl)
      ⟨[], Eval.get_keeps Machine.Noted.refl scope name machine⟩
  bind _ name value image same machine := by
    obtain rfl := Value.Alike.eq_iff.mp same
    exact .of_same rfl (fun _ => trivial) ⟨[], rfl⟩
  literal _ _ _ := rfl
  apply _ := by
    rintro closure _ arguments images rfl given
    have same : arguments = images :=
      List.forall₂_eq_eq_eq ▸ given.imp fun _ _ => Value.Alike.eq_iff.mp
    rw [same]
    exact applies closure images

theorem Closure.applyWithin_grows (limit depth : Nat) (closure : Closure) (arguments : List Value)
    (machine : Machine) : ∃ events, machine.Noted events
      (endState ((closure.applyWithin limit (limit - depth) arguments).run machine)) :=
  (closure.applyWithin_notes (Nat.sub_le limit depth) arguments machine).imp fun _ => And.left

/-- A call that only the larger limit allows. It is noted there, one too deep for the smaller one. -/
theorem Closure.applyWithin_stops {smaller larger : Nat} (fewer : smaller < larger)
    {closure : Closure} {arguments : List Value}
    (fits : closure.parameters.length = arguments.length) (machine : Machine) :
    StopsShort smaller machine
      ((closure.applyWithin larger (larger - smaller) arguments).run machine)
      ((closure.applyWithin smaller 0 arguments).run machine) := by
  let config : Rules.Config := ⟨machine, smaller⟩
  have runs := @Rules.applyWithin_body larger closure arguments fits config fewer
  have entered : machine.Noted [.applying (smaller + 1) closure.parameters.length]
    (config.enter closure arguments).machine := rfl
  obtain ⟨events, noted, _⟩ := closure.body.value_notes
    (Rules.around larger closure.run machine.store.scopes.size (smaller + 1))
    (applyWithin_notes (Nat.sub_le larger (smaller + 1))) (config.enter closure arguments).machine
  have whole := entered.trans noted
  rw [← runs] at whole
  exact ⟨⟨_, Rules.applyWithin_zero fits machine⟩, _, _, _, whole,
    List.mem_append_right _ List.mem_cons_self, Nat.lt_succ_self smaller⟩

/-- A call under two limits. The induction is on the calls that the smaller limit still allows. -/
theorem Closure.applyWithin_cuts {smaller larger depth : Nat} (fewer : smaller ≤ larger)
    (within : depth ≤ smaller) (closure : Closure) (arguments : List Value) (machine : Machine) :
    Cuts smaller (Value.Alike Eq) (closure.applyWithin larger (larger - depth) arguments)
      (closure.applyWithin smaller (smaller - depth) arguments) machine := by
  have refl (value : Value) : value.Alike Eq value := Value.Alike.eq_iff.mpr rfl
  induction left : smaller - depth generalizing closure arguments machine depth with
  | zero =>
    have grows := closure.applyWithin_grows larger depth arguments machine
    obtain rfl : depth = smaller := by omega
    by_cases fits : closure.parameters.length = arguments.length
    · rcases Nat.eq_or_lt_of_le fewer with rfl | more
      · exact .of_same (by rw [left]) refl grows
      · exact ⟨grows, fun value _ _ => ⟨value, refl value⟩, Or.inr (applyWithin_stops more fits _)⟩
    · refine .of_same ?_ refl grows
      rw [Rules.applyWithin_differs fits, Rules.applyWithin_differs fits]
  | succ remaining ih =>
    by_cases fits : closure.parameters.length = arguments.length
    · have room : depth + 1 ≤ smaller := by omega
      let config : Rules.Config := ⟨machine, depth⟩
      have entered : machine.Noted [.applying (depth + 1) closure.parameters.length]
        (config.enter closure arguments).machine := rfl
      have wide := @Rules.applyWithin_body larger closure arguments fits config
        (Nat.le_trans room fewer)
      have tight := @Rules.applyWithin_body smaller closure arguments fits config room
      rw [← left]
      refine .goes_on entered wide tight (.bodyValue ?_)
      refine Block.eval_parallel (cutting_surround fun closure arguments machine => ?_)
        closure.body _
      have inside : smaller - (depth + 1) = remaining := by omega
      rw [inside]
      exact ih room closure arguments machine inside
    · refine .of_same ?_ refl (closure.applyWithin_grows larger depth arguments machine)
      rw [Rules.applyWithin_differs fits, Rules.applyWithin_differs fits]

/-- The statements of a program under two limits. -/
theorem Program.evalAll_cuts {smaller larger : Nat} (fewer : smaller ≤ larger) (run : Nat)
    (scope : ScopeId) (program : Program) (machine : Machine) :
    Cuts smaller (Option.Rel (Value.Alike Eq))
      (Stmt.evalAll ⟨Closure.applyWithin larger larger, run, scope⟩ none program)
      (Stmt.evalAll ⟨Closure.applyWithin smaller smaller, run, scope⟩ none program) machine :=
  Stmt.evalAll_parallel
    (cutting_surround (Closure.applyWithin_cuts fewer (Nat.zero_le smaller))) program .none machine

theorem Program.run_notes (limit : Nat) (scope : ScopeId) (program : Program) (machine : Machine) :
    machine.Notes (Event.Within limit) (program.run limit scope machine).2 := by
  let context : Context := ⟨Closure.applyWithin limit limit, machine.runs, scope⟩
  have allows : context.Allows program.targets (Notes (Event.Within limit)) :=
    Context.allows_notes program.targets (Closure.applyWithin_notes (Nat.le_refl limit))
  exact run_keeps allows

/-- The same end is the same outright where values are only like themselves. -/
theorem SameEnd.eq {one other : EStateM.Result Exit Machine (Option Value)}
    (same : SameEnd (Option.Rel (Value.Alike Eq)) one other) : one = other := by
  cases one with
  | ok value after =>
    cases other with
    | ok image last =>
      obtain ⟨alike, rfl⟩ := same
      cases alike with
      | none => rfl
      | some alike => rw [Value.Alike.eq_iff.mp alike]
    | error exit last => exact same.elim
  | error exit after =>
    cases other with
    | ok image last => exact same.elim
    | error image last => rw [same.1, same.2]

/-- Under a smaller limit a run is the same or is cut short. -/
theorem Program.run_cuts {smaller larger : Nat} (fewer : smaller ≤ larger) (scope : ScopeId)
    (program : Program) (machine : Machine) :
    program.run smaller scope machine = program.run larger scope machine ∨
      (program.run smaller scope machine).1 = .error (.callDepth smaller) ∧
      ∃ events depth arity, machine.Noted events (program.run larger scope machine).2 ∧
        .applying depth arity ∈ events ∧ smaller < depth := by
  have cuts := program.evalAll_cuts fewer machine.runs scope
    { machine with runs := machine.runs + 1 }
  unfold Program.run
  dsimp only
  rcases cuts.ends with same | ⟨⟨after, failed⟩, events, depth, arity, noted, deeper⟩
  · exact Or.inl (by rw [same.eq])
  · refine Or.inr ⟨by rw [failed], events, depth, arity, ?_, deeper⟩
    split <;> rename_i ran <;> rw [ran] at noted <;> exact noted

/-- The limit on nested calls only ever cuts runs short. A run that is not itself cut short ends
under a smaller limit with the same result and the same scopes, or with the fault that the limit is
for; it is the former exactly if no call was deeper than the smaller limit. Every call is noted at a
depth from one up to the limit. The rules by which a run proceeds count calls up and down, and after
an expression has ended, however it has, the count is what it was before. -/
theorem Program.run_limit {smaller larger : Nat} (fewer : smaller ≤ larger) (scope : ScopeId)
    (program : Program) (machine : Machine) :
    let wide := program.run larger scope machine
    let tight := program.run smaller scope machine
    let same := tight.1 = wide.1 ∧ tight.2.store = wide.2.store
    ∃ events, wide.2.noted = events ++ machine.noted ∧
      ((∀ limit, wide.1 ≠ .error (.callDepth limit)) →
        (same ∨ tight.1 = .error (.callDepth smaller)) ∧
        (same ↔ ∀ depth arity, .applying depth arity ∈ events → depth ≤ smaller)) ∧
      (∀ depth arity, .applying depth arity ∈ events → 1 ≤ depth ∧ depth ≤ larger) ∧
      (∃ ended, Rules.ExecutesAll larger machine.runs scope none program
        ⟨{ machine with runs := machine.runs + 1 }, 0⟩ ended ∧ wide = ended.outcome) ∧
      ∀ run inner expr config ended, Rules.Evaluates larger run inner expr config ended →
        (endState ended).depth = config.depth := by
  obtain ⟨events, noted, within⟩ := program.run_notes larger scope machine
  refine ⟨events, noted, fun whole => ?_, fun depth arity member => within _ member depth arity rfl,
    Rules.run_derived larger scope program machine, fun _ _ _ _ _ => Rules.Evaluates.balanced⟩
  rcases program.run_cuts fewer scope machine with
    same | ⟨failed, others, depth, arity, deeply, member, deep⟩
  · -- Both runs note the same, and the second one notes no call deeper than its limit.
    obtain ⟨others, less, bounded⟩ := program.run_notes smaller scope machine
    rw [same] at less
    obtain rfl : others = events := List.append_cancel_right (less.symm.trans noted)
    rw [same]
    refine ⟨Or.inl ⟨rfl, rfl⟩, fun _ depth arity member => ?_, fun _ => ⟨rfl, rfl⟩⟩
    exact (bounded _ member depth arity rfl).2
  · obtain rfl : others = events := List.append_cancel_right (deeply.symm.trans noted)
    refine ⟨Or.inr failed, fun same => ?_, fun all => ?_⟩
    · exact absurd (same.1.symm.trans failed) (whole smaller)
    · exact absurd (all depth arity member) (Nat.not_le_of_lt deep)

/-- The outer scope binds `inner` to `fn() { 1 }` and `outer` to `fn() { inner() }`. -/
private def twoDeep : Machine where
  store := ⟨#[⟨[("inner", .function ⟨[], .mk ⟨.leftBrace, "\x7b", 5, 6⟩
      [.expression ⟨.integer, "1", 7, 8⟩ (.integer ⟨.integer, "1", 7, 8⟩ 1)], 0, 0⟩),
    ("outer", .function ⟨[], .mk ⟨.leftBrace, "\x7b", 5, 6⟩
      [.expression ⟨.identifier, "inner", 7, 12⟩ (.call ⟨.leftParen, "(", 12, 13⟩
        (.identifier ⟨.identifier, "inner", 7, 12⟩) [])], 0, 0⟩)], none⟩]⟩
  runs := 1
  noted := []

/-- The program `outer()`. -/
private def callOuter : Program :=
  [.expression ⟨.identifier, "outer", 0, 5⟩ (.call ⟨.leftParen, "(", 5, 6⟩
    (.identifier ⟨.identifier, "outer", 0, 5⟩) [])]

/-- Two nested calls: the limit 3 cuts nothing, the limit 1 does. -/
theorem Program.run_limit_twoDeep :
    (callOuter.run 4 0 twoDeep).1 = .ok (some (.integer 1)) ∧
    (callOuter.run 4 0 twoDeep).2.noted = [.applying 2 0, .applying 1 0] ∧
    (3 ≤ 4 ∧ (callOuter.run 3 0 twoDeep).1 = (callOuter.run 4 0 twoDeep).1 ∧
      (callOuter.run 3 0 twoDeep).2.store = (callOuter.run 4 0 twoDeep).2.store) ∧
    1 ≤ 4 ∧ (callOuter.run 1 0 twoDeep).1 = .error (.callDepth 1) := by
  have result : (callOuter.run 4 0 twoDeep).1 = .ok (some (.integer 1)) := rfl
  have calls : (callOuter.run 4 0 twoDeep).2.noted = [.applying 2 0, .applying 1 0] := rfl
  have whole (limit : Nat) : (callOuter.run 4 0 twoDeep).1 ≠ .error (.callDepth limit) := by
    rw [result]
    rintro ⟨⟩
  have all {events : List Event}
      (noted : (callOuter.run 4 0 twoDeep).2.noted = events ++ twoDeep.noted) :
      events = [.applying 2 0, .applying 1 0] :=
    (List.append_nil events).symm.trans (noted.symm.trans calls)
  refine ⟨result, calls, ⟨by decide, ?_⟩, by decide, ?_⟩
  · obtain ⟨events, noted, cut, _⟩ := Program.run_limit (show 3 ≤ 4 by decide) 0 callOuter twoDeep
    rw [all noted] at cut
    refine (cut whole).2.mpr fun depth arity member => ?_
    simp only [List.mem_cons, Event.applying.injEq, List.not_mem_nil, or_false] at member
    omega
  · obtain ⟨events, noted, cut, _⟩ := Program.run_limit (show 1 ≤ 4 by decide) 0 callOuter twoDeep
    rw [all noted] at cut
    refine (cut whole).1.resolve_left fun same => ?_
    exact absurd ((cut whole).2.mp same 2 0 List.mem_cons_self) (by decide)

end Polyglot
