import Polyglot.Proofs.Strict

/-! What the parser does is decided by the kinds of the tokens that it takes and of the one behind
them. So two sources that begin alike are read alike, and a token that cannot stand where it stands
in one of them cannot stand there in the other one either. -/
namespace Polyglot

/-- Faults of a token that cannot stand where it stands. The other faults are those of a number that
is out of range and of an expression that is nested too deep. -/
def SyntaxFault.Misplaced : SyntaxFault → Prop
  | unexpected _ _ | noOperand _ => True
  | integerRange _ | floatForm _ | nesting _ _ => False

namespace Reader

/-- The kinds of the tokens that are still to come, with the end of the source as the last one. -/
def kinds (reader : Reader) : List TokenKind :=
  reader.remaining.map Token.kind ++ [.endOfInput]

/-- The number of bytes of the whole source. -/
def size (reader : Reader) : Nat :=
  reader.scanner.offset + byteLength reader.scanner.rest

@[simp] theorem kinds_look (reader : Reader) : reader.look.kinds = reader.kinds := by
  rw [kinds, remaining_look, kinds]

theorem exists_kinds (reader : Reader) : ∃ more, reader.kinds = reader.next.kind :: more := by
  rw [kinds, remaining_eq]
  split
  · exact ⟨[], by rw [‹reader.next.kind = _›]; rfl⟩
  · exact ⟨_, rfl⟩

theorem next_of_kinds {reader : Reader} {kind : TokenKind} {more : List TokenKind}
    (coming : reader.kinds = kind :: more) : reader.next.kind = kind := by
  obtain ⟨others, same⟩ := reader.exists_kinds
  rw [same] at coming
  exact (List.cons.inj coming).1

theorem kinds_cons {reader : Reader} (ordinary : Parse.Ordinary reader.next.kind) :
    reader.kinds = reader.next.kind :: reader.advance.kinds := by
  rw [kinds, remaining_cons ordinary.1 ordinary.2]
  rfl

theorem kinds_pragma {reader : Reader} (tilde : reader.next.kind = .tilde)
    (named : reader.advance.next.kind = .identifier) :
    reader.kinds = .tilde :: .identifier ::
      (reader.advance.advance.switch reader.advance.next.literal).kinds := by
  rw [kinds, remaining_pragma tilde named, List.map_cons, List.map_cons, tilde, named]
  rfl

/-- What follows a `~` without a name is no different for the `~`. -/
theorem remaining_tilde {reader : Reader} (tilde : reader.next.kind = .tilde)
    (unnamed : reader.advance.next.kind ≠ .identifier) :
    reader.remaining = reader.next :: reader.advance.remaining := by
  have stays : ¬ (true = true ∧ reader.advance.scanner.next.1.kind = .identifier) :=
    fun both => unnamed both.2
  rw [remaining_eq, if_neg (by rw [tilde]; decide), decide_eq_true tilde,
    Scanner.switchingAfter_eq, Scanner.behind, if_neg stays, remaining_eq reader.advance]
  rfl

theorem exists_kinds_tilde {reader : Reader} (tilde : reader.next.kind = .tilde) :
    ∃ more, reader.kinds = .tilde :: reader.advance.next.kind :: more := by
  by_cases named : reader.advance.next.kind = .identifier
  · exact ⟨_, by rw [kinds_pragma tilde named, named]⟩
  · obtain ⟨more, same⟩ := reader.advance.exists_kinds
    refine ⟨more, ?_⟩
    rw [kinds, remaining_tilde tilde named, List.map_cons, tilde, ← same]
    rfl

theorem advance_next_of_kinds {reader : Reader} {kind : TokenKind} {more : List TokenKind}
    (coming : reader.kinds = .tilde :: kind :: more) : reader.advance.next.kind = kind := by
  obtain ⟨others, same⟩ := exists_kinds_tilde (next_of_kinds coming)
  rw [same] at coming
  exact (List.cons.inj (List.cons.inj coming).2).1

@[simp] theorem size_look (reader : Reader) : reader.look.size = reader.size := by
  rw [size, look_scanner, size]

@[simp] theorem size_advance (reader : Reader) : reader.advance.size = reader.size :=
  Scanner.next_total reader.scanner

/-- From the first reader to the second one tokens of these kinds are passed. -/
structure Passes (before : Reader) (taken : List TokenKind) (after : Reader) : Prop where
  kinds : before.kinds = taken ++ after.kinds
  size : after.size = before.size

theorem Passes.refl (reader : Reader) : reader.Passes [] reader :=
  ⟨rfl, rfl⟩

theorem Passes.look (reader : Reader) : reader.Passes [] reader.look :=
  ⟨(kinds_look reader).symm, size_look reader⟩

theorem Passes.advance {reader : Reader} (ordinary : Parse.Ordinary reader.next.kind) :
    reader.Passes [reader.next.kind] reader.advance :=
  ⟨kinds_cons ordinary, size_advance reader⟩

theorem Passes.trans {first second third : Reader} {one other : List TokenKind}
    (begins : first.Passes one second) (ends : second.Passes other third) :
    first.Passes (one ++ other) third :=
  ⟨by rw [begins.kinds, ends.kinds, List.append_assoc], ends.size.trans begins.size⟩

theorem Passes.taken_unique {before after : Reader} {one other : List TokenKind}
    (passes : before.Passes one after) (again : before.Passes other after) : one = other :=
  List.append_cancel_right (passes.kinds.symm.trans again.kinds)

/-- Whatever the kinds of the passed tokens and of the next one are followed by, the first of them
is the same. -/
theorem Passes.front {before after : Reader} {taken : List TokenKind}
    (passes : before.Passes taken after) (tail : List TokenKind) :
    ∃ more, taken ++ after.next.kind :: tail = before.next.kind :: more := by
  cases taken with
  | nil =>
    obtain ⟨others, same⟩ := after.exists_kinds
    rw [next_of_kinds (passes.kinds.trans same)]
    exact ⟨tail, rfl⟩
  | cons kind taken =>
    rw [next_of_kinds passes.kinds]
    exact ⟨taken ++ after.next.kind :: tail, rfl⟩

end Reader

namespace Parse
variable {α β κ ι : Type}

/-- On every source that begins with the kinds of the tokens that the first part takes and of the
one behind them, the second part does as the first one. If the first part succeeds, the second one
comes to the same place and to a value with the same key, unless it fails for a reason of its own.
If the first part fails for a misplaced token, the token is the next one, and the second part
fails. -/
structure Decides (key : α → κ) (one other : Parse α) (reader : Reader) : Prop where
  reads : ∀ value after, one.run reader = .ok value after → ∃ taken, reader.Passes taken after ∧
    ∀ (second : Reader) tail, second.kinds = taken ++ after.next.kind :: tail →
      ∀ image last, other.run second = .ok image last →
        key value = key image ∧ last.kinds = after.next.kind :: tail
  refuses : ∀ fault after, one.run reader = .error fault after → fault.Misplaced →
    fault.token = after.next ∧ ∃ taken, reader.Passes taken after ∧
      ∀ (second : Reader) tail, second.kinds = taken ++ after.next.kind :: tail →
        ∀ image last, other.run second ≠ .ok image last

section
variable {key : α → κ} {result : β → ι} {reader : Reader}

theorem Decides.pure {value : α} {other : Parse α}
    (same : ∀ (second : Reader) image last, other.run second = .ok image last →
      key value = key image ∧ last.kinds = second.kinds) :
    Decides key (Pure.pure value) other reader where
  reads := by
    intro found after ran
    cases ran
    refine ⟨[], .refl reader, fun second tail begins image last done => ?_⟩
    rw [← List.nil_append (reader.next.kind :: tail), ← begins]
    exact same second image last done
  refuses := by
    intro fault after ran
    cases ran

theorem Decides.pure_pure {value image : α} (same : key value = key image) :
    Decides key (Pure.pure value) (Pure.pure image) reader := by
  refine .pure fun second found last done => ?_
  cases done
  exact ⟨same, rfl⟩

/-- Nothing is said of a part that fails for another reason than a misplaced token. -/
theorem Decides.excused {fault : SyntaxFault} (placed : ¬ fault.Misplaced) (other : Parse α) :
    Decides key (MonadExcept.throw fault) other reader where
  reads := by
    intro value after ran
    cases ran
  refuses := by
    intro found after ran misplaced
    cases ran
    exact absurd misplaced placed

theorem Decides.throw {fault image : SyntaxFault} (next : fault.token = reader.next) :
    Decides key (MonadExcept.throw fault) (MonadExcept.throw image) reader where
  reads := by
    intro value after ran
    cases ran
  refuses := by
    intro found after ran _
    cases ran
    refine ⟨next, [], .refl reader, fun second tail _ value last done => ?_⟩
    cases done

theorem Decides.bind {one other : Parse α} {next later : α → Parse β}
    (begins : Decides key one other reader)
    (goes_on : ∀ value image middle, one.run reader = .ok value middle → key value = key image →
      Decides result (next value) (later image) middle) :
    Decides result (one >>= next) (other >>= later) reader where
  reads := by
    intro value after ran
    obtain ⟨first, middle, begun, ended⟩ := bind_success ran
    obtain ⟨taken, passed, agrees⟩ := begins.reads first middle begun
    obtain ⟨more, passes, _⟩ := (goes_on first first middle begun rfl).reads value after ended
    refine ⟨taken ++ more, passed.trans passes, fun second tail starts image last done => ?_⟩
    obtain ⟨found, between, there, rest⟩ := bind_success done
    -- The token behind the first part is the first one of the second part, or the one behind both.
    obtain ⟨front, shape⟩ := passes.front tail
    rw [List.append_assoc, shape] at starts
    obtain ⟨alike, coming⟩ := agrees second front starts found between there
    obtain ⟨others, again, follows⟩ :=
      (goes_on first found middle begun alike).reads value after ended
    obtain rfl : others = more := again.taken_unique passes
    exact follows between tail (by rw [coming, shape]) image last rest
  refuses := by
    intro fault after ran misplaced
    rcases bind_failure ran with failed | ⟨first, middle, begun, failed⟩
    · obtain ⟨next, taken, passed, fails⟩ := begins.refuses fault after failed misplaced
      refine ⟨next, taken, passed, fun second tail starts image last done => ?_⟩
      obtain ⟨found, between, there, _⟩ := bind_success done
      exact fails second tail starts found between there
    · obtain ⟨taken, passed, agrees⟩ := begins.reads first middle begun
      obtain ⟨next, more, passes, _⟩ :=
        (goes_on first first middle begun rfl).refuses fault after failed misplaced
      refine ⟨next, taken ++ more, passed.trans passes,
        fun second tail starts image last done => ?_⟩
      obtain ⟨found, between, there, rest⟩ := bind_success done
      obtain ⟨front, shape⟩ := passes.front tail
      rw [List.append_assoc, shape] at starts
      obtain ⟨alike, coming⟩ := agrees second front starts found between there
      obtain ⟨_, others, again, fails⟩ :=
        (goes_on first found middle begun alike).refuses fault after failed misplaced
      obtain rfl : others = more := again.taken_unique passes
      exact fails between tail (by rw [coming, shape]) image last rest

/-- The second part may fail more often. -/
theorem Decides.of_less {one other less : Parse α} (decides : Decides key one other reader)
    (fewer : ∀ (second : Reader) image last, less.run second = .ok image last →
      other.run second = .ok image last) : Decides key one less reader where
  reads := by
    intro value after ran
    obtain ⟨taken, passed, agrees⟩ := decides.reads value after ran
    exact ⟨taken, passed, fun second tail starts image last done =>
      agrees second tail starts image last (fewer second image last done)⟩
  refuses := by
    intro fault after ran misplaced
    obtain ⟨next, taken, passed, fails⟩ := decides.refuses fault after ran misplaced
    exact ⟨next, taken, passed, fun second tail starts image last done =>
      fails second tail starts image last (fewer second image last done)⟩

theorem Decides.congr {one other part image : Parse α} (decides : Decides key one other reader)
    (same : part.run reader = one.run reader)
    (alike : ∀ second : Reader, image.run second = other.run second) :
    Decides key part image reader where
  reads := by
    intro value after ran
    obtain ⟨taken, passed, agrees⟩ := decides.reads value after (same.symm.trans ran)
    exact ⟨taken, passed, fun second tail starts found last done =>
      agrees second tail starts found last ((alike second).symm.trans done)⟩
  refuses := by
    intro fault after ran misplaced
    obtain ⟨next, taken, passed, fails⟩ :=
      decides.refuses fault after (same.symm.trans ran) misplaced
    exact ⟨next, taken, passed, fun second tail starts found last done =>
      fails second tail starts found last ((alike second).symm.trans done)⟩

theorem Decides.peek {next later : Token → Parse β}
    (goes_on : ∀ image : Token, image.kind = reader.next.kind →
      Decides result (next reader.next) (later image) reader.look) :
    Decides result (Parse.peek >>= next) (Parse.peek >>= later) reader := by
  have seen : Decides Token.kind Parse.peek Parse.peek reader := by
    constructor
    · intro token after ran
      cases ran
      refine ⟨[], .look reader, fun second tail starts image last done => ?_⟩
      cases done
      have head : second.next.kind = reader.look.next.kind := Reader.next_of_kinds starts
      rw [Reader.look_next] at head
      exact ⟨head.symm, (Reader.kinds_look second).trans starts⟩
    · intro fault after ran
      cases ran
  refine seen.bind fun token image middle ran same => ?_
  cases ran
  exact goes_on image same.symm

theorem Decides.take {next later : Token → Parse β} (ordinary : Ordinary reader.next.kind)
    (goes_on : ∀ image : Token, image.kind = reader.next.kind →
      Decides result (next reader.next) (later image) reader.advance) :
    Decides result (Parse.take >>= next) (Parse.take >>= later) reader := by
  have taken : Decides Token.kind Parse.take Parse.take reader := by
    constructor
    · intro token after ran
      cases ran
      refine ⟨[reader.next.kind], .advance ordinary, fun second tail starts image last done => ?_⟩
      cases done
      have head : second.next.kind = reader.next.kind := Reader.next_of_kinds starts
      rw [Reader.kinds_cons (head ▸ ordinary)] at starts
      exact ⟨head.symm, (List.cons.inj starts).2⟩
    · intro fault after ran
      cases ran
  refine taken.bind fun token image middle ran same => ?_
  cases ran
  exact goes_on image same.symm

theorem expect_decides {kind : TokenKind} (ordinary : Ordinary kind) (reader : Reader) :
    Decides Token.kind (expect kind) (expect kind) reader := by
  unfold expect
  refine .peek fun image same => ?_
  rw [same]
  split
  · rename_i found
    rw [← bind_pure take]
    refine .take (by rw [Reader.look_next, found]; exact ordinary) fun other alike => ?_
    exact .pure_pure alike.symm
  · exact .throw (Reader.look_next reader).symm

theorem accept_decides {kind : TokenKind} (ordinary : Ordinary kind) (reader : Reader) :
    Decides id (accept kind) (accept kind) reader := by
  unfold accept
  refine .peek fun image same => ?_
  rw [same]
  split
  · rename_i found
    exact .take (by rw [Reader.look_next, found]; exact ordinary) fun _ _ => .pure_pure rfl
  · exact .pure_pure rfl

theorem note_decides (event other : Event) (reader : Reader) :
    Decides id (note event) (note other) reader := by
  constructor
  · intro value after ran
    cases ran
    refine ⟨[], ⟨rfl, rfl⟩, fun second tail starts image last done => ?_⟩
    cases done
    exact ⟨rfl, starts⟩
  · intro fault after ran
    cases ran

/-- Steps that are decided alike, and go on or stop alike, are repeated alike. -/
theorem repeating_decides {one other : Parse (Option α)} (moves : Advances one)
    (goes : Advances other) (steps : ∀ reader, Decides Option.isSome one other reader)
    (reader : Reader) : Decides (fun _ => ()) (repeating one) (repeating other) reader := by
  induction length : reader.scanner.rest.length using Nat.strong_induction_on
    generalizing reader with
  | _ size ih =>
    refine .congr ?_ (repeating_eq moves reader) (repeating_eq goes)
    refine (steps reader).bind fun found image middle ran same => ?_
    cases found with
    | none =>
      cases image with
      | none => exact .pure_pure rfl
      | some value => cases same
    | some value =>
      cases image with
      | none => cases same
      | some value =>
        have shorter := moves _ _ _ ran
        exact (ih _ (length ▸ shorter) middle rfl).bind fun _ _ _ _ _ => .pure_pure rfl

theorem sequence_decides {one other : Parse α} (goes : GoesOnward one) (moves : GoesOnward other)
    (elements : ∀ reader, Decides (fun _ => ()) one other reader) {closing : TokenKind}
    (ordinary : Ordinary closing) (reader : Reader) :
    Decides (fun _ => ()) (sequence one closing) (sequence other closing) reader := by
  have separated (reader : Reader) :
      Decides Option.isSome (afterComma one) (afterComma other) reader := by
    refine (accept_decides (by decide) reader).bind fun found image middle _ same => ?_
    cases same
    cases found with
    | true => exact (elements middle).bind fun _ _ _ _ _ => .pure_pure rfl
    | false => exact .pure_pure rfl
  refine (accept_decides ordinary reader).bind fun found image middle _ same => ?_
  cases same
  cases found with
  | true => exact .pure_pure rfl
  | false =>
    refine (elements middle).bind fun _ _ last _ _ => ?_
    refine (repeating_decides (afterComma_advances goes) (afterComma_advances moves) separated
      last).bind fun _ _ after _ _ => ?_
    exact (expect_decides ordinary after).bind fun _ _ _ _ _ => .pure_pure rfl

/-- A `~` and the name behind it are passed together, for only with the name it is known how what
follows is classified. -/
theorem pragma_decides {reader : Reader} (tilde : reader.next.kind = .tilde) :
    Decides (fun _ => ()) pragma pragma reader where
  reads := by
    intro value after ran
    by_cases named : reader.advance.next.kind = .identifier
    · rw [pragma_named named] at ran
      cases ran
      refine ⟨[.tilde, .identifier], ⟨Reader.kinds_pragma tilde named, ?_⟩,
        fun second tail starts image last done => ⟨rfl, ?_⟩⟩
      · exact (Reader.size_advance reader.advance).trans (Reader.size_advance reader)
      · have first := Reader.next_of_kinds starts
        have name := Reader.advance_next_of_kinds starts
        rw [pragma_named name] at done
        cases done
        rw [Reader.kinds_pragma first name] at starts
        exact (List.cons.inj (List.cons.inj starts).2).2
    · rw [pragma_unnamed named] at ran
      cases ran
  refuses := by
    intro fault after ran _
    by_cases named : reader.advance.next.kind = .identifier
    · rw [pragma_named named] at ran
      cases ran
    · rw [pragma_unnamed named] at ran
      cases ran
      have passed : reader.Passes [.tilde] reader.advance := by
        refine ⟨?_, Reader.size_advance reader⟩
        rw [Reader.kinds, Reader.remaining_tilde tilde named, List.map_cons, tilde]
        rfl
      refine ⟨(Reader.look_next _).symm, [.tilde], passed.trans (.look _),
        fun second tail starts image last done => ?_⟩
      rw [Reader.look_next] at starts
      have unnamed : second.advance.next.kind ≠ .identifier := by
        rw [Reader.advance_next_of_kinds starts]
        exact named
      rw [pragma_unnamed unnamed] at done
      cases done

end

section
variable {expr image : Precedence → Parse Expr}
  (steps : ∀ floor reader, Decides (fun _ => ()) (expr floor) (image floor) reader)
include steps

theorem statement_decides (reader : Reader) :
    Decides (fun _ => ()) (statement expr) (statement image) reader := by
  unfold statement
  refine .peek fun first same => ?_
  rw [same]
  split
  · rename_i word
    refine .take (by rw [Reader.look_next, word]; decide) fun _ _ => ?_
    refine (expect_decides (by decide) _).bind fun _ _ _ _ _ => ?_
    refine (expect_decides (by decide) _).bind fun _ _ _ _ _ => ?_
    exact (steps .lowest _).bind fun _ _ _ _ _ => .pure_pure rfl
  · rename_i word
    refine .take (by rw [Reader.look_next, word]; decide) fun _ _ => ?_
    exact (steps .lowest _).bind fun _ _ _ _ _ => .pure_pure rfl
  · rename_i tilde
    exact pragma_decides (by rw [Reader.look_next, tilde])
  · exact (steps .lowest _).bind fun _ _ _ _ _ => .pure_pure rfl

theorem blockItem_decides (reader : Reader) :
    Decides Option.isSome (blockItem expr) (blockItem image) reader := by
  unfold blockItem
  refine .peek fun first same => ?_
  rw [same]
  split
  · exact .pure_pure rfl
  · exact .pure_pure rfl
  · rename_i line
    exact .take (by rw [Reader.look_next, line]; decide) fun _ _ => .pure_pure rfl
  · refine (statement_decides steps _).bind fun stmt other middle _ _ => ?_
    refine .peek fun next alike => ?_
    rw [alike]
    split
    · exact .pure_pure rfl
    · exact .pure_pure rfl
    · exact .pure_pure rfl
    · exact .throw (Reader.look_next middle).symm

variable (consumes : ∀ floor, Consumes (expr floor)) (moves : ∀ floor, Consumes (image floor))
include consumes moves

theorem block_decides (reader : Reader) :
    Decides (fun _ => ()) (block expr) (block image) reader := by
  refine (expect_decides (by decide) reader).bind fun _ _ middle _ _ => ?_
  refine (repeating_decides (blockItem_advances consumes) (blockItem_advances moves)
    (blockItem_decides steps) middle).bind fun _ _ last _ _ => ?_
  exact (expect_decides (by decide) last).bind fun _ _ _ _ _ => .pure_pure rfl

/-- An operand that is a number is decided but for the range of the number. -/
theorem operand_decides {token other : Token} (same : other.kind = token.kind)
    (starts : startsExpression token.kind = true) (reader : Reader) :
    Decides (fun _ => ()) (operand expr token) (operand image other) reader := by
  have blocks := block_decides steps consumes moves
  unfold operand
  rw [same]
  split
  · exact .pure_pure rfl
  · dsimp only
    split
    · refine .pure fun second value last done => ?_
      split at done <;> cases done
      exact ⟨rfl, rfl⟩
    · exact .excused id _
  · split
    · refine .pure fun second value last done => ?_
      split at done <;> cases done
      exact ⟨rfl, rfl⟩
    · exact .excused id _
  · exact .pure_pure rfl
  · exact .pure_pure rfl
  · exact .pure_pure rfl
  · exact (steps _ _).bind fun _ _ _ _ _ => .pure_pure rfl
  · exact (steps _ _).bind fun _ _ _ _ _ => .pure_pure rfl
  · refine (steps _ _).bind fun _ _ _ _ _ => ?_
    exact (expect_decides (by decide) _).bind fun _ _ _ _ _ => .pure_pure rfl
  · refine (expect_decides (by decide) _).bind fun _ _ _ _ _ => ?_
    refine (steps _ _).bind fun _ _ _ _ _ => ?_
    refine (expect_decides (by decide) _).bind fun _ _ _ _ _ => ?_
    refine (blocks _).bind fun _ _ middle _ _ => ?_
    refine (accept_decides (by decide) middle).bind fun found image last _ both => ?_
    cases both
    cases found with
    | true => exact (blocks last).bind fun _ _ _ _ _ => .pure_pure rfl
    | false => exact .pure_pure rfl
  · refine (expect_decides (by decide) _).bind fun _ _ middle _ _ => ?_
    have names (reader : Reader) :
        Decides (fun _ => ()) (expect .identifier) (expect .identifier) reader := by
      rw [← bind_pure (expect .identifier)]
      exact (expect_decides (by decide) reader).bind fun _ _ _ _ _ => .pure_pure rfl
    refine (sequence_decides (expect_goesOnward _) (expect_goesOnward _) names (by decide)
      middle).bind fun _ _ last _ _ => ?_
    exact (blocks last).bind fun _ _ _ _ _ => .pure_pure rfl
  · -- No other token starts an expression.
    exfalso
    unfold startsExpression at starts
    split at starts <;> simp_all

theorem link_decides {left right : Expr} {token other : Token} (same : other.kind = token.kind)
    (reader : Reader) :
    Decides (fun _ => ()) (link expr left token) (link image right other) reader := by
  unfold link
  rw [same]
  split
  · exact (steps _ _).bind fun _ _ _ _ _ => .pure_pure rfl
  · exact (sequence_decides (consumes _).goesOnward (moves _).goesOnward (steps _) (by decide)
      reader).bind fun _ _ _ _ _ => .pure_pure rfl

end

/-- A smaller budget only fails more often. -/
theorem links_zero_less {limit more : Nat} {floor : Precedence} {left value : Expr}
    {reader after : Reader} (ran : (links limit 0 floor left).run reader = .ok value after) :
    (links limit (more + 1) floor left).run reader = .ok value after := by
  rw [links] at ran
  rw [links]
  obtain ⟨found, middle, asked, rest⟩ := bind_success ran
  rw [bind_ok asked]
  cases found with
  | true => cases rest
  | false => exact rest

section
variable {limit budget other more : Nat}
  (steps : ∀ floor reader,
    Decides (fun _ => ()) (expression limit budget floor) (expression other more floor) reader)
  (goes_on : ∀ floor left right reader,
    Decides (fun _ => ()) (links limit budget floor left) (links other more floor right) reader)
include steps goes_on

theorem expression_succ_decides (floor : Precedence) (reader : Reader) :
    Decides (fun _ => ()) (expression limit (budget + 1) floor)
      (expression other (more + 1) floor) reader := by
  rw [expression, expression]
  refine .peek fun first same => ?_
  rw [same]
  split
  · rename_i starts
    have ordinary : Ordinary reader.look.next.kind := by
      rw [Reader.look_next]
      constructor <;> intro kind <;> rw [kind] at starts <;> cases starts
    refine .take ordinary fun token alike => ?_
    rw [Reader.look_next] at alike ⊢
    refine (note_decides _ _ _).bind fun _ _ _ _ _ => ?_
    refine (operand_decides steps (expression_consumes limit budget)
      (expression_consumes other more) alike starts _).bind fun left right _ _ _ => ?_
    exact goes_on floor left right _
  · exact .throw (Reader.look_next reader).symm

theorem links_succ_decides (floor : Precedence) (left right : Expr) (reader : Reader) :
    Decides (fun _ => ()) (links limit (budget + 1) floor left)
      (links other (more + 1) floor right) reader := by
  rw [links, links, continues, bind_assoc, bind_assoc]
  refine .peek fun first same => ?_
  rw [pure_bind, pure_bind, same]
  split
  · rename_i goes
    have binds : floor.rank < reader.next.kind.precedence.rank := of_decide_eq_true goes
    have ordinary : Ordinary reader.look.next.kind := by
      rw [Reader.look_next]
      exact TokenKind.ordinary_of_binds (Nat.zero_lt_of_lt binds)
    refine .take ordinary fun token alike => ?_
    refine (link_decides steps (expression_consumes limit budget)
      (expression_consumes other more) alike _).bind fun left right _ _ _ => ?_
    exact goes_on floor left right _
  · exact .pure_pure rfl

end

theorem tooDeep_decides {key : α → κ} (limit : Nat) (other : Parse α) (reader : Reader) :
    Decides key (tooDeep limit) other reader where
  reads := by
    intro value after ran
    cases ran
  refuses := by
    intro fault after ran misplaced
    cases ran
    exact misplaced.elim

theorem links_zero_decides (limit other more : Nat) (floor : Precedence) (left right : Expr)
    (reader : Reader) :
    Decides (fun _ => ()) (links limit 0 floor left) (links other more floor right) reader := by
  have asked : Decides id (continues floor) (continues floor) reader := by
    refine .peek fun image same => .pure_pure ?_
    rw [same]
  have whole (goes_on : Parse Expr) : Decides (fun _ => ()) (links limit 0 floor left)
      (do if ← continues floor then goes_on else return right) reader := by
    rw [links]
    refine asked.bind fun found image middle _ same => ?_
    cases same
    cases found with
    | true => exact tooDeep_decides limit _ middle
    | false => exact .pure_pure rfl
  cases more with
  | zero =>
    have ended := whole (tooDeep other)
    rwa [← links] at ended
  | succ more =>
    have ended := whole (do
      let token ← take
      links other more floor (← link (expression other more) right token))
    rwa [← links] at ended

/-- Expressions are decided whatever the limits on nesting are. -/
theorem expression_links_decides (limit other budget more : Nat) :
    (∀ floor reader, Decides (fun _ => ()) (expression limit budget floor)
      (expression other more floor) reader) ∧
    ∀ floor left right reader, Decides (fun _ => ()) (links limit budget floor left)
      (links other more floor right) reader := by
  induction budget generalizing more with
  | zero =>
    refine ⟨fun floor reader => ?_, links_zero_decides limit other more⟩
    rw [expression]
    exact tooDeep_decides limit _ reader
  | succ budget ih =>
    cases more with
    | zero =>
      obtain ⟨steps, goes_on⟩ := ih 0
      refine ⟨fun floor reader => ?_, fun floor left right reader => ?_⟩
      · refine (expression_succ_decides steps goes_on floor reader).of_less fun _ _ _ ran => ?_
        rw [expression] at ran
        cases ran
      · exact (links_succ_decides steps goes_on floor left right reader).of_less
          fun _ _ _ ran => links_zero_less ran
    | succ more =>
      obtain ⟨steps, goes_on⟩ := ih more
      exact ⟨expression_succ_decides steps goes_on, links_succ_decides steps goes_on⟩

theorem line_decides (limit other : Nat) (reader : Reader) :
    Decides (fun _ => ()) (line limit) (line other) reader := by
  refine (statement_decides (expression_links_decides limit other limit other).1 reader).bind
    fun stmt image middle _ _ => ?_
  refine .peek fun next same => ?_
  rw [same]
  split
  · exact .pure_pure rfl
  · exact .pure_pure rfl
  · exact .throw (Reader.look_next middle).symm

/-- A source is decided up to its first fault. -/
theorem strictLines_decides (limit other : Nat) (reader : Reader) :
    Decides (fun _ => ()) (strictLines limit) (strictLines other) reader := by
  refine repeating_decides (strictItem_lineLoop limit).advances
    (strictItem_lineLoop other).advances (fun reader => ?_) reader
  unfold strictItem
  refine .peek fun first same => ?_
  rw [same]
  split
  · exact .pure_pure rfl
  · rename_i line
    exact .take (by rw [Reader.look_next, line]; decide) fun _ _ => .pure_pure rfl
  · exact (line_decides limit other _).bind fun _ _ _ _ _ => .pure_pure rfl

end Parse

end Polyglot
