import Mathlib.Data.List.DropRight
import Polyglot.Proofs.Cursor
import Polyglot.Proofs.Lexicon

/-! The cursor and the reader in step. Whatever a cursor has read ahead is what a reader would see in
the dialect of the moment, so the parser does the same on both of them, and the depth of the cursor
is what the budget of the reader says. -/
namespace Polyglot

namespace Scanner

/-- The scanner behind the blanks in front of it. -/
def settled (scanner : Scanner) : Scanner :=
  ⟨scanner.rest.dropWhile isBlank, scanner.offset + byteLength (scanner.rest.takeWhile isBlank),
    scanner.dialect⟩

theorem takeWhile_settled (text : List Char) :
    (text.dropWhile isBlank).takeWhile isBlank = [] := by
  cases shown : text.dropWhile isBlank with
  | nil => rfl
  | cons c rest => rw [List.takeWhile_cons_of_neg (by simp [not_blank_of_dropWhile shown])]

theorem settled_settled (scanner : Scanner) : scanner.settled.settled = scanner.settled := by
  unfold settled
  dsimp only
  rw [List.dropWhile_idempotent, takeWhile_settled]
  rfl

@[simp] theorem next_settled (scanner : Scanner) : scanner.settled.next = scanner.next := by
  unfold settled next
  dsimp only
  rw [List.dropWhile_idempotent, takeWhile_settled]
  rfl

theorem next_start (scanner : Scanner) : scanner.next.1.start = scanner.settled.offset := by
  cases shown : scanner.rest.dropWhile isBlank with
  | nil => rw [next_at_end shown]; rfl
  | cons c rest => rw [next_at_lexeme shown]; rfl

/-- The scanner stands at a character of this text, and its offset says where. -/
def Inside (text : List Char) (scanner : Scanner) : Prop :=
  ∃ passed, text = passed ++ scanner.rest ∧ byteLength passed = scanner.offset

theorem textFrom_append (passed rest : List Char) :
    textFrom (byteLength passed) (passed ++ rest) = rest := by
  induction passed with
  | nil => rw [byteLength, List.nil_append, textFrom]
  | cons c passed ih =>
    have some_byte := c.utf8Size_pos
    rw [byteLength, List.cons_append]
    cases bytes : c.utf8Size + byteLength passed with
    | zero => omega
    | succ more =>
      rw [textFrom, ← bytes, Nat.add_sub_cancel_left, ih]

theorem Inside.within_eq {text : List Char} {scanner : Scanner} (inside : scanner.Inside text) :
    within text scanner.offset scanner.dialect = scanner := by
  obtain ⟨passed, rfl, length⟩ := inside
  rw [within, ← length, textFrom_append, length]

theorem Inside.settled {text : List Char} {scanner : Scanner} (inside : scanner.Inside text) :
    scanner.settled.Inside text := by
  obtain ⟨passed, rfl, length⟩ := inside
  refine ⟨passed ++ scanner.rest.takeWhile isBlank, ?_, ?_⟩
  · rw [List.append_assoc, Scanner.settled, List.takeWhile_append_dropWhile]
  · rw [byteLength_append, length]
    rfl

theorem Inside.next {text : List Char} {scanner : Scanner} (inside : scanner.Inside text) :
    scanner.next.2.Inside text := by
  obtain ⟨passed, same, length⟩ := inside.settled
  cases shown : scanner.rest.dropWhile isBlank with
  | nil =>
    rw [next_at_end shown]
    exact ⟨passed, by rw [same, Scanner.settled, shown], length⟩
  | cons c rest =>
    obtain ⟨left, split, step⟩ := next_lexeme shown
    rw [step]
    refine ⟨passed ++ (Lexeme.first c rest).span, ?_, ?_⟩
    · rw [List.append_assoc, split, same, Scanner.settled, shown]
    · rw [byteLength_append, length]
      rfl

theorem next_dialect (scanner : Scanner) : scanner.next.2.dialect = scanner.dialect := by
  cases shown : scanner.rest.dropWhile isBlank with
  | nil => rw [next_at_end shown]
  | cons c rest => rw [next_at_lexeme shown]

end Scanner

namespace Cursor

/-- The scanner in front of the next token, whether or not that has been read ahead. -/
def front (cursor : Cursor) : Scanner :=
  .within cursor.text cursor.place cursor.dialect

/-- The cursor stands where the reader stands, blanks apart, at this depth. What it has read ahead
is the token in front of the reader, scanned in the dialect that is active now. -/
structure Near (text : List Char) (limit depth : Nat) (cursor : Cursor) (reader : Reader) :
    Prop where
  text_eq : cursor.text = text
  depth_eq : cursor.depth = depth
  depths : ∀ level ∈ cursor.depths, 0 ≤ level ∧ level ≤ limit
  room : reader.scanner.rest.length ≤ cursor.text.length
  inside : cursor.front.Inside cursor.text
  settled : reader.scanner.settled = cursor.front.settled
  buffered : ∀ token, cursor.peeked = some token → cursor.front.next = (token, cursor.scanner)

namespace Near
variable {text : List Char} {limit depth : Nat} {cursor : Cursor} {reader : Reader}

theorem next_eq (near : Near text limit depth cursor reader) :
    reader.scanner.next = cursor.front.next := by
  rw [← Scanner.next_settled, near.settled, Scanner.next_settled]

theorem front_of_none (empty : cursor.peeked = none) : cursor.front = cursor.scanner := by
  rw [front, scanner, place, empty]

theorem of_scanner {other : Reader} (near : Near text limit depth cursor reader)
    (same : other.scanner = reader.scanner) : Near text limit depth cursor other :=
  ⟨near.text_eq, near.depth_eq, near.depths, same ▸ near.room, near.inside,
    same ▸ near.settled, near.buffered⟩

/-- The scanner behind the next token, as the cursor keeps it. -/
theorem behind (near : Near text limit depth cursor reader) :
    Scanner.within cursor.text cursor.front.next.2.offset cursor.dialect =
      cursor.front.next.2 := by
  have same := near.inside.next.within_eq
  rwa [Scanner.next_dialect] at same

theorem peek (near : Near text limit depth cursor reader) :
    cursor.peek.1 = reader.next ∧ Near text limit depth cursor.peek.2 reader.look := by
  have next : reader.next = cursor.front.next.1 := congrArg Prod.fst near.next_eq
  cases found : cursor.peeked with
  | some token =>
    have same : cursor.peek = (token, cursor) := by rw [Cursor.peek, found]
    rw [same, next, near.buffered token found]
    exact ⟨rfl, near.of_scanner reader.look_scanner⟩
  | none =>
    have same : cursor.peek = (cursor.front.next.1, { cursor with
        position := cursor.front.next.2.offset, peeked := some cursor.front.next.1 }) := by
      rw [Cursor.peek, found, front_of_none found]
      rfl
    rw [same]
    refine ⟨next.symm, ?_⟩
    -- The place is now the start of the token, behind the blanks in front of it.
    have moved : Scanner.within cursor.text cursor.front.next.1.start cursor.dialect =
        cursor.front.settled := by
      rw [Scanner.next_start]
      exact near.inside.settled.within_eq
    constructor
    · exact near.text_eq
    · exact near.depth_eq
    · exact near.depths
    · rw [reader.look_scanner]
      exact near.room
    · show (Scanner.within cursor.text cursor.front.next.1.start cursor.dialect).Inside _
      rw [moved]
      exact near.inside.settled
    · show _ = (Scanner.within cursor.text cursor.front.next.1.start cursor.dialect).settled
      rw [moved, Scanner.settled_settled, reader.look_scanner]
      exact near.settled
    · rintro token ⟨⟩
      show (Scanner.within cursor.text cursor.front.next.1.start cursor.dialect).next = _
      rw [moved, Scanner.next_settled]
      exact Prod.ext rfl near.behind.symm

theorem take (near : Near text limit depth cursor reader) :
    cursor.take.1 = reader.next ∧ Near text limit depth cursor.take.2 reader.advance := by
  have next : reader.next = cursor.front.next.1 := congrArg Prod.fst near.next_eq
  have after : reader.scanner.next.2 = cursor.front.next.2 := congrArg Prod.snd near.next_eq
  have same : cursor.take = (cursor.front.next.1, { cursor with
      position := cursor.front.next.2.offset, peeked := none }) := by
    cases found : cursor.peeked with
    | some token =>
      rw [Cursor.take, found, near.buffered token found]
      rfl
    | none =>
      simp only [Cursor.take, Cursor.scan, found, front_of_none found]
  rw [same]
  refine ⟨next.symm, ?_⟩
  constructor
  · exact near.text_eq
  · exact near.depth_eq
  · exact near.depths
  · exact (reader.advance_onward.length_le).trans near.room
  · show (Scanner.within cursor.text cursor.front.next.2.offset cursor.dialect).Inside _
    rw [near.behind]
    exact near.inside.next
  · show _ = (Scanner.within cursor.text cursor.front.next.2.offset cursor.dialect).settled
    rw [near.behind, reader.advance_scanner, after]
  · rintro token ⟨⟩

theorem switch (near : Near text limit depth cursor reader) (name : String) :
    Near text limit depth (cursor.switch name) (reader.switch name) where
  text_eq := near.text_eq
  depth_eq := near.depth_eq
  depths := near.depths
  room := near.room
  inside := near.inside
  settled := congrArg (fun scanner => { scanner with dialect := Dialect.resolve name }) near.settled
  buffered := by rintro token ⟨⟩

theorem atDepth (near : Near text limit depth cursor reader) {level : Nat}
    (fits : level ≤ limit) : Near text limit level (cursor.atDepth level) reader where
  text_eq := near.text_eq
  depth_eq := rfl
  depths := List.forall_mem_cons.mpr ⟨⟨by omega, by omega⟩, near.depths⟩
  room := near.room
  inside := near.inside
  settled := near.settled
  buffered := near.buffered

end Near

end Cursor

namespace Walk
open Cursor
variable {text : List Char} {limit depth : Nat} {α β : Type}

/-- What the parser does on a cursor is what it does on a reader: the results are the same, and
both stop at the same place, with the depth as it was. -/
abbrev Follows (text : List Char) (limit depth : Nat) (walk : Walk α) (parse : Parse α) : Prop :=
  Coupling.InStep ⟨Near text limit depth, Eq, fun _ => False⟩ Eq walk parse

namespace Follows

theorem pure (value : α) : Follows text limit depth (Pure.pure value) (Pure.pure value) :=
  Coupling.InStep.pure rfl

theorem throw (fault : SyntaxFault) :
    Follows text limit depth (MonadExcept.throw fault : Walk α) (MonadExcept.throw fault) :=
  Coupling.InStep.throw rfl

theorem bind {first : Walk α} {other : Parse α} {next : α → Walk β} {later : α → Parse β}
    (begins : Follows text limit depth first other)
    (goes_on : ∀ value, Follows text limit depth (next value) (later value)) :
    Follows text limit depth (first >>= next) (other >>= later) :=
  Coupling.InStep.bind begins fun value _ same => same ▸ goes_on value

theorem peek : Follows text limit depth Parse.peek Parse.peek :=
  fun _ _ near => near.peek

theorem take : Follows text limit depth Parse.take Parse.take :=
  fun _ _ near => near.take

theorem switchDialect (name : String) :
    Follows text limit depth (Parse.switchDialect name) (Parse.switchDialect name) :=
  fun _ _ near => ⟨rfl, near.switch name⟩

theorem accept (kind : TokenKind) :
    Follows text limit depth (Parse.accept kind) (Parse.accept kind) := by
  refine peek.bind fun found => ?_
  split
  · exact take.bind fun _ => .pure true
  · exact .pure false

theorem expect (kind : TokenKind) :
    Follows text limit depth (Parse.expect kind) (Parse.expect kind) := by
  refine peek.bind fun found => ?_
  split
  · exact take
  · exact .throw _

theorem continues (floor : Precedence) :
    Follows text limit depth (Parse.continues floor) (Parse.continues floor) :=
  peek.bind fun _ => .pure _

theorem outcome {walk : Walk α} {parse : Parse α} (follows : Follows text limit depth walk parse)
    {cursor : Cursor} {reader : Reader} (near : Near text limit depth cursor reader) :
    (∃ value after last, walk.run cursor = .ok value after ∧ parse.run reader = .ok value last ∧
      Near text limit depth after last) ∨
    ∃ fault after last, walk.run cursor = .error fault after ∧
      parse.run reader = .error fault last ∧ Near text limit depth after last := by
  have agree := follows cursor reader near
  cases ran : walk.run cursor with
  | ok value after =>
    cases done : parse.run reader with
    | ok image last =>
      rw [ran, done] at agree
      exact Or.inl ⟨value, after, last, rfl, by rw [agree.1], agree.2⟩
    | error fault last =>
      rw [ran, done] at agree
      exact agree.elim
  | error fault after =>
    cases done : parse.run reader with
    | ok image last =>
      rw [ran, done] at agree
      exact agree.elim
    | error image last =>
      rw [ran, done] at agree
      obtain ⟨same, close⟩ := agree.resolve_left id
      exact Or.inr ⟨fault, after, last, rfl, by rw [same], close⟩

theorem attempt {walk : Walk α} {parse : Parse α} (follows : Follows text limit depth walk parse) :
    Follows text limit depth (Parse.attempt walk) (Parse.attempt parse) := by
  intro cursor reader near
  rcases follows.outcome near with ⟨value, after, last, ran, done, close⟩ |
    ⟨fault, after, last, ran, done, close⟩
  · rw [Parse.attempt_run, Parse.attempt_run, ran, done]
    exact ⟨rfl, close⟩
  · rw [Parse.attempt_run, Parse.attempt_run, ran, done]
    exact ⟨rfl, close⟩

theorem repeating {step : Walk (Option α)} {other : Parse (Option α)}
    (moves : Parse.Advances other) (steps : Follows text limit depth step other) :
    Follows text limit depth (Parse.repeating step) (Parse.repeating other) := by
  have within (bound : Nat) :
      Follows text limit depth (Parse.repeatWithin step bound) (Parse.repeatWithin other bound) := by
    induction bound with
    | zero => exact .pure []
    | succ bound ih =>
      refine steps.bind fun found => ?_
      cases found with
      | none => exact .pure []
      | some value => exact ih.bind fun values => .pure _
  intro cursor reader near
  have room := near.room
  have enough := Parse.repeatWithin_bound moves _ (cursor.text.length + 1) reader
    (Nat.lt_succ_self _) (by omega)
  rw [Parse.repeating_run, enough]
  exact within _ cursor reader near

theorem sequence {element : Walk α} {other : Parse α} (goes : Parse.GoesOnward other)
    (elements : Follows text limit depth element other) (closing : TokenKind) :
    Follows text limit depth (Parse.sequence element closing) (Parse.sequence other closing) := by
  have next : Follows text limit depth (Parse.afterComma element) (Parse.afterComma other) := by
    refine (accept .comma).bind fun found => ?_
    cases found with
    | true => exact elements.bind fun value => .pure _
    | false => exact .pure none
  refine (accept closing).bind fun found => ?_
  cases found with
  | true => exact .pure []
  | false =>
    refine elements.bind fun first => ?_
    refine (repeating (Parse.afterComma_advances goes) next).bind fun others => ?_
    exact (expect closing).bind fun _ => .pure _

end Follows

theorem pragma_follows : Follows text limit depth Parse.pragma Parse.pragma := by
  refine Follows.take.bind fun token => (Follows.expect _).bind fun name => ?_
  exact (Follows.switchDialect _).bind fun _ => .pure none

section
variable {expr : Precedence → Walk Expr} {other : Precedence → Parse Expr}
  (steps : ∀ floor, Follows text limit depth (expr floor) (other floor))
include steps

theorem statement_follows :
    Follows text limit depth (Parse.statement expr) (Parse.statement other) := by
  refine Follows.peek.bind fun first => ?_
  cases first.kind with
  | keyword word =>
    cases word with
    | letWord =>
      refine Follows.take.bind fun token => (Follows.expect _).bind fun name => ?_
      exact (Follows.expect _).bind fun _ => (steps _).bind fun value => .pure _
    | returnWord => exact Follows.take.bind fun token => (steps _).bind fun value => .pure _
    | _ => exact (steps _).bind fun value => .pure _
  | tilde => exact pragma_follows
  | _ => exact (steps _).bind fun value => .pure _

theorem blockItem_follows :
    Follows text limit depth (Parse.blockItem expr) (Parse.blockItem other) := by
  refine Follows.peek.bind fun first => ?_
  cases first.kind with
  | rightBrace | endOfInput => exact .pure none
  | newLine => exact Follows.take.bind fun _ => .pure _
  | _ =>
    refine (statement_follows steps).bind fun stmt => Follows.peek.bind fun next => ?_
    cases next.kind with
    | newLine | rightBrace | endOfInput => exact .pure _
    | _ => exact .throw _

theorem block_follows (consumes : ∀ floor, Parse.Consumes (other floor)) :
    Follows text limit depth (Parse.block expr) (Parse.block other) := by
  refine (Follows.expect _).bind fun token => ?_
  refine (Follows.repeating (Parse.blockItem_advances consumes) (blockItem_follows steps)).bind
    fun items => ?_
  exact (Follows.expect _).bind fun _ => .pure _

theorem operand_follows (consumes : ∀ floor, Parse.Consumes (other floor)) (token : Token) :
    Follows text limit depth (Parse.operand expr token) (Parse.operand other token) := by
  have braces := block_follows steps consumes
  unfold Parse.operand
  cases token.kind with
  | identifier | string => exact .pure _
  | integer =>
    dsimp only
    split
    · exact .pure _
    · exact .throw _
  | float =>
    dsimp only
    cases readFloat? token.literal.toList with
    | some value => exact .pure _
    | none => exact .throw _
  | bang | minus => exact (steps _).bind fun value => .pure _
  | leftParen => exact (steps _).bind fun inner => (Follows.expect _).bind fun _ => .pure _
  | keyword word =>
    cases word with
    | trueWord | falseWord => exact .pure _
    | ifWord =>
      refine (Follows.expect _).bind fun _ => (steps _).bind fun condition => ?_
      refine (Follows.expect _).bind fun _ => braces.bind fun consequence => ?_
      refine (Follows.accept _).bind fun found => ?_
      cases found with
      | true => exact braces.bind fun alternative => .pure _
      | false => exact .pure _
    | fnWord =>
      refine (Follows.expect _).bind fun _ => ?_
      refine (Follows.sequence (Parse.expect_goesOnward _) (Follows.expect _) _).bind
        fun parameters => ?_
      exact braces.bind fun body => .pure _
    | _ => exact .throw _
  | _ => exact .throw _

theorem link_follows (consumes : ∀ floor, Parse.Consumes (other floor)) (left : Expr)
    (token : Token) :
    Follows text limit depth (Parse.link expr left token) (Parse.link other left token) := by
  unfold Parse.link
  cases BinaryOp.ofKind? token.kind with
  | some op => exact (steps _).bind fun right => .pure _
  | none =>
    refine (Follows.sequence (consumes _).goesOnward (steps _) _).bind fun arguments => ?_
    exact .pure _

end

theorem get_run (cursor : Cursor) : (get : Walk Cursor).run cursor = .ok cursor cursor :=
  rfl

theorem enter_run {cursor : Cursor} {reader : Reader} (near : Near text limit depth cursor reader)
    (below : depth < limit) :
    (enter limit).run cursor = .ok () (cursor.atDepth ((depth + 1 : Nat) : Int)) := by
  have shallow : ¬ (limit : Int) ≤ cursor.depth := by
    rw [near.depth_eq]
    omega
  unfold enter
  rw [bind_ok (get_run cursor)]
  dsimp only
  rw [if_neg shallow, near.depth_eq]
  rfl

theorem enter_tooDeep {cursor : Cursor} {reader : Reader}
    (near : Near text limit limit cursor reader) :
    (enter limit).run cursor = .error (.nesting limit reader.next) cursor.peek.2 := by
  have deep : (limit : Int) ≤ cursor.depth := Int.le_of_eq near.depth_eq.symm
  unfold enter
  rw [bind_ok (get_run cursor)]
  dsimp only
  rw [if_pos deep, ← near.peek.1]
  rfl

theorem tooDeep_run (limit : Nat) (reader : Reader) :
    (Parse.tooDeep limit : Parse α).run reader =
      .error (.nesting limit reader.next) reader.look :=
  rfl

theorem leave_run {cursor : Cursor} {reader : Reader} {levels : Nat}
    (near : Near text limit (depth + levels) cursor reader) :
    (leave levels).run cursor = .ok () (cursor.atDepth depth) := by
  have back : cursor.depth - levels = depth := by
    rw [near.depth_eq]
    omega
  show EStateM.Result.ok () (cursor.atDepth (cursor.depth - levels)) = _
  rw [back]

/-- One level deeper and back, whatever happens inside. -/
theorem nested_follows {walk : Walk α} {parse : Parse α} (below : depth < limit)
    (inside : Follows text limit (depth + 1) walk parse) :
    Follows text limit depth (do
      enter limit
      let result ← Parse.attempt walk
      leave 1
      settle result) parse := by
  intro cursor reader near
  rw [bind_ok (enter_run near below)]
  rcases inside.outcome (near.atDepth below) with ⟨value, after, last, ran, done, close⟩ |
    ⟨fault, after, last, ran, done, close⟩
  · have kept : (Parse.attempt walk).run (cursor.atDepth ((depth + 1 : Nat) : Int)) =
        .ok (.ok value) after := by rw [Parse.attempt_run, ran]
    rw [bind_ok kept, bind_ok (leave_run close), done]
    exact ⟨rfl, close.atDepth below.le⟩
  · have kept : (Parse.attempt walk).run (cursor.atDepth ((depth + 1 : Nat) : Int)) =
        .ok (.error fault) after := by rw [Parse.attempt_run, ran]
    rw [bind_ok kept, bind_ok (leave_run close), done]
    exact Or.inr ⟨rfl, close.atDepth below.le⟩

/-- The links behind an operand do on both what they do, with one level more for each of them. -/
def LinksFollow (text : List Char) (limit depth : Nat)
    (walk : Nat → Walk (Except SyntaxFault Expr × Nat))
    (parse : Parse Expr) : Prop :=
  ∀ (count : Nat) (cursor : Cursor) (reader : Reader), Near text limit depth cursor reader →
    ∃ result more after last, (walk count).run cursor = .ok (result, count + more) after ∧
      Near text limit (depth + more) after last ∧
      parse.run reader = match (result : Except SyntaxFault Expr) with
        | .ok value => .ok value last
        | .error fault => .error fault last

theorem LinksFollow.settled {walk : Nat → Walk (Except SyntaxFault Expr × Nat)}
    {parse : Parse Expr} (follow : LinksFollow text limit depth walk parse) (fits : depth ≤ limit) :
    Follows text limit depth (do
      let (result, count) ← walk 0
      leave count
      settle result) parse := by
  intro cursor reader near
  obtain ⟨result, more, after, last, ran, close, done⟩ := follow 0 cursor reader near
  rw [Nat.zero_add] at ran
  rw [bind_ok ran, bind_ok (leave_run close), done]
  cases result with
  | ok value => exact ⟨rfl, close.atDepth fits⟩
  | error fault => exact Or.inr ⟨rfl, close.atDepth fits⟩

theorem attempt_ok {part : Walk α} {cursor after : Cursor} {value : α}
    (ran : part.run cursor = .ok value after) :
    (Parse.attempt part).run cursor = .ok (.ok value) after := by
  rw [Parse.attempt_run, ran]

theorem attempt_error {part : Walk α} {cursor after : Cursor} {fault : SyntaxFault}
    (ran : part.run cursor = .error fault after) :
    (Parse.attempt part).run cursor = .ok (.error fault) after := by
  rw [Parse.attempt_run, ran]

theorem links_zero_follow (floor : Precedence) (left : Expr) :
    LinksFollow text limit limit (links limit 1 floor left) (Parse.links limit 0 floor left) := by
  intro count cursor reader near
  rcases (Follows.continues floor).outcome near with ⟨goes_on, after, last, ran, done, close⟩ |
    ⟨_, _, _, ran, _⟩
  · unfold links Parse.links
    rw [bind_ok ran, bind_ok done]
    cases goes_on with
    | false => exact ⟨.ok left, 0, after, last, rfl, close, rfl⟩
    | true =>
      rw [if_pos rfl, if_pos rfl, bind_ok (attempt_error (enter_tooDeep close)), tooDeep_run]
      exact ⟨.error _, 0, _, _, rfl, close.peek.2, rfl⟩
  · cases ran

theorem links_succ_follow {budget : Nat} (below : depth < limit)
    (steps : ∀ floor, Follows text limit (depth + 1) (expression limit (budget + 1) floor)
      (Parse.expression limit budget floor))
    (more : ∀ floor left, LinksFollow text limit (depth + 1) (links limit (budget + 1) floor left)
      (Parse.links limit budget floor left)) (floor : Precedence) (left : Expr) :
    LinksFollow text limit depth (links limit (budget + 2) floor left)
      (Parse.links limit (budget + 1) floor left) := by
  intro count cursor reader near
  rcases (Follows.continues floor).outcome near with ⟨goes_on, after, last, ran, done, close⟩ |
    ⟨_, _, _, ran, _⟩
  · unfold links Parse.links
    rw [bind_ok ran, bind_ok done]
    cases goes_on with
    | false => exact ⟨.ok left, 0, after, last, rfl, close, rfl⟩
    | true =>
      have entered := close.atDepth below
      rw [if_pos rfl, if_pos rfl, bind_ok (attempt_ok (enter_run close below))]
      dsimp only
      rcases Follows.take.outcome entered with ⟨token, here, there, ran, done, close⟩ |
        ⟨_, _, _, ran, _⟩
      · rw [bind_ok ran, bind_ok done]
        have consumes := Parse.expression_consumes limit budget
        rcases (link_follows steps consumes left token).outcome close with
          ⟨longer, here, there, ran, done, close⟩ | ⟨fault, here, there, ran, done, close⟩
        · rw [bind_ok (attempt_ok ran), bind_ok done]
          obtain ⟨result, others, after, last, ran, close, done⟩ :=
            more floor longer (count + 1) here there close
          refine ⟨result, others + 1, after, last, ?_, ?_, done⟩
          · rw [ran, Nat.add_assoc, Nat.add_comm 1 others]
          · rwa [Nat.add_assoc, Nat.add_comm 1 others] at close
        · rw [bind_ok (attempt_error ran), bind_error done]
          exact ⟨.error fault, 1, here, there, rfl, close, rfl⟩
      · cases ran
  · cases ran

theorem expression_zero_follows (floor : Precedence) :
    Follows text limit limit (expression limit 1 floor) (Parse.expression limit 0 floor) := by
  intro cursor reader near
  unfold expression Parse.expression
  rw [bind_error (enter_tooDeep near), tooDeep_run]
  exact Or.inr ⟨rfl, near.peek.2⟩

theorem note_follows {walk : Walk α} {parse : Parse α} (follows : Follows text limit depth walk parse)
    (event : Event) : Follows text limit depth walk (Parse.note event >>= fun _ => parse) := by
  intro cursor reader near
  rw [bind_ok (Parse.note_run event reader)]
  exact follows cursor _ (near.of_scanner rfl)

theorem expression_succ_follows {budget : Nat} (below : depth < limit)
    (steps : ∀ floor, Follows text limit (depth + 1) (expression limit (budget + 1) floor)
      (Parse.expression limit budget floor))
    (more : ∀ floor left, LinksFollow text limit (depth + 1) (links limit (budget + 1) floor left)
      (Parse.links limit budget floor left)) (floor : Precedence) :
    Follows text limit depth (expression limit (budget + 2) floor)
      (Parse.expression limit (budget + 1) floor) := by
  have consumes := Parse.expression_consumes limit budget
  unfold expression Parse.expression
  refine nested_follows below ?_
  refine Follows.peek.bind fun first => ?_
  split
  · refine Follows.take.bind fun token => note_follows ?_ _
    refine (operand_follows steps consumes token).bind fun left => ?_
    exact (more floor left).settled below
  · exact .throw _

theorem expression_links_follow {budget : Nat} (whole : depth + budget = limit) :
    (∀ floor, Follows text limit depth (expression limit (budget + 1) floor)
      (Parse.expression limit budget floor)) ∧
    ∀ floor left, LinksFollow text limit depth (links limit (budget + 1) floor left)
      (Parse.links limit budget floor left) := by
  induction budget generalizing depth with
  | zero =>
    obtain rfl : depth = limit := whole
    exact ⟨expression_zero_follows, links_zero_follow⟩
  | succ budget ih =>
    obtain ⟨steps, more⟩ := @ih (depth + 1) (by omega)
    have below : depth < limit := by omega
    exact ⟨expression_succ_follows below steps more, links_succ_follow below steps more⟩

/-- From the outermost level the cursor has as many levels as the reader has budget. -/
theorem expression_follows (limit : Nat) (floor : Precedence) :
    Follows text limit 0 (expression limit (limit + 1) floor) (Parse.expression limit limit floor) :=
  (expression_links_follow (Nat.zero_add limit)).1 floor

theorem wholeLine_follows (limit : Nat) :
    Follows text limit 0 (Parse.wholeLine (expression limit (limit + 1)))
      (Parse.wholeLine (Parse.expression limit limit)) := by
  refine (statement_follows (expression_follows limit)).bind fun stmt => ?_
  refine Follows.peek.bind fun next => ?_
  cases next.kind with
  | newLine | endOfInput => exact .pure _
  | _ => exact .throw _

theorem skipLine_follows (limit : Nat) : Follows text limit 0 Parse.skipLine Parse.skipLine := by
  have step : Follows text limit 0 Parse.skipToken Parse.skipToken := by
    refine Follows.peek.bind fun next => ?_
    cases next.kind with
    | newLine | endOfInput => exact .pure none
    | _ => exact Follows.take.bind fun token => .pure _
  exact (Follows.repeating Parse.skipToken_advances step).bind fun _ => .pure ()

theorem nextLine_follows (limit : Nat) :
    Follows text limit 0 (Parse.nextLine (expression limit (limit + 1)))
      (Parse.sourceItem limit) := by
  refine Follows.peek.bind fun next => ?_
  cases next.kind with
  | endOfInput => exact .pure none
  | newLine => exact Follows.take.bind fun _ => .pure _
  | _ =>
    refine (Follows.attempt (wholeLine_follows limit)).bind fun result => ?_
    cases result with
    | ok stmt => exact .pure _
    | error fault => exact (skipLine_follows limit).bind fun _ => .pure _

theorem source_follows (limit : Nat) : Follows text limit 0 (source limit) (Parse.source limit) :=
  (Follows.repeating (Parse.sourceItem_advances limit) (nextLine_follows limit)).bind
    fun _ => .pure _

end Walk

end Polyglot
