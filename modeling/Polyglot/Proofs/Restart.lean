import Polyglot.Proofs.Lookahead

/-! Calls on one parser, one after the other. However they end, all that the parser takes from one
call to the next is its dialect and its place in the text, so it goes on like a new parser that is
given the rest of the text. -/
namespace Polyglot

variable {σ τ α : Type}

inductive Call where
  /-- An expression whose links bind tighter than this. -/
  | expression (floor : Precedence)
  | statement
  | parse
  | program

inductive Answer where
  | expression (result : Except SyntaxFault Expr)
  | statement (result : Except SyntaxFault (Option Stmt))
  | parse (parsed : Parsed)
  | program (result : Except (List SyntaxFault) Program)

/-- The program, or the faults if there are any. -/
def Parsed.verdict (parsed : Parsed) : Except (List SyntaxFault) Program :=
  if parsed.faults.isEmpty then .ok parsed.program else .error parsed.faults

def Parsed.mapTokens (f : Token → Token) (parsed : Parsed) : Parsed :=
  ⟨parsed.program.map (Stmt.mapTokens f), parsed.faults.map (SyntaxFault.mapToken f)⟩

theorem Parsed.verdict_mapTokens (f : Token → Token) (parsed : Parsed) :
    (parsed.mapTokens f).verdict =
      (parsed.verdict.map (List.map (Stmt.mapTokens f))).mapError
        (List.map (SyntaxFault.mapToken f)) := by
  obtain ⟨program, faults⟩ := parsed
  cases faults with
  | nil => rfl
  | cons fault others => rfl

/-- The answer with all of its tokens further on in the text. -/
def Answer.shift (distance : Nat) : Answer → Answer
  | .expression result => .expression
    ((result.map (Expr.mapTokens (.shift distance))).mapError
      (SyntaxFault.mapToken (.shift distance)))
  | .statement result => .statement
    ((result.map (Option.map (Stmt.mapTokens (.shift distance)))).mapError
      (SyntaxFault.mapToken (.shift distance)))
  | .parse parsed => .parse (parsed.mapTokens (.shift distance))
  | .program result => .program
    ((result.map (List.map (Stmt.mapTokens (.shift distance)))).mapError
      (List.map (SyntaxFault.mapToken (.shift distance))))

/-- The answers to calls that are made one after the other, and the state behind the last one. -/
def answers (ask : Call → σ → Answer × σ) : List Call → σ → List Answer × σ
  | [], state => ([], state)
  | call :: more, state =>
    let (answer, after) := ask call state
    let (others, last) := answers ask more after
    (answer :: others, last)

/-- What a computation ends with. -/
def endResult : EStateM.Result SyntaxFault σ α → Except SyntaxFault α
  | .ok value _ => .ok value
  | .error fault _ => .error fault

def Reader.ask (limit : Nat) : Call → Reader → Answer × Reader
  | .expression floor, reader =>
    let ending := (Parse.expression limit limit floor).run reader
    (.expression (endResult ending), endState ending)
  | .statement, reader =>
    let ending := (Parse.statement (Parse.expression limit limit)).run reader
    (.statement (endResult ending), endState ending)
  | .parse, reader => (.parse (reader.parse limit).1, (reader.parse limit).2)
  | .program, reader => (.program (reader.parse limit).1.verdict, (reader.parse limit).2)

def Cursor.parse (limit : Nat) (cursor : Cursor) : Parsed × Cursor :=
  match (Walk.source limit).run cursor with
  | .ok parsed after => (parsed, after)
  | .error fault after => (⟨[], [fault]⟩, after)

def Cursor.ask (limit : Nat) : Call → Cursor → Answer × Cursor
  | .expression floor, cursor =>
    let ending := (Walk.expression limit (limit + 1) floor).run cursor
    (.expression (endResult ending), endState ending)
  | .statement, cursor =>
    let ending := (Parse.statement (Walk.expression limit (limit + 1))).run cursor
    (.statement (endResult ending), endState ending)
  | .parse, cursor => (.parse (cursor.parse limit).1, (cursor.parse limit).2)
  | .program, cursor => (.program (cursor.parse limit).1.verdict, (cursor.parse limit).2)

/-- What holds of one call holds of any number of them. -/
theorem answers_inStep {one : Call → σ → Answer × σ} {other : Call → τ → Answer × τ}
    {near : σ → τ → Prop} {f : Answer → Answer}
    (step : ∀ call first second, near first second →
      (other call second).1 = f (one call first).1 ∧ near (one call first).2 (other call second).2)
    (calls : List Call) {first : σ} {second : τ} (close : near first second) :
    (answers other calls second).1 = (answers one calls first).1.map f ∧
      near (answers one calls first).2 (answers other calls second).2 := by
  induction calls generalizing first second with
  | nil => exact ⟨rfl, close⟩
  | cons call more ih =>
    obtain ⟨same, after⟩ := step call first second close
    obtain ⟨others, last⟩ := ih after
    exact ⟨congrArg₂ List.cons same others, last⟩

namespace Cursor.Near
variable {text : List Char} {limit : Nat} {cursor : Cursor} {reader : Reader}

theorem ends {walk : Walk α} {parse : Parse α} (near : Near text limit 0 cursor reader)
    (follows : Walk.Follows text limit 0 walk parse) :
    endResult (walk.run cursor) = endResult (parse.run reader) ∧
      Near text limit 0 (endState (walk.run cursor)) (endState (parse.run reader)) := by
  rcases follows.outcome near with ⟨value, after, last, ran, done, close⟩ |
    ⟨fault, after, last, ran, done, close⟩
  · rw [ran, done]
    exact ⟨rfl, close⟩
  · rw [ran, done]
    exact ⟨rfl, close⟩

theorem parse (near : Near text limit 0 cursor reader) :
    (cursor.parse limit).1 = (reader.parse limit).1 ∧
      Near text limit 0 (cursor.parse limit).2 (reader.parse limit).2 := by
  unfold Cursor.parse Reader.parse
  rcases (Walk.source_follows limit).outcome near with ⟨value, after, last, ran, done, close⟩ |
    ⟨fault, after, last, ran, done, close⟩
  · rw [ran, done]
    exact ⟨rfl, close⟩
  · rw [ran, done]
    exact ⟨rfl, close⟩

theorem ask (near : Near text limit 0 cursor reader) (call : Call) :
    (cursor.ask limit call).1 = (reader.ask limit call).1 ∧
      Near text limit 0 (cursor.ask limit call).2 (reader.ask limit call).2 := by
  cases call with
  | expression floor =>
    obtain ⟨same, close⟩ := near.ends (Walk.expression_follows limit floor)
    exact ⟨congrArg Answer.expression same, close⟩
  | statement =>
    obtain ⟨same, close⟩ := near.ends (Walk.statement_follows (Walk.expression_follows limit))
    exact ⟨congrArg Answer.statement same, close⟩
  | parse =>
    obtain ⟨same, close⟩ := near.parse
    exact ⟨congrArg Answer.parse same, close⟩
  | program =>
    obtain ⟨same, close⟩ := near.parse
    exact ⟨congrArg (Answer.program ∘ Parsed.verdict) same, close⟩

theorem answers_eq (near : Near text limit 0 cursor reader) (calls : List Call) :
    (answers (Cursor.ask limit) calls cursor).1 =
      (answers (Reader.ask limit) calls reader).1 ∧
    Near text limit 0 (answers (Cursor.ask limit) calls cursor).2
      (answers (Reader.ask limit) calls reader).2 := by
  have step (call : Call) (cursor : Cursor) (reader : Reader)
      (near : Near text limit 0 cursor reader) :
      (reader.ask limit call).1 = id (cursor.ask limit call).1 ∧
        Near text limit 0 (cursor.ask limit call).2 (reader.ask limit call).2 :=
    (near.ask call).imp_left Eq.symm
  obtain ⟨same, close⟩ := answers_inStep step calls near
  rw [List.map_id] at same
  exact ⟨same.symm, close⟩

theorem front_ofChars (dialect : Dialect) (text : List Char) :
    (ofChars dialect text).front = ⟨text, 0, dialect⟩ := by
  show Scanner.mk (textFrom 0 text) 0 dialect = _
  rw [textFrom]

/-- A new cursor stands where a new reader stands. -/
theorem start (limit : Nat) (dialect : Dialect) (text : List Char) :
    Near text limit 0 (.ofChars dialect text) (.ofScanner ⟨text, 0, dialect⟩) where
  text_eq := rfl
  depth_eq := rfl
  depths := by rintro level ⟨⟩
  room := Nat.le_refl _
  inside := by
    rw [front_ofChars]
    exact ⟨[], rfl, rfl⟩
  settled := by rw [front_ofChars]; rfl
  buffered := by rintro token ⟨⟩

/-- A cursor between two calls stands where a reader does that has read nothing ahead. -/
theorem afresh (near : Near text limit 0 cursor reader) :
    Near text limit 0 cursor (.ofScanner cursor.front) where
  text_eq := near.text_eq
  depth_eq := near.depth_eq
  depths := near.depths
  room := by
    obtain ⟨passed, same, _⟩ := near.inside
    rw [same, List.length_append]
    exact Nat.le_add_left _ _
  inside := near.inside
  settled := rfl
  buffered := near.buffered

end Cursor.Near

namespace Reader
open Correspondence
variable {limit distance : Nat} {first second : Reader}

/-- Readers that agree up to the shift of their tokens end with the same, shifted. -/
theorem ends_shifted {related : α → α → Prop} {f : α → α}
    {one other : EStateM.Result SyntaxFault Reader α}
    (image : ∀ value other, related value other → other = f value)
    (agree : (shifted distance).Agree related one other) :
    endResult other = ((endResult one).map f).mapError (SyntaxFault.mapToken (.shift distance)) ∧
      Scanner.Shifted distance (endState one).scanner (endState other).scanner := by
  cases one with
  | ok value after =>
    cases other with
    | ok result last =>
      obtain ⟨same, close⟩ := agree
      exact ⟨congrArg Except.ok (image _ _ same), close⟩
    | error fault last => exact agree.elim
  | error fault after =>
    cases other with
    | ok result last => exact agree.elim
    | error result last =>
      obtain ⟨⟨same, _⟩, close⟩ := agree.resolve_left id
      have same : fault.mapToken (.shift distance) = result.mapToken id := same
      rw [SyntaxFault.mapToken_id] at same
      exact ⟨congrArg Except.error same.symm, close⟩

theorem parse_shifted (limit : Nat)
    (near : Scanner.Shifted distance first.scanner second.scanner) :
    (second.parse limit).1 = (first.parse limit).1.mapTokens (.shift distance) ∧
      Scanner.Shifted distance (first.parse limit).2.scanner (second.parse limit).2.scanner := by
  obtain ⟨items, stop, reads, ended⟩ := Parse.exists_readsTo limit first
  obtain ⟨images, last, moved, at_end, lines, close⟩ :=
    readsTo_end (c := shifted distance) (fun _ => id) near reads ended
  rw [parse_of_readsTo reads ended, parse_of_readsTo moved at_end,
    eq_map_of_sameLines rfl lines, Parsed.ofLines_map, look_scanner, look_scanner]
  exact ⟨rfl, close⟩

theorem ask_shifted (near : Scanner.Shifted distance first.scanner second.scanner) (call : Call) :
    (second.ask limit call).1 = (first.ask limit call).1.shift distance ∧
      Scanner.Shifted distance (first.ask limit call).2.scanner
        (second.ask limit call).2.scanner := by
  have whole (limit : Nat) (floor : Precedence) :
      (shifted distance).InStep (shifted distance).SameExpr (Parse.expression limit limit floor)
        (Parse.expression limit limit floor) := expression_inStep .same floor
  cases call with
  | expression floor =>
    have image (value other : Expr) (same : (shifted distance).SameExpr value other) :
        other = value.mapTokens (.shift distance) := by
      have same : value.mapTokens (.shift distance) = other.mapTokens id := same
      rw [Expr.mapTokens_id] at same
      exact same.symm
    obtain ⟨same, close⟩ := ends_shifted image (whole limit floor _ _ near)
    exact ⟨congrArg Answer.expression same, close⟩
  | statement =>
    have same : Matches (shifted distance).left (shifted distance).right first.next second.next :=
      ((shifted distance).meets near).resolve_right fun ends => by
        cases ends.1 with
        | text _ free => exact free (.noOperand first.next) rfl
        | line _ _ free _ => exact free (.noOperand first.next) rfl
    have image (value other : Option Stmt)
        (same : Option.Rel (shifted distance).SameStmt value other) :
        other = value.map (Stmt.mapTokens (.shift distance)) := eq_map_of_sameStmt rfl same
    obtain ⟨same, close⟩ := ends_shifted image (statement_agree (whole limit) near same)
    exact ⟨congrArg Answer.statement same, close⟩
  | parse =>
    obtain ⟨same, close⟩ := parse_shifted limit near
    exact ⟨congrArg Answer.parse same, close⟩
  | program =>
    obtain ⟨same, close⟩ := parse_shifted limit near
    refine ⟨congrArg Answer.program ?_, close⟩
    rw [same, Parsed.verdict_mapTokens]

end Reader

/-- However its calls end, a parser is left at depth zero after depths within the limit, and goes on
as a new parser does on the rest of the text, at the offsets of that rest. -/
theorem Cursor.goes_on_afresh (limit : Nat) (dialect : Dialect) (source : String)
    (calls : List Call) :
    let asked := answers (ask limit) calls (ofChars dialect source.toList)
    let told := answers (Reader.ask limit) calls (Reader.ofText dialect source)
    let cursor := asked.2
    let rest := textFrom cursor.place source.toList
    asked.1 = told.1 ∧ cursor.dialect = told.2.dialect ∧
    cursor.depth = 0 ∧ (∀ level ∈ cursor.depths, 0 ≤ level ∧ level ≤ limit) ∧
    (∃ passed, source.toList = passed ++ rest ∧ byteLength passed = cursor.place) ∧
    ∀ more, (answers (ask limit) more cursor).1 =
      (answers (ask limit) more (ofChars cursor.dialect rest)).1.map (.shift cursor.place) := by
  intro asked told cursor rest
  obtain ⟨same, near⟩ := (Near.start limit dialect source.toList).answers_eq calls
  have near : Near source.toList limit 0 cursor told.2 := near
  have whole : cursor.front = ⟨rest, cursor.place, cursor.dialect⟩ := by
    rw [front, Scanner.within, near.text_eq]
  refine ⟨same, ?_, near.depth_eq, near.depths, ?_, fun more => ?_⟩
  · exact congrArg Scanner.dialect near.settled.symm
  · have inside := near.inside
    rwa [near.text_eq, whole] at inside
  · have shifted : Scanner.Shifted cursor.place ⟨rest, 0, cursor.dialect⟩ cursor.front := by
      rw [whole]
      exact ⟨rfl, (Nat.zero_add _).symm, rfl⟩
    calc (answers (ask limit) more cursor).1
      _ = (answers (Reader.ask limit) more (.ofScanner cursor.front)).1 :=
        (near.afresh.answers_eq more).1
      _ = (answers (Reader.ask limit) more (.ofScanner ⟨rest, 0, cursor.dialect⟩)).1.map
          (.shift cursor.place) :=
        (answers_inStep (fun call _ _ near => Reader.ask_shifted near call) more shifted).1
      _ = (answers (ask limit) more (ofChars cursor.dialect rest)).1.map
          (.shift cursor.place) := by
        rw [((Near.start limit cursor.dialect rest).answers_eq more).1]

-- The third level is one too many, and both of the others are given back.
example : (answers (Cursor.ask 2) [.expression .lowest]
    (.ofChars .standard "((1".toList)).2.depths = [0, 1, 2, 1] := by
  decide +kernel

end Polyglot
