import Polyglot.Proofs.Decided
import Polyglot.Proofs.Wording

/-! What the parser has read before a misplaced token is the beginning of something sound. For every
part that fails there are tokens that complete what it has taken by the rules of the grammar. -/
namespace Polyglot

theorem Grammar.Expression.statement {tokens : List Token} {value : Expr}
    (alone : Expression .equality tokens value) : ∃ stmt, Statement tokens stmt := by
  obtain ⟨first, rest, rfl⟩ := List.exists_cons_of_ne_nil alone.tokens_ne_nil
  exact ⟨_, .expression alone⟩

namespace Parse
open Grammar
variable {α β : Type}

/-- Whatever tokens of these kinds one has, with them it is complete. The kinds are written alike in
every dialect. -/
structure Completes (kinds : List TokenKind) (complete : List Token → Prop) : Prop where
  neutral : ∀ kind ∈ kinds, kind.neutral = true
  holds : ∀ tokens, tokens.map Token.kind = kinds → complete tokens

section
variable {kind : TokenKind} {kinds one other : List TokenKind}
  {complete partly : List Token → Prop}

theorem exists_tokens (kinds : List TokenKind) :
    ∃ tokens : List Token, tokens.map Token.kind = kinds := by
  refine ⟨kinds.map fun kind => ⟨kind, "", 0, 0⟩, ?_⟩
  rw [List.map_map]
  exact List.map_id kinds

theorem Completes.nil (holds : complete []) : Completes [] complete where
  neutral := by simp
  holds := by
    intro tokens same
    rw [List.map_eq_nil_iff.mp same]
    exact holds

theorem Completes.append (begins : Completes one partly)
    (later : ∀ tokens, partly tokens → Completes other fun rest => complete (tokens ++ rest)) :
    Completes (one ++ other) complete where
  neutral := by
    obtain ⟨tokens, same⟩ := exists_tokens one
    have ends := later tokens (begins.holds tokens same)
    exact List.forall_mem_append.mpr ⟨begins.neutral, ends.neutral⟩
  holds := by
    intro tokens same
    obtain ⟨front, rest, rfl, first, second⟩ := List.map_eq_append_iff.mp same
    exact (later front (begins.holds front first)).holds rest second

theorem Completes.cons (neutral : kind.neutral = true)
    (later : ∀ token, token.kind = kind → Completes kinds fun rest => complete (token :: rest)) :
    Completes (kind :: kinds) complete := by
  have first : Completes [kind] fun tokens => ∃ token, tokens = [token] ∧ token.kind = kind := by
    refine ⟨List.forall_mem_singleton.mpr neutral, fun tokens same => ?_⟩
    obtain ⟨token, rest, rfl, found, none⟩ := List.map_eq_cons_iff.mp same
    exact ⟨token, by rw [List.map_eq_nil_iff.mp none], found⟩
  refine first.append fun tokens single => ?_
  obtain ⟨token, rfl, found⟩ := single
  exact later token found

theorem Completes.mono (completes : Completes kinds partly)
    (implies : ∀ tokens, partly tokens → complete tokens) : Completes kinds complete :=
  ⟨completes.neutral, fun tokens same => implies tokens (completes.holds tokens same)⟩

end

theorem ordinary_of_neutral {kind : TokenKind} (neutral : kind.neutral = true) :
    Ordinary kind := by
  constructor <;> rintro rfl <;> cases neutral

/-- If the part fails for a misplaced token, then what it has taken can be completed. -/
def Repairs (part : Parse α) (reader : Reader) (shape : List Token → α → Prop) : Prop :=
  ∀ fault after, part.run reader = .error fault after → fault.Misplaced →
    ∃ taken rest, reader.remaining = taken ++ after.remaining ∧
      Completes rest fun tokens => ∃ value, shape (taken ++ tokens) value

/-- Besides, tokens of the given kinds can stand in place of the part. -/
structure Mends (part : Parse α) (reader : Reader) (kinds : List TokenKind)
    (shape : List Token → α → Prop) : Prop where
  afresh : Completes kinds fun tokens => ∃ value, shape tokens value
  repairs : Repairs part reader shape

section
variable {reader : Reader} {kinds one other : List TokenKind} {kind : TokenKind}
  {shape : List Token → β → Prop}

theorem Repairs.pure (value : β) : Repairs (Pure.pure value) reader shape := by
  intro fault after ran
  cases ran

theorem Repairs.excused {fault : SyntaxFault} (placed : ¬ fault.Misplaced) :
    Repairs (MonadExcept.throw fault) reader shape := by
  intro found after ran misplaced
  cases ran
  exact absurd misplaced placed

theorem Repairs.throw (afresh : Completes kinds fun tokens => ∃ value, shape tokens value)
    (fault : SyntaxFault) : Repairs (MonadExcept.throw fault) reader shape := by
  intro found after ran _
  cases ran
  exact ⟨[], kinds, rfl, afresh⟩

/-- What has been passed with success stays in front of what is completed later. -/
theorem Repairs.passing {part later : Parse β} {middle : Reader} (passed : List Token)
    (repairs : Repairs later middle fun rest => shape (passed ++ rest))
    (ran : part.run reader = later.run middle)
    (coming : reader.remaining = passed ++ middle.remaining) : Repairs part reader shape := by
  intro fault after failed misplaced
  obtain ⟨taken, rest, same, completes⟩ := repairs fault after (ran.symm.trans failed) misplaced
  refine ⟨passed ++ taken, rest, by rw [coming, same, List.append_assoc], ?_⟩
  refine completes.mono fun tokens whole => ?_
  rwa [List.append_assoc]

theorem Repairs.peek {next : Token → Parse β}
    (later : Repairs (next reader.next) reader.look shape) :
    Repairs (Parse.peek >>= next) reader shape :=
  later.passing [] (bind_ok (peek_run reader)) (Reader.remaining_look reader).symm

theorem Repairs.note {event : Event} {next : Unit → Parse β}
    (later : Repairs (next ()) (reader.noting event) shape) :
    Repairs (Parse.note event >>= next) reader shape :=
  later.passing [] (bind_ok (note_run event reader)) rfl

theorem Repairs.take {next : Token → Parse β} (ordinary : Ordinary reader.next.kind)
    (later : Repairs (next reader.next) reader.advance fun rest => shape (reader.next :: rest)) :
    Repairs (Parse.take >>= next) reader shape :=
  later.passing [reader.next] (bind_ok (take_run reader))
    (Reader.remaining_cons ordinary.1 ordinary.2)

/-- If the first part fails, it is completed, and what can stand in place of the second part is put
behind it. -/
theorem Repairs.bind_of {first : Parse α} {next : α → Parse β} {partly : List Token → α → Prop}
    {between : List Token → α → Reader → Prop} (begins : Repairs first reader partly)
    (ends : ∀ tokens value, partly tokens value →
      Completes other fun rest => ∃ result, shape (tokens ++ rest) result)
    (yields : Yields first reader between)
    (later : ∀ tokens value middle, between tokens value middle →
      Repairs (next value) middle fun rest => shape (tokens ++ rest)) :
    Repairs (first >>= next) reader shape := by
  cases begun : first.run reader with
  | ok value middle =>
    obtain ⟨tokens, before, holds⟩ := yields value middle begun
    exact (later tokens value middle holds).passing tokens (bind_ok begun) before
  | error exit last =>
    intro fault after ran misplaced
    rw [bind_error begun] at ran
    cases ran
    obtain ⟨taken, rest, same, completes⟩ := begins exit last begun misplaced
    refine ⟨taken, rest ++ other, same, completes.append fun tokens done => ?_⟩
    obtain ⟨value, holds⟩ := done
    refine (ends _ value holds).mono fun more whole => ?_
    rwa [List.append_assoc] at whole

/-- If the first part has been completed, nothing more is needed. -/
theorem Repairs.bind_ended {first : Parse α} {next : α → Parse β}
    {partly : List Token → α → Prop} {between : List Token → α → Reader → Prop}
    (begins : Repairs first reader partly)
    (ends : ∀ tokens value, partly tokens value → ∃ result, shape tokens result)
    (yields : Yields first reader between)
    (later : ∀ tokens value middle, between tokens value middle →
      Repairs (next value) middle fun rest => shape (tokens ++ rest)) :
    Repairs (first >>= next) reader shape := by
  refine begins.bind_of (fun tokens value holds => .nil ?_) yields later
  rw [List.append_nil]
  exact ends tokens value holds

theorem Repairs.map {first : Parse α} {partly : List Token → α → Prop} (value : α → β)
    (begins : Repairs first reader partly)
    (implies : ∀ tokens found, partly tokens found → ∃ result, shape tokens result) :
    Repairs (do return value (← first)) reader shape := by
  intro fault after ran misplaced
  rcases bind_failure ran with failed | ⟨_, _, _, done⟩
  · obtain ⟨taken, rest, same, completes⟩ := begins fault after failed misplaced
    refine ⟨taken, rest, same, completes.mono fun tokens done => ?_⟩
    obtain ⟨found, holds⟩ := done
    exact implies _ found holds
  · cases done

theorem Repairs.of_mends {part : Parse β} (kinds : List TokenKind)
    (mends : Mends part reader kinds shape) : Repairs part reader shape :=
  mends.repairs

theorem Mends.pure {value : β} (holds : shape [] value) :
    Mends (Pure.pure value) reader [] shape :=
  ⟨.nil ⟨value, holds⟩, .pure value⟩

theorem Mends.bind {first : Parse α} {next : α → Parse β} {between : List Token → α → Prop}
    (begins : Mends first reader one between)
    (yields : Yields first reader fun tokens value _ => between tokens value)
    (later : ∀ tokens value middle, between tokens value →
      Mends (next value) middle other fun rest => shape (tokens ++ rest)) :
    Mends (first >>= next) reader (one ++ other) shape := by
  have ends (tokens : List Token) (value : α) (holds : between tokens value) :=
    (later tokens value reader holds).afresh
  refine ⟨begins.afresh.append fun tokens done => done.elim (ends tokens), ?_⟩
  exact begins.repairs.bind_of ends yields fun tokens value middle holds =>
    (later tokens value middle holds).repairs

theorem Mends.expect {next : Token → Parse β} (neutral : kind.neutral = true)
    (later : ∀ token middle, token.kind = kind →
      Mends (next token) middle kinds fun rest => shape (token :: rest)) :
    Mends (Parse.expect kind >>= next) reader (kind :: kinds) shape := by
  have afresh : Completes (kind :: kinds) fun tokens => ∃ value, shape tokens value :=
    .cons neutral fun token found => (later token reader found).afresh
  refine ⟨afresh, ?_⟩
  unfold Parse.expect
  rw [bind_assoc]
  refine .peek ?_
  split
  · rename_i found
    rw [← Reader.look_next] at found
    exact .take (by rw [found]; exact ordinary_of_neutral neutral) (later _ _ found).repairs
  · intro fault after ran _
    cases ran
    exact ⟨[], kind :: kinds, rfl, afresh⟩

theorem Mends.accept {next : Bool → Parse β} (ordinary : Ordinary kind)
    (present : ∀ token middle, token.kind = kind →
      Repairs (next true) middle fun rest => shape (token :: rest))
    (absent : ∀ middle, Mends (next false) middle kinds shape) :
    Mends (Parse.accept kind >>= next) reader kinds shape := by
  refine ⟨(absent reader).afresh, ?_⟩
  unfold Parse.accept
  rw [bind_assoc]
  refine .peek ?_
  split
  · rename_i found
    rw [← Reader.look_next] at found
    rw [bind_assoc]
    exact .take (by rw [found]; exact ordinary) (present _ _ found)
  · exact (absent _).repairs

end

section
variable {element : Parse α} {kinds : List TokenKind} {item : List Token → α → Prop}
  {more all : List Token → List α → Prop}
  (elements : ∀ reader, Mends element reader kinds item)
  (read : ∀ reader, Yields element reader fun tokens value _ => item tokens value)
include elements read

theorem afterComma_mends (reader : Reader) :
    Mends (afterComma element) reader [] (Separated item) := by
  refine .accept (by decide) (fun comma middle separates => ?_) fun middle => .pure rfl
  refine Mends.repairs <| (elements middle).bind (read middle) fun tokens value last holds =>
    .pure ⟨comma, tokens, separates, holds, by rw [List.append_nil]⟩

theorem afterCommas_mends (done : more [] [])
    (step : ∀ comma tokens value rest values, comma.kind = .comma → item tokens value →
      more rest values → more (comma :: (tokens ++ rest)) (value :: values)) (reader : Reader) :
    Mends (repeating (afterComma element)) reader [] more := by
  have within (bound : Nat) (reader : Reader) :
      Mends (repeatWithin (afterComma element) bound) reader [] more := by
    induction bound generalizing reader with
    | zero => exact .pure done
    | succ bound ih =>
      refine (afterComma_mends elements read reader).bind (afterComma_yields read reader)
        fun tokens found middle holds => ?_
      cases found with
      | none =>
        subst holds
        exact .pure done
      | some value =>
        obtain ⟨comma, inner, separates, holds, rfl⟩ := holds
        refine (ih middle).bind (commasWithin_yields read done step bound middle)
          fun rest values last others => .pure ?_
        rw [List.append_nil, List.cons_append]
        exact step comma inner value rest values separates holds others
  exact ⟨.nil ⟨[], done⟩, fun fault after ran => (within _ reader).repairs fault after ran⟩

theorem sequence_mends (done : more [] [])
    (step : ∀ comma tokens value rest values, comma.kind = .comma → item tokens value →
      more rest values → more (comma :: (tokens ++ rest)) (value :: values))
    (first : ∀ tokens value rest values, item tokens value → more rest values →
      all (tokens ++ rest) (value :: values))
    {closing : TokenKind} (neutral : closing.neutral = true) (reader : Reader) :
    Mends (sequence element closing) reader (kinds ++ [closing]) fun tokens values =>
      ∃ inside token, tokens = inside ++ [token] ∧ token.kind = closing ∧ all inside values := by
  refine .accept (ordinary_of_neutral neutral) (fun token middle closes => .pure _) fun middle => ?_
  refine (elements middle).bind (read middle) fun tokens value last holds => ?_
  refine (afterCommas_mends elements read done step last).bind
    (afterCommas_yields read done step last) fun rest values after others => ?_
  refine .expect neutral fun token final closes => .pure ?_
  refine ⟨tokens ++ rest, token, ?_, closes, first tokens value rest values holds others⟩
  simp

end

/-- Lines that are broken off can be completed, if every line can. The loop starts before a line or
at the end of one; both are needed to go on. -/
theorem LineLoop.repairs {step : Parse (Option (Option Stmt))} {stops : TokenKind → Prop}
    (loop : LineLoop step some stops) (reads : ReadsStatements step some stops)
    (line : ∀ reader, ¬ stops reader.next.kind → reader.next.kind ≠ .newLine →
      Repairs step reader fun tokens _ => ∃ stmt, Statement tokens stmt) (reader : Reader) :
    Repairs (repeating step) reader fun tokens _ => (∃ stmts, Lines tokens stmts) ∧
      (reader.next.kind = .newLine → ∃ stmts, MoreLines tokens stmts) := by
  -- Every item takes a character or more, so the induction is on what is left of the source.
  induction length : reader.scanner.rest.length using Nat.strong_induction_on
    generalizing reader with
  | _ size ih =>
    have loop_run := repeating_eq loop.advances reader
    by_cases stopped : stops reader.next.kind
    · intro fault after ran
      rw [loop_run, bind_ok (loop.at_stop reader stopped)] at ran
      cases ran
    by_cases ended : reader.next.kind = .newLine
    · obtain ⟨item, stepped, _⟩ := loop.at_lineEnd reader ended
      have ordinary : Ordinary reader.next.kind := by rw [ended]; decide
      have others := ih _ (length ▸ loop.advances _ _ _ stepped) reader.advance rfl
      refine .passing [reader.next] (others.map (item :: ·) fun tokens _ whole => ?_)
        (loop_run.trans (bind_ok stepped)) (Reader.remaining_cons ordinary.1 ordinary.2)
      obtain ⟨⟨stmts, lines⟩, _⟩ := whole
      exact ⟨[], ⟨stmts, lines.lineEnd ended⟩, fun _ => ⟨stmts, .of_lines ended lines⟩⟩
    cases stepped : step.run reader with
    | error exit last =>
      intro fault after ran misplaced
      rw [loop_run, bind_error stepped] at ran
      cases ran
      obtain ⟨taken, rest, coming, completes⟩ :=
        line reader stopped ended exit last stepped misplaced
      refine ⟨taken, rest, coming, completes.mono fun tokens whole => ?_⟩
      obtain ⟨_, stmt, statement⟩ := whole
      have lines := Lines.of_statement statement (.done (List.forall_mem_nil _))
      rw [List.append_nil] at lines
      exact ⟨[], ⟨_, lines⟩, fun line_end => absurd line_end ended⟩
    | ok found middle =>
      obtain ⟨item, rfl, described⟩ := reads reader stopped ended found middle stepped
      obtain ⟨tokens, coming, statement, closed⟩ := described item rfl
      rcases closed with line_end | stopped
      · have others := ih _ (length ▸ loop.advances _ _ _ stepped) middle rfl
        refine .passing tokens (others.map (item :: ·) fun rest _ whole => ?_)
          (loop_run.trans (bind_ok stepped)) coming
        obtain ⟨stmts, later⟩ := whole.2 line_end
        exact ⟨[], ⟨_, .of_statement statement later⟩, fun line_end => absurd line_end ended⟩
      · -- At a stop the loop ends without a fault.
        intro fault after ran
        have last : (repeating step).run middle = .ok [] middle.look := by
          rw [repeating_eq loop.advances, bind_ok (loop.at_stop middle stopped), EStateM.run_pure]
        rw [loop_run, bind_ok stepped] at ran
        dsimp only at ran
        rw [bind_ok last] at ran
        cases ran

theorem LineLoop.mends {step : Parse (Option (Option Stmt))} {stops : TokenKind → Prop}
    (loop : LineLoop step some stops) (reads : ReadsStatements step some stops)
    (line : ∀ reader, ¬ stops reader.next.kind → reader.next.kind ≠ .newLine →
      Repairs step reader fun tokens _ => ∃ stmt, Statement tokens stmt) (reader : Reader) :
    Mends (repeating step) reader [] fun tokens items => Lines tokens (items.filterMap id) := by
  refine ⟨.nil ⟨[], .blank (List.forall_mem_nil _)⟩, fun fault after ran misplaced => ?_⟩
  obtain ⟨taken, rest, coming, completes⟩ :=
    loop.repairs reads line reader fault after ran misplaced
  refine ⟨taken, rest, coming, completes.mono fun tokens whole => ?_⟩
  obtain ⟨_, ⟨stmts, lines⟩, _⟩ := whole
  exact ⟨stmts.map some, by rwa [List.filterMap_map, Function.id_comp, List.filterMap_some]⟩

/-- Expressions that are broken off can be completed, and a name can stand in place of any. -/
def MendsExpressions (expr : Precedence → Parse Expr) : Prop :=
  ∀ floor reader, Mends (expr floor) reader [.identifier] (Expression floor.stratum)

theorem completes_name (stratum : Stratum) :
    Completes [.identifier] fun tokens => ∃ value, Expression stratum tokens value := by
  refine .cons rfl fun name named => .nil ⟨.identifier name, ?_⟩
  have alone : Expression .primary [name] (.identifier name) := .identifier named
  exact alone.loosen (by cases stratum <;> decide)

theorem parameters_mends (reader : Reader) :
    Mends (sequence (expect .identifier) .rightParen) reader [.identifier, .rightParen]
      fun tokens names => ∃ inside token, tokens = inside ++ [token] ∧ token.kind = .rightParen ∧
        Parameters inside names := by
  have mends (reader : Reader) : Mends (expect .identifier) reader [.identifier]
      fun tokens name => tokens = [name] ∧ name.kind = .identifier := by
    rw [← bind_pure (expect .identifier)]
    exact .expect rfl fun name _ named => .pure ⟨rfl, named⟩
  have named (reader : Reader) : Yields (expect .identifier) reader fun tokens name _ =>
      tokens = [name] ∧ name.kind = .identifier := by
    rw [← bind_pure (expect .identifier)]
    exact .expect (by decide) fun name _ kind => .pure ⟨rfl, kind⟩
  refine sequence_mends mends named MoreParameters.done ?_ ?_ rfl reader
  · rintro comma _ name rest names separates ⟨rfl, kind⟩ others
    exact .more separates kind others
  · rintro _ name rest names ⟨rfl, kind⟩ others
    exact .first kind others

theorem pragma_repairs {reader : Reader} (tilde : reader.next.kind = .tilde) :
    Repairs pragma reader Statement := by
  intro fault after ran _
  by_cases named : reader.advance.next.kind = .identifier
  · rw [pragma_named named] at ran
    cases ran
  · rw [pragma_unnamed named] at ran
    cases ran
    refine ⟨[reader.next], [.identifier], ?_, .cons rfl fun name named => .nil ?_⟩
    · rw [Reader.remaining_tilde tilde named, Reader.remaining_look]
      rfl
    · exact ⟨none, .pragma tilde named⟩

section
variable {expr : Precedence → Parse Expr} (reads : ReadsExpressions expr)
  (mends : MendsExpressions expr)
include reads mends

theorem statement_mends (reader : Reader) :
    Mends (statement expr) reader [.identifier] Statement := by
  refine ⟨(completes_name .equality).mono fun _ named => ?_, ?_⟩
  · obtain ⟨value, alone⟩ := named
    exact alone.statement
  unfold statement
  refine .peek ?_
  split
  · rename_i word
    refine .take (by rw [Reader.look_next, word]; decide) ?_
    refine .of_mends [.identifier, .assign, .identifier] ?_
    refine .expect rfl fun name _ named => ?_
    refine .expect rfl fun sign _ assigns => ?_
    refine (mends .lowest _).bind (reads.yields .lowest _) fun tokens value _ bound => .pure ?_
    simpa [word] using Statement.binding (by simpa using word) named assigns bound
  · rename_i word
    refine .take (by rw [Reader.look_next, word]; decide) ?_
    refine .of_mends [.identifier] ?_
    refine (mends .lowest _).bind (reads.yields .lowest _) fun tokens value _ given => .pure ?_
    simpa using Statement.result (by simpa using word) given
  · rename_i tilde
    exact pragma_repairs (by rw [Reader.look_next, tilde])
  · exact (mends .lowest _).repairs.map _ fun _ _ alone => alone.statement

theorem blockItem_repairs {reader : Reader}
    (goes_on : ¬ (reader.next.kind = .rightBrace ∨ reader.next.kind = .endOfInput))
    (no_line : reader.next.kind ≠ .newLine) :
    Repairs (blockItem expr) reader fun tokens _ => ∃ stmt, Statement tokens stmt := by
  unfold blockItem
  refine .peek ?_
  split
  · exact absurd (Or.inl ‹_›) goes_on
  · exact absurd (Or.inr ‹_›) goes_on
  · exact absurd ‹_› no_line
  · refine (statement_mends reads mends _).repairs.bind_ended
      (fun _ stmt line => ⟨none, stmt, line⟩) (statement_yields reads _)
      fun tokens stmt middle line => .peek ?_
    split
    · exact .pure _
    · exact .pure _
    · exact .pure _
    · exact .throw (.nil ⟨none, stmt, by rwa [List.append_nil]⟩) _

theorem arguments_repairs (reader : Reader) :
    Repairs (sequence (expr .lowest) .rightParen) reader fun tokens exprs =>
      ∃ inside token, tokens = inside ++ [token] ∧ token.kind = .rightParen ∧
        Arguments inside exprs := by
  refine .of_mends [.identifier, .rightParen] ?_
  refine sequence_mends (mends .lowest) (reads.yields .lowest) MoreArguments.done ?_ ?_ rfl reader
  · intro comma tokens value rest values separates derived others
    exact .more separates derived others
  · intro tokens value rest values derived others
    exact .first derived others

/-- A link that is broken off binds, once it is completed, as its operator does. -/
theorem link_repairs {stratum : Stratum} {before : List Token} {left : Expr} {reader : Reader}
    {token : Token} (read : Expression stratum before left)
    (binds : 0 < token.kind.precedence.rank)
    (closed : token.kind.precedence.rank ≤ stratum.rank + 1) :
    Repairs (link expr left token) reader fun tokens value =>
      ∃ looser : Stratum, token.kind.precedence.rank = looser.rank + 1 ∧
        Expression looser (before ++ token :: tokens) value := by
  unfold link
  split
  · rename_i op operator
    obtain ⟨looser, belongs, next, rank⟩ := BinaryOp.stratum_of_kind operator
    have first : Expression looser before left := read.loosen (by omega)
    refine .of_mends [.identifier] ?_
    refine (mends _ reader).bind (reads.yields _ reader) fun tokens right after second => .pure ?_
    rw [List.append_nil]
    exact ⟨looser, rank, .binary next first belongs second⟩
  · rename_i plain
    have opens := TokenKind.opens_call plain binds
    rw [opens] at closed
    have first : Expression .call before left := read.loosen (Nat.le_of_succ_le_succ closed)
    refine (arguments_repairs reads mends reader).map _ fun tokens arguments given => ?_
    obtain ⟨inside, closing, rfl, closes, given⟩ := given
    exact ⟨_, .call, by rw [opens]; rfl, .call first opens given closes⟩

variable (consumes : ∀ floor, Consumes (expr floor))
include consumes

theorem block_mends (reader : Reader) :
    Mends (block expr) reader [.leftBrace, .rightBrace] Braces := by
  refine .expect rfl fun opening middle opens => ?_
  have items := (blockItem_lineLoop consumes).mends (blockItem_readsStatements reads)
    (fun _ => blockItem_repairs reads mends) middle
  refine items.bind (blockItems_yields reads consumes middle) fun inside found last lines => ?_
  refine .expect rfl fun closing after closes => .pure ?_
  exact .mk opens lines closes

theorem operand_repairs {token : Token} (starts : startsExpression token.kind = true)
    (reader : Reader) :
    Repairs (operand expr token) reader
      fun tokens value => Expression .unary (token :: tokens) value := by
  have blocks := block_mends reads mends consumes
  have unary {op : UnaryOp} (operator : unary? token.kind = some op) :
      Repairs (do return .unary token op (← expr .unary) : Parse Expr) reader
        fun tokens value => Expression .unary (token :: tokens) value := by
    refine .of_mends [.identifier] ?_
    refine (mends .unary reader).bind (reads.yields .unary reader)
      fun tokens value after inner => .pure ?_
    rw [List.append_nil]
    exact .unary operator inner
  have primary {tokens : List Token} {value : Expr}
      (derived : Expression .primary (token :: tokens) value) :
      Expression .unary (token :: tokens) value := derived.loosen (by decide)
  unfold operand
  split
  · exact .pure _
  · dsimp only
    split
    · exact .pure _
    · exact .excused id
  · split
    · exact .pure _
    · exact .excused id
  · exact .pure _
  · exact .pure _
  · exact .pure _
  · exact unary (by simp [*, unary?])
  · exact unary (by simp [*, unary?])
  · rename_i opens
    refine .of_mends [.identifier, .rightParen] ?_
    refine (mends .lowest reader).bind (reads.yields .lowest reader)
      fun inside value middle inner => ?_
    refine .expect rfl fun closing after closes => .pure (primary ?_)
    exact .group opens inner closes
  · rename_i word
    refine .of_mends [.leftParen, .identifier, .rightParen, .leftBrace, .rightBrace] ?_
    refine .expect rfl fun opening _ opens => ?_
    refine (mends .lowest _).bind (reads.yields .lowest _) fun inside condition _ asked => ?_
    refine .expect rfl fun closing _ closes => ?_
    refine (blocks _).bind (block_yields reads consumes _) fun first consequence _ holds => ?_
    refine .accept (by decide) (fun other _ otherwise => ?_) fun _ => .pure (primary ?_)
    · refine .of_mends [.leftBrace, .rightBrace] ?_
      refine (blocks _).bind (block_yields reads consumes _) fun second alternative _ fails =>
        .pure (primary ?_)
      simpa using Expression.alternative word opens asked closes holds otherwise fails
    · simpa using Expression.conditional word opens asked closes holds
  · rename_i word
    refine .of_mends [.leftParen, .identifier, .rightParen, .leftBrace, .rightBrace] ?_
    refine .expect rfl fun opening _ opens => ?_
    refine (parameters_mends _).bind (parameters_yields _) fun _ names _ named => ?_
    obtain ⟨inside, closing, rfl, closes, named⟩ := named
    refine (blocks _).bind (block_yields reads consumes _) fun code body _ runs =>
      .pure (primary ?_)
    simpa using Expression.function word opens named closes runs
  · -- No other token starts an expression.
    exfalso
    unfold startsExpression at starts
    split at starts <;> simp_all

end

theorem tooDeep_repairs {shape : List Token → α → Prop} (limit : Nat) (reader : Reader) :
    Repairs (tooDeep limit) reader shape := by
  intro fault after ran misplaced
  cases ran
  exact misplaced.elim

theorem links_repairs (limit budget : Nat) (floor : Precedence)
    (mends : ∀ smaller < budget, MendsExpressions (expression limit smaller)) {stratum : Stratum}
    {before : List Token} {left : Expr} {reader : Reader} (read : Reads stratum before left reader)
    (above : floor.stratum.rank ≤ stratum.rank) :
    Repairs (links limit budget floor left) reader
      fun tokens value => Expression floor.stratum (before ++ tokens) value := by
  -- The stratum is that of the expression read so far. A link loosens it, never below the floor.
  induction budget generalizing stratum before left reader with
  | zero =>
    unfold links continues
    rw [bind_assoc]
    refine .peek ?_
    rw [pure_bind]
    split
    · exact tooDeep_repairs limit _
    · exact .pure _
  | succ budget ih =>
    unfold links continues
    rw [bind_assoc]
    refine .peek ?_
    rw [pure_bind]
    split
    · rename_i goes_on
      have binds : floor.rank < reader.next.kind.precedence.rank := of_decide_eq_true goes_on
      have some_rank : 0 < reader.next.kind.precedence.rank := Nat.zero_lt_of_lt binds
      have floor_rank := floor.stratum_rank_le.1
      have reads := expression_reads limit budget
      refine .take (by rw [Reader.look_next]; exact TokenKind.ordinary_of_binds some_rank) ?_
      rw [Reader.look_next, Reader.look_advance]
      refine (link_repairs reads (mends budget (Nat.lt_succ_self _)) read.derived some_rank
        read.closed).bind_ended (fun tokens value linked => ?_)
        (link_yields reads read.derived some_rank read.closed) fun tokens value middle linked => ?_
      · obtain ⟨looser, rank, derived⟩ := linked
        exact ⟨value, derived.loosen (by omega)⟩
      · obtain ⟨looser, rank, more⟩ := linked
        simpa using ih (fun smaller less => mends smaller (Nat.lt_succ_of_lt less)) more (by omega)
    · exact .pure _

theorem expression_mends (limit budget : Nat) : MendsExpressions (expression limit budget) := by
  induction budget using Nat.strong_induction_on with
  | _ budget ih =>
    intro floor reader
    refine ⟨completes_name _, ?_⟩
    cases budget with
    | zero =>
      unfold expression
      exact tooDeep_repairs limit reader
    | succ budget =>
      have reads := expression_reads limit budget
      have consumes := expression_consumes limit budget
      have above := floor.stratum_rank_le.2
      unfold expression
      refine .peek ?_
      split
      · rename_i starts
        have ordinary : Ordinary reader.look.next.kind := by
          rw [Reader.look_next]
          constructor <;> intro kind <;> rw [kind] at starts <;> cases starts
        refine .take ordinary ?_
        rw [Reader.look_next, Reader.look_advance]
        refine .note ?_
        refine (operand_repairs reads (ih budget (Nat.lt_succ_self _)) consumes starts
          _).bind_ended (fun tokens value derived => ⟨value, derived.loosen above⟩)
          (operand_yields reads consumes (Scanner.next_written _) _)
          fun tokens left middle holds => ?_
        obtain ⟨stratum, high, read⟩ := holds
        exact links_repairs limit budget floor
          (fun smaller less => ih smaller (Nat.lt_succ_of_lt less)) read (by omega)
      · exact .throw (completes_name _) _

theorem line_repairs (limit : Nat) (reader : Reader) :
    Repairs (line limit) reader Statement := by
  have reads := expression_reads limit limit
  refine (statement_mends reads (expression_mends limit limit) reader).repairs.bind_ended
    (fun _ stmt line => ⟨stmt, line⟩) (statement_yields reads reader)
    fun tokens stmt middle line => .peek ?_
  split
  · exact .pure _
  · exact .pure _
  · exact .throw (.nil ⟨stmt, by rwa [List.append_nil]⟩) _

/-- What has been read of a source before its first misplaced token can be completed to a source by
the rules of the grammar. -/
theorem strictLines_repairs (limit : Nat) (reader : Reader) :
    Repairs (strictLines limit) reader fun tokens items => Lines tokens (items.filterMap id) := by
  refine Mends.repairs ((strictItem_lineLoop limit).mends (strictItem_readsStatements limit)
    (fun reader no_end no_line => ?_) reader)
  have begun : Repairs (do return some (← line limit)) reader.look
      fun tokens _ => ∃ stmt, Statement tokens stmt :=
    (line_repairs limit reader.look).map _ fun _ stmt line => ⟨none, stmt, line⟩
  exact begun.passing [] (strictItem_at_line no_end no_line) (Reader.remaining_look reader).symm

end Parse

end Polyglot
