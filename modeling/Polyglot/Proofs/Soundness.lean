import Polyglot.Proofs.Lines
import Polyglot.Proofs.Strata
import Polyglot.Proofs.Switching

/-! Whatever is parsed with success was written by the rules of the grammar, and its tree is the
tree of those rules. This holds under every nesting limit. -/
namespace Polyglot

namespace Parse
variable {α β : Type}

/-- Whenever the part succeeds, the tokens it has taken, its value and the reader that it leaves are
as described. -/
def Yields (part : Parse α) (reader : Reader) (described : List Token → α → Reader → Prop) : Prop :=
  ∀ value after, part.run reader = .ok value after →
    ∃ tokens, reader.remaining = tokens ++ after.remaining ∧ described tokens value after

theorem Yields.pure {value : α} {reader : Reader} {described : List Token → α → Reader → Prop}
    (holds : described [] value reader) : Yields (Pure.pure value) reader described := by
  intro result after ran
  cases ran
  exact ⟨[], rfl, holds⟩

theorem Yields.throw (fault : SyntaxFault) (reader : Reader)
    (described : List Token → α → Reader → Prop) :
    Yields (MonadExcept.throw fault) reader described := by
  intro result after ran
  cases ran

theorem Yields.bind {first : Parse α} {next : α → Parse β} {reader : Reader}
    {between : List Token → α → Reader → Prop} {described : List Token → β → Reader → Prop}
    (begins : Yields first reader between)
    (later : ∀ tokens value middle, between tokens value middle →
      Yields (next value) middle fun rest => described (tokens ++ rest)) :
    Yields (first >>= next) reader described := by
  intro result last ran
  obtain ⟨value, middle, begun, ended⟩ := bind_success ran
  obtain ⟨tokens, before, holds⟩ := begins value middle begun
  obtain ⟨rest, after, done⟩ := later tokens value middle holds result last ended
  exact ⟨tokens ++ rest, by rw [before, after, List.append_assoc], done⟩

theorem Yields.mono {part : Parse α} {reader : Reader}
    {described weaker : List Token → α → Reader → Prop} (yields : Yields part reader described)
    (implies : ∀ tokens value after, described tokens value after → weaker tokens value after) :
    Yields part reader weaker := by
  intro value after ran
  obtain ⟨tokens, same, holds⟩ := yields value after ran
  exact ⟨tokens, same, implies tokens value after holds⟩

theorem Yields.peek {next : Token → Parse β} {reader : Reader}
    {described : List Token → β → Reader → Prop}
    (later : Yields (next reader.next) reader.look described) :
    Yields (Parse.peek >>= next) reader described := by
  intro result last ran
  rw [bind_ok (peek_run reader)] at ran
  obtain ⟨tokens, same, holds⟩ := later result last ran
  exact ⟨tokens, by rw [← same, Reader.remaining_look], holds⟩

theorem Yields.note {event : Event} {next : Unit → Parse β} {reader : Reader}
    {described : List Token → β → Reader → Prop}
    (later : Yields (next ()) (reader.noting event) described) :
    Yields (Parse.note event >>= next) reader described := by
  intro result last ran
  rw [bind_ok (note_run event reader)] at ran
  exact later result last ran

/-- The kinds of tokens that may be taken one by one: neither the end nor the start of a pragma. -/
def Ordinary (kind : TokenKind) : Prop :=
  kind ≠ .endOfInput ∧ kind ≠ .tilde

instance (kind : TokenKind) : Decidable (Ordinary kind) :=
  inferInstanceAs (Decidable (_ ∧ _))

theorem Yields.take {next : Token → Parse β} {reader : Reader}
    {described : List Token → β → Reader → Prop} (ordinary : Ordinary reader.next.kind)
    (later : Yields (next reader.next) reader.advance
      fun rest => described (reader.next :: rest)) :
    Yields (Parse.take >>= next) reader described := by
  intro result last ran
  rw [bind_ok (take_run reader)] at ran
  obtain ⟨tokens, same, holds⟩ := later result last ran
  refine ⟨reader.next :: tokens, ?_, holds⟩
  rw [Reader.remaining_cons ordinary.1 ordinary.2, same, List.cons_append]

theorem Yields.expect {next : Token → Parse β} {reader : Reader} {kind : TokenKind}
    {described : List Token → β → Reader → Prop} (ordinary : Ordinary kind)
    (later : ∀ token middle, token.kind = kind →
      Yields (next token) middle fun rest => described (token :: rest)) :
    Yields (Parse.expect kind >>= next) reader described := by
  intro result last ran
  obtain ⟨token, middle, begun, ended⟩ := bind_success ran
  rw [expect_run] at begun
  split at begun
  · rename_i found
    cases begun
    obtain ⟨tokens, same, holds⟩ := later _ _ found result last ended
    refine ⟨reader.next :: tokens, ?_, holds⟩
    rw [Reader.remaining_cons (by rw [found]; exact ordinary.1) (by rw [found]; exact ordinary.2),
      same, List.cons_append]
  · cases begun

theorem Yields.accept {next : Bool → Parse β} {reader : Reader} {kind : TokenKind}
    {described : List Token → β → Reader → Prop} (ordinary : Ordinary kind)
    (present : ∀ token middle, token.kind = kind →
      Yields (next true) middle fun rest => described (token :: rest))
    (absent : reader.next.kind ≠ kind → Yields (next false) reader.look described) :
    Yields (Parse.accept kind >>= next) reader described := by
  intro result last ran
  obtain ⟨found, middle, begun, ended⟩ := bind_success ran
  rw [accept_run] at begun
  split at begun
  · rename_i found
    cases begun
    obtain ⟨tokens, same, holds⟩ := present _ reader.advance found result last ended
    refine ⟨reader.next :: tokens, ?_, holds⟩
    rw [Reader.remaining_cons (by rw [found]; exact ordinary.1) (by rw [found]; exact ordinary.2),
      same, List.cons_append]
  · rename_i other
    cases begun
    obtain ⟨tokens, same, holds⟩ := absent other result last ended
    exact ⟨tokens, by rw [← same, Reader.remaining_look], holds⟩

section
variable {element : Parse α} {item : List Token → α → Prop}
  {more : List Token → List α → Prop} {all : List Token → List α → Prop}

/-- A comma and an element behind it, or nothing. -/
def Separated (item : List Token → α → Prop) (tokens : List Token) (found : Option α) : Prop :=
  found.elim (tokens = []) fun value => ∃ comma inner, comma.kind = .comma ∧ item inner value ∧
    tokens = comma :: inner

theorem afterComma_yields
    (read : ∀ reader, Yields element reader fun tokens value _ => item tokens value)
    (reader : Reader) :
    Yields (afterComma element) reader fun tokens found _ => Separated item tokens found := by
  refine .accept (by decide) (fun comma middle separates => ?_) fun _ => .pure rfl
  refine (read middle).bind fun tokens value last holds => .pure ?_
  exact ⟨comma, tokens, separates, holds, by rw [List.append_nil]⟩

theorem commasWithin_yields
    (read : ∀ reader, Yields element reader fun tokens value _ => item tokens value)
    (done : more [] [])
    (step : ∀ comma tokens value rest values, comma.kind = .comma → item tokens value →
      more rest values → more (comma :: (tokens ++ rest)) (value :: values)) (bound : Nat)
    (reader : Reader) : Yields (repeatWithin (afterComma element) bound) reader
      fun tokens values _ => more tokens values := by
  induction bound generalizing reader with
  | zero => exact .pure done
  | succ bound ih =>
    refine (afterComma_yields read reader).bind fun tokens found middle holds => ?_
    cases found with
    | none =>
      subst holds
      exact .pure done
    | some value =>
      obtain ⟨comma, inner, separates, holds, rfl⟩ := holds
      refine (ih middle).bind fun rest values last others => .pure ?_
      rw [List.append_nil, List.cons_append]
      exact step comma inner value rest values separates holds others

theorem afterCommas_yields
    (read : ∀ reader, Yields element reader fun tokens value _ => item tokens value)
    (done : more [] [])
    (step : ∀ comma tokens value rest values, comma.kind = .comma → item tokens value →
      more rest values → more (comma :: (tokens ++ rest)) (value :: values)) (reader : Reader) :
    Yields (repeating (afterComma element)) reader fun tokens values _ => more tokens values := by
  intro values after ran
  rw [repeating_run] at ran
  exact commasWithin_yields read done step _ reader values after ran

theorem sequence_yields
    (read : ∀ reader, Yields element reader fun tokens value _ => item tokens value)
    (done : more [] [])
    (step : ∀ comma tokens value rest values, comma.kind = .comma → item tokens value →
      more rest values → more (comma :: (tokens ++ rest)) (value :: values))
    (empty : all [] [])
    (first : ∀ tokens value rest values, item tokens value → more rest values →
      all (tokens ++ rest) (value :: values))
    {closing : TokenKind} (ordinary : Ordinary closing) (reader : Reader) :
    Yields (sequence element closing) reader fun tokens values _ =>
      ∃ inside token, tokens = inside ++ [token] ∧ token.kind = closing ∧ all inside values := by
  refine .accept ordinary (fun token middle closes => .pure ⟨[], token, rfl, closes, empty⟩)
    fun _ => ?_
  refine (read _).bind fun tokens value middle holds => ?_
  refine (afterCommas_yields read done step middle).bind fun rest values last others => ?_
  refine .expect ordinary fun token after closes => .pure ?_
  refine ⟨tokens ++ rest, token, ?_, closes, first tokens value rest values holds others⟩
  simp

end

end Parse

namespace Grammar

theorem Lines.lineEnd {token : Token} {tokens : List Token} {stmts : List Stmt}
    (ends : token.kind = .newLine) (lines : Lines tokens stmts) :
    Lines (token :: tokens) stmts := by
  cases lines with
  | blank empty => exact .blank (List.forall_mem_cons.mpr ⟨ends, empty⟩)
  | first empty line others =>
    exact .first (List.forall_mem_cons.mpr ⟨ends, empty⟩) line others

theorem MoreLines.of_lines {token : Token} {tokens : List Token} {stmts : List Stmt}
    (ends : token.kind = .newLine) (lines : Lines tokens stmts) :
    MoreLines (token :: tokens) stmts := by
  cases lines with
  | blank empty => exact .done (List.forall_mem_cons.mpr ⟨ends, empty⟩)
  | first empty line others =>
    exact .more (List.forall_mem_cons.mpr ⟨ends, empty⟩) (List.cons_ne_nil _ _) line others

theorem Lines.of_statement {tokens rest : List Token} {stmt : Option Stmt} {stmts : List Stmt}
    (line : Statement tokens stmt) (others : MoreLines rest stmts) :
    Lines (tokens ++ rest) (stmt.toList ++ stmts) :=
  .first (List.forall_mem_nil _) line others

end Grammar

namespace Parse
open Grammar
variable {α β : Type}

/-- What a loop reads that is neither a stop nor the end of a line is a statement by the rules of
the grammar, and the line ends behind it. -/
def ReadsStatements (step : Parse (Option β)) (shows : β → Option (Option Stmt))
    (stops : TokenKind → Prop) : Prop :=
  ∀ reader, ¬ stops reader.next.kind → reader.next.kind ≠ .newLine →
    ∀ found after, step.run reader = .ok found after →
      ∃ item, found = some item ∧ ∀ stmt, shows item = some stmt →
        ∃ tokens, reader.remaining = tokens ++ after.remaining ∧ Statement tokens stmt ∧
          (after.next.kind = .newLine ∨ stops after.next.kind)

/-- What a loop has read without a fault are lines. The loop starts before a line or, after a
statement, at the end of one; both are needed to go on. -/
theorem LineLoop.lines {step : Parse (Option β)} {shows : β → Option (Option Stmt)}
    {stops : TokenKind → Prop} (loop : LineLoop step shows stops)
    (reads : ReadsStatements step shows stops) (reader : Reader) (items : List β) (last : Reader)
    (ran : (repeating step).run reader = .ok items last)
    (sound : ∀ item ∈ items, shows item ≠ none) :
    stops last.next.kind ∧ ∃ tokens, reader.remaining = tokens ++ last.remaining ∧
      Lines tokens (shown shows items) ∧ (reader.next.kind = .newLine ∨ stops reader.next.kind →
        MoreLines tokens (shown shows items)) := by
  -- Every item takes a character or more, so the induction is on what is left of the source.
  induction length : reader.scanner.rest.length using Nat.strong_induction_on
    generalizing reader items with
  | _ size ih =>
    rw [repeating_eq loop.advances] at ran
    by_cases stopped : stops reader.next.kind
    · rw [bind_ok (loop.at_stop reader stopped)] at ran
      cases ran
      refine ⟨by rw [Reader.look_next]; exact stopped, [], ?_, .blank (by simp [LineEnds]),
        fun _ => .done (by simp [LineEnds])⟩
      rw [Reader.remaining_look, List.nil_append]
    by_cases ended : reader.next.kind = .newLine
    · obtain ⟨item, stepped, empty⟩ := loop.at_lineEnd reader ended
      rw [bind_ok stepped] at ran
      obtain ⟨others, after, rest, done⟩ := bind_success ran
      cases done
      have shorter := loop.advances _ _ _ stepped
      obtain ⟨end_found, tokens, coming, lines, _⟩ := ih _ (length ▸ shorter) _ others rest
        (fun other member => sound other (List.mem_cons_of_mem _ member)) rfl
      have same : shown shows (item :: others) = shown shows others := by
        simp [shown, empty]
      refine ⟨end_found, reader.next :: tokens, ?_, same ▸ lines.lineEnd ended,
        fun _ => same ▸ .of_lines ended lines⟩
      rw [Reader.remaining_cons (by rw [ended]; decide) (by rw [ended]; decide), coming,
        List.cons_append]
    · obtain ⟨found, after, stepped, rest⟩ := bind_success ran
      obtain ⟨item, rfl, described⟩ := reads reader stopped ended found after stepped
      obtain ⟨others, final, later, done⟩ := bind_success rest
      cases done
      obtain ⟨stmt, shown_item⟩ := Option.ne_none_iff_exists'.mp (sound item List.mem_cons_self)
      obtain ⟨tokens, coming, statement, closed⟩ := described stmt shown_item
      have shorter := loop.advances _ _ _ stepped
      obtain ⟨end_found, tail, following, _, more⟩ := ih _ (length ▸ shorter) after others later
        (fun other member => sound other (List.mem_cons_of_mem _ member)) rfl
      have same : shown shows (item :: others) = stmt.toList ++ shown shows others := by
        cases stmt <;> simp [shown, shown_item]
      refine ⟨end_found, tokens ++ tail, ?_, ?_,
        fun either => absurd either (by simp [ended, stopped])⟩
      · rw [coming, following, List.append_assoc]
      · rw [same]
        exact .of_statement statement (more closed)

/-- Expressions are read by the rules of the grammar, and as far as they bind above the floor. -/
def ReadsExpressions (expr : Precedence → Parse Expr) : Prop :=
  ∀ floor reader, Yields (expr floor) reader fun tokens value after =>
    Expression floor.stratum tokens value ∧ after.next.kind.precedence.rank ≤ floor.rank

theorem ReadsExpressions.yields {expr : Precedence → Parse Expr} (reads : ReadsExpressions expr)
    (floor : Precedence) (reader : Reader) :
    Yields (expr floor) reader fun tokens value _ => Expression floor.stratum tokens value :=
  (reads floor reader).mono fun _ _ _ derived => derived.1

/-- An expression of this stratum, followed by nothing that binds tighter than the links of the
stratum do. So what comes next can only be a link of this stratum or a looser one. -/
structure Reads (stratum : Stratum) (tokens : List Token) (value : Expr) (after : Reader) :
    Prop where
  derived : Expression stratum tokens value
  closed : after.next.kind.precedence.rank ≤ stratum.rank + 1

theorem Reads.primary {tokens : List Token} {value : Expr} {after : Reader}
    (derived : Expression .primary tokens value) : Reads .primary tokens value after :=
  ⟨derived, Nat.le_succ_of_le (Precedence.rank_le _)⟩

theorem parameters_yields (reader : Reader) :
    Yields (sequence (expect .identifier) .rightParen) reader fun tokens names _ =>
      ∃ inside token, tokens = inside ++ [token] ∧ token.kind = .rightParen ∧
        Parameters inside names := by
  have named (reader : Reader) : Yields (expect .identifier) reader fun tokens name _ =>
      tokens = [name] ∧ name.kind = .identifier := by
    rw [← bind_pure (expect .identifier)]
    exact .expect (by decide) fun name _ kind => .pure ⟨rfl, kind⟩
  refine sequence_yields named MoreParameters.done ?_ .empty ?_ (by decide) reader
  · rintro comma _ name rest names separates ⟨rfl, kind⟩ others
    exact .more separates kind others
  · rintro _ name rest names ⟨rfl, kind⟩ others
    exact .first kind others

section
variable {expr : Precedence → Parse Expr} (reads : ReadsExpressions expr)
include reads

theorem statement_yields (reader : Reader) :
    Yields (statement expr) reader fun tokens stmt _ => Statement tokens stmt := by
  refine .peek ?_
  split
  · rename_i word
    refine .take (by simp [word, Ordinary]) ?_
    refine .expect (by decide) fun name _ named => ?_
    refine .expect (by decide) fun sign _ assigns => ?_
    refine (reads .lowest _).bind fun tokens value _ derived => .pure ?_
    simpa [word] using Statement.binding (by simpa using word) named assigns derived.1
  · rename_i word
    refine .take (by simp [word, Ordinary]) ?_
    refine (reads .lowest _).bind fun tokens value _ derived => .pure ?_
    simpa using Statement.result (by simpa using word) derived.1
  · rename_i tilde
    intro stmt after ran
    rw [pragma_look] at ran
    by_cases named : reader.advance.next.kind = .identifier
    · rw [pragma_named named] at ran
      cases ran
      refine ⟨[reader.next, reader.advance.next], ?_, .pragma tilde named⟩
      rw [Reader.remaining_look, Reader.remaining_pragma tilde named]
      rfl
    · rw [pragma_unnamed named] at ran
      cases ran
  · intro stmt after ran
    obtain ⟨value, last, begun, ended⟩ := bind_success ran
    cases ended
    obtain ⟨tokens, coming, derived, _⟩ := reads .lowest _ _ _ begun
    obtain ⟨first, rest, rfl⟩ := List.exists_cons_of_ne_nil derived.tokens_ne_nil
    obtain ⟨rfl, _⟩ := Reader.next_of_remaining coming
    refine ⟨_, coming, ?_⟩
    rw [Reader.look_next] at derived ⊢
    exact .expression derived

theorem blockItem_readsStatements :
    ReadsStatements (blockItem expr) some fun kind => kind = .rightBrace ∨ kind = .endOfInput := by
  intro reader goes_on no_line found after ran
  unfold blockItem at ran
  rw [bind_ok (peek_run reader)] at ran
  split at ran
  · exact absurd (Or.inl ‹_›) goes_on
  · exact absurd (Or.inr ‹_›) goes_on
  · exact absurd ‹_› no_line
  obtain ⟨stmt, middle, read, rest⟩ := bind_success ran
  rw [bind_ok (peek_run middle)] at rest
  have closed : found = some stmt ∧ after = middle.look ∧ (middle.next.kind = .newLine ∨
      middle.next.kind = .rightBrace ∨ middle.next.kind = .endOfInput) := by
    split at rest <;> cases rest <;> simp_all
  obtain ⟨rfl, rfl, closed⟩ := closed
  obtain ⟨tokens, coming, derived⟩ := statement_yields reads _ _ _ read
  refine ⟨stmt, rfl, fun same shows => ⟨tokens, ?_, ?_, ?_⟩⟩
  · rw [Reader.remaining_look] at coming ⊢
    exact coming
  · cases shows
    exact derived
  · rw [Reader.look_next]
    exact closed

theorem blockItems_yields (consumes : ∀ floor, Consumes (expr floor)) (reader : Reader) :
    Yields (repeating (blockItem expr)) reader
      fun tokens items _ => Lines tokens (items.filterMap id) := by
  intro items last ran
  obtain ⟨_, tokens, coming, derived, _⟩ :=
    (blockItem_lineLoop consumes).lines (blockItem_readsStatements reads) reader items last ran
      (by simp)
  exact ⟨tokens, coming, derived⟩

theorem block_yields (consumes : ∀ floor, Consumes (expr floor)) (reader : Reader) :
    Yields (block expr) reader fun tokens block _ => Braces tokens block := by
  refine .expect (by decide) fun opening middle opens => ?_
  refine (blockItems_yields reads consumes middle).bind fun inside items last derived => ?_
  refine .expect (by decide) fun closing after closes => .pure ?_
  exact .mk opens derived closes

theorem arguments_yields (reader : Reader) :
    Yields (sequence (expr .lowest) .rightParen) reader fun tokens exprs _ =>
      ∃ inside token, tokens = inside ++ [token] ∧ token.kind = .rightParen ∧
        Arguments inside exprs := by
  refine sequence_yields (reads.yields .lowest) MoreArguments.done ?_ .empty ?_ (by decide) reader
  · intro comma tokens value rest values separates derived others
    exact .more separates derived others
  · intro tokens value rest values derived others
    exact .first derived others

theorem operand_yields (consumes : ∀ floor, Consumes (expr floor)) {token : Token}
    (written : token.kind.Written token.literal.toList) (reader : Reader) :
    Yields (operand expr token) reader fun tokens value after =>
      ∃ stratum, Stratum.rank .unary ≤ stratum.rank ∧
        Reads stratum (token :: tokens) value after := by
  have primary {tokens : List Token} {value : Expr} {after : Reader}
      (derived : Expression .primary (token :: tokens) value) : ∃ stratum,
        Stratum.rank .unary ≤ stratum.rank ∧ Reads stratum (token :: tokens) value after :=
    ⟨.primary, by decide, .primary derived⟩
  have unary {op : UnaryOp} (operator : unary? token.kind = some op) :
      Yields (do return .unary token op (← expr .unary) : Parse Expr) reader
        fun tokens value after => ∃ stratum, Stratum.rank .unary ≤ stratum.rank ∧
          Reads stratum (token :: tokens) value after := by
    refine (reads .unary reader).bind fun tokens value after derived => .pure ?_
    rw [List.append_nil]
    exact ⟨.unary, Nat.le_refl _, .unary operator derived.1, derived.2⟩
  unfold operand
  split
  · exact .pure (primary (.identifier ‹_›))
  · rename_i kind
    rw [kind] at written
    dsimp only
    split
    · exact .pure (primary (.integer kind (Token.denotes_of_written written) ‹_›))
    · exact .throw _ _ _
  · rename_i kind
    split
    · rename_i read
      refine .pure (primary ?_)
      simpa [read] using Expression.float kind
    · exact .throw _ _ _
  · exact .pure (primary (.string ‹_›))
  · exact .pure (primary (.trueWord ‹_›))
  · exact .pure (primary (.falseWord ‹_›))
  · exact unary (by simp [*, unary?])
  · exact unary (by simp [*, unary?])
  · refine (reads .lowest reader).bind fun inside value middle derived => ?_
    refine .expect (by decide) fun closing after closes => .pure (primary ?_)
    exact .group ‹_› derived.1 closes
  · rename_i word
    refine .expect (by decide) fun opening _ opens => ?_
    refine (reads .lowest _).bind fun inside condition _ derived => ?_
    refine .expect (by decide) fun closing _ closes => ?_
    refine (block_yields reads consumes _).bind fun first consequence _ holds => ?_
    refine .accept (by decide) (fun other _ otherwise => ?_) fun _ => .pure (primary ?_)
    · refine (block_yields reads consumes _).bind fun second alternative _ fails =>
        .pure (primary ?_)
      simpa using Expression.alternative word opens derived.1 closes holds otherwise fails
    · simpa using Expression.conditional word opens derived.1 closes holds
  · rename_i word
    refine .expect (by decide) fun opening _ opens => ?_
    refine (parameters_yields _).bind fun _ names _ named => ?_
    obtain ⟨inside, closing, rfl, closes, named⟩ := named
    refine (block_yields reads consumes _).bind fun code body _ runs => .pure (primary ?_)
    simpa using Expression.function word opens named closes runs
  · exact .throw _ _ _

/-- One link more. What binds no tighter than the links of a stratum leaves the expression in front
of it in one piece. -/
theorem link_yields {stratum : Stratum} {before : List Token} {left : Expr} {reader : Reader}
    {token : Token} (read : Expression stratum before left)
    (binds : 0 < token.kind.precedence.rank)
    (closed : token.kind.precedence.rank ≤ stratum.rank + 1) :
    Yields (link expr left token) reader fun tokens value after =>
      ∃ looser : Stratum, token.kind.precedence.rank = looser.rank + 1 ∧
        Reads looser (before ++ token :: tokens) value after := by
  unfold link
  split
  · rename_i op operator
    obtain ⟨looser, belongs, next, rank⟩ := BinaryOp.stratum_of_kind operator
    refine (reads _ reader).bind fun tokens right after derived => .pure ?_
    rw [List.append_nil]
    have first : Expression looser before left := read.loosen (by omega)
    exact ⟨looser, rank, .binary next first belongs derived.1, by rw [← rank]; exact derived.2⟩
  · rename_i plain
    have opens := TokenKind.opens_call plain binds
    refine (arguments_yields reads reader).bind fun tokens arguments after given => .pure ?_
    obtain ⟨inside, closing, rfl, closes, given⟩ := given
    rw [opens] at closed
    have first : Expression .call before left := read.loosen (Nat.le_of_succ_le_succ closed)
    rw [List.append_nil]
    exact ⟨.call, by rw [opens]; rfl, .call first opens given closes, Precedence.rank_le _⟩

end

theorem Reads.ended {floor : Precedence} {stratum : Stratum} {before : List Token} {left : Expr}
    {reader : Reader} (read : Reads stratum before left reader)
    (above : floor.stratum.rank ≤ stratum.rank)
    (stops : ¬ floor.rank < reader.next.kind.precedence.rank) :
    Yields (pure left) reader.look fun tokens value after =>
      Expression floor.stratum (before ++ tokens) value ∧
        after.next.kind.precedence.rank ≤ floor.rank := by
  refine .pure ⟨?_, ?_⟩
  · rw [List.append_nil]
    exact read.derived.loosen above
  · rw [Reader.look_next]
    exact Nat.le_of_not_lt stops

theorem links_yields (limit budget : Nat) (floor : Precedence)
    (reads : ∀ smaller < budget, ReadsExpressions (expression limit smaller)) {stratum : Stratum}
    {before : List Token} {left : Expr} {reader : Reader} (read : Reads stratum before left reader)
    (above : floor.stratum.rank ≤ stratum.rank) :
    Yields (links limit budget floor left) reader fun tokens value after =>
      Expression floor.stratum (before ++ tokens) value ∧
        after.next.kind.precedence.rank ≤ floor.rank := by
  -- The stratum is that of the expression read so far. A link loosens it, never below the floor.
  induction budget generalizing stratum before left reader with
  | zero =>
    unfold links continues
    rw [bind_assoc]
    refine .peek ?_
    rw [pure_bind]
    split
    · intro value after ran
      cases ran
    · rename_i stops
      exact read.ended above (by simpa using stops)
  | succ budget ih =>
    unfold links continues
    rw [bind_assoc]
    refine .peek ?_
    rw [pure_bind]
    split
    · rename_i goes_on
      have binds : floor.rank < reader.next.kind.precedence.rank := by simpa using goes_on
      have some_rank : 0 < reader.next.kind.precedence.rank := by omega
      refine .take (by rw [Reader.look_next]; exact TokenKind.ordinary_of_binds some_rank) ?_
      rw [Reader.look_next, Reader.look_advance]
      refine (link_yields (reads budget (Nat.lt_succ_self _)) read.derived some_rank
        read.closed).bind fun tokens value middle holds => ?_
      obtain ⟨looser, rank, more⟩ := holds
      have floor_rank := floor.stratum_rank_le.1
      simpa using ih (fun smaller less => reads smaller (Nat.lt_succ_of_lt less)) more (by omega)
    · rename_i stops
      exact read.ended above (by simpa using stops)

theorem expression_reads (limit budget : Nat) : ReadsExpressions (expression limit budget) := by
  induction budget using Nat.strong_induction_on with
  | _ budget ih =>
    intro floor reader
    cases budget with
    | zero =>
      intro value after ran
      unfold expression at ran
      cases ran
    | succ budget =>
      have reads : ReadsExpressions (expression limit budget) := ih budget (Nat.lt_succ_self _)
      unfold expression
      refine .peek ?_
      split
      · rename_i starts
        have ordinary : Ordinary reader.look.next.kind := by
          rw [Reader.look_next]
          constructor <;> intro kind <;> rw [kind] at starts <;> cases starts
        refine .take ordinary ?_
        rw [Reader.look_next, Reader.look_advance]
        refine .note ?_
        refine (operand_yields reads (expression_consumes limit budget)
          (Scanner.next_written _) _).bind fun tokens left middle holds => ?_
        obtain ⟨stratum, high, read⟩ := holds
        have above := floor.stratum_rank_le.2
        exact links_yields limit budget floor
          (fun smaller less => ih smaller (Nat.lt_succ_of_lt less)) read (by omega)
      · exact .throw _ _ _

theorem line_yields (limit : Nat) (reader : Reader) :
    Yields (line limit) reader fun tokens stmt after => Statement tokens stmt ∧
      (after.next.kind = .newLine ∨ after.next.kind = .endOfInput) := by
  refine (statement_yields (expression_reads limit limit) reader).bind
    fun tokens stmt middle derived => ?_
  refine .peek ?_
  split
  · exact .pure ⟨by simpa using derived, by simp [*]⟩
  · exact .pure ⟨by simpa using derived, by simp [*]⟩
  · exact .throw _ _ _

theorem sourceItem_readsStatements (limit : Nat) :
    ReadsStatements (sourceItem limit) Except.toOption fun kind => kind = .endOfInput := by
  intro reader no_end no_line found after ran
  cases read : (line limit).run reader.look with
  | ok stmt middle =>
    rw [sourceItem_ok no_end no_line read] at ran
    cases ran
    refine ⟨.ok stmt, rfl, fun same shows => ?_⟩
    cases shows
    obtain ⟨tokens, coming, derived, closed⟩ := line_yields limit _ _ _ read
    rw [Reader.remaining_look] at coming
    exact ⟨tokens, coming, derived, closed⟩
  | error fault middle =>
    obtain ⟨last, skipped, _⟩ := skipLine_run middle
    rw [sourceItem_error no_end no_line read skipped] at ran
    cases ran
    exact ⟨.error fault, rfl, fun stmt shows => by cases shows⟩

/-- A source that is parsed without a fault consists of lines by the rules of the grammar, and its
statements are those of the lines. -/
theorem source_sound {limit : Nat} {reader after : Reader} {parsed : Parsed}
    (ran : (source limit).run reader = .ok parsed after) (sound : parsed.faults = []) :
    Lines reader.remaining parsed.program := by
  rw [source] at ran
  obtain ⟨items, last, read, done⟩ := bind_success ran
  cases done
  obtain ⟨ended, tokens, coming, lines, _⟩ :=
    (sourceItem_lineLoop limit).lines (sourceItem_readsStatements limit) reader items after read
      (faults_ofLines_eq_nil_iff.mp sound)
  rw [(Reader.remaining_eq_nil_iff after).mpr ended, List.append_nil] at coming
  rw [coming, ← shown_ofLines]
  exact lines

end Parse

theorem Reader.lines_of_parse {limit : Nat} {reader : Reader}
    (sound : (reader.parse limit).1.faults = []) :
    Grammar.Lines reader.remaining (reader.parse limit).1.program := by
  unfold parse at sound ⊢
  split at sound
  · rename_i parsed after ran
    exact Parse.source_sound ran sound
  · cases sound

end Polyglot
