import Polyglot.Proofs.Lines
import Polyglot.Proofs.Mapping

/-! Two readers in step. Where two texts yield corresponding tokens, the parser does corresponding
things with them: it takes the same branches, builds trees that correspond and stops at the same
faults. One text may come to its end while the other goes on with a new line; what the parser makes
of the first is then the same unless it reports a fault at the end. -/
namespace Polyglot

/-- Tokens of the same kind that are the same token in two guises. Only keywords may be spelled in
different ways. -/
structure Matches (left right : Token → Token) (one other : Token) : Prop where
  kind : one.kind = other.kind
  image : left one = right other
  literal : one.kind.keyword? = none → one.literal = other.literal

/-- The end of the text is in front, or the end of its last line. A fault there does not count. -/
inductive Ending (excused : SyntaxFault → Prop) (scanner : Scanner) : Prop
  | text (ended : scanner.next.1.kind = .endOfInput)
      (free : ∀ fault : SyntaxFault, fault.token = scanner.next.1 → excused fault)
  | line (ended : scanner.next.1.kind = .newLine)
      (last : scanner.next.2.next.1.kind = .endOfInput)
      (free : ∀ fault : SyntaxFault, fault.token = scanner.next.1 → excused fault)
      (final : ∀ fault : SyntaxFault, fault.token = scanner.next.2.next.1 → excused fault)

/-- Two scanners in step, and how their tokens are compared. -/
structure Correspondence where
  near : Scanner → Scanner → Prop
  left : Token → Token
  right : Token → Token
  /-- Faults of the first text after which nothing is said of the second. -/
  excused : SyntaxFault → Prop
  meets : ∀ {one other : Scanner}, near one other →
    Matches left right one.next.1 other.next.1 ∨ Ending excused one ∧
      (other.next.1.kind = .newLine ∨ other.next.1.kind = .endOfInput)
  passes : ∀ {one other : Scanner}, near one other →
    Matches left right one.next.1 other.next.1 → one.next.1.kind ≠ .endOfInput →
    near one.next.2 other.next.2
  switches : ∀ {one other : Scanner}, near one other → one.next.1.kind = .tilde →
    one.next.2.next.1.kind = .identifier → ∀ dialect,
    near { one.next.2.next.2 with dialect } { other.next.2.next.2 with dialect }

namespace Correspondence
variable (c : Correspondence) {α β : Type}

open Parse

/-- Readers are compared by their scanners, faults by their tokens and messages. -/
def coupling : Coupling SyntaxFault Reader Reader where
  near first second := c.near first.scanner second.scanner
  same fault image :=
    fault.mapToken c.left = image.mapToken c.right ∧ fault.message = image.message
  excused := c.excused

abbrev Agree (related : α → α → Prop) :
    EStateM.Result SyntaxFault Reader α → EStateM.Result SyntaxFault Reader α → Prop :=
  c.coupling.Agree related

abbrev InStep (related : α → α → Prop) (one other : Parse α) : Prop :=
  c.coupling.InStep related one other

variable {c} {related : α → α → Prop} {result : β → β → Prop}

theorem same_fault (fault : Token → SyntaxFault)
    (uniform : ∀ f token, (fault token).mapToken f = fault (f token)) {one other : Token}
    (same : Matches c.left c.right one other) (told : (fault one).message = (fault other).message) :
    c.coupling.same (fault one) (fault other) := by
  refine ⟨?_, told⟩
  rw [uniform, uniform, same.image]

theorem agree_peek {next later : Token → Parse β} {first second : Reader}
    (goes_on : c.Agree result ((next first.next).run first.look)
      ((later second.next).run second.look)) :
    c.Agree result ((Parse.peek >>= next).run first) ((Parse.peek >>= later).run second) := by
  rw [bind_ok (peek_run first), bind_ok (peek_run second)]
  exact goes_on

theorem near_look {first second : Reader} (near : c.near first.scanner second.scanner) :
    c.near first.look.scanner second.look.scanner := by
  rw [Reader.look_scanner, Reader.look_scanner]
  exact near

/-- What the tokens in front have in common: they match, or each ends a line or a text. -/
theorem front {first second : Reader} (near : c.near first.scanner second.scanner) :
    Matches c.left c.right first.next second.next ∨
      (first.next.kind = .newLine ∨ first.next.kind = .endOfInput) ∧
      (second.next.kind = .newLine ∨ second.next.kind = .endOfInput) ∧
      ∀ fault : SyntaxFault, fault.token = first.next → c.excused fault := by
  rcases c.meets near with same | ⟨ending, other⟩
  · exact Or.inl same
  · right
    cases ending with
    | text ended free => exact ⟨Or.inr ended, other, free⟩
    | line ended _ free _ => exact ⟨Or.inl ended, other, free⟩

theorem agree_take {next later : Token → Parse β} {first second : Reader}
    (near : c.near first.scanner second.scanner)
    (same : Matches c.left c.right first.next second.next) (more : first.next.kind ≠ .endOfInput)
    (goes_on : c.InStep result (next first.next) (later second.next)) :
    c.Agree result ((Parse.take >>= next).run first.look)
      ((Parse.take >>= later).run second.look) := by
  rw [bind_ok (take_run _), bind_ok (take_run _), Reader.look_next, Reader.look_next,
    Reader.look_advance, Reader.look_advance]
  exact goes_on _ _ (c.passes near same more)

/-- The kinds that neither end a line nor a text. -/
def Inner (kind : TokenKind) : Prop :=
  kind ≠ .newLine ∧ kind ≠ .endOfInput

instance (kind : TokenKind) : Decidable (Inner kind) :=
  inferInstanceAs (Decidable (_ ∧ _))

theorem Inner.ne {kind found : TokenKind} (inner : Inner kind)
    (ends : found = .newLine ∨ found = .endOfInput) : found ≠ kind := by
  rcases ends with rfl | rfl
  · exact inner.1.symm
  · exact inner.2.symm

theorem accept_inStep {kind : TokenKind} (inner : Inner kind) :
    c.InStep Eq (accept kind) (accept kind) := by
  intro first second near
  rw [accept_run, accept_run]
  rcases front near with same | ⟨one, other, _⟩
  · by_cases found : first.next.kind = kind
    · rw [if_pos found, if_pos (same.kind.symm.trans found)]
      exact ⟨rfl, c.passes near same (by rw [← Reader.next, found]; exact inner.2)⟩
    · rw [if_neg found, if_neg (by rw [← same.kind]; exact found)]
      exact ⟨rfl, near_look near⟩
  · rw [if_neg (inner.ne one), if_neg (inner.ne other)]
    exact ⟨rfl, near_look near⟩

theorem expect_inStep {kind : TokenKind} (inner : Inner kind) :
    c.InStep (Matches c.left c.right) (expect kind) (expect kind) := by
  intro first second near
  rw [expect_run, expect_run]
  rcases front near with same | ⟨one, _, free⟩
  · by_cases found : first.next.kind = kind
    · rw [if_pos found, if_pos (same.kind.symm.trans found)]
      exact ⟨same, c.passes near same (by rw [← Reader.next, found]; exact inner.2)⟩
    · rw [if_neg found, if_neg (by rw [← same.kind]; exact found)]
      exact Or.inr ⟨same_fault (.unexpected kind) (fun _ _ => rfl) same
        (SyntaxFault.message_unexpected _ same.kind), near_look near⟩
  · rw [if_neg (inner.ne one)]
    exact .of_excused (free _ rfl) _

theorem continues_inStep (floor : Precedence) :
    c.InStep Eq (continues floor) (continues floor) := by
  intro first second near
  refine agree_peek ?_
  refine Coupling.InStep.pure ?_ _ _ (near_look near)
  rcases front near with same | ⟨one, other, _⟩
  · rw [same.kind]
  · have loose {kind : TokenKind} (ends : kind = .newLine ∨ kind = .endOfInput) :
        kind.precedence = .lowest := by rcases ends with rfl | rfl <;> rfl
    rw [loose one, loose other]

theorem tooDeep_inStep (limit : Nat) :
    c.InStep related (tooDeep limit) (tooDeep limit) := by
  intro first second near
  refine agree_peek ?_
  rcases front near with same | ⟨_, _, free⟩
  · exact Coupling.InStep.throw (same_fault (.nesting limit) (fun _ _ => rfl) same rfl) _ _
      (near_look near)
  · exact .of_excused (free _ rfl) _

theorem repeating_inStep {one other : Parse (Option α)} (moves : Advances one)
    (goes : Advances other) (steps : c.InStep (Option.Rel related) one other) :
    c.InStep (List.Forall₂ related) (repeating one) (repeating other) := by
  intro first second near
  induction length : first.scanner.rest.length using Nat.strong_induction_on
    generalizing first second with
  | _ size ih =>
    rw [repeating_eq moves, repeating_eq goes]
    refine (steps first second near).bind fun found image after last ran same close => ?_
    cases same with
    | none => exact Coupling.InStep.pure .nil _ _ close
    | some same =>
      have shorter := moves _ _ _ ran
      refine (ih _ (length ▸ shorter) after last close rfl).bind
        fun values images after last _ others close => ?_
      exact Coupling.InStep.pure (.cons same others) _ _ close

theorem afterComma_inStep {one other : Parse α} (elements : c.InStep related one other) :
    c.InStep (Option.Rel related) (afterComma one) (afterComma other) := by
  refine (accept_inStep (by decide)).bind fun found image same => ?_
  subst same
  cases found with
  | true => exact elements.bind fun value image same => .pure (.some same)
  | false => exact .pure .none

theorem sequence_inStep {one other : Parse α} (goes : GoesOnward one) (moves : GoesOnward other)
    (elements : c.InStep related one other) {closing : TokenKind} (inner : Inner closing) :
    c.InStep (List.Forall₂ related) (sequence one closing) (sequence other closing) := by
  refine (accept_inStep inner).bind fun found image same => ?_
  subst same
  cases found with
  | true => exact .pure .nil
  | false =>
    refine elements.bind fun value image same => ?_
    refine (repeating_inStep (afterComma_advances goes) (afterComma_advances moves)
      (afterComma_inStep elements)).bind fun values images others => ?_
    exact (expect_inStep inner).bind fun _ _ _ => .pure (.cons same others)

/-- Trees that are the same up to their tokens, which match. -/
abbrev SameExpr (c : Correspondence) (one other : Expr) : Prop :=
  one.mapTokens c.left = other.mapTokens c.right

abbrev SameStmt (c : Correspondence) (one other : Stmt) : Prop :=
  one.mapTokens c.left = other.mapTokens c.right

abbrev SameBlock (c : Correspondence) (one other : Block) : Prop :=
  one.mapTokens c.left = other.mapTokens c.right

theorem pragma_agree {first second : Reader} (near : c.near first.scanner second.scanner)
    (same : Matches c.left c.right first.next second.next) (tilde : first.next.kind = .tilde) :
    c.Agree (Option.Rel c.SameStmt) (pragma.run first) (pragma.run second) := by
  have behind : c.near first.advance.scanner second.advance.scanner :=
    c.passes near same (by rw [← Reader.next, tilde]; decide)
  by_cases named : first.advance.next.kind = .identifier
  · rcases front behind with name | ⟨ends, _, _⟩
    · rw [pragma_named named, pragma_named (name.kind.symm.trans named),
        name.literal (by rw [named]; rfl)]
      exact ⟨.none, c.switches near tilde named _⟩
    · rw [named] at ends
      simp at ends
  · -- Without a name there is a fault on both sides, and no dialect is switched.
    unfold pragma
    rw [bind_ok (take_run first), bind_ok (take_run second)]
    refine (expect_inStep (by decide) _ _ behind).bind fun name image after last ran => ?_
    rw [expect_run, if_neg named] at ran
    cases ran

theorem mapAllTokens_filterMap {items others : List (Option Stmt)}
    (lines : List.Forall₂ (Option.Rel c.SameStmt) items others) :
    Stmt.mapAllTokens c.left (items.filterMap id) =
      Stmt.mapAllTokens c.right (others.filterMap id) := by
  induction lines with
  | nil => rfl
  | cons same _ ih =>
    cases same with
    | none => exact ih
    | some same => simpa only [List.filterMap_cons, id, Stmt.mapAllTokens, List.cons.injEq] using
        ⟨same, ih⟩

theorem map_image {tokens others : List Token}
    (same : List.Forall₂ (Matches c.left c.right) tokens others) :
    tokens.map c.left = others.map c.right := by
  induction same with
  | nil => rfl
  | cons same _ ih => rw [List.map_cons, List.map_cons, same.image, ih]

theorem mapAllTokens_image {exprs others : List Expr}
    (same : List.Forall₂ c.SameExpr exprs others) :
    Expr.mapAllTokens c.left exprs = Expr.mapAllTokens c.right others := by
  induction same with
  | nil => rfl
  | cons same _ ih => rw [Expr.mapAllTokens, Expr.mapAllTokens, same, ih]

theorem blockRest_at_end {expr : Precedence → Parse Expr}
    (consumes : ∀ floor, Consumes (expr floor)) {reader : Reader}
    (ended : reader.next.kind = .endOfInput) :
    (blockRest expr).run reader = .error (.unexpected .rightBrace reader.next) reader.look := by
  have stopped := (blockItem_lineLoop consumes).at_stop reader (Or.inr ended)
  rw [blockRest_eq consumes, bind_ok stopped]
  dsimp only
  have refused : (expect .rightBrace).run reader.look =
      .error (.unexpected .rightBrace reader.next) reader.look := by
    rw [expect_run, Reader.look_next, Reader.look_look, if_neg (by rw [ended]; decide)]
  exact bind_error refused

theorem blockRest_at_ending {expr : Precedence → Parse Expr}
    (consumes : ∀ floor, Consumes (expr floor)) {excused : SyntaxFault → Prop} {reader : Reader}
    (ending : Ending excused reader.scanner) :
    ∃ fault after, (blockRest expr).run reader = .error fault after ∧ excused fault := by
  cases ending with
  | text ended free => exact ⟨_, _, blockRest_at_end consumes ended, free _ rfl⟩
  | line ended last _ final =>
    obtain ⟨item, ran, _⟩ := (blockItem_lineLoop consumes).at_lineEnd reader ended
    have behind : reader.advance.next.kind = .endOfInput := last
    refine ⟨.unexpected .rightBrace reader.advance.next, reader.advance.look, ?_, final _ rfl⟩
    rw [blockRest_eq consumes, bind_ok ran]
    exact bind_error (blockRest_at_end consumes behind)

section
variable {expr image : Precedence → Parse Expr}
  (steps : ∀ floor, c.InStep c.SameExpr (expr floor) (image floor))
include steps

theorem statement_agree {first second : Reader} (near : c.near first.scanner second.scanner)
    (same : Matches c.left c.right first.next second.next) :
    c.Agree (Option.Rel c.SameStmt) ((statement expr).run first)
      ((statement image).run second) := by
  unfold statement
  refine agree_peek ?_
  rw [← same.kind]
  split
  · rename_i word
    refine agree_take near same (by rw [word]; decide) ?_
    refine (expect_inStep (by decide)).bind fun name other named => ?_
    refine (expect_inStep (by decide)).bind fun _ _ _ => ?_
    refine (steps .lowest).bind fun value other bound => .pure (.some ?_)
    simp only [SameStmt, Stmt.mapTokens, same.image, named.image, bound]
  · rename_i word
    refine agree_take near same (by rw [word]; decide) ?_
    refine (steps .lowest).bind fun value other given => .pure (.some ?_)
    simp only [SameStmt, Stmt.mapTokens, same.image, given]
  · rename_i tilde
    exact pragma_agree (near_look near) (by rw [Reader.look_next, Reader.look_next]; exact same)
      (by rw [Reader.look_next]; exact tilde)
  · refine ((steps .lowest).bind fun value other alone => .pure (.some ?_)) _ _ (near_look near)
    simp only [SameStmt, Stmt.mapTokens, same.image, alone]

theorem blockItem_agree {first second : Reader} (near : c.near first.scanner second.scanner)
    (same : Matches c.left c.right first.next second.next) :
    c.Agree (Option.Rel (Option.Rel c.SameStmt)) ((blockItem expr).run first)
      ((blockItem image).run second) := by
  unfold blockItem
  refine agree_peek ?_
  rw [← same.kind]
  split
  · exact Coupling.InStep.pure .none _ _ (near_look near)
  · exact Coupling.InStep.pure .none _ _ (near_look near)
  · rename_i line
    exact agree_take near same (by rw [line]; decide) (.pure (.some .none))
  · refine (statement_agree steps (near_look near)
      (by rw [Reader.look_next, Reader.look_next]; exact same)).bind
      fun stmt other after last _ kept close => ?_
    refine agree_peek ?_
    have done : c.InStep (Option.Rel (Option.Rel c.SameStmt)) (pure (some stmt))
        (pure (some other)) := .pure (.some kept)
    rcases front close with next | ⟨one, two, _⟩
    · rw [← next.kind]
      split
      · exact done _ _ (near_look close)
      · exact done _ _ (near_look close)
      · exact done _ _ (near_look close)
      · exact Coupling.InStep.throw (same_fault (.unexpected .newLine) (fun _ _ => rfl) next
          (SyntaxFault.message_unexpected _ next.kind)) _ _
          (near_look close)
    · rcases one with one | one <;> rcases two with two | two <;> rw [one, two] <;>
        exact done _ _ (near_look close)

theorem blockRest_inStep (consumes : ∀ floor, Consumes (expr floor))
    (moves : ∀ floor, Consumes (image floor)) :
    c.InStep (List.Forall₂ (Option.Rel c.SameStmt)) (blockRest expr) (blockRest image) := by
  intro first second near
  -- The loop and the brace behind it are taken together: where the first text is ending, the items
  -- may differ, but then its block is never closed.
  induction length : first.scanner.rest.length using Nat.strong_induction_on
    generalizing first second with
  | _ size ih =>
    rcases c.meets near with same | ⟨ending, _⟩
    · rw [blockRest_eq consumes, blockRest_eq moves]
      refine (blockItem_agree steps near same).bind
        fun found other after last ran items close => ?_
      cases items with
      | none => exact ((expect_inStep (by decide)).bind fun _ _ _ => .pure .nil) _ _ close
      | some same =>
        have shorter := blockItem_advances consumes _ _ _ ran
        refine (ih _ (length ▸ shorter) after last close rfl).bind
          fun values images after last _ others close => ?_
        exact Coupling.InStep.pure (.cons same others) _ _ close
    · obtain ⟨fault, after, failed, free⟩ := blockRest_at_ending consumes ending
      rw [failed]
      exact .of_excused free _

theorem block_inStep (consumes : ∀ floor, Consumes (expr floor))
    (moves : ∀ floor, Consumes (image floor)) :
    c.InStep c.SameBlock (block expr) (block image) := by
  rw [block_eq, block_eq]
  refine (expect_inStep (by decide)).bind fun token other same => ?_
  refine (blockRest_inStep steps consumes moves).bind fun items others lines => .pure ?_
  rw [SameBlock, Block.mapTokens, Block.mapTokens, same.image, mapAllTokens_filterMap lines]

theorem operand_inStep (consumes : ∀ floor, Consumes (expr floor))
    (moves : ∀ floor, Consumes (image floor)) {token other : Token}
    (same : Matches c.left c.right token other) :
    c.InStep c.SameExpr (operand expr token) (operand image other) := by
  have blocks := block_inStep steps consumes moves
  unfold operand
  rw [← same.kind]
  split
  · exact .pure (by simp only [SameExpr, Expr.mapTokens, same.image])
  · rename_i kind
    have literal := same.literal (by rw [kind]; rfl)
    rw [literal]
    dsimp only
    split
    · exact .pure (by simp only [SameExpr, Expr.mapTokens, same.image])
    · exact .throw (same_fault .integerRange (fun _ _ => rfl) same
        (SyntaxFault.message_integerRange literal))
  · rename_i kind
    have literal := same.literal (by rw [kind]; rfl)
    rw [literal]
    split
    · exact .pure (by simp only [SameExpr, Expr.mapTokens, same.image])
    · exact .throw (same_fault .floatForm (fun _ _ => rfl) same
        (SyntaxFault.message_floatForm literal))
  · exact .pure (by simp only [SameExpr, Expr.mapTokens, same.image])
  · exact .pure (by simp only [SameExpr, Expr.mapTokens, same.image])
  · exact .pure (by simp only [SameExpr, Expr.mapTokens, same.image])
  · refine (steps _).bind fun value other inner => .pure ?_
    simp only [SameExpr, Expr.mapTokens, same.image, inner]
  · refine (steps _).bind fun value other inner => .pure ?_
    simp only [SameExpr, Expr.mapTokens, same.image, inner]
  · refine (steps _).bind fun value other inner => ?_
    exact (expect_inStep (by decide)).bind fun _ _ _ => .pure inner
  · refine (expect_inStep (by decide)).bind fun _ _ _ => ?_
    refine (steps _).bind fun condition asked alike => ?_
    refine (expect_inStep (by decide)).bind fun _ _ _ => ?_
    refine blocks.bind fun consequence holds runs => ?_
    refine (accept_inStep (by decide)).bind fun found image both => ?_
    subst both
    cases found with
    | true =>
      refine blocks.bind fun alternative fails otherwise => .pure ?_
      simp only [SameExpr, Expr.mapTokens, same.image, alike, runs, otherwise]
    | false => exact .pure (by simp only [SameExpr, Expr.mapTokens, same.image, alike, runs])
  · refine (expect_inStep (by decide)).bind fun _ _ _ => ?_
    refine (sequence_inStep (expect_goesOnward _) (expect_goesOnward _)
      (expect_inStep (by decide)) (by decide)).bind fun parameters names named => ?_
    refine blocks.bind fun body code runs => .pure ?_
    simp only [SameExpr, Expr.mapTokens, same.image, map_image named, runs]
  · exact .throw (same_fault .noOperand (fun _ _ => rfl) same
      (SyntaxFault.message_noOperand same.kind))

theorem link_inStep (consumes : ∀ floor, Consumes (expr floor))
    (moves : ∀ floor, Consumes (image floor)) {left other : Expr} (alike : c.SameExpr left other)
    {token operator : Token} (same : Matches c.left c.right token operator) :
    c.InStep c.SameExpr (link expr left token) (link image other operator) := by
  unfold link
  rw [← same.kind]
  split
  · refine (steps _).bind fun right value second => .pure ?_
    simp only [SameExpr, Expr.mapTokens, same.image, alike, second]
  · refine (sequence_inStep (consumes _).goesOnward (moves _).goesOnward (steps _)
      (by decide)).bind fun arguments values given => .pure ?_
    simp only [SameExpr, Expr.mapTokens, same.image, alike, mapAllTokens_image given]

end

/-- Limits on nesting that leave the readings in step: the same on both sides, or a greater one on
the second side where faults for nesting do not count. -/
inductive Fits (c : Correspondence) (limit budget : Nat) : Nat → Nat → Prop
  | same : Fits c limit budget limit budget
  | deeper {other more : Nat} (enough : budget ≤ more)
      (free : ∀ token, c.excused (.nesting limit token)) : Fits c limit budget other more

theorem Fits.smaller {limit budget other more : Nat}
    (fits : c.Fits limit (budget + 1) other (more + 1)) : c.Fits limit budget other more := by
  cases fits with
  | same => exact .same
  | deeper enough free => exact .deeper (Nat.le_of_succ_le_succ enough) free

theorem Fits.succ {limit budget other more : Nat} (fits : c.Fits limit (budget + 1) other more) :
    ∃ less, more = less + 1 := by
  cases fits with
  | same => exact ⟨budget, rfl⟩
  | deeper enough _ => exact ⟨more - 1, by omega⟩

theorem tooDeep_fits {limit other more : Nat} (fits : c.Fits limit 0 other more)
    {part : Parse α} (same : more = 0 → other = limit → c.InStep related (tooDeep limit) part) :
    c.InStep related (tooDeep limit) part := by
  cases fits with
  | same => exact same rfl rfl
  | deeper _ free => exact fun first second _ => .of_excused (free _) _

theorem links_zero_inStep {limit other more : Nat} (fits : c.Fits limit 0 other more)
    (floor : Precedence) {left image : Expr} (alike : c.SameExpr left image) :
    c.InStep c.SameExpr (links limit 0 floor left) (links other more floor image) := by
  cases more with
  | zero =>
    rw [links, links]
    refine (continues_inStep floor).bind fun found image same => ?_
    subst same
    cases found with
    | true =>
      refine tooDeep_fits fits fun _ same_limit => ?_
      subst same_limit
      exact tooDeep_inStep _
    | false => exact .pure alike
  | succ more =>
    rw [links, links]
    refine (continues_inStep floor).bind fun found image same => ?_
    subst same
    cases found with
    | true => exact tooDeep_fits fits fun none_left => absurd none_left (Nat.succ_ne_zero _)
    | false => exact .pure alike

section
variable {limit budget other less : Nat}
  (steps : ∀ floor,
    c.InStep c.SameExpr (expression limit budget floor) (expression other less floor))
  (goes_on : ∀ floor left image, c.SameExpr left image →
    c.InStep c.SameExpr (links limit budget floor left) (links other less floor image))
include steps goes_on

theorem expression_succ_inStep (floor : Precedence) :
    c.InStep c.SameExpr (expression limit (budget + 1) floor)
      (expression other (less + 1) floor) := by
  rw [expression, expression]
  intro first second near
  refine agree_peek ?_
  rcases front near with same | ⟨one, _, free⟩
  · rw [← same.kind]
    split
    · rename_i starts
      have more : first.next.kind ≠ .endOfInput := by
        intro ended
        rw [ended] at starts
        cases starts
      refine agree_take near same more ?_
      have noted : c.InStep (fun _ _ => True) (note (.operand first.next.kind floor))
        (note (.operand second.next.kind floor)) := fun _ _ near => ⟨trivial, near⟩
      refine noted.bind fun _ _ _ => ?_
      refine (operand_inStep steps (expression_consumes limit budget)
        (expression_consumes other less) same).bind fun left image alike => ?_
      exact goes_on floor left image alike
    · exact Coupling.InStep.throw (same_fault .noOperand (fun _ _ => rfl) same
          (SyntaxFault.message_noOperand same.kind)) _ _
        (near_look near)
  · -- No expression starts with the end of a line or of the text.
    have refused : startsExpression first.next.kind = false := by
      rcases one with kind | kind <;> rw [kind] <;> rfl
    rw [if_neg (by rw [refused]; decide)]
    exact .of_excused (free _ rfl) _

theorem links_succ_inStep (floor : Precedence) {left image : Expr}
    (alike : c.SameExpr left image) :
    c.InStep c.SameExpr (links limit (budget + 1) floor left)
      (links other (less + 1) floor image) := by
  rw [links, links, continues, bind_assoc, bind_assoc]
  intro first second near
  refine agree_peek ?_
  rw [pure_bind, pure_bind]
  rcases front near with same | ⟨one, two, _⟩
  · rw [← same.kind]
    split
    · rename_i binds
      have more : first.next.kind ≠ .endOfInput := by
        intro ended
        rw [ended] at binds
        exact absurd (of_decide_eq_true binds) (Nat.not_lt_zero _)
      refine agree_take near same more ?_
      refine (link_inStep steps (expression_consumes limit budget)
        (expression_consumes other less) alike same).bind fun linked image alike => ?_
      exact goes_on floor linked image alike
    · exact Coupling.InStep.pure alike _ _ (near_look near)
  · have stops {kind : TokenKind} (ends : kind = .newLine ∨ kind = .endOfInput) :
        decide (floor.rank < kind.precedence.rank) = false := by
      rcases ends with rfl | rfl <;> exact decide_eq_false (Nat.not_lt_zero _)
    rw [stops one, stops two]
    exact Coupling.InStep.pure alike _ _ (near_look near)

end

theorem expression_links_inStep {limit budget other more : Nat}
    (fits : c.Fits limit budget other more) :
    (∀ floor, c.InStep c.SameExpr (expression limit budget floor) (expression other more floor)) ∧
      ∀ floor left image, c.SameExpr left image →
        c.InStep c.SameExpr (links limit budget floor left) (links other more floor image) := by
  induction budget generalizing more with
  | zero =>
    refine ⟨fun floor => ?_, fun floor left image alike => links_zero_inStep fits floor alike⟩
    rw [expression]
    refine tooDeep_fits fits fun none_left same_limit => ?_
    subst none_left same_limit
    rw [expression]
    exact tooDeep_inStep _
  | succ budget ih =>
    obtain ⟨less, rfl⟩ := fits.succ
    obtain ⟨steps, goes_on⟩ := ih fits.smaller
    exact ⟨expression_succ_inStep steps goes_on,
      fun floor left image alike => links_succ_inStep steps goes_on floor alike⟩

theorem expression_inStep {limit other : Nat} (fits : c.Fits limit limit other other)
    (floor : Precedence) :
    c.InStep c.SameExpr (expression limit limit floor) (expression other other floor) :=
  (expression_links_inStep fits).1 floor

theorem line_agree {limit other : Nat} (fits : c.Fits limit limit other other)
    {first second : Reader} (near : c.near first.scanner second.scanner)
    (same : Matches c.left c.right first.next second.next) :
    c.Agree (Option.Rel c.SameStmt) ((line limit).run first) ((line other).run second) := by
  refine (statement_agree (expression_inStep fits) near same).bind
    fun stmt image after last _ kept close => ?_
  refine agree_peek ?_
  have done : c.InStep (Option.Rel c.SameStmt) (pure stmt) (pure image) := .pure kept
  rcases front close with next | ⟨one, two, _⟩
  · rw [← next.kind]
    split
    · exact done _ _ (near_look close)
    · exact done _ _ (near_look close)
    · exact Coupling.InStep.throw (same_fault (.unexpected .newLine) (fun _ _ => rfl) next
          (SyntaxFault.message_unexpected _ next.kind)) _ _
        (near_look close)
  · rcases one with one | one <;> rcases two with two | two <;> rw [one, two] <;>
      exact done _ _ (near_look close)

theorem skipLine_inStep : c.InStep (fun _ _ => True) skipLine skipLine := by
  have token : c.InStep (Option.Rel fun _ _ => True) skipToken skipToken := by
    intro first second near
    rw [skipToken_run, skipToken_run]
    rcases front near with same | ⟨one, two, _⟩
    · rw [← same.kind]
      split
      · exact ⟨.none, near_look near⟩
      · rename_i more
        exact ⟨.some trivial, c.passes near same fun ended => more (Or.inr ended)⟩
    · rw [if_pos one, if_pos two]
      exact ⟨.none, near_look near⟩
  rw [skipLine]
  exact (repeating_inStep skipToken_advances skipToken_advances token).bind
    fun _ _ _ => .pure trivial

/-- Lines of a source that correspond. -/
inductive SameLine (c : Correspondence) :
    Except SyntaxFault (Option Stmt) → Except SyntaxFault (Option Stmt) → Prop
  | ok {stmt image : Option Stmt} (same : Option.Rel c.SameStmt stmt image) :
      SameLine c (.ok stmt) (.ok image)
  | error {fault image : SyntaxFault} (same : c.coupling.same fault image) :
      SameLine c (.error fault) (.error image)

theorem sourceItem_inStep {limit other : Nat} (fits : c.Fits limit limit other other)
    {first second after : Reader} (near : c.near first.scanner second.scanner)
    (same : Matches c.left c.right first.next second.next)
    {item : Except SyntaxFault (Option Stmt)}
    (ran : (sourceItem limit).run first = .ok (some item) after)
    (counts : ∀ fault, item = .error fault → ¬ c.excused fault) :
    ∃ image last, (sourceItem other).run second = .ok (some image) last ∧ c.SameLine item image ∧
      c.near after.scanner last.scanner := by
  have agree := line_agree fits (near_look near)
    (by rw [Reader.look_next, Reader.look_next]; exact same)
  cases sourceItem_step ran with
  | lineEnd ended =>
    have there : second.next.kind = .newLine := same.kind.symm.trans ended
    have more : first.next.kind ≠ .endOfInput := by rw [ended]; decide
    exact ⟨.ok none, second.advance, sourceItem_at_lineEnd other there, .ok .none,
      c.passes near same more⟩
  | sound no_end no_line one =>
    rw [same.kind] at no_end no_line
    cases two : (line other).run second.look with
    | ok image last =>
      rw [one, two] at agree
      exact ⟨.ok image, last, sourceItem_ok no_end no_line two, .ok agree.1, agree.2⟩
    | error fault last =>
      rw [one, two] at agree
      exact agree.elim
  | @faulty fault _ _ no_end no_line one skips =>
    rw [same.kind] at no_end no_line
    have counts := counts fault rfl
    cases two : (line other).run second.look with
    | ok image last =>
      rw [one, two] at agree
      exact absurd agree counts
    | error image last =>
      rw [one, two] at agree
      obtain ⟨alike, close⟩ := agree.resolve_left counts
      obtain ⟨final, passes, _⟩ := skipLine_run last
      have both := skipLine_inStep _ _ close
      rw [skips, passes] at both
      exact ⟨.error image, final, sourceItem_error no_end no_line two passes, .error alike, both.2⟩

/-- Two sources are read in step up to a point where both are at their end, or where the first one
is ending and the second one is at the end of a line. -/
theorem readsTo_inStep {limit other : Nat} (fits : c.Fits limit limit other other)
    {first second stop : Reader} {items : List (Except SyntaxFault (Option Stmt))}
    (near : c.near first.scanner second.scanner) (reads : ReadsTo limit first items stop)
    (ended : stop.next.kind = .endOfInput)
    (counts : ∀ fault, .error fault ∈ items → ¬ c.excused fault) :
    ∃ before rest images after last, items = before ++ rest ∧ ReadsTo limit first before after ∧
      ReadsTo limit after rest stop ∧ ReadsTo other second images last ∧
      List.Forall₂ c.SameLine before images ∧ c.near after.scanner last.scanner ∧
      (after.next.kind = .endOfInput ∧ last.next.kind = .endOfInput ∨
        Ending c.excused after.scanner ∧
          (last.next.kind = .newLine ∨ last.next.kind = .endOfInput)) := by
  induction reads generalizing second with
  | here reader =>
    refine ⟨[], [], [], reader, second, rfl, .here _, .here _, .here _, .nil, near, ?_⟩
    rcases c.meets near with same | ending
    · exact Or.inl ⟨ended, same.kind.symm.trans ended⟩
    · exact Or.inr ending
  | @step reader after stop item items ran later ih =>
    rcases c.meets near with same | ending
    · obtain ⟨image, last, done, alike, close⟩ := sourceItem_inStep fits near same ran
        fun fault is => counts fault (is ▸ List.mem_cons_self)
      obtain ⟨before, rest, images, middle, final, rfl, one, two, three, lines, close, parted⟩ :=
        ih close ended fun fault member => counts fault (List.mem_cons_of_mem _ member)
      exact ⟨item :: before, rest, image :: images, middle, final, rfl, .step ran one, two,
        .step done three, .cons alike lines, close, parted⟩
    · exact ⟨[], item :: items, [], reader, second, rfl, .here _, .step ran later, .here _, .nil,
        near, Or.inr ending⟩

end Correspondence

end Polyglot
