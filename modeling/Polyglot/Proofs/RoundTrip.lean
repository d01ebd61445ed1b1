import Polyglot.Proofs.Rereading
import Polyglot.Proofs.Soundness

/-! Canonical text as a source. It is parsed back to the tree that was printed if and only if the
condition of every conditional is an operation: the parentheses around a condition belong to the
conditional, and the text has none but those of operations. -/
namespace Polyglot

namespace Grammar

/-- What follows the parenthesis that closes the text so far, when so many others are still open
in it. -/
def behindParen? : Nat → List TokenKind → Option (List TokenKind)
  | _, [] => none
  | depth, .leftParen :: rest => behindParen? (depth + 1) rest
  | 0, .rightParen :: rest => some rest
  | depth + 1, .rightParen :: rest => behindParen? depth rest
  | depth, _ :: rest => behindParen? depth rest

theorem behindParen?_append {depth : Nat} {kinds rest : List TokenKind}
    (found : behindParen? depth kinds = some rest) (more : List TokenKind) :
    behindParen? depth (kinds ++ more) = some (rest ++ more) := by
  fun_induction behindParen? depth kinds with
  | case1 => cases found
  | case2 depth later ih => exact ih found
  | case3 later =>
    cases found
    rfl
  | case4 depth later ih => exact ih found
  | case5 depth kind later no_left no_right _ ih =>
    rw [List.cons_append, behindParen?]
    · exact ih found
    all_goals assumption

/-- Every parenthesis of the tokens is opened and closed among them. -/
def Balanced (kinds : List TokenKind) : Prop :=
  ∀ depth rest, behindParen? depth (kinds ++ rest) = behindParen? depth rest

namespace Balanced

theorem nil : Balanced [] := fun _ _ => rfl

theorem append {kinds others : List TokenKind} (balanced : Balanced kinds)
    (later : Balanced others) : Balanced (kinds ++ others) := by
  intro depth rest
  rw [List.append_assoc, balanced, later]

theorem cons {kind : TokenKind} {kinds : List TokenKind} (no_left : kind ≠ .leftParen)
    (no_right : kind ≠ .rightParen) (balanced : Balanced kinds) : Balanced (kind :: kinds) := by
  intro depth rest
  rw [List.cons_append, ← balanced depth rest]
  cases kind <;> first | contradiction | (cases depth <;> rfl)

theorem paren {inside : List TokenKind} (balanced : Balanced inside) :
    Balanced (.leftParen :: (inside ++ [.rightParen])) := by
  intro depth rest
  rw [List.cons_append, List.append_assoc, behindParen?, balanced]
  rfl

end Balanced

/-- A parenthesis is opened in front, and a brace follows the one that closes it. -/
def Asks (kinds : List TokenKind) : Prop :=
  ∃ inside rest, kinds = .leftParen :: inside ∧
    behindParen? 0 inside = some (.leftBrace :: rest)

theorem Asks.append {kinds : List TokenKind} (asks : Asks kinds) (more : List TokenKind) :
    Asks (kinds ++ more) := by
  obtain ⟨inside, rest, rfl, found⟩ := asks
  exact ⟨inside ++ more, rest ++ more, rfl, behindParen?_append found more⟩

/-- Every conditional among the tokens has its condition in parentheses. -/
def Asking : List TokenKind → Prop
  | [] => True
  | kind :: rest => (kind = .keyword .ifWord → Asks rest) ∧ Asking rest

theorem Asking.append {kinds others : List TokenKind} (asking : Asking kinds)
    (later : Asking others) : Asking (kinds ++ others) := by
  induction kinds with
  | nil => exact later
  | cons kind kinds ih => exact ⟨fun asks => (asking.1 asks).append others, ih asking.2⟩

theorem Asking.right {kinds others : List TokenKind} (asking : Asking (kinds ++ others)) :
    Asking others := by
  induction kinds with
  | nil => exact asking
  | cons kind kinds ih => exact ih asking.2

/-- The parentheses of the tokens are those of a program. -/
structure Shaped (kinds : List TokenKind) : Prop where
  balanced : Balanced kinds
  asking : Asking kinds

namespace Shaped

theorem nil : Shaped [] := ⟨.nil, trivial⟩

theorem append {kinds others : List TokenKind} (shaped : Shaped kinds) (later : Shaped others) :
    Shaped (kinds ++ others) :=
  ⟨shaped.balanced.append later.balanced, shaped.asking.append later.asking⟩

theorem cons {kind : TokenKind} {kinds : List TokenKind}
    (ordinary : kind ≠ .leftParen ∧ kind ≠ .rightParen ∧ kind ≠ .keyword .ifWord)
    (shaped : Shaped kinds) : Shaped (kind :: kinds) where
  balanced := .cons ordinary.1 ordinary.2.1 shaped.balanced
  asking := ⟨fun asks => absurd asks ordinary.2.2, shaped.asking⟩

theorem paren {inside : List TokenKind} (shaped : Shaped inside) :
    Shaped (.leftParen :: (inside ++ [.rightParen])) where
  balanced := shaped.balanced.paren
  asking := by
    have closing : Asking [.rightParen] := ⟨nofun, trivial⟩
    exact ⟨nofun, shaped.asking.append closing⟩

theorem conditional {inside code : List TokenKind} (shaped : Shaped inside)
    (held : Shaped (.leftBrace :: code)) :
    Shaped (.keyword .ifWord :: .leftParen :: (inside ++ .rightParen :: .leftBrace :: code)) := by
  have whole := shaped.paren.append held
  rw [List.cons_append, List.append_assoc] at whole
  refine ⟨.cons (by decide) (by decide) whole.balanced, fun _ => ?_, whole.asking⟩
  refine ⟨_, code, rfl, ?_⟩
  rw [shaped.balanced]
  rfl

end Shaped

theorem Shaped.single {token : Token} {kind : TokenKind} (same : token.kind = kind)
    (ordinary : kind ≠ .leftParen ∧ kind ≠ .rightParen ∧ kind ≠ .keyword .ifWord) :
    Shaped ([token].map Token.kind) :=
  .cons (same ▸ ordinary) .nil

theorem unary_ordinary {kind : TokenKind} {op : UnaryOp} (operator : unary? kind = some op) :
    kind ≠ .leftParen ∧ kind ≠ .rightParen ∧ kind ≠ .keyword .ifWord := by
  rw [UnaryOp.eq_kind operator]
  cases op <;> decide

theorem Stratum.binary_ordinary {stratum : Stratum} {kind : TokenKind} {op : BinaryOp}
    (operator : stratum.binary? kind = some op) :
    kind ≠ .leftParen ∧ kind ≠ .rightParen ∧ kind ≠ .keyword .ifWord := by
  rw [BinaryOp.eq_kind (ofKind?_of_binary operator)]
  cases op <;> decide

theorem LineEnds.shaped {tokens : List Token} (ends : LineEnds tokens) :
    Shaped (tokens.map Token.kind) := by
  induction tokens with
  | nil => exact .nil
  | cons token tokens ih =>
    obtain ⟨here, later⟩ := List.forall_mem_cons.mp ends
    rw [List.map_cons, here]
    exact .cons (by decide) (ih later)

theorem MoreParameters.shaped {tokens names : List Token} (rule : MoreParameters tokens names) :
    Shaped (tokens.map Token.kind) := by
  induction rule with
  | done => exact .nil
  | more separates named _ ih =>
    rw [List.map_cons, List.map_cons, separates, named]
    exact .cons (by decide) (.cons (by decide) ih)

theorem Parameters.shaped {tokens names : List Token} (rule : Parameters tokens names) :
    Shaped (tokens.map Token.kind) := by
  cases rule with
  | empty => exact .nil
  | first named others =>
    rw [List.map_cons, named]
    exact .cons (by decide) others.shaped

theorem Braces.head {tokens : List Token} {block : Block} (braces : Braces tokens block) :
    ∃ code, tokens.map Token.kind = .leftBrace :: code := by
  cases braces with
  | mk opens => exact ⟨_, by rw [List.map_cons, opens]⟩

mutual

theorem Expression.shaped {stratum : Stratum} {tokens : List Token} {expr : Expr} :
    Expression stratum tokens expr → Shaped (tokens.map Token.kind)
  | .raise _ inner => inner.shaped
  | .binary _ first operator second => by
    rw [List.map_append, List.map_cons]
    exact first.shaped.append (.cons (Stratum.binary_ordinary operator) second.shaped)
  | .unary operator inner => .cons (unary_ordinary operator) inner.shaped
  | .call first opens given closes => by
    rw [List.map_append, List.map_cons, List.map_append, List.map_singleton, opens, closes]
    exact first.shaped.append given.shaped.paren
  | .identifier kind => .single kind (by decide)
  | .integer kind _ _ => .single kind (by decide)
  | .float kind => .single kind (by decide)
  | .string kind => .single kind (by decide)
  | .trueWord kind => .single kind (by decide)
  | .falseWord kind => .single kind (by decide)
  | .group opens inner closes => by
    rw [List.map_cons, List.map_append, List.map_singleton, opens, closes]
    exact inner.shaped.paren
  | .conditional word opens asked closes holds => by
    have held := holds.shaped
    obtain ⟨code, same⟩ := holds.head
    rw [same] at held
    rw [List.map_cons, List.map_cons, List.map_append, List.map_cons, word, opens, closes, same]
    exact asked.shaped.conditional held
  | .alternative word opens asked closes holds otherwise fails => by
    have later : Shaped (.keyword .elseWord :: _) := .cons (by decide) fails.shaped
    have held := holds.shaped.append later
    obtain ⟨code, same⟩ := holds.head
    rw [same] at held
    rw [List.map_cons, List.map_cons, List.map_append, List.map_cons, List.map_append,
      List.map_cons, word, opens, closes, same, otherwise]
    exact asked.shaped.conditional held
  | .function word opens named closes runs => by
    have given := named.shaped.paren.append runs.shaped
    rw [List.cons_append, List.append_assoc] at given
    rw [List.map_cons, List.map_cons, List.map_append, List.map_cons, word, opens, closes]
    exact .cons (by decide) given

theorem Arguments.shaped {tokens : List Token} {exprs : List Expr} :
    Arguments tokens exprs → Shaped (tokens.map Token.kind)
  | .empty => .nil
  | .first given others => by
    rw [List.map_append]
    exact given.shaped.append others.shaped

theorem MoreArguments.shaped {tokens : List Token} {exprs : List Expr} :
    MoreArguments tokens exprs → Shaped (tokens.map Token.kind)
  | .done => .nil
  | .more separates next others => by
    rw [List.map_cons, List.map_append, separates]
    exact .cons (by decide) (next.shaped.append others.shaped)

theorem Statement.shaped {tokens : List Token} {stmt : Option Stmt} :
    Statement tokens stmt → Shaped (tokens.map Token.kind)
  | .binding word named assigns bound => by
    rw [List.map_cons, List.map_cons, List.map_cons, word, named, assigns]
    exact .cons (by decide) (.cons (by decide) (.cons (by decide) bound.shaped))
  | .result word given => by
    rw [List.map_cons, word]
    exact .cons (by decide) given.shaped
  | .pragma tilde named => by
    rw [List.map_cons, List.map_cons, tilde, named]
    exact .cons (by decide) (.cons (by decide) .nil)
  | .expression alone => alone.shaped

theorem Lines.shaped {tokens : List Token} {stmts : List Stmt} :
    Lines tokens stmts → Shaped (tokens.map Token.kind)
  | .blank empty => empty.shaped
  | .first empty line others => by
    rw [List.map_append, List.map_append]
    exact empty.shaped.append (line.shaped.append others.shaped)

theorem MoreLines.shaped {tokens : List Token} {stmts : List Stmt} :
    MoreLines tokens stmts → Shaped (tokens.map Token.kind)
  | .done empty => empty.shaped
  | .more empty _ line others => by
    rw [List.map_append, List.map_append]
    exact empty.shaped.append (line.shaped.append others.shaped)

theorem Braces.shaped {tokens : List Token} {block : Block} :
    Braces tokens block → Shaped (tokens.map Token.kind)
  | .mk opens lines closes => by
    rw [List.map_cons, List.map_append, List.map_cons, opens, closes]
    exact .cons (by decide) (lines.shaped.append (.cons (by decide) .nil))

end

/-- Tokens that close what they open and switch no dialect. -/
structure Tame (tokens : List Token) : Prop where
  balanced : Balanced (tokens.map Token.kind)
  no_pragma : ∀ token ∈ tokens, token.kind ≠ .tilde

namespace Tame

theorem nil : Tame [] := ⟨.nil, List.forall_mem_nil _⟩

theorem append {tokens others : List Token} (tame : Tame tokens) (later : Tame others) :
    Tame (tokens ++ others) where
  balanced := by
    rw [List.map_append]
    exact tame.balanced.append later.balanced
  no_pragma := List.forall_mem_append.mpr ⟨tame.no_pragma, later.no_pragma⟩

theorem cons {kind : TokenKind} {literal : String} {tokens : List Token}
    (ordinary : kind ≠ .leftParen ∧ kind ≠ .rightParen ∧ kind ≠ .tilde)
    (tame : Tame tokens) : Tame (⟨kind, literal, 0, 0⟩ :: tokens) where
  balanced := .cons ordinary.1 ordinary.2.1 tame.balanced
  no_pragma := List.forall_mem_cons.mpr ⟨ordinary.2.2, tame.no_pragma⟩

theorem paren {tokens : List Token} (tame : Tame tokens) :
    Tame (.sign .leftParen :: (tokens ++ [.sign .rightParen])) where
  balanced := by
    rw [List.map_cons, List.map_append]
    exact tame.balanced.paren
  no_pragma := by
    have closing : ∀ token ∈ [Token.sign .rightParen], token.kind ≠ .tilde := by decide
    exact List.forall_mem_cons.mpr ⟨by decide, List.forall_mem_append.mpr ⟨tame.no_pragma, closing⟩⟩

theorem listed {lists : List (List Token)} (all : ∀ tokens ∈ lists, Tame tokens) :
    Tame (Token.listed lists) := by
  cases lists with
  | nil => exact nil
  | cons tokens lists =>
    obtain ⟨here, later⟩ := List.forall_mem_cons.mp all
    refine here.append ?_
    clear all here
    induction lists with
    | nil => exact nil
    | cons tokens lists ih =>
      obtain ⟨here, later⟩ := List.forall_mem_cons.mp later
      rw [List.flatMap_cons]
      exact (cons (by decide) here).append (ih later)

end Tame

theorem Asks.split {tokens others : List Token} {rest : List TokenKind}
    (asks : Asks ((tokens ++ others).map Token.kind ++ rest)) :
    Asks (tokens.map Token.kind ++ (others.map Token.kind ++ rest)) := by
  rwa [List.map_append, List.append_assoc] at asks

theorem Asking.split {tokens others : List Token} {rest : List TokenKind}
    (asking : Asking ((tokens ++ others).map Token.kind ++ rest)) :
    Asking (tokens.map Token.kind ++ (others.map Token.kind ++ rest)) := by
  rwa [List.map_append, List.append_assoc] at asking

/-- The comma-separated lists behind a first one, one by one. -/
theorem Asking.listed {lists : List (List Token)} {rest : List TokenKind}
    (asking : Asking ((Token.listed lists).map Token.kind ++ rest)) :
    ∀ tokens ∈ lists, ∃ after, Asking (tokens.map Token.kind ++ after) := by
  cases lists with
  | nil => exact List.forall_mem_nil _
  | cons tokens lists =>
    have parts := asking.split
    refine List.forall_mem_cons.mpr ⟨⟨_, parts⟩, ?_⟩
    have others := parts.right
    clear asking parts
    induction lists with
    | nil => exact List.forall_mem_nil _
    | cons tokens lists ih =>
      rw [List.flatMap_cons] at others
      have parts := others.split
      exact List.forall_mem_cons.mpr ⟨⟨_, parts.2⟩, ih parts.2.right⟩

end Grammar

open Grammar

mutual

theorem Expr.printed_tame : (expr : Expr) → Tame expr.printed
  | .identifier _ => .cons (by decide) .nil
  | .integer _ _ => .cons (by decide) .nil
  | .float _ _ => .cons (by decide) .nil
  | .string _ => .cons (by decide) .nil
  | .boolean _ value => .cons (by cases value <;> decide) .nil
  | .unary _ op operand => by
    have operator : Tame (.sign op.kind :: operand.printed) :=
      .cons (by cases op <;> decide) operand.printed_tame
    exact operator.paren
  | .binary _ op left right => by
    have operator : Tame (left.printed ++ .sign op.kind :: right.printed) :=
      left.printed_tame.append (.cons (by cases op <;> decide) right.printed_tame)
    have whole := operator.paren
    rw [List.append_assoc] at whole
    exact whole
  | .conditional _ condition consequence none =>
    .cons (by decide) (condition.printed_tame.append consequence.printed_tame)
  | .conditional _ condition consequence (some alternative) =>
    .cons (by decide) (condition.printed_tame.append
      (consequence.printed_tame.append (.cons (by decide) alternative.printed_tame)))
  | .function _ parameters body => by
    have names : ∀ tokens ∈ parameters.map fun name => [(⟨.identifier, name.literal, 0, 0⟩ : Token)],
        Tame tokens := by
      rw [List.forall_mem_map]
      exact fun name _ => .cons (by decide) .nil
    have whole := (Tame.listed names).paren.append body.printed_tame
    rw [List.cons_append, List.append_assoc] at whole
    exact .cons (by decide) whole
  | .call _ callee arguments =>
    callee.printed_tame.append (Tame.listed (Expr.allPrinted_tame arguments)).paren

theorem Expr.allPrinted_tame : (exprs : List Expr) → ∀ tokens ∈ Expr.allPrinted exprs, Tame tokens
  | [] => List.forall_mem_nil _
  | expr :: rest => List.forall_mem_cons.mpr ⟨expr.printed_tame, Expr.allPrinted_tame rest⟩

theorem Stmt.printed_tame : (stmt : Stmt) → Tame stmt.printed
  | .binding _ _ value =>
    .cons (by decide) (.cons (by decide) (.cons (by decide) value.printed_tame))
  | .result _ value => .cons (by decide) value.printed_tame
  | .expression _ value => value.printed_tame

theorem Stmt.allPrinted_tame : (stmts : List Stmt) → Tame (Stmt.allPrinted stmts)
  | [] => .nil
  | stmt :: rest => stmt.printed_tame.append (Stmt.allPrinted_tame rest)

theorem Block.printed_tame : (block : Block) → Tame block.printed
  | .mk _ stmts =>
    .cons (by decide) ((Stmt.allPrinted_tame stmts).append (.cons (by decide) .nil))

end

theorem Expr.printed_operation {expr : Expr} (operation : expr.isOperation = true) :
    ∃ inside, expr.printed.map Token.kind = .leftParen :: (inside ++ [.rightParen]) ∧
      Balanced inside := by
  cases expr with
  | unary token op operand =>
    have inner : Tame (.sign op.kind :: operand.printed) :=
      .cons (by cases op <;> decide) operand.printed_tame
    exact ⟨_, by rw [Expr.printed, List.map_cons, ← List.cons_append, List.map_append]; rfl,
      inner.balanced⟩
  | binary token op left right =>
    have inner : Tame (left.printed ++ .sign op.kind :: right.printed) :=
      left.printed_tame.append (.cons (by cases op <;> decide) right.printed_tame)
    refine ⟨_, ?_, inner.balanced⟩
    simp [Expr.printed, Token.sign]
  | _ => cases operation

/-- What is printed in parentheses and followed by a block is an operation. -/
theorem Expr.operation_of_asks : (expr : Expr) → {rest : List TokenKind} →
    Asks (expr.printed.map Token.kind ++ rest) → expr.isOperation = true
  | .unary .., _, _ | .binary .., _, _ => rfl
  | .call _ callee arguments, rest, asks => by
    rw [Expr.printed, List.map_append, List.append_assoc] at asks
    obtain ⟨inside, same, balanced⟩ := Expr.printed_operation (callee.operation_of_asks asks)
    -- The parentheses of the callee are closed right before those of the arguments.
    obtain ⟨later, code, opened, found⟩ := asks
    rw [same, List.cons_append, List.append_assoc] at opened
    cases opened
    rw [balanced] at found
    cases found
  | .boolean _ value, _, asks => by
    obtain ⟨_, _, same, _⟩ := asks
    cases value <;> cases same
  | .identifier _, _, asks | .integer .., _, asks | .float .., _, asks | .string _, _, asks
  | .conditional _ _ _ none, _, asks | .conditional _ _ _ (some _), _, asks
  | .function .., _, asks => by
    obtain ⟨_, _, same, _⟩ := asks
    cases same

mutual

/-- If every conditional among the printed tokens has its condition in parentheses, then so has
every conditional of the tree. -/
theorem Expr.bracketed : (expr : Expr) → {rest : List TokenKind} →
    Asking (expr.printed.map Token.kind ++ rest) → ∀ part ∈ expr.parts, part.Bracketed
  | .identifier _, _, _ | .integer .., _, _ | .float .., _, _ | .string _, _, _
  | .boolean .., _, _ => by
    rw [Expr.parts, List.forall_mem_singleton]
    trivial
  | .unary _ op operand, rest, asking => by
    rw [Expr.parts, List.forall_mem_cons]
    exact ⟨trivial, operand.bracketed asking.2.2.split⟩
  | .binary _ op left right, rest, asking => by
    have parts := asking.2.split
    rw [Expr.parts, List.forall_mem_cons, List.forall_mem_append]
    exact ⟨trivial, left.bracketed parts, right.bracketed parts.right.2.split⟩
  | .conditional _ condition consequence none, rest, asking => by
    obtain ⟨asks, asking⟩ := asking
    have parts := asking.split
    rw [Expr.parts, List.forall_mem_cons, List.forall_mem_append]
    exact ⟨condition.operation_of_asks (asks rfl).split, condition.bracketed parts,
      consequence.bracketed parts.right⟩
  | .conditional _ condition consequence (some alternative), rest, asking => by
    obtain ⟨asks, asking⟩ := asking
    have parts := asking.split
    have blocks := parts.right.split
    rw [Expr.parts, List.forall_mem_cons, List.forall_mem_append, List.forall_mem_append]
    exact ⟨condition.operation_of_asks (asks rfl).split, condition.bracketed parts,
      consequence.bracketed blocks, alternative.bracketed blocks.right.2⟩
  | .function _ parameters body, rest, asking => by
    rw [Expr.parts, List.forall_mem_cons]
    exact ⟨trivial, body.bracketed asking.2.2.split.right.2⟩
  | .call _ callee arguments, rest, asking => by
    have parts := asking.split
    rw [Expr.parts, List.forall_mem_cons, List.forall_mem_append]
    exact ⟨trivial, callee.bracketed parts,
      Expr.allBracketed arguments parts.right.2.split.listed⟩

theorem Expr.allBracketed : (exprs : List Expr) →
    (∀ tokens ∈ Expr.allPrinted exprs, ∃ after, Asking (tokens.map Token.kind ++ after)) →
    ∀ part ∈ Expr.allParts exprs, part.Bracketed
  | [], _ => List.forall_mem_nil _
  | expr :: rest, asking => by
    obtain ⟨⟨after, here⟩, later⟩ := List.forall_mem_cons.mp asking
    rw [Expr.allParts, List.forall_mem_append]
    exact ⟨expr.bracketed here, Expr.allBracketed rest later⟩

theorem Stmt.bracketed : (stmt : Stmt) → {rest : List TokenKind} →
    Asking (stmt.printed.map Token.kind ++ rest) → ∀ part ∈ stmt.parts, part.Bracketed
  | .binding _ _ value, rest, asking => by
    rw [Stmt.parts, List.forall_mem_cons]
    exact ⟨trivial, value.bracketed asking.2.2.2⟩
  | .result _ value, rest, asking => by
    rw [Stmt.parts, List.forall_mem_cons]
    exact ⟨trivial, value.bracketed asking.2⟩
  | .expression _ value, rest, asking => by
    rw [Stmt.parts, List.forall_mem_cons]
    exact ⟨trivial, value.bracketed asking⟩

theorem Stmt.allBracketed : (stmts : List Stmt) → {rest : List TokenKind} →
    Asking ((Stmt.allPrinted stmts).map Token.kind ++ rest) →
    ∀ part ∈ Stmt.allParts stmts, part.Bracketed
  | [], _, _ => List.forall_mem_nil _
  | stmt :: more, rest, asking => by
    have parts := asking.split
    rw [Stmt.allParts, List.forall_mem_append]
    exact ⟨stmt.bracketed parts, Stmt.allBracketed more parts.right⟩

theorem Block.bracketed : (block : Block) → {rest : List TokenKind} →
    Asking (block.printed.map Token.kind ++ rest) → ∀ part ∈ block.parts, part.Bracketed
  | .mk _ stmts, rest, asking => by
    rw [Block.parts, List.forall_mem_cons]
    exact ⟨trivial, Stmt.allBracketed stmts asking.2.split⟩

end

/-- Where no `~` is read no dialect is switched. -/
theorem Scanner.switching_eq_tokens {scanner : Scanner}
    (no_pragma : ∀ token ∈ scanner.tokens.1, token.kind ≠ .tilde) :
    scanner.switching = scanner.tokens.1 := by
  unfold switching
  induction length : scanner.rest.length using Nat.strong_induction_on generalizing scanner with
  | _ size ih =>
    rw [tokens_eq] at no_pragma
    rw [switchingAfter_eq, tokens_eq]
    split
    · rfl
    · rename_i more
      rw [if_neg more] at no_pragma
      obtain ⟨here, later⟩ := List.forall_mem_cons.mp no_pragma
      have shorter := next_shorter more
      rw [behind_false, decide_eq_false here, ih _ (length ▸ shorter) later rfl]

instance : DecidablePred Part.Bracketed
  | .expr (.conditional _ condition _ _) => inferInstanceAs (Decidable (condition.isOperation = true))
  | .expr (.identifier _) | .expr (.integer ..) | .expr (.float ..) | .expr (.string _)
  | .expr (.boolean ..) | .expr (.unary ..) | .expr (.binary ..) | .expr (.function ..)
  | .expr (.call ..) | .stmt _ | .block _ => isTrue trivial

namespace Stmt

/-- The tokens of the canonical text are the printed ones, places apart. -/
theorem remaining_text {stmt : Stmt} (legible : ∀ part ∈ stmt.parts, part.Legible) :
    (Reader.ofText .eng stmt.text).remaining.map Token.bare = stmt.printed := by
  have tokens : (Scanner.ofText .eng stmt.text).tokens.1.map Token.bare = stmt.printed :=
    (stmt.spells legible).alone.tokens 0
  have no_pragma : ∀ token ∈ (Scanner.ofText .eng stmt.text).tokens.1, token.kind ≠ .tilde := by
    intro token among
    have printed := List.mem_map_of_mem (f := Token.bare) among
    rw [tokens] at printed
    exact stmt.printed_tame.no_pragma token.bare printed
  show (Scanner.ofText .eng stmt.text).switching.map Token.bare = _
  rw [Scanner.switching_eq_tokens no_pragma, tokens]

theorem bracketed_of_parse {stmt : Stmt} (legible : ∀ part ∈ stmt.parts, part.Legible)
    {limit : Nat} (sound : ((Reader.ofText .eng stmt.text).parse limit).1.faults = []) :
    ∀ part ∈ stmt.parts, part.Bracketed := by
  have shaped := (Reader.lines_of_parse sound).shaped
  have kinds : (Reader.ofText .eng stmt.text).remaining.map Token.kind =
      stmt.printed.map Token.kind := by
    rw [← remaining_text legible, List.map_map]
    rfl
  rw [kinds, ← List.append_nil (stmt.printed.map Token.kind)] at shaped
  exact stmt.bracketed shaped.asking

theorem parse_of_bracketed {stmt : Stmt} (legible : ∀ part ∈ stmt.parts, part.Legible)
    (bracketed : ∀ part ∈ stmt.parts, part.Bracketed) {limit : Nat}
    (enough : (Reader.ofText .eng stmt.text).remaining.length < limit) :
    ∃ copy : Stmt, ((Reader.ofText .eng stmt.text).parse limit).1 = ⟨[copy], []⟩ ∧
      copy.plain = stmt.plain := by
  have faithful : ∀ part ∈ stmt.parts, part.Faithful :=
    fun part inside => ⟨legible part inside, bracketed part inside⟩
  obtain ⟨copy, derived, same⟩ := stmt.rereads faithful _ (remaining_text legible)
  exact ⟨copy, Reader.parse_of_lines derived.alone enough, same⟩

/-- Canonical text is parsed back to the statement that was printed if and only if the condition of
every conditional in it is an operation; otherwise the parser reports a fault. -/
theorem text_parses_back (dialect : Dialect) (source : String) (nesting : Nat) {stmt : Stmt}
    (parsed : stmt ∈ ((Reader.ofText dialect source).parse nesting).1.program)
    (names : ∀ part ∈ stmt.parts, ∀ token ∈ part.names, token.kind = .identifier →
      Dialect.eng.keyword? token.literal = none)
    (strings : ∀ part ∈ stmt.parts, ∀ token ∈ part.names, token.kind = .string →
      ∀ c ∈ token.literal.toList, Text.Shown c)
    (short : ∀ part ∈ stmt.parts, part.statements.length ≤ 1) :
    ∃ bound, ∀ limit ≥ bound,
      let reread := ((Reader.ofText .eng stmt.text).parse limit).1
      ((reread.faults = [] ∧ ∃ copy, reread.program = [copy] ∧ copy.plain = stmt.plain ∧
          copy.text = stmt.text) ↔
        ∀ part ∈ stmt.parts, part.Bracketed) ∧
      ((∃ part ∈ stmt.parts, ¬ part.Bracketed) → reread.faults ≠ []) := by
  have legible : ∀ part ∈ stmt.parts, part.Legible := by
    intro part inside
    have among := Stmt.mem_allParts parsed inside
    exact ⟨Reader.parse_fits nesting _ part among, names part inside, strings part inside,
      short part inside⟩
  refine ⟨(Reader.ofText .eng stmt.text).remaining.length + 1, fun limit enough => ⟨⟨?_, ?_⟩, ?_⟩⟩
  · exact fun back => bracketed_of_parse legible back.1
  · intro bracketed
    obtain ⟨copy, whole, same⟩ := parse_of_bracketed legible bracketed enough
    rw [whole]
    exact ⟨rfl, copy, rfl, same, by rw [← copy.text_plain, same, stmt.text_plain]⟩
  · rintro ⟨part, inside, other⟩ sound
    exact other (bracketed_of_parse legible sound part inside)

/-- A name as a condition is printed without parentheses, and the text is not read back. -/
theorem text_parses_back_trk :
    let program := ((Reader.ofText .trk
      "olsun f = fn(x) \x7b eğer (x > 1) \x7b döndür \"a\\n\" \x7d yoksa \x7b -x \x7d \x7d\neğer (f) \x7b 2 \x7d"
      ).parse 20).1.program
    ∃ first second, program = [first, second] ∧
      (∃ bound, ∀ limit ≥ bound, ((Reader.ofText .eng first.text).parse limit).1.faults = []) ∧
      ∃ bound, ∀ limit ≥ bound, ((Reader.ofText .eng second.text).parse limit).1.faults ≠ [] := by
  intro program
  have two : program.length = 2 := by decide +kernel
  obtain ⟨first, second, both⟩ := List.length_eq_two.mp two
  have all : ∀ stmt ∈ program, (∀ part ∈ stmt.parts, ∀ token ∈ part.names,
      token.kind = .identifier → Dialect.eng.keyword? token.literal = none) ∧
      (∀ part ∈ stmt.parts, ∀ token ∈ part.names, token.kind = .string →
        token.literal.toList.all (fun c => Text.Shown c) = true) ∧
      ∀ part ∈ stmt.parts, part.statements.length ≤ 1 := by decide +kernel
  have shown {token : Token} (all : token.literal.toList.all (fun c => Text.Shown c) = true) :
      ∀ c ∈ token.literal.toList, Text.Shown c := by
    simpa using all
  have bracketed : program.map (fun stmt => decide (∀ part ∈ stmt.parts, part.Bracketed)) =
      [true, false] := by decide +kernel
  have here : first ∈ program := by simp [both]
  have there : second ∈ program := by simp [both]
  rw [both] at bracketed
  obtain ⟨fits, misfits⟩ : (∀ part ∈ first.parts, part.Bracketed) ∧
      ∃ part ∈ second.parts, ¬ part.Bracketed := by simpa using bracketed
  refine ⟨first, second, both, ?_, ?_⟩
  · obtain ⟨names, strings, short⟩ := all first here
    obtain ⟨bound, back⟩ := text_parses_back .trk _ 20 here names
      (fun part inside token among string => shown (strings part inside token among string)) short
    exact ⟨bound, fun limit enough => ((back limit enough).1.mpr fits).1⟩
  · obtain ⟨names, strings, short⟩ := all second there
    obtain ⟨bound, back⟩ := text_parses_back .trk _ 20 there names
      (fun part inside token among string => shown (strings part inside token among string)) short
    exact ⟨bound, fun limit enough => (back limit enough).2 misfits⟩

end Stmt

end Polyglot
