import Polyglot.Proofs.Printing
import Polyglot.Proofs.Strata

/-! Printed tokens as a program. The tokens of a canonical text are written by the rules of the
grammar, and what they stand for is the tree that was printed, where every condition comes with
the parentheses that its place asks for. -/
namespace Polyglot

/-- Operations are the expressions that are printed in parentheses. -/
def Expr.isOperation : Expr → Bool
  | .unary .. | .binary .. => true
  | _ => false

/-- The part is no conditional, or its condition is printed in parentheses. -/
def Part.Bracketed : Part → Prop
  | .expr (.conditional _ condition _ _) => condition.isOperation = true
  | _ => True

theorem UnaryOp.eq_kind {kind : TokenKind} {op : UnaryOp}
    (operator : Grammar.unary? kind = some op) : kind = op.kind := by
  cases kind <;> cases operator <;> rfl

theorem BinaryOp.eq_kind {kind : TokenKind} {op : BinaryOp} (operator : ofKind? kind = some op) :
    kind = op.kind := by
  cases kind <;> cases operator <;> rfl

namespace Token

theorem plain_of_bare {token other : Token} (same : token.bare = other) :
    token.plain = other.plain := by
  subst same
  rfl

theorem kind_of_bare {token other : Token} (same : token.bare = other) :
    token.kind = other.kind := by
  subst same
  rfl

theorem literal_of_bare {token other : Token} (same : token.bare = other) :
    token.literal = other.literal := by
  subst same
  rfl

@[simp] theorem word_plain (word : Keyword) : (Token.word word).plain = Token.word word := rfl

theorem plain_eq_word {token : Token} {word : Keyword} (kind : token.kind = .keyword word) :
    token.plain = Token.word word := by
  rw [plain, canonical, kind]
  rfl

theorem plain_eq_sign {token : Token} {kind : TokenKind} (same : token.kind = kind)
    (no_word : kind.keyword? = none) (literal : token.literal.toList = kind.name.toList) :
    token.plain = sign kind := by
  subst same
  rw [sign, ← String.toList_inj.mp literal, plain, canonical]
  split
  · rename_i word same
    rw [same] at no_word
    cases no_word
  · rfl

theorem sign_plain {kind : TokenKind} (no_word : kind.keyword? = none) :
    (sign kind).plain = sign kind :=
  plain_eq_sign rfl no_word rfl

theorem bare_eq {token : Token} {kind : TokenKind} (same : token.kind = kind) :
    token.bare = ⟨kind, token.literal, 0, 0⟩ := by
  rw [← same]
  rfl

end Token

namespace Grammar

/-- The tokens are written as an expression that is this one, places and spellings apart. -/
structure Rereads (tokens : List Token) (expr : Expr) : Prop where
  whole : ∃ copy, Expression .call tokens copy ∧ copy.plain = expr.plain
  inside : expr.isOperation = true → ∃ opening inside closing copy,
    tokens = opening :: (inside ++ [closing]) ∧ opening.kind = .leftParen ∧
      closing.kind = .rightParen ∧ Expression .equality inside copy ∧ copy.plain = expr.plain

theorem Rereads.primary {tokens : List Token} {expr copy : Expr}
    (derived : Expression .primary tokens copy) (same : copy.plain = expr.plain)
    (other : expr.isOperation = false) : Rereads tokens expr where
  whole := ⟨copy, derived.loosen (by decide), same⟩
  inside operation := by
    rw [other] at operation
    cases operation

/-- An operation is read back in the parentheses around it. -/
theorem Rereads.operation {opening closing : Token} {inside : List Token} {expr copy : Expr}
    (opens : opening.kind = .leftParen) (closes : closing.kind = .rightParen)
    (derived : Expression .equality inside copy) (same : copy.plain = expr.plain) :
    Rereads (opening :: (inside ++ [closing])) expr where
  whole := ⟨copy, (Expression.group opens derived closes).loosen (by decide), same⟩
  inside _ := ⟨opening, inside, closing, copy, rfl, opens, closes, derived, same⟩

theorem Rereads.equality {tokens : List Token} {expr : Expr} (rereads : Rereads tokens expr) :
    ∃ copy, Expression .equality tokens copy ∧ copy.plain = expr.plain := by
  obtain ⟨copy, derived, same⟩ := rereads.whole
  exact ⟨copy, derived.loosen (by decide), same⟩

theorem Statement.alone {tokens : List Token} {stmt : Stmt}
    (statement : Statement tokens (some stmt)) : Lines tokens [stmt] := by
  have no_ends : LineEnds [] := List.forall_mem_nil _
  have line := Lines.first no_ends statement (.done no_ends)
  rwa [List.nil_append, List.append_nil] at line

theorem moreParameters_of_printed {parameters tokens : List Token}
    (printed : tokens.map Token.bare =
      (parameters.map fun name => [(⟨.identifier, name.literal, 0, 0⟩ : Token)]).flatMap
        (Token.sign .comma :: ·)) :
    ∃ names, MoreParameters tokens names ∧
      names.map Token.bare = parameters.map fun name => ⟨.identifier, name.literal, 0, 0⟩ := by
  induction parameters generalizing tokens with
  | nil =>
    obtain rfl := List.map_eq_nil_iff.mp printed
    exact ⟨[], .done, rfl⟩
  | cons parameter parameters ih =>
    simp only [List.map_cons, List.flatMap_cons, List.cons_append, List.nil_append,
      List.map_eq_cons_iff] at printed
    obtain ⟨comma, _, rfl, separates, name, rest, rfl, named, printed⟩ := printed
    obtain ⟨names, others, same⟩ := ih printed
    refine ⟨name :: names, .more (Token.kind_of_bare separates) (Token.kind_of_bare named) others, ?_⟩
    rw [List.map_cons, named, same, List.map_cons]

theorem parameters_of_printed {parameters tokens : List Token}
    (printed : tokens.map Token.bare =
      Token.listed (parameters.map fun name => [⟨.identifier, name.literal, 0, 0⟩])) :
    ∃ names, Parameters tokens names ∧
      names.map Token.bare = parameters.map fun name => ⟨.identifier, name.literal, 0, 0⟩ := by
  cases parameters with
  | nil =>
    obtain rfl := List.map_eq_nil_iff.mp printed
    exact ⟨[], .empty, rfl⟩
  | cons parameter parameters =>
    simp only [List.map_cons, Token.listed, List.cons_append, List.nil_append,
      List.map_eq_cons_iff] at printed
    obtain ⟨name, rest, rfl, named, printed⟩ := printed
    obtain ⟨names, others, same⟩ := moreParameters_of_printed printed
    refine ⟨name :: names, .first (Token.kind_of_bare named) others, ?_⟩
    rw [List.map_cons, named, same, List.map_cons]

end Grammar

open Grammar

/-- The part is read back as what it is. -/
structure Part.Faithful (part : Part) : Prop where
  legible : part.Legible
  bracketed : part.Bracketed

theorem Part.Legible.sign {part : Part} (legible : part.Legible) {token : Token} {kind : TokenKind}
    (held : token ∈ part.tokens) (same : token.kind = kind) (no_word : kind.keyword? = none)
    (written : ∀ text, kind.Written text → text = kind.name.toList) :
    token.plain = Token.sign kind :=
  Token.plain_eq_sign same no_word (written _ (legible.written held same))

/-- From its printed tokens, wherever they are placed, the expression is read back. -/
def Expr.ReadBack (expr : Expr) : Prop :=
  ∀ tokens : List Token, tokens.map Token.bare = expr.printed → Rereads tokens expr

def Expr.AllReadBack (exprs : List Expr) : Prop :=
  ∀ tokens : List Token, tokens.map Token.bare = Token.listed (Expr.allPrinted exprs) →
    ∃ copies, Arguments tokens copies ∧ Expr.allPlain copies = Expr.allPlain exprs

def Block.ReadBack (block : Block) : Prop :=
  ∀ tokens : List Token, tokens.map Token.bare = block.printed →
    ∃ copy, Braces tokens copy ∧ copy.plain = block.plain

namespace Expr.ReadBack

theorem identifier {token : Token} (here : (Part.expr (.identifier token)).Legible) :
    (Expr.identifier token).ReadBack := by
  intro tokens printed
  have kind : token.kind = _ := here.fits.proper
  obtain ⟨copy, rfl, same⟩ := List.map_eq_singleton_iff.mp printed
  refine .primary (.identifier (Token.kind_of_bare same)) ?_ rfl
  rw [Expr.plain, Expr.plain, same, Token.bare_eq kind]

theorem integer {token : Token} {value : Int64}
    (here : (Part.expr (.integer token value)).Legible) : (Expr.integer token value).ReadBack := by
  intro tokens printed
  obtain ⟨kind, number, denoted, small, rfl⟩ := here.fits.proper
  obtain ⟨copy, rfl, same⟩ := List.map_eq_singleton_iff.mp printed
  have literal : copy.literal = token.literal := (Token.literal_of_bare same).trans rfl
  have copied : copy.Denotes number := by
    unfold Token.Denotes
    rwa [literal]
  refine .primary (.integer (Token.kind_of_bare same) copied small) ?_ rfl
  rw [Expr.plain, Expr.plain, same, Token.bare_eq kind]

theorem float {token : Token} {value : Float}
    (here : (Part.expr (.float token value)).Legible) : (Expr.float token value).ReadBack := by
  intro tokens printed
  obtain ⟨kind, rfl⟩ := here.fits.proper
  obtain ⟨copy, rfl, same⟩ := List.map_eq_singleton_iff.mp printed
  have literal : copy.literal = token.literal := (Token.literal_of_bare same).trans rfl
  refine .primary (.float (Token.kind_of_bare same)) ?_ rfl
  rw [Expr.plain, Expr.plain, same, Token.bare_eq kind, literal]

theorem string {token : Token} (here : (Part.expr (.string token)).Legible) :
    (Expr.string token).ReadBack := by
  intro tokens printed
  have kind : token.kind = _ := here.fits.proper
  obtain ⟨copy, rfl, same⟩ := List.map_eq_singleton_iff.mp printed
  refine .primary (.string (Token.kind_of_bare same)) ?_ rfl
  rw [Expr.plain, Expr.plain, same, Token.bare_eq kind]

theorem boolean {token : Token} {value : Bool}
    (here : (Part.expr (.boolean token value)).Legible) : (Expr.boolean token value).ReadBack := by
  intro tokens printed
  have kind : token.kind = _ := here.fits.proper
  obtain ⟨copy, rfl, same⟩ := List.map_eq_singleton_iff.mp printed
  have word := Token.plain_eq_word kind
  cases value with
  | true =>
    refine .primary (.trueWord (Token.kind_of_bare same)) ?_ rfl
    rw [Expr.plain, Expr.plain, Token.plain_of_bare same, word]
    rfl
  | false =>
    refine .primary (.falseWord (Token.kind_of_bare same)) ?_ rfl
    rw [Expr.plain, Expr.plain, Token.plain_of_bare same, word]
    rfl

theorem unary {token : Token} {op : UnaryOp} {operand : Expr}
    (here : (Part.expr (.unary token op operand)).Legible) (inner : operand.ReadBack) :
    (Expr.unary token op operand).ReadBack := by
  intro tokens printed
  have no_word : op.kind.keyword? = none := by cases op <;> rfl
  have sign : token.plain = Token.sign op.kind :=
    here.sign List.mem_cons_self (UnaryOp.eq_kind here.fits.proper) no_word
      (by cases op <;> exact fun _ => id)
  simp only [Expr.printed, List.map_eq_cons_iff, List.map_eq_append_iff,
    List.map_eq_nil_iff] at printed
  obtain ⟨opening, _, rfl, opens, operator, _, rfl, operates, rest, _, rfl, printed, closing,
    _, rfl, closes, rfl⟩ := printed
  obtain ⟨copy, derived, same⟩ := (inner rest printed).whole
  have unary : Grammar.unary? operator.kind = some op := by
    rw [Token.kind_of_bare operates]
    cases op <;> rfl
  have inside : Expression .equality _ _ :=
    (Expression.unary unary (derived.loosen (by decide))).loosen (Nat.zero_le _)
  refine .operation (Token.kind_of_bare opens) (Token.kind_of_bare closes) inside ?_
  rw [Expr.plain, Expr.plain, same, sign, Token.plain_of_bare operates, Token.sign_plain no_word]

/-- Both sides are read back as calls, so they bind tighter than every operator. -/
theorem binary {token : Token} {op : BinaryOp} {left right : Expr}
    (here : (Part.expr (.binary token op left right)).Legible) (first : left.ReadBack)
    (second : right.ReadBack) : (Expr.binary token op left right).ReadBack := by
  intro tokens printed
  have no_word : op.kind.keyword? = none := by cases op <;> rfl
  have sign : token.plain = Token.sign op.kind :=
    here.sign List.mem_cons_self (BinaryOp.eq_kind here.fits.proper) no_word
      (by cases op <;> exact fun _ => id)
  simp only [Expr.printed, List.map_eq_cons_iff, List.map_eq_append_iff,
    List.map_eq_nil_iff] at printed
  obtain ⟨opening, _, rfl, opens, before, _, rfl, one, operator, _, rfl, operates, after, _,
    rfl, other, closing, _, rfl, closes, rfl⟩ := printed
  obtain ⟨_, derived, same⟩ := (first before one).whole
  obtain ⟨_, derived', same'⟩ := (second after other).whole
  obtain ⟨stratum, binary, next, _⟩ := BinaryOp.stratum_of_kind
    (show BinaryOp.ofKind? op.kind = some op by cases op <;> rfl)
  rw [show op.kind = operator.kind from (Token.kind_of_bare operates).symm] at binary next
  have below : stratum.rank < 4 := (Stratum.kind_of_binary binary).2.2.2.2.2
  have tight := Stratum.rank_tighter next
  have inside : Expression .equality _ _ :=
    (Expression.binary next (derived.loosen (show _ ≤ 5 by omega)) binary
      (derived'.loosen (show _ ≤ 5 by omega))).loosen (Nat.zero_le _)
  have around : before ++ operator :: (after ++ [closing]) =
      (before ++ operator :: after) ++ [closing] := by simp
  rw [around]
  refine .operation (Token.kind_of_bare opens) (Token.kind_of_bare closes) inside ?_
  rw [Expr.plain, Expr.plain, same, same', sign, Token.plain_of_bare operates,
    Token.sign_plain no_word]

theorem conditional {token : Token} {condition : Expr} {consequence : Block}
    (here : (Part.expr (.conditional token condition consequence none)).Faithful)
    (asks : condition.ReadBack) (holds : consequence.ReadBack) :
    (Expr.conditional token condition consequence none).ReadBack := by
  intro tokens printed
  have kind : token.kind = _ := here.legible.fits.proper
  simp only [Expr.printed, List.map_eq_cons_iff, List.map_eq_append_iff] at printed
  obtain ⟨word, _, rfl, starts, asked, held, rfl, question, answer⟩ := printed
  obtain ⟨opening, inside, closing, _, rfl, opens, closes, derived, same⟩ :=
    (asks asked question).inside here.bracketed
  obtain ⟨_, braces, same'⟩ := holds held answer
  rw [List.cons_append, List.append_assoc]
  refine .primary (.conditional (Token.kind_of_bare starts) opens derived closes braces) ?_ rfl
  rw [Expr.plain, Expr.plain, same, same', Token.plain_eq_word kind, Token.plain_of_bare starts,
    Token.word_plain]

theorem alternative {token : Token} {condition : Expr} {consequence alternative : Block}
    (here : (Part.expr (.conditional token condition consequence (some alternative))).Faithful)
    (asks : condition.ReadBack) (holds : consequence.ReadBack) (fails : alternative.ReadBack) :
    (Expr.conditional token condition consequence (some alternative)).ReadBack := by
  intro tokens printed
  have kind : token.kind = _ := here.legible.fits.proper
  simp only [Expr.printed, List.map_eq_cons_iff, List.map_eq_append_iff] at printed
  obtain ⟨word, _, rfl, starts, asked, _, rfl, question, held, _, rfl, answer, other, others,
    rfl, otherwise, remaining⟩ := printed
  obtain ⟨opening, inside, closing, _, rfl, opens, closes, derived, same⟩ :=
    (asks asked question).inside here.bracketed
  obtain ⟨_, braces, same'⟩ := holds held answer
  obtain ⟨_, braces', same''⟩ := fails others remaining
  rw [List.cons_append, List.append_assoc]
  refine .primary (.alternative (Token.kind_of_bare starts) opens derived closes braces
    (Token.kind_of_bare otherwise) braces') ?_ rfl
  rw [Expr.plain, Expr.plain, same, same', same'', Token.plain_eq_word kind,
    Token.plain_of_bare starts, Token.word_plain]

theorem function {token : Token} {parameters : List Token} {body : Block}
    (here : (Part.expr (.function token parameters body)).Legible) (runs : body.ReadBack) :
    (Expr.function token parameters body).ReadBack := by
  intro tokens printed
  obtain ⟨kind, kinds⟩ := here.fits.proper
  simp only [Expr.printed, List.map_eq_cons_iff, List.map_eq_append_iff] at printed
  obtain ⟨word, _, rfl, starts, opening, _, rfl, opens, inside, _, rfl, listed, closing, code,
    rfl, closes, written⟩ := printed
  obtain ⟨names, given, same⟩ := parameters_of_printed listed
  obtain ⟨_, braces, same'⟩ := runs code written
  have bare : parameters.map Token.bare = names.map Token.bare := by
    rw [same]
    exact List.map_congr_left fun name among => Token.bare_eq (kinds name among)
  refine .primary (.function (Token.kind_of_bare starts) (Token.kind_of_bare opens) given
    (Token.kind_of_bare closes) braces) ?_ rfl
  rw [Expr.plain, Expr.plain, same', bare, Token.plain_eq_word kind, Token.plain_of_bare starts,
    Token.word_plain]

theorem call {token : Token} {callee : Expr} {arguments : List Expr}
    (here : (Part.expr (.call token callee arguments)).Legible) (called : callee.ReadBack)
    (given : AllReadBack arguments) : (Expr.call token callee arguments).ReadBack := by
  intro tokens printed
  have sign : token.plain = Token.sign .leftParen :=
    here.sign List.mem_cons_self here.fits.proper rfl fun _ => id
  simp only [Expr.printed, List.map_eq_cons_iff, List.map_eq_append_iff,
    List.map_eq_nil_iff] at printed
  obtain ⟨before, _, rfl, first, opening, _, rfl, opens, inside, _, rfl, listed, closing, _, rfl,
    closes, rfl⟩ := printed
  obtain ⟨_, derived, same⟩ := (called before first).whole
  obtain ⟨_, copied, same'⟩ := given inside listed
  refine ⟨⟨_, .call derived (Token.kind_of_bare opens) copied (Token.kind_of_bare closes), ?_⟩,
    fun operation => by cases operation⟩
  rw [Expr.plain, Expr.plain, same, same', sign, Token.plain_of_bare opens, Token.sign_plain rfl]

end Expr.ReadBack

mutual

theorem Expr.rereads : (expr : Expr) → (∀ part ∈ expr.parts, part.Faithful) → expr.ReadBack
  | .identifier token, faithful => .identifier (faithful _ List.mem_cons_self).legible
  | .integer token value, faithful => .integer (faithful _ List.mem_cons_self).legible
  | .float token value, faithful => .float (faithful _ List.mem_cons_self).legible
  | .string token, faithful => .string (faithful _ List.mem_cons_self).legible
  | .boolean token value, faithful => .boolean (faithful _ List.mem_cons_self).legible
  | .unary token op operand, faithful => by
    simp only [Expr.parts, List.forall_mem_cons] at faithful
    exact .unary faithful.1.legible (operand.rereads faithful.2)
  | .binary token op left right, faithful => by
    simp only [Expr.parts, List.forall_mem_cons, List.forall_mem_append] at faithful
    exact .binary faithful.1.legible (left.rereads faithful.2.1) (right.rereads faithful.2.2)
  | .conditional token condition consequence none, faithful => by
    simp only [Expr.parts, List.forall_mem_cons, List.forall_mem_append] at faithful
    exact .conditional faithful.1 (condition.rereads faithful.2.1)
      (consequence.rereads faithful.2.2)
  | .conditional token condition consequence (some alternative), faithful => by
    simp only [Expr.parts, List.forall_mem_cons, List.forall_mem_append] at faithful
    exact .alternative faithful.1 (condition.rereads faithful.2.1)
      (consequence.rereads faithful.2.2.1) (alternative.rereads faithful.2.2.2)
  | .function token parameters body, faithful => by
    simp only [Expr.parts, List.forall_mem_cons] at faithful
    exact .function faithful.1.legible (body.rereads faithful.2)
  | .call token callee arguments, faithful => by
    simp only [Expr.parts, List.forall_mem_cons, List.forall_mem_append] at faithful
    exact .call faithful.1.legible (callee.rereads faithful.2.1)
      (Expr.allReread arguments faithful.2.2)

theorem Expr.allReread : (exprs : List Expr) → (∀ part ∈ Expr.allParts exprs, part.Faithful) →
    Expr.AllReadBack exprs
  | [], _, tokens, printed => by
    obtain rfl := List.map_eq_nil_iff.mp printed
    exact ⟨[], .empty, rfl⟩
  | expr :: rest, faithful, tokens, printed => by
    simp only [Expr.allParts, List.forall_mem_append] at faithful
    simp only [Expr.allPrinted, Token.listed, List.map_eq_append_iff] at printed
    obtain ⟨first, others, rfl, here, later⟩ := printed
    obtain ⟨copy, derived, same⟩ := (expr.rereads faithful.1 first here).equality
    obtain ⟨copies, more, same'⟩ := Expr.moreReread rest faithful.2 others later
    exact ⟨copy :: copies, .first derived more, by rw [Expr.allPlain, Expr.allPlain, same, same']⟩

theorem Expr.moreReread : (exprs : List Expr) → (∀ part ∈ Expr.allParts exprs, part.Faithful) →
    (tokens : List Token) →
    tokens.map Token.bare = (Expr.allPrinted exprs).flatMap (Token.sign .comma :: ·) →
    ∃ copies, MoreArguments tokens copies ∧ Expr.allPlain copies = Expr.allPlain exprs
  | [], _, tokens, printed => by
    obtain rfl := List.map_eq_nil_iff.mp printed
    exact ⟨[], .done, rfl⟩
  | expr :: rest, faithful, tokens, printed => by
    simp only [Expr.allParts, List.forall_mem_append] at faithful
    simp only [Expr.allPrinted, List.flatMap_cons, List.cons_append, List.map_eq_cons_iff,
      List.map_eq_append_iff] at printed
    obtain ⟨comma, _, rfl, separates, first, others, rfl, here, later⟩ := printed
    obtain ⟨copy, derived, same⟩ := (expr.rereads faithful.1 first here).equality
    obtain ⟨copies, more, same'⟩ := Expr.moreReread rest faithful.2 others later
    refine ⟨copy :: copies, .more (Token.kind_of_bare separates) derived more, ?_⟩
    rw [Expr.allPlain, Expr.allPlain, same, same']

theorem Stmt.rereads : (stmt : Stmt) → (∀ part ∈ stmt.parts, part.Faithful) →
    (tokens : List Token) → tokens.map Token.bare = stmt.printed →
    ∃ copy, Statement tokens (some copy) ∧ copy.plain = stmt.plain
  | .binding token name value, faithful, tokens, printed => by
    simp only [Stmt.parts, List.forall_mem_cons] at faithful
    obtain ⟨kind, named⟩ := faithful.1.legible.fits.proper
    simp only [Stmt.printed, List.map_eq_cons_iff] at printed
    obtain ⟨first, _, rfl, binds, bound, _, rfl, named', sign, rest, rfl, assigns, printed⟩ := printed
    obtain ⟨copy, derived, same⟩ := (value.rereads faithful.2 rest printed).equality
    refine ⟨_, .binding (Token.kind_of_bare binds) (Token.kind_of_bare named')
      (Token.kind_of_bare assigns) derived, ?_⟩
    rw [Stmt.plain, Stmt.plain, same, named', Token.bare_eq named, Token.plain_eq_word kind,
      Token.plain_of_bare binds, Token.word_plain]
  | .result token value, faithful, tokens, printed => by
    simp only [Stmt.parts, List.forall_mem_cons] at faithful
    have kind : token.kind = _ := faithful.1.legible.fits.proper
    simp only [Stmt.printed, List.map_eq_cons_iff] at printed
    obtain ⟨first, rest, rfl, returns, printed⟩ := printed
    obtain ⟨copy, derived, same⟩ := (value.rereads faithful.2 rest printed).equality
    refine ⟨_, .result (Token.kind_of_bare returns) derived, ?_⟩
    rw [Stmt.plain, Stmt.plain, same, Token.plain_eq_word kind, Token.plain_of_bare returns,
      Token.word_plain]
  | .expression token value, faithful, tokens, printed => by
    simp only [Stmt.parts, List.forall_mem_cons] at faithful
    obtain ⟨copy, derived, same⟩ := (value.rereads faithful.2 tokens printed).equality
    obtain ⟨first, rest, rfl⟩ := List.exists_cons_of_ne_nil derived.tokens_ne_nil
    exact ⟨_, .expression derived, by rw [Stmt.plain, Stmt.plain, same]⟩

theorem Block.rereads : (block : Block) → (∀ part ∈ block.parts, part.Faithful) →
    block.ReadBack
  | .mk token stmts, faithful, tokens, printed => by
    have here := (faithful _ List.mem_cons_self).legible
    have sign : token.plain = Token.sign .leftBrace :=
      here.sign List.mem_cons_self here.fits.proper rfl fun _ => id
    simp only [Block.printed, List.map_eq_cons_iff, List.map_eq_append_iff,
      List.map_eq_nil_iff] at printed
    obtain ⟨opening, _, rfl, opens, inside, _, rfl, lines, closing, _, rfl, closes, rfl⟩ := printed
    have plain : opening.plain = token.plain := by
      rw [sign, Token.plain_of_bare opens, Token.sign_plain rfl]
    match stmts, here.short with
    | [], _ =>
      obtain rfl := List.map_eq_nil_iff.mp lines
      have nothing : Lines [] [] := .blank (List.forall_mem_nil _)
      refine ⟨_, .mk (Token.kind_of_bare opens) nothing (Token.kind_of_bare closes), ?_⟩
      rw [Block.plain, Block.plain, plain]
    | [stmt], _ =>
      simp only [Block.parts, Stmt.allParts, List.append_nil, List.forall_mem_cons] at faithful
      rw [Stmt.allPrinted, Stmt.allPrinted, List.append_nil] at lines
      obtain ⟨copy, derived, same⟩ := stmt.rereads faithful.2 inside lines
      refine ⟨_, .mk (Token.kind_of_bare opens) derived.alone (Token.kind_of_bare closes), ?_⟩
      simp only [Block.plain, Stmt.allPlain, plain, same]
    | _ :: _ :: _, short => simp [Part.statements] at short

end

end Polyglot
