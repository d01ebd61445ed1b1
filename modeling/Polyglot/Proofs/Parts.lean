import Polyglot.Proofs.Mapping
import Polyglot.Syntax.Canonical

/-! The parts of a tree, and what of a tree is left when the places of its tokens, the spelling of
its keywords and the tokens with which its expression statements begin are forgotten. The canonical
text does not depend on any of them. -/
namespace Polyglot

inductive Part where
  | expr (expr : Expr)
  | stmt (stmt : Stmt)
  | block (block : Block)

/-- The tokens whose text belongs to what the part means: names, numbers and strings. -/
def Part.names : Part → List Token
  | expr (.identifier token) | expr (.integer token _) | expr (.float token _)
  | expr (.string token) => [token]
  | expr (.function _ parameters _) => parameters
  | stmt (.binding _ name _) => [name]
  | _ => []

mutual

/-- The expression and all that is inside it. -/
def Expr.parts : Expr → List Part
  | .identifier token => [.expr (.identifier token)]
  | .integer token value => [.expr (.integer token value)]
  | .float token value => [.expr (.float token value)]
  | .string token => [.expr (.string token)]
  | .boolean token value => [.expr (.boolean token value)]
  | .unary token op operand => .expr (.unary token op operand) :: operand.parts
  | .binary token op left right => .expr (.binary token op left right) :: (left.parts ++ right.parts)
  | .conditional token condition consequence none =>
    .expr (.conditional token condition consequence none) :: (condition.parts ++ consequence.parts)
  | .conditional token condition consequence (some alternative) =>
    .expr (.conditional token condition consequence (some alternative)) ::
      (condition.parts ++ (consequence.parts ++ alternative.parts))
  | .function token parameters body => .expr (.function token parameters body) :: body.parts
  | .call token callee arguments =>
    .expr (.call token callee arguments) :: (callee.parts ++ Expr.allParts arguments)

def Expr.allParts : List Expr → List Part
  | [] => []
  | expr :: rest => expr.parts ++ Expr.allParts rest

def Stmt.parts : Stmt → List Part
  | .binding token name value => .stmt (.binding token name value) :: value.parts
  | .result token value => .stmt (.result token value) :: value.parts
  | .expression token value => .stmt (.expression token value) :: value.parts

def Stmt.allParts : List Stmt → List Part
  | [] => []
  | stmt :: rest => stmt.parts ++ Stmt.allParts rest

def Block.parts : Block → List Part
  | .mk token statements => .block (.mk token statements) :: Stmt.allParts statements

end

/-- The token without its place in the text. -/
def Token.bare (token : Token) : Token :=
  { token with start := 0, stop := 0 }

/-- The token without its place, a keyword in the standard spelling. -/
def Token.plain (token : Token) : Token :=
  ⟨token.kind, token.canonical, 0, 0⟩

@[simp] theorem Token.bare_bare (token : Token) : token.bare.bare = token.bare := rfl

@[simp] theorem Token.bare_literal (token : Token) : token.bare.literal = token.literal := rfl

@[simp] theorem Token.canonical_plain (token : Token) : token.plain.canonical = token.canonical := by
  obtain ⟨kind, literal, start, stop⟩ := token
  cases kind <;> rfl

@[simp] theorem Token.plain_plain (token : Token) : token.plain.plain = token.plain := by
  rw [plain, canonical_plain]
  rfl

mutual

/-- The expression without the places of its tokens and with its keywords in the standard
spelling. -/
def Expr.plain : Expr → Expr
  | .identifier token => .identifier token.bare
  | .integer token value => .integer token.bare value
  | .float token value => .float token.bare value
  | .string token => .string token.bare
  | .boolean token value => .boolean token.plain value
  | .unary token op operand => .unary token.plain op operand.plain
  | .binary token op left right => .binary token.plain op left.plain right.plain
  | .conditional token condition consequence none =>
    .conditional token.plain condition.plain consequence.plain none
  | .conditional token condition consequence (some alternative) =>
    .conditional token.plain condition.plain consequence.plain (some alternative.plain)
  | .function token parameters body =>
    .function token.plain (parameters.map Token.bare) body.plain
  | .call token callee arguments => .call token.plain callee.plain (Expr.allPlain arguments)

def Expr.allPlain : List Expr → List Expr
  | [] => []
  | expr :: rest => expr.plain :: Expr.allPlain rest

/-- An expression is taken to begin with its own token, whatever stands before that. -/
def Stmt.plain : Stmt → Stmt
  | .binding token name value => .binding token.plain name.bare value.plain
  | .result token value => .result token.plain value.plain
  | .expression _ value => .expression value.plain.token value.plain

def Stmt.allPlain : List Stmt → List Stmt
  | [] => []
  | stmt :: rest => stmt.plain :: Stmt.allPlain rest

def Block.plain : Block → Block
  | .mk token statements => .mk token.plain (Stmt.allPlain statements)

end

theorem Stmt.allParts_append (stmts others : List Stmt) :
    Stmt.allParts (stmts ++ others) = Stmt.allParts stmts ++ Stmt.allParts others := by
  induction stmts with
  | nil => rfl
  | cons stmt rest ih => rw [List.cons_append, allParts, ih, allParts, List.append_assoc]

theorem Stmt.mem_allParts {stmt : Stmt} {stmts : List Stmt} (among : stmt ∈ stmts) {part : Part}
    (inside : part ∈ stmt.parts) : part ∈ Stmt.allParts stmts := by
  obtain ⟨before, after, rfl⟩ := List.append_of_mem among
  rw [allParts_append, allParts]
  exact List.mem_append_right _ (List.mem_append_left _ inside)

theorem Stmt.allPlain_append (stmts others : List Stmt) :
    Stmt.allPlain (stmts ++ others) = Stmt.allPlain stmts ++ Stmt.allPlain others := by
  induction stmts with
  | nil => rfl
  | cons stmt rest ih => rw [List.cons_append, allPlain, ih, allPlain, List.cons_append]

mutual

theorem Expr.plain_plain : (expr : Expr) → expr.plain.plain = expr.plain
  | .identifier _ | .integer _ _ | .float _ _ | .string _ => rfl
  | .boolean _ _ => by simp only [Expr.plain, Token.plain_plain]
  | .unary _ _ operand => by simp only [Expr.plain, Token.plain_plain, Expr.plain_plain operand]
  | .binary _ _ left right => by
    simp only [Expr.plain, Token.plain_plain, Expr.plain_plain left, Expr.plain_plain right]
  | .conditional _ condition consequence none => by
    simp only [Expr.plain, Token.plain_plain, Expr.plain_plain condition,
      Block.plain_plain consequence]
  | .conditional _ condition consequence (some alternative) => by
    simp only [Expr.plain, Token.plain_plain, Expr.plain_plain condition,
      Block.plain_plain consequence, Block.plain_plain alternative]
  | .function _ parameters body => by
    simp only [Expr.plain, Token.plain_plain, List.map_map, Block.plain_plain body]
    rfl
  | .call _ callee arguments => by
    simp only [Expr.plain, Token.plain_plain, Expr.plain_plain callee,
      Expr.allPlain_allPlain arguments]

theorem Expr.allPlain_allPlain :
    (exprs : List Expr) → Expr.allPlain (Expr.allPlain exprs) = Expr.allPlain exprs
  | [] => rfl
  | expr :: rest => by
    simp only [Expr.allPlain, Expr.plain_plain expr, Expr.allPlain_allPlain rest]

theorem Stmt.plain_plain : (stmt : Stmt) → stmt.plain.plain = stmt.plain
  | .binding _ _ value | .result _ value | .expression _ value => by
    simp only [Stmt.plain, Token.plain_plain, Token.bare_bare, Expr.plain_plain value]

theorem Stmt.allPlain_allPlain :
    (stmts : List Stmt) → Stmt.allPlain (Stmt.allPlain stmts) = Stmt.allPlain stmts
  | [] => rfl
  | stmt :: rest => by
    simp only [Stmt.allPlain, Stmt.plain_plain stmt, Stmt.allPlain_allPlain rest]

theorem Block.plain_plain : (block : Block) → block.plain.plain = block.plain
  | .mk _ statements => by
    simp only [Block.plain, Token.plain_plain, Stmt.allPlain_allPlain statements]

end

mutual

theorem Expr.text_plain : (expr : Expr) → expr.plain.text = expr.text
  | .identifier _ | .integer _ _ | .float _ _ | .string _ => rfl
  | .boolean token _ => token.canonical_plain
  | .unary _ _ operand => by simp only [Expr.plain, Expr.text, Expr.text_plain operand]
  | .binary _ _ left right => by
    simp only [Expr.plain, Expr.text, Expr.text_plain left, Expr.text_plain right]
  | .conditional _ condition consequence none => by
    simp only [Expr.plain, Expr.text, Expr.text_plain condition, Block.text_plain consequence]
  | .conditional _ condition consequence (some alternative) => by
    simp only [Expr.plain, Expr.text, Expr.text_plain condition, Block.text_plain consequence,
      Block.text_plain alternative]
  | .function _ parameters body => by
    have names : Token.literal ∘ Token.bare = Token.literal := rfl
    simp only [Expr.plain, Expr.text, List.map_map, names, Block.text_plain body]
  | .call _ callee arguments => by
    simp only [Expr.plain, Expr.text, Expr.text_plain callee, Expr.texts_plain arguments]

theorem Expr.texts_plain :
    (exprs : List Expr) → Expr.texts (Expr.allPlain exprs) = Expr.texts exprs
  | [] => rfl
  | expr :: rest => by
    simp only [Expr.allPlain, Expr.texts, Expr.text_plain expr, Expr.texts_plain rest]

theorem Stmt.text_plain : (stmt : Stmt) → stmt.plain.text = stmt.text
  | .binding _ _ value | .result _ value | .expression _ value => by
    simp only [Stmt.plain, Stmt.text, Expr.text_plain value, Token.bare_literal]

theorem Stmt.texts_plain :
    (stmts : List Stmt) → Stmt.texts (Stmt.allPlain stmts) = Stmt.texts stmts
  | [] => rfl
  | stmt :: rest => by
    simp only [Stmt.allPlain, Stmt.texts, Stmt.text_plain stmt, Stmt.texts_plain rest]

theorem Block.text_plain : (block : Block) → block.plain.text = block.text
  | .mk _ statements => by simp only [Block.plain, Block.text, Stmt.texts_plain statements]

end

/-- A replacement that keeps the names of these parts and changes at most the place of a token and
the spelling of a keyword. -/
structure Token.Keeps (f : Token → Token) (parts : List Part) : Prop where
  plain : ∀ token, (f token).plain = token.plain
  names : ∀ part ∈ parts, ∀ name ∈ part.names, (f name).bare = name.bare

namespace Token.Keeps
variable {f : Token → Token} {parts others : List Part}

theorem front {part : Part} (keeps : Keeps f (part :: parts)) :
    ∀ name ∈ part.names, (f name).bare = name.bare :=
  keeps.names part List.mem_cons_self

theorem mono (keeps : Keeps f others) (fewer : parts ⊆ others) : Keeps f parts where
  plain := keeps.plain
  names part inside := keeps.names part (fewer inside)

theorem tail {part : Part} (keeps : Keeps f (part :: parts)) : Keeps f parts :=
  keeps.mono (List.subset_cons_self _ _)

theorem left (keeps : Keeps f (parts ++ others)) : Keeps f parts :=
  keeps.mono (List.subset_append_left _ _)

theorem right (keeps : Keeps f (parts ++ others)) : Keeps f others :=
  keeps.mono (List.subset_append_right _ _)

end Token.Keeps

section
variable {f : Token → Token}

mutual

theorem Expr.plain_mapTokens :
    (expr : Expr) → Token.Keeps f expr.parts → (expr.mapTokens f).plain = expr.plain
  | .identifier _, keeps | .integer _ _, keeps | .float _ _, keeps | .string _, keeps => by
    simp only [Expr.mapTokens, Expr.plain, keeps.front _ List.mem_cons_self]
  | .boolean _ _, keeps => by simp only [Expr.mapTokens, Expr.plain, keeps.plain]
  | .unary _ _ operand, keeps => by
    simp only [Expr.mapTokens, Expr.plain, keeps.plain, Expr.plain_mapTokens operand keeps.tail]
  | .binary _ _ left right, keeps => by
    simp only [Expr.mapTokens, Expr.plain, keeps.plain, Expr.plain_mapTokens left keeps.tail.left,
      Expr.plain_mapTokens right keeps.tail.right]
  | .conditional _ condition consequence none, keeps => by
    simp only [Expr.mapTokens, Expr.plain, keeps.plain,
      Expr.plain_mapTokens condition keeps.tail.left,
      Block.plain_mapTokens consequence keeps.tail.right]
  | .conditional _ condition consequence (some alternative), keeps => by
    simp only [Expr.mapTokens, Expr.plain, keeps.plain,
      Expr.plain_mapTokens condition keeps.tail.left,
      Block.plain_mapTokens consequence keeps.tail.right.left,
      Block.plain_mapTokens alternative keeps.tail.right.right]
  | .function _ parameters body, keeps => by
    have names : (parameters.map f).map Token.bare = parameters.map Token.bare := by
      rw [List.map_map]
      exact List.map_congr_left keeps.front
    simp only [Expr.mapTokens, Expr.plain, keeps.plain, names,
      Block.plain_mapTokens body keeps.tail]
  | .call _ callee arguments, keeps => by
    simp only [Expr.mapTokens, Expr.plain, keeps.plain,
      Expr.plain_mapTokens callee keeps.tail.left,
      Expr.allPlain_mapAllTokens arguments keeps.tail.right]

theorem Expr.allPlain_mapAllTokens :
    (exprs : List Expr) → Token.Keeps f (Expr.allParts exprs) →
      Expr.allPlain (Expr.mapAllTokens f exprs) = Expr.allPlain exprs
  | [], _ => rfl
  | expr :: rest, keeps => by
    simp only [Expr.mapAllTokens, Expr.allPlain, Expr.plain_mapTokens expr keeps.left,
      Expr.allPlain_mapAllTokens rest keeps.right]

theorem Stmt.plain_mapTokens :
    (stmt : Stmt) → Token.Keeps f stmt.parts → (stmt.mapTokens f).plain = stmt.plain
  | .binding _ _ value, keeps => by
    simp only [Stmt.mapTokens, Stmt.plain, keeps.plain, keeps.front _ List.mem_cons_self,
      Expr.plain_mapTokens value keeps.tail]
  | .result _ value, keeps | .expression _ value, keeps => by
    simp only [Stmt.mapTokens, Stmt.plain, keeps.plain, Expr.plain_mapTokens value keeps.tail]

theorem Stmt.allPlain_mapAllTokens :
    (stmts : List Stmt) → Token.Keeps f (Stmt.allParts stmts) →
      Stmt.allPlain (Stmt.mapAllTokens f stmts) = Stmt.allPlain stmts
  | [], _ => rfl
  | stmt :: rest, keeps => by
    simp only [Stmt.mapAllTokens, Stmt.allPlain, Stmt.plain_mapTokens stmt keeps.left,
      Stmt.allPlain_mapAllTokens rest keeps.right]

theorem Block.plain_mapTokens :
    (block : Block) → Token.Keeps f block.parts → (block.mapTokens f).plain = block.plain
  | .mk _ statements, keeps => by
    simp only [Block.mapTokens, Block.plain, keeps.plain,
      Stmt.allPlain_mapAllTokens statements keeps.tail]

end

end

end Polyglot
