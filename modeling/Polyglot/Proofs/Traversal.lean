import Polyglot.Proofs.Lexicon
import Polyglot.Proofs.Soundness

/-! The tokens of a tree. Read from left to right, the tokens that the nodes of a program were built
from are those of its source, apart from punctuation and pragmas, which leave no node. So no token is
lost, read twice or moved. -/
namespace Polyglot

mutual

/-- The tokens of the nodes from left to right. A call is built from its parenthesis, which is
punctuation here. -/
def Expr.visited : Expr → List Token
  | .identifier token | .integer token _ | .float token _ | .string token | .boolean token _ => [token]
  | .unary token _ operand => token :: operand.visited
  | .binary token _ left right => left.visited ++ token :: right.visited
  | .conditional token condition consequence none =>
    token :: (condition.visited ++ consequence.visited)
  | .conditional token condition consequence (some alternative) =>
    token :: (condition.visited ++ (consequence.visited ++ alternative.visited))
  | .function token parameters body => token :: (parameters ++ body.visited)
  | .call _ callee arguments => callee.visited ++ Expr.allVisited arguments

def Expr.allVisited : List Expr → List Token
  | [] => []
  | expr :: rest => expr.visited ++ Expr.allVisited rest

/-- The first token of an expression is visited where its node is. -/
def Stmt.visited : Stmt → List Token
  | .binding token name value => token :: name :: value.visited
  | .result token value => token :: value.visited
  | .expression _ value => value.visited

def Stmt.allVisited : List Stmt → List Token
  | [] => []
  | stmt :: rest => stmt.visited ++ Stmt.allVisited rest

def Block.visited : Block → List Token
  | .mk token statements => token :: Stmt.allVisited statements

end

theorem Stmt.allVisited_append (stmts others : List Stmt) :
    Stmt.allVisited (stmts ++ others) = Stmt.allVisited stmts ++ Stmt.allVisited others := by
  induction stmts with
  | nil => rfl
  | cons stmt stmts ih => simp [Stmt.allVisited, ih]

/-- What separates and encloses the parts of a program. The brace that opens a block is not among
it: it is the token of the block. -/
def TokenKind.isPunctuation : TokenKind → Bool
  | .leftParen | .rightParen | .rightBrace | .comma | .assign | .newLine | .keyword .elseWord => true
  | _ => false

/-- The tokens without punctuation and without the pairs of a `~` and a name. -/
def essential : List Token → List Token
  | [] => []
  | [token] => if token.kind.isPunctuation then [] else [token]
  | token :: next :: rest =>
    if token.kind = .tilde ∧ next.kind = .identifier then essential rest
    else if token.kind.isPunctuation then essential (next :: rest)
    else token :: essential (next :: rest)

theorem essential_cons {token : Token} (plain : token.kind ≠ .tilde) (rest : List Token) :
    essential (token :: rest) =
      if token.kind.isPunctuation then essential rest else token :: essential rest := by
  cases rest with
  | nil => rfl
  | cons next rest => simp [essential, plain]

theorem essential_pragma {token name : Token} (tilde : token.kind = .tilde)
    (named : name.kind = .identifier) (rest : List Token) :
    essential (token :: name :: rest) = essential rest := by
  simp [essential, tilde, named]

theorem essential_sublist (tokens : List Token) : (essential tokens).Sublist tokens := by
  fun_induction essential tokens with
  | case1 => exact .slnil
  | case2 token sign => exact List.nil_sublist _
  | case3 token node => exact List.Sublist.refl _
  | case4 token next rest pragma ih => exact (ih.cons next).cons token
  | case5 token next rest _ sign ih => exact ih.cons token
  | case6 token next rest _ node ih => exact ih.cons_cons token

namespace Grammar

/-- Of these tokens, whatever follows them, just the given ones are essential. -/
def Leaves (tokens kept : List Token) : Prop :=
  ∀ rest, essential (tokens ++ rest) = kept ++ essential rest

namespace Leaves
variable {token : Token} {kind : TokenKind} {tokens kept others more : List Token}

theorem nil : Leaves [] [] := fun _ => rfl

theorem append (first : Leaves tokens kept) (second : Leaves others more) :
    Leaves (tokens ++ others) (kept ++ more) := by
  intro rest
  rw [List.append_assoc, first, second, List.append_assoc]

theorem keep (same : token.kind = kind) (node : kind ≠ .tilde ∧ kind.isPunctuation = false)
    (later : Leaves tokens kept) : Leaves (token :: tokens) (token :: kept) := by
  subst same
  intro rest
  simp [essential_cons node.1, node.2, later rest]

theorem skip (same : token.kind = kind) (sign : kind.isPunctuation = true)
    (later : Leaves tokens kept) : Leaves (token :: tokens) kept := by
  subst same
  have plain : token.kind ≠ .tilde := by
    intro tilde
    rw [tilde] at sign
    cases sign
  intro rest
  simp [essential_cons plain, sign, later rest]

/-- Punctuation at the end. -/
theorem close (first : Leaves tokens kept) (same : token.kind = kind)
    (sign : kind.isPunctuation = true) : Leaves (tokens ++ [token]) kept := by
  simpa using first.append (skip same sign nil)

end Leaves

theorem LineEnds.leaves {tokens : List Token} (ends : LineEnds tokens) : Leaves tokens [] := by
  induction tokens with
  | nil => exact .nil
  | cons token tokens ih =>
    obtain ⟨first, others⟩ := List.forall_mem_cons.mp ends
    exact .skip first rfl (ih others)

theorem MoreParameters.leaves {tokens names : List Token} (rule : MoreParameters tokens names) :
    Leaves tokens names := by
  induction rule with
  | done => exact .nil
  | more separates named _ ih => exact .skip separates rfl (.keep named (by decide) ih)

theorem Parameters.leaves {tokens names : List Token} (rule : Parameters tokens names) :
    Leaves tokens names := by
  cases rule with
  | empty => exact .nil
  | first named others => exact .keep named (by decide) others.leaves

theorem Stratum.node_of_binary {stratum : Stratum} {kind : TokenKind} {op : BinaryOp}
    (operator : stratum.binary? kind = some op) : kind ≠ .tilde ∧ kind.isPunctuation = false := by
  unfold Stratum.binary? at operator
  split at operator <;> cases operator <;> decide

theorem node_of_unary {kind : TokenKind} {op : UnaryOp} (operator : unary? kind = some op) :
    kind ≠ .tilde ∧ kind.isPunctuation = false := by
  unfold unary? at operator
  split at operator <;> cases operator <;> decide

mutual

/-- What is essential among the tokens of a part is what its tree visits. One case for each rule of
the grammar. -/
theorem Expression.leaves {stratum : Stratum} {tokens : List Token} {expr : Expr} :
    Expression stratum tokens expr → Leaves tokens expr.visited
  | .raise _ inner => inner.leaves
  | .binary _ first operator second =>
    first.leaves.append (.keep rfl (Stratum.node_of_binary operator) second.leaves)
  | .unary operator inner => .keep rfl (node_of_unary operator) inner.leaves
  | .call first opens given closes =>
    first.leaves.append (.skip opens rfl (given.leaves.close closes rfl))
  | .identifier kind | .integer kind _ _ | .float kind | .string kind | .trueWord kind
  | .falseWord kind => .keep kind (by decide) .nil
  | .group opens inner closes => .skip opens rfl (inner.leaves.close closes rfl)
  | .conditional word opens asked closes holds => by
    have asks := asked.leaves.append (.skip closes rfl holds.leaves)
    exact .keep word (by decide) (.skip opens rfl asks)
  | .alternative word opens asked closes holds otherwise fails => by
    have blocks := holds.leaves.append (.skip otherwise rfl fails.leaves)
    have asks := asked.leaves.append (.skip closes rfl blocks)
    exact .keep word (by decide) (.skip opens rfl asks)
  | .function word opens named closes runs => by
    have takes := named.leaves.append (.skip closes rfl runs.leaves)
    exact .keep word (by decide) (.skip opens rfl takes)

theorem Arguments.leaves {tokens : List Token} {exprs : List Expr} :
    Arguments tokens exprs → Leaves tokens (Expr.allVisited exprs)
  | .empty => .nil
  | .first given others => given.leaves.append others.leaves

theorem MoreArguments.leaves {tokens : List Token} {exprs : List Expr} :
    MoreArguments tokens exprs → Leaves tokens (Expr.allVisited exprs)
  | .done => .nil
  | .more separates next others => .skip separates rfl (next.leaves.append others.leaves)

theorem Statement.leaves {tokens : List Token} {stmt : Option Stmt} :
    Statement tokens stmt → Leaves tokens (Stmt.allVisited stmt.toList)
  | .binding word named assigns bound => by
    simp only [Option.toList_some, Stmt.allVisited, Stmt.visited, List.append_nil]
    exact .keep word (by decide) (.keep named (by decide) (.skip assigns rfl bound.leaves))
  | .result word given => by
    simp only [Option.toList_some, Stmt.allVisited, Stmt.visited, List.append_nil]
    exact .keep word (by decide) given.leaves
  | .pragma tilde named => fun rest => essential_pragma tilde named rest
  | .expression alone => by
    simp only [Option.toList_some, Stmt.allVisited, Stmt.visited, List.append_nil]
    exact alone.leaves

theorem Lines.leaves {tokens : List Token} {stmts : List Stmt} :
    Lines tokens stmts → Leaves tokens (Stmt.allVisited stmts)
  | .blank empty => empty.leaves
  | .first empty line others => by
    rw [Stmt.allVisited_append]
    exact empty.leaves.append (line.leaves.append others.leaves)

theorem MoreLines.leaves {tokens : List Token} {stmts : List Stmt} :
    MoreLines tokens stmts → Leaves tokens (Stmt.allVisited stmts)
  | .done empty => empty.leaves
  | .more empty _ line others => by
    rw [Stmt.allVisited_append]
    exact empty.leaves.append (line.leaves.append others.leaves)

theorem Braces.leaves {tokens : List Token} {block : Block} :
    Braces tokens block → Leaves tokens block.visited
  | .mk opens lines closes => .keep opens (by decide) (lines.leaves.close closes rfl)

end

end Grammar

namespace Scanner

/-- A token covers a byte or more from where the scanner stands, and the scanner stands behind it
then. -/
theorem next_place {scanner : Scanner} (more : scanner.next.1.kind ≠ .endOfInput) :
    scanner.offset ≤ scanner.next.1.start ∧ scanner.next.1.start < scanner.next.1.stop ∧
      scanner.next.2.offset = scanner.next.1.stop := by
  cases shown : scanner.rest.dropWhile isBlank with
  | nil => exact absurd ((next_kind_end_iff scanner).mpr shown) more
  | cons c rest =>
    have some_byte := byteLength_pos (Lexeme.first_covers c rest).nonempty
    rw [next_at_lexeme shown]
    dsimp only
    omega

theorem behind_offset (afterTilde : Bool) (token : Token) (scanner : Scanner) :
    (scanner.behind afterTilde token).offset = scanner.offset := by
  unfold behind
  split <;> rfl

/-- The tokens of a source stand one behind the other, whatever the dialects. -/
theorem switchingAfter_ordered (afterTilde : Bool) (scanner : Scanner) :
    (∀ token ∈ scanner.switchingAfter afterTilde, scanner.offset ≤ token.start) ∧
      (scanner.switchingAfter afterTilde).Pairwise (·.start < ·.start) := by
  induction length : scanner.rest.length using Nat.strong_induction_on
    generalizing afterTilde scanner with
  | _ size ih =>
    rw [switchingAfter_eq]
    split
    · exact ⟨List.forall_mem_nil _, .nil⟩
    · rename_i more
      obtain ⟨from_here, some_byte, there⟩ := next_place more
      have shorter := next_shorter more
      obtain ⟨later, ordered⟩ := ih _ (by rw [behind_rest, ← length]; exact shorter)
        (scanner.next.1.kind = .tilde) (scanner.next.2.behind afterTilde scanner.next.1) rfl
      rw [behind_offset, there] at later
      refine ⟨List.forall_mem_cons.mpr ⟨from_here, fun token inside => ?_⟩,
        .cons (fun token inside => ?_) ordered⟩
      · have := later token inside
        omega
      · have := later token inside
        omega

end Scanner

namespace Reader

theorem visited_eq {limit : Nat} {reader : Reader} (sound : (reader.parse limit).1.faults = []) :
    Stmt.allVisited (reader.parse limit).1.program = essential reader.remaining := by
  have leaves := (lines_of_parse sound).leaves []
  rw [List.append_nil, essential, List.append_nil] at leaves
  exact leaves.symm

theorem visited_ordered {limit : Nat} {reader : Reader}
    (sound : (reader.parse limit).1.faults = []) :
    (Stmt.allVisited (reader.parse limit).1.program).Pairwise (·.start < ·.start) := by
  have ordered := (reader.scanner.switchingAfter_ordered false).2
  rw [visited_eq sound]
  exact ordered.sublist (essential_sublist _)

/-- No token is lost, read twice or moved. The tree of a source without faults visits the tokens of
the source, punctuation and pragmas apart, each once and in the order of the source. -/
theorem parse_visits_source (limit : Nat) (dialect : Dialect) (text : String)
    (sound : ((Reader.ofText dialect text).parse limit).1.faults = []) :
    Stmt.allVisited ((Reader.ofText dialect text).parse limit).1.program =
      essential (Scanner.ofText dialect text).switching ∧
    (Stmt.allVisited ((Reader.ofText dialect text).parse limit).1.program).Pairwise
      (·.start < ·.start) :=
  ⟨visited_eq sound, visited_ordered sound⟩

/-- The source `~trk`, `olsun f = fn(x, y) { eğer (x) { -y } yoksa { f(y, (x)) } }`. -/
theorem parse_visits_source_trk :
    let text := "~trk\nolsun f = fn(x, y) \x7b eğer (x) \x7b -y \x7d yoksa \x7b f(y, (x)) \x7d \x7d"
    ((Reader.ofText .eng text).parse 9).1.faults = [] ∧
    (Stmt.allVisited ((Reader.ofText .eng text).parse 9).1.program).map Token.literal =
      ["olsun", "f", "fn", "x", "y", "\x7b", "eğer", "x", "\x7b", "-", "y", "\x7b", "f", "y", "x"] := by
  intro text
  have sound : ((Reader.ofText .eng text).parse 9).1.faults = [] := by decide +kernel
  refine ⟨sound, ?_⟩
  rw [(parse_visits_source 9 .eng text sound).1]
  decide +kernel

end Reader

end Polyglot
