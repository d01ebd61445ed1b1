import Mathlib.Data.List.Nodup
import Polyglot.Proofs.Captures
import Polyglot.Proofs.Returns
import Polyglot.Proofs.Traversal

/-! Where the function literals of a source lie. The limit on nesting bounds how many others each of
them lies inside, and its token tells it from the others, since no token is read twice. -/
namespace Polyglot

def Literal.expr (literal : Literal) : Expr :=
  .function literal.token literal.parameters literal.body

def Program.literals (program : Program) : List Literal :=
  Stmt.allLiterals program 0

theorem Stmt.literals_value (stmt : Stmt) : stmt.literals = stmt.value.literals := by
  cases stmt <;> rfl

theorem Stmt.mem_allLiterals {literal : Literal} {stmts : List Stmt} {depth : Nat} :
    literal ∈ Stmt.allLiterals stmts depth ↔ ∃ stmt ∈ stmts, literal ∈ stmt.value.literals depth := by
  induction stmts with
  | nil => simp [Stmt.allLiterals]
  | cons stmt rest ih => simp [Stmt.allLiterals, ih, Stmt.literals_value]

theorem Expr.mem_allLiterals {literal : Literal} {exprs : List Expr} {depth : Nat} :
    literal ∈ Expr.allLiterals exprs depth ↔ ∃ expr ∈ exprs, literal ∈ expr.literals depth := by
  induction exprs with
  | nil => simp [Expr.allLiterals]
  | cons expr rest ih => simp [Expr.allLiterals, ih]

/-- With a literal also those inside it are among these. -/
def Enclosing (literals : List Literal) : Prop :=
  ∀ literal ∈ literals, ∀ other ∈ literal.body.literals (literal.depth + 1), other ∈ literals

namespace Enclosing

theorem nil : Enclosing [] := List.forall_mem_nil _

theorem append {first second : List Literal} (one : Enclosing first) (two : Enclosing second) :
    Enclosing (first ++ second) := by
  intro literal member other inside
  rcases List.mem_append.mp member with early | late
  · exact List.mem_append_left _ (one literal early other inside)
  · exact List.mem_append_right _ (two literal late other inside)

theorem cons (literal : Literal) (inner : Enclosing (literal.body.literals (literal.depth + 1))) :
    Enclosing (literal :: literal.body.literals (literal.depth + 1)) := by
  intro outer member other inside
  rcases List.mem_cons.mp member with rfl | deeper
  · exact List.mem_cons_of_mem _ inside
  · exact List.mem_cons_of_mem _ (inner outer deeper other inside)

end Enclosing

mutual

theorem Expr.literals_enclosing : (expr : Expr) → (depth : Nat) → Enclosing (expr.literals depth)
  | .identifier _, _ | .integer _ _, _ | .float _ _, _ | .string _, _ | .boolean _ _, _ => .nil
  | .unary _ _ operand, depth => operand.literals_enclosing depth
  | .binary _ _ left right, depth =>
    (left.literals_enclosing depth).append (right.literals_enclosing depth)
  | .conditional _ condition consequence none, depth =>
    (condition.literals_enclosing depth).append (consequence.literals_enclosing depth)
  | .conditional _ condition consequence (some alternative), depth =>
    (condition.literals_enclosing depth).append
      ((consequence.literals_enclosing depth).append (alternative.literals_enclosing depth))
  | .function token parameters body, depth =>
    .cons ⟨depth, token, parameters, body⟩ (body.literals_enclosing (depth + 1))
  | .call _ callee arguments, depth =>
    (callee.literals_enclosing depth).append (Expr.allLiterals_enclosing arguments depth)

theorem Expr.allLiterals_enclosing : (exprs : List Expr) → (depth : Nat) →
    Enclosing (Expr.allLiterals exprs depth)
  | [], _ => .nil
  | expr :: rest, depth =>
    (expr.literals_enclosing depth).append (Expr.allLiterals_enclosing rest depth)

theorem Stmt.literals_enclosing : (stmt : Stmt) → (depth : Nat) → Enclosing (stmt.literals depth)
  | .binding _ _ value, depth | .result _ value, depth | .expression _ value, depth =>
    value.literals_enclosing depth

theorem Stmt.allLiterals_enclosing : (stmts : List Stmt) → (depth : Nat) →
    Enclosing (Stmt.allLiterals stmts depth)
  | [], _ => .nil
  | stmt :: rest, depth =>
    (stmt.literals_enclosing depth).append (Stmt.allLiterals_enclosing rest depth)

theorem Block.literals_enclosing : (block : Block) → (depth : Nat) →
    Enclosing (block.literals depth)
  | .mk _ statements, depth => Stmt.allLiterals_enclosing statements depth

end

mutual

/-- The literals of a tree stand in the order in which their tokens are visited. -/
theorem Expr.literals_visited : (expr : Expr) → (depth : Nat) →
    ((expr.literals depth).map Literal.token).Sublist expr.visited
  | .identifier _, _ | .integer _ _, _ | .float _ _, _ | .string _, _ | .boolean _ _, _ =>
    List.nil_sublist _
  | .unary token _ operand, depth => (operand.literals_visited depth).cons token
  | .binary token _ left right, depth => by
    rw [Expr.literals, Expr.visited, List.map_append]
    exact (left.literals_visited depth).append ((right.literals_visited depth).cons token)
  | .conditional token condition consequence none, depth => by
    rw [Expr.literals, Expr.visited, List.map_append]
    exact ((condition.literals_visited depth).append (consequence.literals_visited depth)).cons token
  | .conditional token condition consequence (some alternative), depth => by
    rw [Expr.literals, Expr.visited, List.map_append, List.map_append]
    exact ((condition.literals_visited depth).append ((consequence.literals_visited depth).append
      (alternative.literals_visited depth))).cons token
  | .function token parameters body, depth => by
    rw [Expr.literals, Expr.visited, List.map_cons]
    exact ((body.literals_visited (depth + 1)).trans
      (List.sublist_append_right parameters _)).cons_cons token
  | .call _ callee arguments, depth => by
    rw [Expr.literals, Expr.visited, List.map_append]
    exact (callee.literals_visited depth).append (Expr.allLiterals_visited arguments depth)

theorem Expr.allLiterals_visited : (exprs : List Expr) → (depth : Nat) →
    ((Expr.allLiterals exprs depth).map Literal.token).Sublist (Expr.allVisited exprs)
  | [], _ => List.nil_sublist _
  | expr :: rest, depth => by
    rw [Expr.allLiterals, Expr.allVisited, List.map_append]
    exact (expr.literals_visited depth).append (Expr.allLiterals_visited rest depth)

theorem Stmt.literals_visited : (stmt : Stmt) → (depth : Nat) →
    ((stmt.literals depth).map Literal.token).Sublist stmt.visited
  | .binding token name value, depth => ((value.literals_visited depth).cons name).cons token
  | .result token value, depth => (value.literals_visited depth).cons token
  | .expression _ value, depth => value.literals_visited depth

theorem Stmt.allLiterals_visited : (stmts : List Stmt) → (depth : Nat) →
    ((Stmt.allLiterals stmts depth).map Literal.token).Sublist (Stmt.allVisited stmts)
  | [], _ => List.nil_sublist _
  | stmt :: rest, depth => by
    rw [Stmt.allLiterals, Stmt.allVisited, List.map_append]
    exact (stmt.literals_visited depth).append (Stmt.allLiterals_visited rest depth)

theorem Block.literals_visited : (block : Block) → (depth : Nat) →
    ((block.literals depth).map Literal.token).Sublist block.visited
  | .mk token statements, depth => (Stmt.allLiterals_visited statements depth).cons token

end

/-- The literals of a part lie less than so many deeper than the part. -/
def Shallow (bound : Nat) (literals : Nat → List Literal) : Prop :=
  ∀ depth, ∀ literal ∈ literals depth, literal.depth < depth + bound

namespace Shallow
variable {bound : Nat} {first second : Nat → List Literal}

theorem append (one : Shallow bound first) (two : Shallow bound second) :
    Shallow bound fun depth => first depth ++ second depth := fun depth =>
  List.forall_mem_append.mpr ⟨one depth, two depth⟩

theorem mono {more : Nat} (less : bound ≤ more) (shallow : Shallow bound first) :
    Shallow more first := fun depth literal inside =>
  Nat.lt_of_lt_of_le (shallow depth literal inside) (Nat.add_le_add_left less depth)

theorem block {body : Block} (shallow : body.All fun expr => Shallow bound expr.literals) :
    Shallow bound body.literals := by
  obtain ⟨token, statements⟩ := body
  intro depth literal inside
  obtain ⟨stmt, member, found⟩ := Stmt.mem_allLiterals.mp inside
  exact shallow stmt member depth literal found

theorem exprs {parts : List Expr} (shallow : ∀ expr ∈ parts, Shallow bound expr.literals) :
    Shallow bound (Expr.allLiterals parts) := by
  intro depth literal inside
  obtain ⟨expr, member, found⟩ := Expr.mem_allLiterals.mp inside
  exact shallow expr member depth literal found

theorem function {token : Token} {parameters : List Token} {body : Block}
    (shallow : Shallow bound body.literals) :
    Shallow (bound + 1) (Expr.function token parameters body).literals := by
  intro depth
  rw [Expr.literals]
  refine List.forall_mem_cons.mpr ⟨?_, fun literal inside => ?_⟩
  · show depth < depth + (bound + 1)
    omega
  · have inner := shallow (depth + 1) literal inside
    omega

end Shallow

namespace Parse

theorem lifts_shallow (bound : Nat) : Lifts (fun expr => Shallow bound expr.literals)
    (fun expr => Shallow (bound + 1) expr.literals) where
  leaf expr leaf := by
    have none (depth : Nat) : expr.literals depth = [] := by
      cases expr <;> first | rfl | cases leaf
    intro depth
    rw [none]
    exact List.forall_mem_nil _
  grouped expr shallow := shallow.mono (Nat.le_succ bound)
  unary token op operand shallow := shallow.mono (Nat.le_succ bound)
  conditional token condition consequence alternative asked holds fails := by
    have block := Shallow.block holds
    apply Shallow.mono (Nat.le_succ bound)
    cases alternative with
    | none => exact asked.append block
    | some alternative => exact asked.append (block.append (Shallow.block (fails _ rfl)))
  function token parameters body shallow := (Shallow.block shallow).function

/-- A function literal takes one from the budget for what is inside it. -/
theorem budgeted_shallow : Budgeted (fun budget expr => Shallow budget expr.literals)
    (fun budget _ expr => Shallow (budget + 1) expr.literals) where
  operand := lifts_shallow
  link budget left less := by
    have fewer : left ≤ budget + 1 := by omega
    constructor
    · intro token op first second shallow given
      exact shallow.append (given.mono fewer)
    · intro token callee arguments shallow given
      exact shallow.append (Shallow.exprs fun expr member => (given expr member).mono fewer)
  done budget left expr shallow := shallow

end Parse

/-- Literals lie inside fewer than so many others, and no two have the same token. -/
structure Program.Laid (limit : Nat) (program : Program) : Prop where
  shallow : ∀ literal ∈ program.literals, literal.depth < limit
  apart : ∀ literal ∈ program.literals, ∀ other ∈ program.literals,
    other.token = literal.token → other = literal

theorem Reader.parse_laid {limit : Nat} {reader : Reader}
    (sound : (reader.parse limit).1.faults = []) : (reader.parse limit).1.program.Laid limit where
  shallow literal inside := by
    obtain ⟨stmt, member, found⟩ := Stmt.mem_allLiterals.mp inside
    have shallow := parse_returns Parse.budgeted_shallow limit reader stmt member 0 literal found
    rwa [Nat.zero_add] at shallow
  apart literal inside other among same := by
    have sublist := Stmt.allLiterals_visited (reader.parse limit).1.program 0
    have ordered := (visited_ordered sound).sublist sublist
    have distinct : ((reader.parse limit).1.program.literals.map Literal.token).Nodup := by
      apply List.Pairwise.imp _ ordered
      intro one two less same
      exact Nat.ne_of_lt less (congrArg Token.start same)
    exact List.inj_on_of_nodup_map distinct among inside same

end Polyglot
