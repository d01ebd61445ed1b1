import Polyglot.Proofs.Parts
import Polyglot.Proofs.Returns
import Polyglot.Proofs.Wording

/-! How far the limit on nesting bounds trees. Reading an expression takes one from the budget, and
so does every link after its operand; an operand is read with what is left at its start, however
many links follow. So a tree may be as high as the sum of all budgets down to zero, and is no
higher. -/
namespace Polyglot

mutual

/-- The number of expressions on the longest path down from this one. -/
def Expr.height : Expr → Nat
  | .identifier _ | .integer _ _ | .float _ _ | .string _ | .boolean _ _ => 1
  | .unary _ _ operand => operand.height + 1
  | .binary _ _ left right => max left.height right.height + 1
  | .conditional _ condition consequence none => max condition.height consequence.height + 1
  | .conditional _ condition consequence (some alternative) =>
    max condition.height (max consequence.height alternative.height) + 1
  | .function _ _ body => body.height + 1
  | .call _ callee arguments => max callee.height (Expr.allHeight arguments) + 1

def Expr.allHeight : List Expr → Nat
  | [] => 0
  | expr :: rest => max expr.height (Expr.allHeight rest)

/-- Statements and blocks are no expressions themselves. -/
def Stmt.height : Stmt → Nat
  | .binding _ _ value | .result _ value | .expression _ value => value.height

def Stmt.allHeight : List Stmt → Nat
  | [] => 0
  | stmt :: rest => max stmt.height (Stmt.allHeight rest)

def Block.height : Block → Nat
  | .mk _ statements => Stmt.allHeight statements

end

theorem Expr.allHeight_le_iff {bound : Nat} {exprs : List Expr} :
    Expr.allHeight exprs ≤ bound ↔ ∀ expr ∈ exprs, expr.height ≤ bound := by
  induction exprs with
  | nil => simp [Expr.allHeight]
  | cons expr rest ih => rw [Expr.allHeight, Nat.max_le, List.forall_mem_cons, ih]

theorem Stmt.allHeight_le_iff {bound : Nat} {stmts : List Stmt} :
    Stmt.allHeight stmts ≤ bound ↔ ∀ stmt ∈ stmts, stmt.height ≤ bound := by
  induction stmts with
  | nil => simp [Stmt.allHeight]
  | cons stmt rest ih => rw [Stmt.allHeight, Nat.max_le, List.forall_mem_cons, ih]

theorem Expr.mem_parts (expr : Expr) : .expr expr ∈ expr.parts := by
  cases expr with
  | conditional token condition consequence alternative =>
    cases alternative <;> exact List.mem_cons_self
  | _ => exact List.mem_cons_self

def Part.height : Part → Nat
  | expr inner => inner.height
  | stmt inner => inner.height
  | block inner => inner.height

section
variable {bound : Nat}

mutual

/-- No part is higher than the whole. -/
theorem Expr.parts_height : (expr : Expr) → expr.height ≤ bound →
    ∀ part ∈ expr.parts, part.height ≤ bound
  | .identifier _, low | .integer _ _, low | .float _ _, low | .string _, low | .boolean _ _, low =>
    List.forall_mem_singleton.mpr low
  | .unary _ _ operand, low => by
    have inner : operand.height < bound := low
    exact List.forall_mem_cons.mpr ⟨low, Expr.parts_height operand inner.le⟩
  | .binary _ _ left right, low => by
    have inner : max left.height right.height < bound := low
    exact List.forall_mem_cons.mpr ⟨low, List.forall_mem_append.mpr
      ⟨Expr.parts_height left (by omega), Expr.parts_height right (by omega)⟩⟩
  | .conditional _ condition consequence none, low => by
    have inner : max condition.height consequence.height < bound := low
    exact List.forall_mem_cons.mpr ⟨low, List.forall_mem_append.mpr
      ⟨Expr.parts_height condition (by omega), Block.parts_height consequence (by omega)⟩⟩
  | .conditional _ condition consequence (some alternative), low => by
    have inner : max condition.height (max consequence.height alternative.height) < bound := low
    exact List.forall_mem_cons.mpr ⟨low, List.forall_mem_append.mpr
      ⟨Expr.parts_height condition (by omega), List.forall_mem_append.mpr
        ⟨Block.parts_height consequence (by omega), Block.parts_height alternative (by omega)⟩⟩⟩
  | .function _ _ body, low => by
    have inner : body.height < bound := low
    exact List.forall_mem_cons.mpr ⟨low, Block.parts_height body inner.le⟩
  | .call _ callee arguments, low => by
    have inner : max callee.height (Expr.allHeight arguments) < bound := low
    exact List.forall_mem_cons.mpr ⟨low, List.forall_mem_append.mpr
      ⟨Expr.parts_height callee (by omega), Expr.allParts_height arguments (by omega)⟩⟩

theorem Expr.allParts_height : (exprs : List Expr) → Expr.allHeight exprs ≤ bound →
    ∀ part ∈ Expr.allParts exprs, part.height ≤ bound
  | [], _ => List.forall_mem_nil _
  | expr :: rest, low => by
    have both : expr.height ≤ bound ∧ Expr.allHeight rest ≤ bound := Nat.max_le.mp low
    exact List.forall_mem_append.mpr
      ⟨Expr.parts_height expr both.1, Expr.allParts_height rest both.2⟩

theorem Stmt.parts_height : (stmt : Stmt) → stmt.height ≤ bound →
    ∀ part ∈ stmt.parts, part.height ≤ bound
  | .binding _ _ value, low | .result _ value, low | .expression _ value, low =>
    List.forall_mem_cons.mpr ⟨low, Expr.parts_height value low⟩

theorem Stmt.allParts_height : (stmts : List Stmt) → Stmt.allHeight stmts ≤ bound →
    ∀ part ∈ Stmt.allParts stmts, part.height ≤ bound
  | [], _ => List.forall_mem_nil _
  | stmt :: rest, low => by
    have both : stmt.height ≤ bound ∧ Stmt.allHeight rest ≤ bound := Nat.max_le.mp low
    exact List.forall_mem_append.mpr
      ⟨Stmt.parts_height stmt both.1, Stmt.allParts_height rest both.2⟩

theorem Block.parts_height : (block : Block) → block.height ≤ bound →
    ∀ part ∈ block.parts, part.height ≤ bound
  | .mk _ statements, low =>
    List.forall_mem_cons.mpr ⟨low, Stmt.allParts_height statements low⟩

end

end

/-- The sum of the numbers up to this one. -/
def triangle : Nat → Nat
  | 0 => 0
  | n + 1 => triangle n + (n + 1)

theorem triangle_eq (n : Nat) : triangle n = n * (n + 1) / 2 := by
  have double : 2 * triangle n = n * (n + 1) := by
    induction n with
    | zero => rfl
    | succ n ih =>
      rw [triangle, Nat.mul_add, ih, ← Nat.add_mul, Nat.mul_comm]
  omega

theorem triangle_mono {n more : Nat} (less : n ≤ more) : triangle n ≤ triangle more := by
  induction less with
  | refl => exact Nat.le_refl _
  | step _ ih => exact Nat.le_trans ih (Nat.le_add_right _ _)

theorem Stmt.height_value (stmt : Stmt) : stmt.value.height = stmt.height := by
  cases stmt <;> rfl

theorem Block.height_le_iff {bound : Nat} {block : Block} :
    block.height ≤ bound ↔ block.All (·.height ≤ bound) := by
  obtain ⟨token, statements⟩ := block
  simp only [Block.height, Stmt.allHeight_le_iff, Block.All, Block.statements, Stmt.height_value]

theorem Expr.height_of_isLeaf {expr : Expr} (leaf : expr.isLeaf = true) : expr.height = 1 := by
  cases expr <;> first | rfl | cases leaf

namespace Parse

theorem lifts_height (bound : Nat) : Lifts (·.height ≤ bound) (·.height ≤ bound + 1) where
  leaf expr leaf := by simp [Expr.height_of_isLeaf leaf]
  grouped expr low := Nat.le_succ_of_le low
  unary token op operand low := Nat.succ_le_succ low
  conditional token condition consequence alternative low holds fails := by
    rw [← Block.height_le_iff] at holds
    cases alternative with
    | none => exact Nat.succ_le_succ (Nat.max_le.mpr ⟨low, holds⟩)
    | some alternative =>
      have other := Block.height_le_iff.mpr (fails alternative rfl)
      exact Nat.succ_le_succ (Nat.max_le.mpr ⟨low, Nat.max_le.mpr ⟨holds, other⟩⟩)
  function token parameters body low := Nat.succ_le_succ (Block.height_le_iff.mpr low)

/-- An expression is read to a tree that is no higher than all budgets from here down together: with
every link the tree gets higher by one at most, and there is one less to spend. -/
theorem budgeted_height : Budgeted (fun budget expr => expr.height ≤ triangle budget)
    (fun budget left expr => expr.height + left ≤ triangle (budget + 1)) where
  operand budget := by
    have lifts := lifts_height (triangle budget)
    have same (expr : Expr) :
        expr.height + budget ≤ triangle (budget + 1) ↔ expr.height ≤ triangle budget + 1 := by
      rw [triangle]
      omega
    simpa only [same] using lifts
  link budget left less := by
    have sum : triangle left + (left + 1) ≤ triangle (budget + 1) :=
      triangle_mono (Nat.succ_le_succ (Nat.le_of_lt less))
    constructor
    · intro token op first second low given
      rw [Expr.height]
      omega
    · intro token callee arguments low given
      have most := Expr.allHeight_le_iff.mpr given
      rw [Expr.height]
      omega
  done budget left expr low := Nat.le_trans (Nat.le_add_right _ left) low

end Parse

/-- No expression of a parsed program is higher than all budgets together. -/
theorem Reader.parse_height_le (limit : Nat) (reader : Reader) {expr : Expr}
    (part : .expr expr ∈ Stmt.allParts (reader.parse limit).1.program) :
    expr.height ≤ triangle limit := by
  refine Stmt.allParts_height (reader.parse limit).1.program ?_ _ part
  refine Stmt.allHeight_le_iff.mpr fun stmt inside => ?_
  rw [← stmt.height_value]
  exact parse_returns Parse.budgeted_height limit reader stmt inside

/-- Calls without arguments. -/
def calls : Nat → List TokenKind
  | 0 => []
  | n + 1 => .leftParen :: .rightParen :: calls n

/-- A name inside function literals, each of which is called as often as the budget around it
allows. -/
def tower : Nat → List TokenKind
  | 0 => [.identifier]
  | n + 1 =>
    .keyword .fnWord :: .leftParen :: .rightParen :: .leftBrace ::
      (tower n ++ .rightBrace :: calls (n + 1))

namespace Parse

theorem not_closes_of_starts {kind : TokenKind} (starts : startsExpression kind = true) :
    ¬ Closes kind := by
  rintro (rfl | rfl | rfl) <;> cases starts

/-- An expression is its operand and the links behind that, each read with one less than the
budget. -/
theorem expression_succeeds {limit budget : Nat} {floor : Precedence} {reader : Reader}
    {token : Token} {left value : Expr} {tokens between rest : List Token}
    (coming : reader.remaining = token :: tokens) (starts : startsExpression token.kind = true)
    (read : ∀ middle : Reader, middle.remaining = tokens →
      Succeeds (operand (expression limit budget) token) middle left between)
    (linked : ∀ middle : Reader, middle.remaining = between →
      Succeeds (links limit budget floor left) middle value rest) :
    Succeeds (expression limit (budget + 1) floor) reader value rest := by
  have no_tilde : token.kind ≠ .tilde := by
    intro tilde
    rw [tilde] at starts
    cases starts
  unfold expression
  refine .peek ?_
  rw [(Reader.next_of_remaining coming).1, if_pos starts]
  refine .take ((Reader.remaining_look reader).trans coming) no_tilde fun middle there => ?_
  refine Succeeds.bind ⟨_, note_run _ _, rfl⟩ fun noted same => ?_
  exact (read noted (same.trans there)).bind linked

/-- Calls without arguments need no budget for what they are linked with, so each makes the tree
higher by one. -/
theorem links_calls (n : Nat) {tokens : List Token} (kinds : tokens.map Token.kind = calls n)
    (left : Expr) : ∃ value : Expr, value.height = left.height + n ∧
      ∀ (limit : Nat) (reader : Reader) (rest : List Token), reader.remaining = tokens ++ rest →
        (headKind rest).precedence.rank = 0 →
        Succeeds (links limit n .lowest left) reader value rest := by
  induction n generalizing tokens left with
  | zero =>
    obtain rfl := List.map_eq_nil_iff.mp kinds
    refine ⟨left, rfl, ?_⟩
    rintro limit reader _ rfl loose
    exact links_done (Nat.le_of_eq loose)
  | succ n ih =>
    obtain ⟨opening, tokens, rfl, opens, kinds⟩ := List.map_eq_cons_iff.mp kinds
    obtain ⟨closing, tokens, rfl, closes, kinds⟩ := List.map_eq_cons_iff.mp kinds
    obtain ⟨value, height, reads⟩ := ih kinds (.call opening left [])
    have grown : (Expr.call opening left []).height = left.height + 1 :=
      congrArg Nat.succ (Nat.max_eq_left (Nat.zero_le _))
    refine ⟨value, by omega, fun limit reader rest coming loose => ?_⟩
    refine links_more coming (by rw [opens]; decide) (fun middle there => ?_)
      fun middle there => reads limit middle rest there loose
    unfold link
    rw [opens]
    exact (sequence_empty there closes (by decide)).bind fun _ left => .pure left

theorem tower_head (n : Nat) :
    ∃ kind more, tower n = kind :: more ∧ startsExpression kind = true := by
  cases n with
  | zero => exact ⟨_, _, rfl, rfl⟩
  | succ n => exact ⟨_, _, rfl, rfl⟩

/-- A function without parameters whose body is an expression alone. -/
theorem operand_thunk {limit budget : Nat} {word opening closing brace first last : Token}
    {others after : List Token} {value : Expr} {reader : Reader}
    (fn : word.kind = .keyword .fnWord) (opens : opening.kind = .leftParen)
    (closes : closing.kind = .rightParen) (begins : brace.kind = .leftBrace)
    (starts : startsExpression first.kind = true) (ends : last.kind = .rightBrace)
    (reads : ∀ middle rest, middle.remaining = (first :: others) ++ rest →
      (headKind rest).precedence.rank = 0 →
      Succeeds (expression limit budget .lowest) middle value rest)
    (coming : reader.remaining =
      opening :: closing :: brace :: ((first :: others) ++ last :: after)) :
    Succeeds (operand (expression limit budget) word) reader
      (.function word [] (.mk brace [.expression first value])) after := by
  have stop : headKind (last :: after) = .rightBrace := ends
  have loop := blockItem_lineLoop (expression_consumes limit budget)
  have lines (middle : Reader) (there : middle.remaining = (first :: others) ++ last :: after) :
      ReadsAs (blockItem (expression limit budget)) some middle [.expression first value]
        (last :: after) := by
    have next := (Reader.next_of_remaining there).1
    have item : Succeeds (blockItem (expression limit budget)) middle
        (some (some (.expression first value))) (last :: after) := by
      refine blockItem_succeeds ?_ (statement_succeeds ?_ starts ?_) (Or.inr (Or.inl stop))
      · rw [next]
        exact not_closes_of_starts starts
      · rw [Reader.look_next, next]
      · rw [Reader.look_look]
        exact reads _ _ ((Reader.remaining_look middle).trans there) (by rw [stop]; rfl)
    exact .item loop item rfl fun middle there => .stop loop there (Or.inl stop)
  unfold operand
  rw [fn]
  refine .expect coming opens (by decide) fun middle there => ?_
  refine (sequence_empty there closes (by decide)).bind fun middle there => ?_
  exact (block_succeeds begins there ends lines).bind fun _ left => .pure left

/-- A tower is read with a budget of one more than its number, and to a tree of the greatest height
that this budget allows. -/
theorem expression_tower (n : Nat) {tokens : List Token} (kinds : tokens.map Token.kind = tower n) :
    ∃ value : Expr, value.height = triangle (n + 1) ∧
      ∀ (limit : Nat) (reader : Reader) (rest : List Token), reader.remaining = tokens ++ rest →
        (headKind rest).precedence.rank = 0 →
        Succeeds (expression limit (n + 1) .lowest) reader value rest := by
  induction n generalizing tokens with
  | zero =>
    obtain ⟨name, tokens, rfl, kind, kinds⟩ := List.map_eq_cons_iff.mp kinds
    obtain rfl := List.map_eq_nil_iff.mp kinds
    refine ⟨.identifier name, rfl, fun limit reader rest coming loose => ?_⟩
    have read (middle : Reader) (there : middle.remaining = rest) :
        Succeeds (operand (expression limit 0) name) middle (.identifier name) rest := by
      unfold operand
      rw [kind]
      exact .pure there
    refine expression_succeeds coming (by rw [kind]; rfl) read fun middle there => ?_
    subst there
    exact links_done (Nat.le_of_eq loose)
  | succ n ih =>
    obtain ⟨word, tokens, rfl, fn, kinds⟩ := List.map_eq_cons_iff.mp kinds
    obtain ⟨opening, tokens, rfl, opens, kinds⟩ := List.map_eq_cons_iff.mp kinds
    obtain ⟨closing, tokens, rfl, closes, kinds⟩ := List.map_eq_cons_iff.mp kinds
    obtain ⟨brace, tokens, rfl, begins, kinds⟩ := List.map_eq_cons_iff.mp kinds
    obtain ⟨inside, tokens, rfl, inner, kinds⟩ := List.map_eq_append_iff.mp kinds
    obtain ⟨last, tokens, rfl, ends, called⟩ := List.map_eq_cons_iff.mp kinds
    obtain ⟨value, height, reads⟩ := ih inner
    obtain ⟨kind, more, same, starts⟩ := tower_head n
    rw [same] at inner
    obtain ⟨first, others, rfl, rfl, _⟩ := List.map_eq_cons_iff.mp inner
    let body : Block := .mk brace [.expression first value]
    have grown : (Expr.function word [] body).height = triangle (n + 1) + 1 :=
      congrArg Nat.succ ((Nat.max_eq_left (Nat.zero_le _)).trans height)
    obtain ⟨whole, whole_height, links_read⟩ := links_calls (n + 1) called (.function word [] body)
    refine ⟨whole, ?_, fun limit reader rest coming loose => ?_⟩
    · have next : triangle (n + 1 + 1) = triangle (n + 1) + (n + 2) := rfl
      omega
    · refine expression_succeeds (by simpa using coming) (by rw [fn]; rfl) (fun middle there =>
        operand_thunk fn opens closes begins starts ends (reads limit) there) fun middle there => ?_
      exact links_read limit middle rest there loose

/-- A source that is a tower is parsed without a fault. -/
theorem readsTo_tower (n : Nat) {reader : Reader}
    (kinds : reader.remaining.map Token.kind = tower n) :
    ∃ token value stop, ReadsTo (n + 1) reader [.ok (some (.expression token value))] stop ∧
      stop.next.kind = .endOfInput ∧ value.height = triangle (n + 1) := by
  obtain ⟨value, height, reads⟩ := expression_tower n kinds
  obtain ⟨kind, more, same, starts⟩ := tower_head n
  rw [same] at kinds
  obtain ⟨token, tokens, coming, rfl, _⟩ := List.map_eq_cons_iff.mp kinds
  have next := (Reader.next_of_remaining coming).1
  have read := reads (n + 1) reader.look [] (by rw [Reader.remaining_look, List.append_nil]) rfl
  have item : Succeeds (sourceItem (n + 1)) reader
      (some (.ok (some (.expression token value)))) [] := by
    refine sourceItem_succeeds ?_ (statement_succeeds ?_ starts ?_) (Or.inr rfl)
    · rw [next]
      exact not_closes_of_starts starts
    · rw [Reader.look_next, next]
    · rwa [Reader.look_look]
  obtain ⟨stop, ran, left⟩ := item
  exact ⟨token, value, stop, .step ran (.here stop), (Reader.remaining_eq_nil_iff stop).mp left,
    height⟩

end Parse

theorem tower_writable (n : Nat) : ∀ kind ∈ tower n, kind.writable = true := by
  have of_calls (n : Nat) : ∀ kind ∈ calls n, kind.writable = true := by
    induction n with
    | zero => exact List.forall_mem_nil _
    | succ n ih => simpa [calls, TokenKind.writable] using ih
  induction n with
  | zero => simp [tower, TokenKind.writable]
  | succ n ih =>
    have rest := of_calls (n + 1)
    simp only [tower, List.forall_mem_cons, List.forall_mem_append]
    exact ⟨rfl, rfl, rfl, rfl, ih, rfl, rest⟩

/-- How far the limit bounds trees. No expression of a parsed program is higher than the sum of the
numbers up to the limit, whether or not other lines have faults; and under every limit but zero there
is a source in every dialect that is parsed without a fault to one expression of just this height. -/
theorem Reader.parse_height (limit : Nat) :
    (∀ (dialect : Dialect) (text : String) (expr : Expr),
      .expr expr ∈ Stmt.allParts ((Reader.ofText dialect text).parse limit).1.program →
      expr.height ≤ limit * (limit + 1) / 2) ∧
    (1 ≤ limit → ∀ dialect : Dialect, ∃ (text : String) (token : Token) (expr : Expr),
      ((Reader.ofText dialect text).parse limit).1 = ⟨[.expression token expr], []⟩ ∧
      expr.height = limit * (limit + 1) / 2) := by
  rw [← triangle_eq]
  refine ⟨fun dialect text expr => parse_height_le limit _, fun some_budget dialect => ?_⟩
  obtain ⟨n, rfl⟩ : ∃ n, limit = n + 1 := ⟨limit - 1, by omega⟩
  let text := String.ofList (wording dialect (tower n))
  have kinds : (Reader.ofText dialect text).remaining.map Token.kind = tower n :=
    Scanner.switching_wording (tower_writable n) String.toList_ofList
  obtain ⟨token, value, stop, reads, ended, height⟩ := Parse.readsTo_tower n kinds
  exact ⟨text, token, value, congrArg Prod.fst (parse_of_readsTo reads ended), height⟩

/-- Under the limit 3 the source ` fn ( ) { fn ( ) { x } ( ) } ( ) ( )` has an expression of
height 6. -/
theorem Reader.parse_height_three :
    1 ≤ 3 ∧ ∃ (text : String) (token : Token) (expr : Expr),
      ((Reader.ofText .trk text).parse 3).1 = ⟨[.expression token expr], []⟩ ∧ expr.height = 6 ∧
      .expr expr ∈ Stmt.allParts ((Reader.ofText .trk text).parse 3).1.program ∧
      expr.height ≤ 6 := by
  refine ⟨by decide, ?_⟩
  obtain ⟨text, token, expr, parsed, height⟩ := (Reader.parse_height 3).2 (by decide) .trk
  have part : .expr expr ∈ Stmt.allParts ((Reader.ofText .trk text).parse 3).1.program := by
    rw [parsed]
    exact List.mem_append_left _ (List.mem_cons_of_mem _ expr.mem_parts)
  exact ⟨text, token, expr, parsed, height, part, (Reader.parse_height 3).1 .trk text expr part⟩

end Polyglot
