import Polyglot.Proofs.Soundness

/-! Whatever is written by the rules of the grammar is parsed with success, and its tree is the tree
of the rules, if the nesting limit is greater than the number of tokens. The budget for nesting is
then always greater than the number of tokens to come, so it is never used up. Together with
soundness: the parser accepts the programs of the grammar and no others, each with its one tree. -/
namespace Polyglot

/-- The kind of the first token, the end of the source if there is none. -/
def headKind : List Token → TokenKind
  | [] => .endOfInput
  | token :: _ => token.kind

theorem Reader.next_kind (reader : Reader) : reader.next.kind = headKind reader.remaining := by
  cases coming : reader.remaining with
  | nil => exact (remaining_eq_nil_iff reader).mp coming
  | cons token rest => rw [(next_of_remaining coming).1, headKind]

theorem headKind_append {tokens : List Token} (some_token : tokens ≠ []) (rest : List Token) :
    headKind (tokens ++ rest) = headKind tokens := by
  obtain ⟨token, others, rfl⟩ := List.exists_cons_of_ne_nil some_token
  rfl

namespace Parse
variable {α β : Type}

/-- The part yields this value and leaves these tokens. -/
def Succeeds (part : Parse α) (reader : Reader) (value : α) (rest : List Token) : Prop :=
  ∃ after, part.run reader = .ok value after ∧ after.remaining = rest

theorem Succeeds.pure {value : α} {reader : Reader} {rest : List Token}
    (coming : reader.remaining = rest) : Succeeds (Pure.pure value) reader value rest :=
  ⟨reader, rfl, coming⟩

theorem Succeeds.bind {first : Parse α} {next : α → Parse β} {reader : Reader} {value : α}
    {result : β} {between rest : List Token} (begins : Succeeds first reader value between)
    (later : ∀ middle : Reader, middle.remaining = between →
      Succeeds (next value) middle result rest) :
    Succeeds (first >>= next) reader result rest := by
  obtain ⟨middle, ran, coming⟩ := begins
  obtain ⟨last, done, left⟩ := later middle coming
  exact ⟨last, (bind_ok ran).trans done, left⟩

theorem Succeeds.peek {next : Token → Parse β} {reader : Reader} {result : β} {rest : List Token}
    (later : Succeeds (next reader.next) reader.look result rest) :
    Succeeds (Parse.peek >>= next) reader result rest := by
  obtain ⟨last, done, left⟩ := later
  exact ⟨last, (bind_ok (peek_run reader)).trans done, left⟩

theorem Succeeds.take {next : Token → Parse β} {reader : Reader} {result : β} {token : Token}
    {tokens rest : List Token} (coming : reader.remaining = token :: tokens)
    (plain : token.kind ≠ .tilde)
    (later : ∀ middle : Reader, middle.remaining = tokens →
      Succeeds (next token) middle result rest) :
    Succeeds (Parse.take >>= next) reader result rest := by
  obtain ⟨rfl, _, after⟩ := Reader.next_of_remaining coming
  obtain ⟨last, done, left⟩ := later reader.advance (after plain)
  exact ⟨last, (bind_ok (take_run reader)).trans done, left⟩

theorem Succeeds.expect {next : Token → Parse β} {reader : Reader} {result : β} {token : Token}
    {kind : TokenKind} {tokens rest : List Token} (coming : reader.remaining = token :: tokens)
    (found : token.kind = kind) (plain : kind ≠ .tilde)
    (later : ∀ middle : Reader, middle.remaining = tokens →
      Succeeds (next token) middle result rest) :
    Succeeds (Parse.expect kind >>= next) reader result rest := by
  obtain ⟨rfl, _, after⟩ := Reader.next_of_remaining coming
  obtain ⟨last, done, left⟩ := later reader.advance (after (by rw [found]; exact plain))
  have ran : (Parse.expect kind).run reader = .ok reader.next reader.advance := by
    rw [expect_run, if_pos found]
  exact ⟨last, (bind_ok ran).trans done, left⟩

theorem Succeeds.accept {next : Bool → Parse β} {reader : Reader} {result : β} {token : Token}
    {kind : TokenKind} {tokens rest : List Token} (coming : reader.remaining = token :: tokens)
    (found : token.kind = kind) (plain : kind ≠ .tilde)
    (later : ∀ middle : Reader, middle.remaining = tokens →
      Succeeds (next true) middle result rest) :
    Succeeds (Parse.accept kind >>= next) reader result rest := by
  obtain ⟨rfl, _, after⟩ := Reader.next_of_remaining coming
  obtain ⟨last, done, left⟩ := later reader.advance (after (by rw [found]; exact plain))
  have ran : (Parse.accept kind).run reader = .ok true reader.advance := by
    rw [accept_run, if_pos found]
  exact ⟨last, (bind_ok ran).trans done, left⟩

theorem Succeeds.refuse {next : Bool → Parse β} {reader : Reader} {result : β} {kind : TokenKind}
    {rest : List Token} (other : headKind reader.remaining ≠ kind)
    (later : ∀ middle : Reader, middle.remaining = reader.remaining →
      Succeeds (next false) middle result rest) :
    Succeeds (Parse.accept kind >>= next) reader result rest := by
  obtain ⟨last, done, left⟩ := later reader.look (Reader.remaining_look reader)
  have ran : (Parse.accept kind).run reader = .ok false reader.look := by
    rw [accept_run, if_neg (by rw [Reader.next_kind]; exact other)]
  exact ⟨last, (bind_ok ran).trans done, left⟩

theorem Succeeds.repeating {step : Parse (Option α)} {reader : Reader} {values : List α}
    {rest : List Token} (advances : Advances step)
    (once : Succeeds (do
      match ← step with
      | none => return []
      | some first => return first :: (← Parse.repeating step)) reader values rest) :
    Succeeds (Parse.repeating step) reader values rest := by
  obtain ⟨last, ran, left⟩ := once
  exact ⟨last, (repeating_eq advances reader).trans ran, left⟩

section
variable {element : Parse α} {reader : Reader} {rest : List Token}

theorem afterCommas_done (goes : GoesOnward element) (coming : reader.remaining = rest)
    (other : headKind rest ≠ .comma) :
    Succeeds (Parse.repeating (afterComma element)) reader [] rest := by
  subst coming
  have step : Succeeds (afterComma element) reader none reader.remaining :=
    .refuse other fun _ left => .pure left
  exact .repeating (afterComma_advances goes) (step.bind fun _ left => .pure left)

theorem afterCommas_more (goes : GoesOnward element) {comma : Token} {value : α}
    {values : List α} {tokens between : List Token} (coming : reader.remaining = comma :: tokens)
    (separates : comma.kind = .comma)
    (given : ∀ middle : Reader, middle.remaining = tokens → Succeeds element middle value between)
    (others : ∀ middle : Reader, middle.remaining = between →
      Succeeds (Parse.repeating (afterComma element)) middle values rest) :
    Succeeds (Parse.repeating (afterComma element)) reader (value :: values) rest := by
  have step : Succeeds (afterComma element) reader (some value) between := by
    refine .accept coming separates (by decide) fun middle left => ?_
    exact (given middle left).bind fun _ left => .pure left
  refine .repeating (afterComma_advances goes) (step.bind fun middle left => ?_)
  exact (others middle left).bind fun _ left => .pure left

theorem sequence_empty {closing : Token} {kind : TokenKind}
    (coming : reader.remaining = closing :: rest) (closes : closing.kind = kind)
    (plain : kind ≠ .tilde) : Succeeds (sequence element kind) reader [] rest := by
  exact .accept coming closes plain fun _ left => .pure left

theorem sequence_first {kind : TokenKind} {closing : Token} {value : α} {values : List α}
    {between : List Token} (more : headKind reader.remaining ≠ kind)
    (given : ∀ middle : Reader, middle.remaining = reader.remaining →
      Succeeds element middle value between)
    (others : ∀ middle : Reader, middle.remaining = between →
      Succeeds (Parse.repeating (afterComma element)) middle values (closing :: rest))
    (closes : closing.kind = kind) (plain : kind ≠ .tilde) :
    Succeeds (sequence element kind) reader (value :: values) rest := by
  refine .refuse more fun middle left => ?_
  refine (given middle left).bind fun middle left => ?_
  refine (others middle left).bind fun middle left => ?_
  exact .expect left closes plain fun _ left => .pure left

end

open Grammar

/-- What may stand behind an expression of this stratum: nothing that would go on with it. -/
structure Follows (stratum : Stratum) (rest : List Token) : Prop where
  closed : (headKind rest).precedence.rank ≤ stratum.rank + 1
  no_else : headKind rest ≠ .keyword .elseWord

/-- What ends a statement. -/
def Closes (kind : TokenKind) : Prop :=
  kind = .newLine ∨ kind = .rightBrace ∨ kind = .endOfInput

theorem Follows.of_loose {rest : List Token} (loose : (headKind rest).precedence.rank = 0)
    (no_else : headKind rest ≠ .keyword .elseWord) (stratum : Stratum) : Follows stratum rest :=
  ⟨by omega, no_else⟩

theorem Closes.loose {kind : TokenKind} (closes : Closes kind) :
    kind.precedence.rank = 0 ∧ kind ≠ .keyword .elseWord := by
  rcases closes with rfl | rfl | rfl <;> decide

/-- These tokens are parsed to this expression wherever an expression of the stratum may stand. An
expression is parsed together with the links behind it, so what the links come to is left open. -/
def ParsesExpression (stratum : Stratum) (tokens : List Token) (expr : Expr) : Prop :=
  ∀ (limit budget : Nat) (floor : Precedence) (reader : Reader) (rest : List Token) (value : Expr)
    (left : List Token), floor.stratum.rank ≤ stratum.rank → floor ≠ .call →
    reader.remaining = tokens ++ rest → reader.remaining.length < budget → Follows stratum rest →
    (∀ (less : Nat) (middle : Reader), middle.remaining = rest → rest.length < less →
      Succeeds (links limit less floor expr) middle value left) →
    Succeeds (expression limit budget floor) reader value left

def ParsesArguments (tokens : List Token) (exprs : List Expr) : Prop :=
  ∀ (limit budget : Nat) (reader : Reader) (closing : Token) (rest : List Token),
    closing.kind = .rightParen → reader.remaining = tokens ++ closing :: rest →
    reader.remaining.length < budget →
    Succeeds (sequence (expression limit budget .lowest) .rightParen) reader exprs rest

def ParsesMoreArguments (tokens : List Token) (exprs : List Expr) : Prop :=
  ∀ (limit budget : Nat) (reader : Reader) (closing : Token) (rest : List Token),
    closing.kind = .rightParen → reader.remaining = tokens ++ closing :: rest →
    reader.remaining.length < budget →
    Succeeds (Parse.repeating (afterComma (expression limit budget .lowest))) reader exprs
      (closing :: rest)

def ParsesStatement (tokens : List Token) (stmt : Option Stmt) : Prop :=
  ∀ (limit budget : Nat) (reader : Reader) (rest : List Token),
    reader.remaining = tokens ++ rest → reader.remaining.length < budget → Closes (headKind rest) →
    Succeeds (statement (expression limit budget)) reader stmt rest

def ParsesBlock (tokens : List Token) (block : Block) : Prop :=
  ∀ (limit budget : Nat) (reader : Reader) (rest : List Token),
    reader.remaining = tokens ++ rest → reader.remaining.length < budget →
    Succeeds (Parse.block (expression limit budget)) reader block rest

theorem links_done {limit less : Nat} {floor : Precedence} {expr : Expr} {reader : Reader}
    (stops : (headKind reader.remaining).precedence.rank ≤ floor.rank) :
    Succeeds (links limit less floor expr) reader expr reader.remaining := by
  have ended : ¬ floor.rank < reader.next.kind.precedence.rank := by
    rw [Reader.next_kind]
    omega
  have asked : (continues floor).run reader = .ok false reader.look := by
    unfold continues
    rw [bind_ok (peek_run reader), EStateM.run_pure, decide_eq_false ended]
  refine ⟨reader.look, ?_, Reader.remaining_look reader⟩
  cases less with
  | zero =>
    unfold links
    rw [bind_ok asked]
    rfl
  | succ less =>
    unfold links
    rw [bind_ok asked]
    rfl

theorem links_more {limit less : Nat} {floor : Precedence} {expr linked value : Expr}
    {reader : Reader} {token : Token} {tokens between left : List Token}
    (coming : reader.remaining = token :: tokens)
    (binds : floor.rank < token.kind.precedence.rank)
    (one : ∀ middle : Reader, middle.remaining = tokens →
      Succeeds (link (expression limit less) expr token) middle linked between)
    (others : ∀ middle : Reader, middle.remaining = between →
      Succeeds (links limit less floor linked) middle value left) :
    Succeeds (links limit (less + 1) floor expr) reader value left := by
  have next := (Reader.next_of_remaining coming).1
  have asked : (continues floor).run reader = .ok true reader.look := by
    unfold continues
    rw [bind_ok (peek_run reader), EStateM.run_pure, decide_eq_true (by rw [next]; exact binds)]
  have taken : Succeeds (do
      let token ← take
      links limit less floor (← link (expression limit less) expr token)) reader.look value
        left := by
    refine .take ((Reader.remaining_look reader).trans coming)
      (TokenKind.ordinary_of_binds (by omega)).2 fun middle left => ?_
    exact (one middle left).bind others
  obtain ⟨after, ran, rest⟩ := taken
  refine ⟨after, ?_, rest⟩
  unfold links
  rw [bind_ok asked]
  exact ran

theorem ParsesExpression.alone {stratum : Stratum} {tokens rest : List Token} {expr : Expr}
    (parses : ParsesExpression stratum tokens expr) {limit budget : Nat} {floor : Precedence}
    {reader : Reader} (above : floor.stratum.rank ≤ stratum.rank) (no_call : floor ≠ .call)
    (coming : reader.remaining = tokens ++ rest) (enough : reader.remaining.length < budget)
    (follows : Follows stratum rest) (stops : (headKind rest).precedence.rank ≤ floor.rank) :
    Succeeds (expression limit budget floor) reader expr rest := by
  refine parses limit budget floor reader rest expr rest above no_call coming enough follows ?_
  rintro less middle rfl _
  exact links_done stops

/-- A token that a scanner yields. -/
def Scanned (token : Token) : Prop :=
  ∃ scanner : Scanner, scanner.next.1 = token

theorem Scanned.written {token : Token} (scanned : Scanned token) :
    token.kind.Written token.literal.toList := by
  obtain ⟨scanner, rfl⟩ := scanned
  exact scanner.next_written

theorem ParsesExpression.of_operand {stratum : Stratum} {token : Token} {tokens : List Token}
    {expr : Expr} (starts : startsExpression token.kind = true)
    (reads : ∀ (limit budget : Nat) (reader : Reader) (rest : List Token), Scanned token →
      reader.remaining = tokens ++ rest → reader.remaining.length < budget →
      Follows stratum rest → Succeeds (operand (expression limit budget) token) reader expr rest) :
    ParsesExpression stratum (token :: tokens) expr := by
  intro limit budget floor reader rest value left _ _ coming enough follows later
  obtain ⟨next, _, _⟩ := Reader.next_of_remaining coming
  have size : reader.remaining.length = (tokens ++ rest).length + 1 := by rw [coming]; rfl
  obtain ⟨less, rfl⟩ : ∃ less, budget = less + 1 := ⟨budget - 1, by omega⟩
  unfold expression
  refine .peek ?_
  rw [next, if_pos starts]
  refine .take ((Reader.remaining_look reader).trans coming) ?_ fun middle there => ?_
  · intro tilde
    rw [tilde] at starts
    cases starts
  refine Succeeds.bind ⟨_, note_run _ _, rfl⟩ fun noted same => ?_
  have there : noted.remaining = tokens ++ rest := same.trans there
  refine (reads limit less noted rest ⟨reader.scanner, next⟩ there (by rw [there]; omega)
    follows).bind fun last behind => ?_
  exact later less last behind (by rw [List.length_append] at size; omega)

theorem expression_starts {stratum : Stratum} {tokens : List Token} {expr : Expr} :
    Expression stratum tokens expr → startsExpression (headKind tokens) = true
  | .raise _ inner => expression_starts inner
  | .binary _ first _ _ | .call first _ _ _ => by
    rw [headKind_append first.tokens_ne_nil]
    exact expression_starts first
  | .unary operator _ => by
    unfold unary? at operator
    rw [headKind]
    split at operator
    · rename_i kind
      rw [kind]
      rfl
    · rename_i kind
      rw [kind]
      rfl
    · cases operator
  | .identifier kind | .integer kind _ _ | .float kind | .string kind | .trueWord kind
  | .falseWord kind | .group kind _ _ | .conditional kind _ _ _ _
  | .alternative kind _ _ _ _ _ _ | .function kind _ _ _ _ => by
    rw [headKind, kind]
    rfl

theorem moreParameters_succeeds {tokens names : List Token} :
    MoreParameters tokens names → ∀ {reader : Reader} {closing : Token} {rest : List Token},
      closing.kind = .rightParen → reader.remaining = tokens ++ closing :: rest →
      Succeeds (Parse.repeating (afterComma (Parse.expect .identifier))) reader names
        (closing :: rest)
  | .done, reader, closing, rest, closes, coming =>
    afterCommas_done (expect_goesOnward _) coming (by rw [headKind, closes]; decide)
  | .more separates named others, reader, closing, rest, closes, coming => by
    refine afterCommas_more (expect_goesOnward _) coming separates (fun middle there => ?_)
      fun middle there => moreParameters_succeeds others closes there
    rw [← bind_pure (Parse.expect .identifier)]
    exact .expect there named (by decide) fun _ left => .pure left

theorem parameters_succeeds {tokens names rest : List Token} {closing : Token} {reader : Reader}
    (derived : Parameters tokens names) (closes : closing.kind = .rightParen)
    (coming : reader.remaining = tokens ++ closing :: rest) :
    Succeeds (sequence (Parse.expect .identifier) .rightParen) reader names rest := by
  cases derived with
  | empty => exact sequence_empty coming closes (by decide)
  | first named others =>
    have more : headKind reader.remaining ≠ .rightParen := by
      rw [coming, List.cons_append, headKind, named]
      decide
    refine sequence_first more (fun middle there => ?_)
      (fun middle there => moreParameters_succeeds others closes there) closes (by decide)
    rw [← bind_pure (Parse.expect .identifier)]
    exact .expect (there.trans coming) named (by decide) fun _ left => .pure left

namespace ParsesExpression

theorem raise {stratum tight : Stratum} {tokens : List Token} {expr : Expr}
    (next : stratum.tighter? = some tight) (inner : ParsesExpression tight tokens expr) :
    ParsesExpression stratum tokens expr := by
  intro limit budget floor reader rest value left above no_call coming enough follows later
  have rank := Stratum.rank_tighter next
  have closed := follows.closed
  exact inner limit budget floor reader rest value left (by omega) no_call coming enough
    ⟨by omega, follows.no_else⟩ later

theorem binary {stratum tight : Stratum} {op : BinaryOp} {token : Token}
    {before after : List Token} {first second : Expr} (next : stratum.tighter? = some tight)
    (one : ParsesExpression stratum before first) (operator : stratum.binary? token.kind = some op)
    (two : ParsesExpression tight after second) :
    ParsesExpression stratum (before ++ token :: after) (.binary token op first second) := by
  intro limit budget floor reader rest value left above no_call coming enough follows later
  obtain ⟨belongs, rank, same, plain, no_else, low⟩ := Stratum.kind_of_binary operator
  have right : tight = token.kind.precedence.stratum := Option.some.inj (next.symm.trans same)
  have closed := follows.closed
  have tighter := Stratum.rank_tighter next
  have floor_rank : floor.rank = floor.stratum.rank := Precedence.rank_eq_of_low (by omega)
  rw [List.append_assoc, List.cons_append] at coming
  -- The first operand is parsed with all that follows as its links, and the operator is the first.
  refine one limit budget floor reader _ value left above no_call coming enough
    ⟨Nat.le_of_eq rank, no_else⟩ fun less middle there size => ?_
  obtain ⟨less, rfl⟩ : ∃ smaller, less = smaller + 1 := ⟨less - 1, by omega⟩
  rw [List.length_cons] at size
  have linked (middle : Reader) (there : middle.remaining = after ++ rest) :
      Succeeds (link (expression limit less) first token) middle (.binary token op first second)
        rest := by
    unfold link
    rw [belongs]
    exact (two.alone (Nat.le_of_eq (by rw [right])) plain there (by rw [there]; omega)
      ⟨by omega, follows.no_else⟩ (by omega)).bind fun last there => .pure there
  refine links_more there (by omega) linked fun middle there => ?_
  exact later less middle there (by rw [List.length_append] at size; omega)

theorem call {opening closing : Token} {before inside : List Token} {callee : Expr}
    {arguments : List Expr} (first : ParsesExpression .call before callee)
    (opens : opening.kind = .leftParen) (given : ParsesArguments inside arguments)
    (closes : closing.kind = .rightParen) :
    ParsesExpression .call (before ++ opening :: (inside ++ [closing]))
      (.call opening callee arguments) := by
  intro limit budget floor reader rest value left above no_call coming enough follows later
  have binds : floor.rank < opening.kind.precedence.rank := by
    rw [opens]
    exact Precedence.rank_lt_call no_call
  have tail : before ++ opening :: (inside ++ [closing]) ++ rest =
      before ++ opening :: (inside ++ closing :: rest) := by simp
  rw [tail] at coming
  refine first limit budget floor reader _ value left above no_call coming enough
    ⟨by rw [headKind, opens]; decide, by rw [headKind, opens]; decide⟩
    fun less middle there size => ?_
  obtain ⟨less, rfl⟩ : ∃ smaller, less = smaller + 1 := ⟨less - 1, by omega⟩
  rw [List.length_cons] at size
  have linked (middle : Reader) (there : middle.remaining = inside ++ closing :: rest) :
      Succeeds (link (expression limit less) callee opening) middle
        (.call opening callee arguments) rest := by
    unfold link
    rw [opens]
    exact (given limit less middle closing rest closes there (by rw [there]; omega)).bind
      fun last there => .pure there
  refine links_more there binds linked fun middle there => ?_
  exact later less middle there (by rw [List.length_append, List.length_cons] at size; omega)

theorem unary {op : UnaryOp} {token : Token} {tokens : List Token} {operand : Expr}
    (operator : unary? token.kind = some op) (inner : ParsesExpression .unary tokens operand) :
    ParsesExpression .unary (token :: tokens) (.unary token op operand) := by
  have read (limit budget : Nat) (reader : Reader) (rest : List Token)
      (coming : reader.remaining = tokens ++ rest) (enough : reader.remaining.length < budget)
      (follows : Follows .unary rest) :
      Succeeds (do return .unary token op (← expression limit budget .unary) : Parse Expr) reader
        (.unary token op operand) rest := by
    have stops : (headKind rest).precedence.rank ≤ Precedence.rank .unary := follows.closed
    exact (inner.alone (Nat.le_refl _) (by decide) coming enough follows stops).bind
      fun last there => .pure there
  unfold unary? at operator
  split at operator <;> cases operator
  all_goals
    rename_i kind
    refine of_operand (by rw [kind]; rfl) fun limit budget reader rest _ coming enough follows => ?_
    unfold Parse.operand
    rw [kind]
    exact read limit budget reader rest coming enough follows

theorem leaf {token : Token} {expr : Expr} (starts : startsExpression token.kind = true)
    (reads : ∀ inner : Precedence → Parse Expr, Scanned token → operand inner token = pure expr) :
    ParsesExpression .primary [token] expr := by
  refine of_operand starts fun limit budget reader rest scanned coming _ _ => ?_
  rw [reads _ scanned]
  exact .pure coming

theorem integer {token : Token} {value : Nat} (kind : token.kind = .integer)
    (denoted : token.Denotes value) (small : value < 2 ^ 63) :
    ParsesExpression .primary [token] (.integer token (Int64.ofNat value)) := by
  obtain rfl := denoted.value_eq
  refine leaf (by rw [kind]; rfl) fun inner _ => ?_
  unfold operand
  rw [kind]
  exact if_pos small

theorem float {token : Token} (kind : token.kind = .float) :
    ParsesExpression .primary [token]
      (.float token ((readFloat? token.literal.toList).getD 0)) := by
  refine leaf (by rw [kind]; rfl) fun inner scanned => ?_
  obtain ⟨value, read⟩ := readFloat?_isSome (kind ▸ scanned.written)
  unfold operand
  rw [kind]
  dsimp only
  rw [read]
  rfl

theorem before_paren {closing : Token} {inside rest left : List Token} {expr : Expr}
    (inner : ParsesExpression .equality inside expr) (closes : closing.kind = .rightParen)
    {limit budget : Nat} {reader : Reader} {next : Expr → Parse β} {result : β}
    (coming : reader.remaining = inside ++ closing :: rest)
    (enough : reader.remaining.length < budget)
    (later : ∀ middle : Reader, middle.remaining = rest →
      Succeeds (next expr) middle result left) :
    Succeeds (do
      let value ← expression limit budget .lowest
      let _ ← Parse.expect .rightParen
      next value) reader result left := by
  have loose : headKind (closing :: rest) = .rightParen := closes
  refine (inner.alone (Nat.le_refl _) (by decide) coming enough
    (.of_loose (by rw [loose]; rfl) (by rw [loose]; decide) _) (by rw [loose]; decide)).bind
    fun middle there => ?_
  exact .expect there closes (by decide) later

theorem group {opening closing : Token} {inside : List Token} {expr : Expr}
    (opens : opening.kind = .leftParen) (inner : ParsesExpression .equality inside expr)
    (closes : closing.kind = .rightParen) :
    ParsesExpression .primary (opening :: (inside ++ [closing])) expr := by
  refine of_operand (by rw [opens]; rfl) fun limit budget reader rest _ coming enough _ => ?_
  rw [List.append_assoc, List.singleton_append] at coming
  unfold operand
  rw [opens]
  exact inner.before_paren closes coming enough fun _ left => .pure left

theorem conditional {token opening closing : Token} {inside first : List Token} {condition : Expr}
    {consequence : Block} (word : token.kind = .keyword .ifWord)
    (opens : opening.kind = .leftParen) (asked : ParsesExpression .equality inside condition)
    (closes : closing.kind = .rightParen) (holds : ParsesBlock first consequence) :
    ParsesExpression .primary (token :: opening :: (inside ++ closing :: first))
      (.conditional token condition consequence none) := by
  refine of_operand (by rw [word]; rfl) fun limit budget reader rest _ coming enough follows => ?_
  rw [coming] at enough
  simp only [List.cons_append, List.append_assoc, List.length_cons, List.length_append]
    at coming enough
  unfold operand
  rw [word]
  refine .expect coming opens (by decide) fun middle there => ?_
  refine asked.before_paren closes there (by simp [there]; omega) fun middle there => ?_
  refine (holds limit budget middle rest there (by simp [there]; omega)).bind
    fun middle there => ?_
  exact .refuse (by rw [there]; exact follows.no_else) fun _ left => .pure (left.trans there)

theorem alternative {token opening closing other : Token} {inside first second : List Token}
    {condition : Expr} {consequence alternative : Block}
    (word : token.kind = .keyword .ifWord) (opens : opening.kind = .leftParen)
    (asked : ParsesExpression .equality inside condition) (closes : closing.kind = .rightParen)
    (holds : ParsesBlock first consequence) (otherwise : other.kind = .keyword .elseWord)
    (fails : ParsesBlock second alternative) :
    ParsesExpression .primary
      (token :: opening :: (inside ++ closing :: (first ++ other :: second)))
      (.conditional token condition consequence (some alternative)) := by
  refine of_operand (by rw [word]; rfl) fun limit budget reader rest _ coming enough _ => ?_
  rw [coming] at enough
  simp only [List.cons_append, List.append_assoc, List.length_cons, List.length_append]
    at coming enough
  unfold operand
  rw [word]
  refine .expect coming opens (by decide) fun middle there => ?_
  refine asked.before_paren closes there (by simp [there]; omega) fun middle there => ?_
  refine (holds limit budget middle _ there (by simp [there]; omega)).bind fun middle there => ?_
  refine .accept there otherwise (by decide) fun middle there => ?_
  exact (fails limit budget middle rest there (by simp [there]; omega)).bind
    fun _ left => .pure left

theorem function {token opening closing : Token} {inside code parameters : List Token}
    {body : Block} (word : token.kind = .keyword .fnWord) (opens : opening.kind = .leftParen)
    (named : Parameters inside parameters) (closes : closing.kind = .rightParen)
    (runs : ParsesBlock code body) :
    ParsesExpression .primary (token :: opening :: (inside ++ closing :: code))
      (.function token parameters body) := by
  refine of_operand (by rw [word]; rfl) fun limit budget reader rest _ coming enough _ => ?_
  rw [coming] at enough
  simp only [List.cons_append, List.append_assoc, List.length_cons, List.length_append]
    at coming enough
  unfold operand
  rw [word]
  refine .expect coming opens (by decide) fun middle there => ?_
  refine (parameters_succeeds named closes there).bind fun middle there => ?_
  exact (runs limit budget middle rest there (by simp [there]; omega)).bind
    fun _ left => .pure left

end ParsesExpression

theorem ParsesExpression.argument {tokens others rest : List Token} {expr : Expr}
    {exprs : List Expr} {closing : Token} (given : ParsesExpression .equality tokens expr)
    (more : MoreArguments others exprs) (closes : closing.kind = .rightParen) {limit budget : Nat}
    {reader : Reader} (coming : reader.remaining = tokens ++ (others ++ closing :: rest))
    (enough : reader.remaining.length < budget) :
    Succeeds (expression limit budget .lowest) reader expr (others ++ closing :: rest) := by
  have behind : headKind (others ++ closing :: rest) = .comma ∨
      headKind (others ++ closing :: rest) = .rightParen := by
    cases more with
    | done => exact Or.inr closes
    | more separates _ _ => exact Or.inl separates
  have loose : (headKind (others ++ closing :: rest)).precedence.rank = 0 ∧
      headKind (others ++ closing :: rest) ≠ .keyword .elseWord := by
    rcases behind with kind | kind <;> rw [kind] <;> decide
  exact given.alone (Nat.le_refl _) (by decide) coming enough (.of_loose loose.1 loose.2 _)
    (by rw [loose.1]; exact Nat.zero_le _)

theorem ParsesArguments.empty : ParsesArguments [] [] := by
  intro limit budget reader closing rest closes coming enough
  exact sequence_empty coming closes (by decide)

theorem ParsesArguments.first {tokens others : List Token} {expr : Expr} {exprs : List Expr}
    (derived : Expression .equality tokens expr) (given : ParsesExpression .equality tokens expr)
    (more : MoreArguments others exprs) (parsed : ParsesMoreArguments others exprs) :
    ParsesArguments (tokens ++ others) (expr :: exprs) := by
  intro limit budget reader closing rest closes coming enough
  rw [List.append_assoc] at coming
  have starts : headKind reader.remaining ≠ .rightParen := by
    rw [coming, headKind_append derived.tokens_ne_nil]
    intro same
    have impossible := expression_starts derived
    rw [same] at impossible
    cases impossible
  refine sequence_first starts (fun middle there => given.argument more closes (there.trans coming)
    (by rw [there]; exact enough)) (fun middle there => ?_) closes (by decide)
  rw [coming, List.length_append] at enough
  exact parsed limit budget middle closing rest closes there (by rw [there]; omega)

theorem ParsesMoreArguments.done : ParsesMoreArguments [] [] := by
  intro limit budget reader closing rest closes coming enough
  exact afterCommas_done (expression_consumes _ _ _).goesOnward coming
    (by rw [headKind, closes]; decide)

theorem ParsesMoreArguments.more {comma : Token} {tokens others : List Token} {expr : Expr}
    {exprs : List Expr} (separates : comma.kind = .comma)
    (given : ParsesExpression .equality tokens expr) (more : MoreArguments others exprs)
    (parsed : ParsesMoreArguments others exprs) :
    ParsesMoreArguments (comma :: (tokens ++ others)) (expr :: exprs) := by
  intro limit budget reader closing rest closes coming enough
  rw [coming] at enough
  simp only [List.cons_append, List.append_assoc, List.length_cons, List.length_append]
    at coming enough
  refine afterCommas_more (expression_consumes _ _ _).goesOnward coming separates
    (fun middle there => given.argument more closes there (by simp [there]; omega))
    fun middle there => ?_
  exact parsed limit budget middle closing rest closes there (by simp [there]; omega)

theorem ParsesExpression.to_end {tokens rest : List Token} {expr : Expr}
    (given : ParsesExpression .equality tokens expr) (closes : Closes (headKind rest))
    {limit budget : Nat} {reader : Reader} (coming : reader.remaining = tokens ++ rest)
    (enough : reader.remaining.length < budget) :
    Succeeds (expression limit budget .lowest) reader expr rest :=
  given.alone (Nat.le_refl _) (by decide) coming enough
    (.of_loose closes.loose.1 closes.loose.2 _) (by rw [closes.loose.1]; exact Nat.zero_le _)

/-- What begins as an expression is a statement if it is read as an expression. -/
theorem statement_succeeds {expr : Precedence → Parse Expr} {reader : Reader} {token : Token}
    {value : Expr} {rest : List Token} (next : reader.next = token)
    (starts : startsExpression token.kind = true)
    (read : Succeeds (expr .lowest) reader.look value rest) :
    Succeeds (statement expr) reader (some (.expression token value)) rest := by
  unfold statement
  refine .peek ?_
  rw [next]
  split
  · rename_i word
    rw [word] at starts
    cases starts
  · rename_i word
    rw [word] at starts
    cases starts
  · rename_i tilde
    rw [tilde] at starts
    cases starts
  · exact read.bind fun _ left => .pure left

namespace ParsesStatement

theorem binding {token name sign : Token} {tokens : List Token} {value : Expr}
    (word : token.kind = .keyword .letWord) (named : name.kind = .identifier)
    (assigns : sign.kind = .assign) (bound : ParsesExpression .equality tokens value) :
    ParsesStatement (token :: name :: sign :: tokens) (some (.binding token name value)) := by
  intro limit budget reader rest coming enough closes
  rw [coming] at enough
  simp only [List.cons_append, List.length_cons] at coming enough
  unfold statement
  refine .peek ?_
  rw [(Reader.next_of_remaining coming).1, word]
  refine .take ((Reader.remaining_look reader).trans coming) (by rw [word]; decide)
    fun middle there => ?_
  refine .expect there named (by decide) fun middle there => ?_
  refine .expect there assigns (by decide) fun middle there => ?_
  exact (bound.to_end closes there (by rw [there]; omega)).bind fun _ left => .pure left

theorem result {token : Token} {tokens : List Token} {value : Expr}
    (word : token.kind = .keyword .returnWord) (given : ParsesExpression .equality tokens value) :
    ParsesStatement (token :: tokens) (some (.result token value)) := by
  intro limit budget reader rest coming enough closes
  rw [coming] at enough
  simp only [List.cons_append, List.length_cons] at coming enough
  unfold statement
  refine .peek ?_
  rw [(Reader.next_of_remaining coming).1, word]
  refine .take ((Reader.remaining_look reader).trans coming) (by rw [word]; decide)
    fun middle there => ?_
  exact (given.to_end closes there (by rw [there]; omega)).bind fun _ left => .pure left

theorem pragma {token name : Token} (tilde : token.kind = .tilde)
    (named : name.kind = .identifier) : ParsesStatement [token, name] none := by
  intro limit budget reader rest coming _ _
  obtain ⟨next, second, left⟩ := Reader.pragma_of_remaining coming tilde named
  refine ⟨_, ?_, left⟩
  unfold statement
  rw [bind_ok (peek_run reader), next, tilde]
  rw [← second] at named ⊢
  exact (pragma_look reader).trans (pragma_named named)

theorem expression {token : Token} {tokens : List Token} {value : Expr}
    (derived : Expression .equality (token :: tokens) value)
    (alone : ParsesExpression .equality (token :: tokens) value) :
    ParsesStatement (token :: tokens) (some (.expression token value)) := by
  intro limit budget reader rest coming enough closes
  refine statement_succeeds (Reader.next_of_remaining coming).1 (expression_starts derived) ?_
  exact alone.to_end closes ((Reader.remaining_look reader).trans coming)
    (by rw [Reader.remaining_look]; exact enough)

end ParsesStatement

/-- A loop over lines that takes every statement which is parsed with success, while fewer tokens
than the bound are to come. -/
def TakesStatements (bound : Nat) (step : Parse (Option β)) (shows : β → Option (Option Stmt))
    (stops : TokenKind → Prop) : Prop :=
  ∀ (tokens : List Token) (stmt : Option Stmt), Statement tokens stmt →
    ParsesStatement tokens stmt → ∀ (reader : Reader) (rest : List Token),
    reader.remaining = tokens ++ rest → reader.remaining.length < bound →
    headKind rest = .newLine ∨ stops (headKind rest) →
    ∃ item, Succeeds step reader (some item) rest ∧ shows item = some stmt

/-- The loop reads these statements without a fault and leaves these tokens. -/
def ReadsAs (step : Parse (Option β)) (shows : β → Option (Option Stmt)) (reader : Reader)
    (stmts : List Stmt) (rest : List Token) : Prop :=
  ∃ items, Succeeds (Parse.repeating step) reader items rest ∧
    (∀ item ∈ items, shows item ≠ none) ∧ shown shows items = stmts

def ParsesLines (tokens : List Token) (stmts : List Stmt) : Prop :=
  ∀ (β : Type) (bound : Nat) (step : Parse (Option β)) (shows : β → Option (Option Stmt))
    (stops : TokenKind → Prop), LineLoop step shows stops → TakesStatements bound step shows stops →
    ∀ (reader : Reader) (rest : List Token), reader.remaining = tokens ++ rest →
      reader.remaining.length < bound → stops (headKind rest) → ReadsAs step shows reader stmts rest

section
variable {step : Parse (Option β)} {shows : β → Option (Option Stmt)} {stops : TokenKind → Prop}
  {reader : Reader} {stmts : List Stmt} {rest : List Token}

theorem ReadsAs.stop (loop : LineLoop step shows stops) (coming : reader.remaining = rest)
    (stopped : stops (headKind rest)) : ReadsAs step shows reader [] rest := by
  subst coming
  have ended : Succeeds step reader none reader.remaining :=
    ⟨reader.look, loop.at_stop reader (by rw [Reader.next_kind]; exact stopped),
      Reader.remaining_look reader⟩
  exact ⟨[], .repeating loop.advances (ended.bind fun _ left => .pure left), by simp, rfl⟩

theorem ReadsAs.item (loop : LineLoop step shows stops) {item : β} {stmt : Option Stmt}
    {between : List Token} (once : Succeeds step reader (some item) between)
    (shown_item : shows item = some stmt)
    (later : ∀ middle : Reader, middle.remaining = between →
      ReadsAs step shows middle stmts rest) :
    ReadsAs step shows reader (stmt.toList ++ stmts) rest := by
  obtain ⟨middle, ran, coming⟩ := once
  obtain ⟨items, others, sound, same⟩ := later middle coming
  refine ⟨item :: items, .repeating loop.advances ?_, ?_, ?_⟩
  · obtain ⟨last, done, left⟩ := others
    exact ⟨last, (bind_ok ran).trans (bind_ok done), left⟩
  · exact List.forall_mem_cons.mpr ⟨by rw [shown_item]; simp, sound⟩
  · cases stmt <;> simp [shown, shown_item, ← same]

theorem ReadsAs.lineEnds (loop : LineLoop step shows stops) {ends tail : List Token}
    (empty : LineEnds ends) (coming : reader.remaining = ends ++ tail)
    (later : ∀ middle : Reader, middle.remaining = tail → ReadsAs step shows middle stmts rest) :
    ReadsAs step shows reader stmts rest := by
  induction ends generalizing reader with
  | nil => exact later reader coming
  | cons token ends ih =>
    obtain ⟨ended, empty⟩ := List.forall_mem_cons.mp empty
    obtain ⟨next, _, after⟩ := Reader.next_of_remaining coming
    obtain ⟨item, ran, blank⟩ := loop.at_lineEnd reader (by rw [next]; exact ended)
    have once : Succeeds step reader (some item) (ends ++ tail) :=
      ⟨reader.advance, ran, after (by rw [ended]; decide)⟩
    exact .item loop once blank fun middle there => ih empty there

end

theorem ParsesLines.blank {ends : List Token} (empty : LineEnds ends) : ParsesLines ends [] := by
  intro β bound step shows stops loop _ reader rest coming _ stopped
  exact .lineEnds loop empty coming fun middle there => .stop loop there stopped

theorem moreLines_head {tokens : List Token} {stmts : List Stmt} (more : MoreLines tokens stmts) :
    tokens = [] ∨ headKind tokens = .newLine := by
  have ended {ends : List Token} (empty : LineEnds ends) :
      ends = [] ∨ headKind ends = .newLine := by
    cases ends with
    | nil => exact Or.inl rfl
    | cons token ends => exact Or.inr (empty token List.mem_cons_self)
  cases more with
  | done empty => exact ended empty
  | more empty apart _ _ =>
    rw [headKind_append apart]
    exact Or.inr ((ended empty).resolve_left apart)

theorem ParsesLines.first {ends tokens others : List Token} {stmt : Option Stmt}
    {stmts : List Stmt} (empty : LineEnds ends) (line : Statement tokens stmt)
    (parsed : ParsesStatement tokens stmt) (more : MoreLines others stmts)
    (later : ParsesLines others stmts) :
    ParsesLines (ends ++ (tokens ++ others)) (stmt.toList ++ stmts) := by
  intro β bound step shows stops loop takes reader rest coming enough stopped
  rw [coming] at enough
  simp only [List.append_assoc, List.length_append] at coming enough
  have behind : headKind (others ++ rest) = .newLine ∨ stops (headKind (others ++ rest)) := by
    rcases moreLines_head more with rfl | ended
    · exact Or.inr stopped
    · rw [headKind_append (by rintro rfl; cases ended)]
      exact Or.inl ended
  refine .lineEnds loop empty coming fun middle there => ?_
  obtain ⟨item, once, shown_item⟩ := takes tokens stmt line parsed middle _ there
    (by simp [there]; omega) behind
  refine .item loop once shown_item fun middle there => ?_
  exact later β bound step shows stops loop takes middle rest there (by simp [there]; omega) stopped

theorem statement_head {tokens : List Token} {stmt : Option Stmt} (line : Statement tokens stmt)
    (rest : List Token) : ¬ Closes (headKind (tokens ++ rest)) := by
  unfold Closes
  cases line with
  | binding word _ _ _ => simp [headKind, word]
  | result word _ => simp [headKind, word]
  | pragma tilde _ => simp [headKind, tilde]
  | expression alone =>
    have starts := expression_starts alone
    rw [List.cons_append]
    intro closes
    rcases closes with kind | kind | kind <;> rw [headKind] at kind starts <;>
      rw [kind] at starts <;> cases starts

theorem blockItem_succeeds {expr : Precedence → Parse Expr} {reader : Reader}
    {stmt : Option Stmt} {rest : List Token} (starts : ¬ Closes reader.next.kind)
    (read : Succeeds (statement expr) reader.look stmt rest) (closes : Closes (headKind rest)) :
    Succeeds (blockItem expr) reader (some stmt) rest := by
  unfold blockItem
  refine .peek ?_
  split
  · exact absurd (Or.inr (Or.inl ‹_›)) starts
  · exact absurd (Or.inr (Or.inr ‹_›)) starts
  · exact absurd (Or.inl ‹_›) starts
  · refine read.bind fun middle there => .peek ?_
    have kept : Succeeds (pure (some stmt) : Parse (Option (Option Stmt))) middle.look (some stmt)
        rest := .pure ((Reader.remaining_look middle).trans there)
    rw [Reader.next_kind, there]
    rcases closes with kind | kind | kind
    · rw [kind]
      exact kept
    · rw [kind]
      exact kept
    · rw [kind]
      exact kept

theorem sourceItem_succeeds {limit : Nat} {reader : Reader} {stmt : Option Stmt}
    {rest : List Token} (starts : ¬ Closes reader.next.kind)
    (read : Succeeds (statement (expression limit limit)) reader.look stmt rest)
    (ended : headKind rest = .newLine ∨ headKind rest = .endOfInput) :
    Succeeds (sourceItem limit) reader (some (.ok stmt)) rest := by
  have whole : Succeeds (line limit) reader.look stmt rest := by
    refine read.bind fun middle there => .peek ?_
    have kept : Succeeds (pure stmt : Parse (Option Stmt)) middle.look stmt rest :=
      .pure ((Reader.remaining_look middle).trans there)
    rw [Reader.next_kind, there]
    rcases ended with kind | kind
    · rw [kind]
      exact kept
    · rw [kind]
      exact kept
  obtain ⟨after, ran, left⟩ := whole
  exact ⟨after, sourceItem_ok (fun kind => starts (Or.inr (Or.inr kind)))
    (fun kind => starts (Or.inl kind)) ran, left⟩

theorem blockItem_takesStatements (limit budget : Nat) :
    TakesStatements budget (blockItem (expression limit budget)) some
      fun kind => kind = .rightBrace ∨ kind = .endOfInput := by
  intro tokens stmt line parsed reader rest coming enough ended
  have starts : ¬ Closes reader.next.kind := by
    rw [Reader.next_kind, coming]
    exact statement_head line rest
  have read := parsed limit budget reader.look rest ((Reader.remaining_look reader).trans coming)
    (by rw [Reader.remaining_look]; exact enough) ended
  exact ⟨stmt, blockItem_succeeds starts read ended, rfl⟩

theorem sourceItem_takesStatements (limit : Nat) :
    TakesStatements limit (sourceItem limit) Except.toOption fun kind => kind = .endOfInput := by
  intro tokens stmt written parsed reader rest coming enough ended
  have starts : ¬ Closes reader.next.kind := by
    rw [Reader.next_kind, coming]
    exact statement_head written rest
  have read := parsed limit limit reader.look rest ((Reader.remaining_look reader).trans coming)
    (by rw [Reader.remaining_look]; exact enough) (ended.imp_right Or.inr)
  exact ⟨.ok stmt, sourceItem_succeeds starts read ended, rfl⟩

theorem block_succeeds {limit budget : Nat} {reader : Reader} {opening closing : Token}
    {stmts : List Stmt} {inside rest : List Token} (opens : opening.kind = .leftBrace)
    (coming : reader.remaining = opening :: inside) (closes : closing.kind = .rightBrace)
    (lines : ∀ middle : Reader, middle.remaining = inside →
      ReadsAs (blockItem (expression limit budget)) some middle stmts (closing :: rest)) :
    Succeeds (Parse.block (expression limit budget)) reader (.mk opening stmts) rest := by
  unfold Parse.block
  refine .expect coming opens (by decide) fun middle there => ?_
  obtain ⟨items, ran, _, same⟩ := lines middle there
  refine ran.bind fun middle there => ?_
  refine .expect there closes (by decide) fun _ left => ?_
  have kept : items.filterMap id = stmts := same
  rw [kept]
  exact .pure left

theorem ParsesBlock.mk {opening closing : Token} {inside : List Token} {stmts : List Stmt}
    (opens : opening.kind = .leftBrace) (lines : ParsesLines inside stmts)
    (closes : closing.kind = .rightBrace) :
    ParsesBlock (opening :: (inside ++ [closing])) (.mk opening stmts) := by
  intro limit budget reader rest coming enough
  rw [coming] at enough
  simp only [List.cons_append, List.append_assoc, List.nil_append, List.length_cons,
    List.length_append] at coming enough
  refine block_succeeds opens coming closes fun middle there => ?_
  exact lines _ budget _ some _ (blockItem_lineLoop (expression_consumes limit budget))
    (blockItem_takesStatements limit budget) middle (closing :: rest) there
    (by simp [there]; omega) (Or.inl closes)

end Parse

namespace Grammar
open Parse

mutual

theorem Expression.parses {stratum : Stratum} {tokens : List Token} {expr : Expr} :
    Expression stratum tokens expr → ParsesExpression stratum tokens expr
  | .raise next inner => .raise next inner.parses
  | .binary next first operator second => .binary next first.parses operator second.parses
  | .unary operator inner => .unary operator inner.parses
  | .call first opens given closes => .call first.parses opens given.parses closes
  | .identifier kind => .leaf (by rw [kind]; rfl) fun _ _ => by rw [operand, kind]
  | .integer kind denoted small => .integer kind denoted small
  | .float kind => .float kind
  | .string kind => .leaf (by rw [kind]; rfl) fun _ _ => by rw [operand, kind]
  | .trueWord kind => .leaf (by rw [kind]; rfl) fun _ _ => by rw [operand, kind]
  | .falseWord kind => .leaf (by rw [kind]; rfl) fun _ _ => by rw [operand, kind]
  | .group opens inner closes => .group opens inner.parses closes
  | .conditional word opens asked closes holds =>
    .conditional word opens asked.parses closes holds.parses
  | .alternative word opens asked closes holds otherwise fails =>
    .alternative word opens asked.parses closes holds.parses otherwise fails.parses
  | .function word opens named closes runs => .function word opens named closes runs.parses

theorem Arguments.parses {tokens : List Token} {exprs : List Expr} :
    Arguments tokens exprs → ParsesArguments tokens exprs
  | .empty => .empty
  | .first given others => .first given given.parses others others.parses

theorem MoreArguments.parses {tokens : List Token} {exprs : List Expr} :
    MoreArguments tokens exprs → ParsesMoreArguments tokens exprs
  | .done => .done
  | .more separates given others => .more separates given.parses others others.parses

theorem Statement.parses {tokens : List Token} {stmt : Option Stmt} :
    Statement tokens stmt → ParsesStatement tokens stmt
  | .binding word named assigns bound => .binding word named assigns bound.parses
  | .result word given => .result word given.parses
  | .pragma tilde named => .pragma tilde named
  | .expression alone => .expression alone alone.parses

theorem Lines.parses {tokens : List Token} {stmts : List Stmt} :
    Lines tokens stmts → ParsesLines tokens stmts
  | .blank empty => .blank empty
  | .first empty line others => .first empty line line.parses others others.parses

theorem MoreLines.parses {tokens : List Token} {stmts : List Stmt} :
    MoreLines tokens stmts → ParsesLines tokens stmts
  | .done empty => .blank empty
  | .more empty _ line others => .first empty line line.parses others others.parses

theorem Braces.parses {tokens : List Token} {block : Block} :
    Braces tokens block → ParsesBlock tokens block
  | .mk opens lines closes => .mk opens lines.parses closes

end

end Grammar

/-- A source whose lines are written by the rules of the grammar is parsed without a fault, and its
statements are those of the lines. -/
theorem Parse.source_complete {limit : Nat} {reader : Reader} {stmts : List Stmt}
    (derived : Grammar.Lines reader.remaining stmts) (enough : reader.remaining.length < limit) :
    ∃ after, (source limit).run reader = .ok ⟨stmts, []⟩ after := by
  obtain ⟨items, ⟨after, ran, _⟩, sound, same⟩ := derived.parses _ limit _ Except.toOption _
    (sourceItem_lineLoop limit) (sourceItem_takesStatements limit) reader []
    (List.append_nil _).symm enough rfl
  refine ⟨after, ?_⟩
  have outcome : Parsed.ofLines items = ⟨stmts, []⟩ := by
    show (⟨(Parsed.ofLines items).program, (Parsed.ofLines items).faults⟩ : Parsed) = _
    rw [faults_ofLines_eq_nil_iff.mpr sound, ← shown_ofLines, same]
  rw [source, bind_ok ran, EStateM.run_pure, outcome]

theorem Reader.parse_of_lines {limit : Nat} {reader : Reader} {stmts : List Stmt}
    (derived : Grammar.Lines reader.remaining stmts) (enough : reader.remaining.length < limit) :
    (reader.parse limit).1 = ⟨stmts, []⟩ := by
  obtain ⟨after, ran⟩ := Parse.source_complete derived enough
  rw [parse, ran]

/-- The parser accepts a source if and only if its tokens are a program of the grammar, and the
outcome is then the one program that they are. -/
theorem Reader.parse_eq_iff_lines (limit : Nat) (dialect : Dialect) (text : String)
    (enough : (Scanner.ofText dialect text).switching.length < limit) :
    (((Reader.ofText dialect text).parse limit).1.faults = [] ↔
      ∃! program, Grammar.Lines (Scanner.ofText dialect text).switching program) ∧
    ∀ program, ((Reader.ofText dialect text).parse limit).1 = ⟨program, []⟩ ↔
      Grammar.Lines (Scanner.ofText dialect text).switching program := by
  have iff (program : Program) : ((Reader.ofText dialect text).parse limit).1 = ⟨program, []⟩ ↔
      Grammar.Lines (Scanner.ofText dialect text).switching program := by
    constructor
    · intro same
      unfold parse at same
      split at same
      · rename_i parsed after ran
        dsimp only at same
        subst same
        exact Parse.source_sound ran rfl
      · cases same
    · intro derived
      obtain ⟨after, ran⟩ : ∃ after, (Parse.source limit).run (.ofText dialect text) =
          .ok ⟨program, []⟩ after := Parse.source_complete derived enough
      rw [parse, ran]
  refine ⟨⟨fun sound => ?_, fun unique => ?_⟩, iff⟩
  · have whole : ((Reader.ofText dialect text).parse limit).1 =
        ⟨((Reader.ofText dialect text).parse limit).1.program, []⟩ := by rw [← sound]
    refine ⟨_, (iff _).mp whole, fun other derived => ?_⟩
    rw [(iff other).mpr derived]
  · obtain ⟨program, derived, _⟩ := unique
    rw [(iff program).mpr derived]

theorem Reader.parse_eq_iff_lines_pragma :
    ∃ program : Program, program.length = 2 ∧ Grammar.Lines
      (Scanner.ofText .standard "~trk\nolsun f = fn(x) \x7b döndür -x \x7d\n\nf(1 - (2))").switching
      program := by
  have exact_grammar := parse_eq_iff_lines 100 .standard
    "~trk\nolsun f = fn(x) \x7b döndür -x \x7d\n\nf(1 - (2))" (by decide +kernel)
  obtain ⟨program, derived, _⟩ := exact_grammar.1.mp (by decide +kernel)
  have parsed := (exact_grammar.2 program).mpr derived
  refine ⟨program, ?_, derived⟩
  rw [show program = _ from (congrArg Parsed.program parsed).symm]
  decide +kernel

end Polyglot
