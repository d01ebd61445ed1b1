import Polyglot.Proofs.Completeness
import Polyglot.Proofs.Parts

/-! The shape of the trees that the parser builds. Every part holds tokens of the kinds that belong
to it, all of them scanned from the source, and numbers have the values of their tokens. -/
namespace Polyglot

namespace Part

/-- The tokens that the part itself holds. -/
def tokens : Part → List Token
  | expr (.function token parameters _) => token :: parameters
  | expr other => [other.token]
  | stmt (.binding token name _) => [token, name]
  | stmt other => [other.token]
  | block other => [other.token]

/-- The part holds tokens of the kinds that belong to it, and its value is that of its token. -/
def Proper : Part → Prop
  | expr (.identifier token) => token.kind = .identifier
  | expr (.integer token value) => token.kind = .integer ∧
      ∃ number : Nat, token.Denotes number ∧ number < 2 ^ 63 ∧ value = Int64.ofNat number
  | expr (.float token value) => token.kind = .float ∧
      value = (readFloat? token.literal.toList).getD 0
  | expr (.string token) => token.kind = .string
  | expr (.boolean token value) =>
    token.kind = .keyword (if value then .trueWord else .falseWord)
  | expr (.unary token op _) => Grammar.unary? token.kind = some op
  | expr (.binary token op _ _) => BinaryOp.ofKind? token.kind = some op
  | expr (.conditional token _ _ _) => token.kind = .keyword .ifWord
  | expr (.function token parameters _) => token.kind = .keyword .fnWord ∧
      ∀ name ∈ parameters, name.kind = .identifier
  | expr (.call token _ _) => token.kind = .leftParen
  | stmt (.binding token name _) => token.kind = .keyword .letWord ∧ name.kind = .identifier
  | stmt (.result token _) => token.kind = .keyword .returnWord
  | stmt (.expression _ _) => True
  | block (.mk token _) => token.kind = .leftBrace

theorem Proper.names {part : Part} (proper : part.Proper) :
    ∀ name ∈ part.names, name.kind.keyword? = none := by
  intro name inside
  cases part with
  | expr expr =>
    cases expr with
    | identifier token | string token =>
      have kind : token.kind = _ := proper
      rw [List.mem_singleton.mp inside, kind]
      rfl
    | integer token value | float token value =>
      have kind : token.kind = _ := proper.1
      rw [List.mem_singleton.mp inside, kind]
      rfl
    | function token parameters body =>
      have kind : name.kind = .identifier := proper.2 name inside
      rw [kind]
      rfl
    | _ => cases inside
  | stmt stmt =>
    cases stmt with
    | binding token bound value =>
      have kind : bound.kind = .identifier := proper.2
      rw [List.mem_singleton.mp inside, kind]
      rfl
    | _ => cases inside
  | block block => cases inside

structure Fits (allowed : Token → Prop) (part : Part) : Prop where
  proper : part.Proper
  tokens : ∀ token ∈ part.tokens, allowed token

end Part

namespace Grammar

theorem Stratum.ofKind?_of_binary {stratum : Stratum} {kind : TokenKind} {op : BinaryOp}
    (operator : stratum.binary? kind = some op) : BinaryOp.ofKind? kind = some op := by
  unfold Stratum.binary? at operator
  split at operator <;> cases operator <;> rfl

theorem MoreParameters.names {tokens names : List Token} (rule : MoreParameters tokens names) :
    (∀ name ∈ names, name.kind = .identifier) ∧ names ⊆ tokens := by
  induction rule with
  | done => simp
  | more separates named _ ih =>
    refine ⟨List.forall_mem_cons.mpr ⟨named, ih.1⟩, List.subset_cons_of_subset _ ?_⟩
    exact List.cons_subset_cons _ ih.2

theorem Parameters.names {tokens names : List Token} (rule : Parameters tokens names) :
    (∀ name ∈ names, name.kind = .identifier) ∧ names ⊆ tokens := by
  cases rule with
  | empty => simp
  | first named others =>
    obtain ⟨kinds, among⟩ := others.names
    exact ⟨List.forall_mem_cons.mpr ⟨named, kinds⟩, List.cons_subset_cons _ among⟩

section
variable {allowed : Token → Prop}

mutual

theorem Expression.fits {stratum : Stratum} {tokens : List Token} {expr : Expr} :
    Expression stratum tokens expr → (∀ token ∈ tokens, allowed token) →
      ∀ part ∈ expr.parts, part.Fits allowed
  | .raise _ inner, all => inner.fits all
  | .binary _ first operator second, all => by
    simp only [List.forall_mem_append, List.forall_mem_cons] at all
    simp only [Expr.parts, List.forall_mem_cons, List.forall_mem_append]
    refine ⟨⟨Stratum.ofKind?_of_binary operator, ?_⟩, first.fits all.1, second.fits all.2.2⟩
    simpa [Part.tokens, Expr.token] using all.2.1
  | .unary operator inner, all => by
    simp only [List.forall_mem_cons] at all
    simp only [Expr.parts, List.forall_mem_cons]
    refine ⟨⟨operator, ?_⟩, inner.fits all.2⟩
    simpa [Part.tokens, Expr.token] using all.1
  | .call first opens given closes, all => by
    simp only [List.forall_mem_append, List.forall_mem_cons] at all
    simp only [Expr.parts, List.forall_mem_cons, List.forall_mem_append]
    refine ⟨⟨opens, ?_⟩, first.fits all.1, given.fits all.2.2.1⟩
    simpa [Part.tokens, Expr.token] using all.2.1
  | .identifier kind, all | .string kind, all => by
    simp only [Expr.parts, List.forall_mem_singleton]
    exact ⟨kind, all⟩
  | .integer kind denoted small, all => by
    simp only [Expr.parts, List.forall_mem_singleton]
    exact ⟨⟨kind, _, denoted, small, rfl⟩, all⟩
  | .float kind, all => by
    simp only [Expr.parts, List.forall_mem_singleton]
    exact ⟨⟨kind, rfl⟩, all⟩
  | .trueWord kind, all => by
    simp only [Expr.parts, List.forall_mem_singleton]
    exact ⟨kind, all⟩
  | .falseWord kind, all => by
    simp only [Expr.parts, List.forall_mem_singleton]
    exact ⟨kind, all⟩
  | .group _ inner _, all => by
    simp only [List.forall_mem_cons, List.forall_mem_append] at all
    exact inner.fits all.2.1
  | .conditional word opens asked closes holds, all => by
    simp only [List.forall_mem_cons, List.forall_mem_append] at all
    simp only [Expr.parts, List.forall_mem_cons, List.forall_mem_append]
    refine ⟨⟨word, ?_⟩, asked.fits all.2.2.1, holds.fits all.2.2.2.2⟩
    simpa [Part.tokens, Expr.token] using all.1
  | .alternative word opens asked closes holds otherwise fails, all => by
    simp only [List.forall_mem_cons, List.forall_mem_append] at all
    simp only [Expr.parts, List.forall_mem_cons, List.forall_mem_append]
    refine ⟨⟨word, ?_⟩, asked.fits all.2.2.1, holds.fits all.2.2.2.2.1,
      fails.fits all.2.2.2.2.2.2⟩
    simpa [Part.tokens, Expr.token] using all.1
  | .function word opens named closes runs, all => by
    simp only [List.forall_mem_cons, List.forall_mem_append] at all
    simp only [Expr.parts, List.forall_mem_cons]
    refine ⟨⟨⟨word, named.names.1⟩, ?_⟩, runs.fits all.2.2.2.2⟩
    simp only [Part.tokens, List.forall_mem_cons]
    exact ⟨all.1, fun name inside => all.2.2.1 name (named.names.2 inside)⟩

theorem Arguments.fits {tokens : List Token} {exprs : List Expr} :
    Arguments tokens exprs → (∀ token ∈ tokens, allowed token) →
      ∀ part ∈ Expr.allParts exprs, part.Fits allowed
  | .empty, _ => by simp [Expr.allParts]
  | .first given others, all => by
    simp only [List.forall_mem_append] at all
    simp only [Expr.allParts, List.forall_mem_append]
    exact ⟨given.fits all.1, others.fits all.2⟩

theorem MoreArguments.fits {tokens : List Token} {exprs : List Expr} :
    MoreArguments tokens exprs → (∀ token ∈ tokens, allowed token) →
      ∀ part ∈ Expr.allParts exprs, part.Fits allowed
  | .done, _ => by simp [Expr.allParts]
  | .more separates next others, all => by
    simp only [List.forall_mem_cons, List.forall_mem_append] at all
    simp only [Expr.allParts, List.forall_mem_append]
    exact ⟨next.fits all.2.1, others.fits all.2.2⟩

theorem Statement.fits {tokens : List Token} {stmt : Option Stmt} :
    Statement tokens stmt → (∀ token ∈ tokens, allowed token) →
      ∀ part ∈ Stmt.allParts stmt.toList, part.Fits allowed
  | .binding word named assigns bound, all => by
    simp only [List.forall_mem_cons] at all
    simp only [Option.toList, Stmt.allParts, Stmt.parts, List.append_nil, List.forall_mem_cons]
    refine ⟨⟨⟨word, named⟩, ?_⟩, bound.fits all.2.2.2⟩
    simpa [Part.tokens] using ⟨all.1, all.2.1⟩
  | .result word given, all => by
    simp only [List.forall_mem_cons] at all
    simp only [Option.toList, Stmt.allParts, Stmt.parts, List.append_nil, List.forall_mem_cons]
    refine ⟨⟨word, ?_⟩, given.fits all.2⟩
    simpa [Part.tokens, Stmt.token] using all.1
  | .pragma _ _, _ => by simp [Stmt.allParts]
  | .expression alone, all => by
    simp only [Option.toList, Stmt.allParts, Stmt.parts, List.append_nil, List.forall_mem_cons]
    refine ⟨⟨trivial, ?_⟩, alone.fits all⟩
    simpa [Part.tokens, Stmt.token] using (List.forall_mem_cons.mp all).1

theorem Lines.fits {tokens : List Token} {stmts : List Stmt} :
    Lines tokens stmts → (∀ token ∈ tokens, allowed token) →
      ∀ part ∈ Stmt.allParts stmts, part.Fits allowed
  | .blank _, _ => by simp [Stmt.allParts]
  | .first _ line others, all => by
    simp only [List.forall_mem_append] at all
    simp only [Stmt.allParts_append, List.forall_mem_append]
    exact ⟨line.fits all.2.1, others.fits all.2.2⟩

theorem MoreLines.fits {tokens : List Token} {stmts : List Stmt} :
    MoreLines tokens stmts → (∀ token ∈ tokens, allowed token) →
      ∀ part ∈ Stmt.allParts stmts, part.Fits allowed
  | .done _, _ => by simp [Stmt.allParts]
  | .more _ _ line others, all => by
    simp only [List.forall_mem_append] at all
    simp only [Stmt.allParts_append, List.forall_mem_append]
    exact ⟨line.fits all.2.1, others.fits all.2.2⟩

theorem Braces.fits {tokens : List Token} {block : Block} :
    Braces tokens block → (∀ token ∈ tokens, allowed token) →
      ∀ part ∈ block.parts, part.Fits allowed
  | .mk opens lines closes, all => by
    simp only [List.forall_mem_cons, List.forall_mem_append] at all
    simp only [Block.parts, List.forall_mem_cons]
    refine ⟨⟨opens, ?_⟩, lines.fits all.2.1⟩
    simpa [Part.tokens, Block.token] using all.1

end

end

end Grammar

theorem Scanner.switchingAfter_scanned (afterTilde : Bool) (scanner : Scanner) :
    ∀ token ∈ scanner.switchingAfter afterTilde, Parse.Scanned token := by
  induction length : scanner.rest.length using Nat.strong_induction_on
    generalizing afterTilde scanner with
  | _ size ih =>
    rw [switchingAfter_eq]
    split
    · exact List.forall_mem_nil _
    · rename_i more
      have shorter := next_shorter more
      refine List.forall_mem_cons.mpr ⟨⟨scanner, rfl⟩, ih _ ?_ _ _ rfl⟩
      rw [behind_rest]
      omega

theorem Reader.remaining_scanned (reader : Reader) :
    ∀ token ∈ reader.remaining, Parse.Scanned token :=
  reader.scanner.switchingAfter_scanned false

namespace Parse

theorem sourceItem_fits {limit : Nat} {reader after : Reader} {stmt : Stmt}
    (ran : (sourceItem limit).run reader = .ok (some (.ok (some stmt))) after) :
    ∀ part ∈ stmt.parts, part.Fits Scanned := by
  cases sourceItem_step ran with
  | sound _ _ read =>
    obtain ⟨tokens, coming, derived, _⟩ := line_yields limit _ _ _ read
    have scanned : ∀ token ∈ tokens, Scanned token := by
      intro token inside
      apply reader.look.remaining_scanned
      rw [coming]
      exact List.mem_append_left _ inside
    simpa [Stmt.allParts] using derived.fits scanned

theorem ReadsTo.fits {limit : Nat} {reader stop : Reader}
    {items : List (Except SyntaxFault (Option Stmt))} (reads : ReadsTo limit reader items stop) :
    ∀ part ∈ Stmt.allParts (Parsed.ofLines items).program, part.Fits Scanned := by
  induction reads with
  | here reader => exact List.forall_mem_nil _
  | @step reader after stop item items ran _ ih =>
    cases item with
    | error fault => exact ih
    | ok found =>
      cases found with
      | none => exact ih
      | some stmt => exact List.forall_mem_append.mpr ⟨sourceItem_fits ran, ih⟩

end Parse

/-- Whatever is parsed, with or without faults on other lines, has its proper shape. -/
theorem Reader.parse_fits (limit : Nat) (reader : Reader) :
    ∀ part ∈ Stmt.allParts (reader.parse limit).1.program, part.Fits Parse.Scanned := by
  obtain ⟨items, stop, reads, ended⟩ := Parse.exists_readsTo limit reader
  rw [parse_of_readsTo reads ended]
  exact reads.fits

end Polyglot
