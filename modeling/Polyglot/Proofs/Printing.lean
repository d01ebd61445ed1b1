import Mathlib.Data.List.Forall2
import Polyglot.Proofs.Respelling
import Polyglot.Proofs.Shape

/-! The tokens of canonical text. A tree has a second printer, which writes tokens; the canonical
text is scanned back to them where every name of the tree stays a name and every string can be
read back from its quoted form. -/
namespace Polyglot

/-- Every lexeme stops before this text. -/
def Breaks (after : List Char) : Prop :=
  ∀ lexeme : Lexeme, lexeme.Stops after

/-- The characters that canonical text has between lexemes that could run together. -/
def delimiters : List Char :=
  [' ', ',', '(', ')', '\x7b', '\x7d']

theorem breaks_of_head {after : List Char} (apart : ∀ c ∈ after.head?,
    isLetter c = false ∧ c.isDigit = false ∧ c ≠ '.' ∧ c ≠ '=') : Breaks after := by
  intro lexeme
  unfold Lexeme.Stops
  split
  · exact fun c head => (apart c head).1
  · refine ⟨fun c head => (apart c head).2.1, ?_⟩
    rintro c more rfl
    exact absurd rfl (apart '.' rfl).2.2.1
  · exact fun c head => (apart c head).2.1
  all_goals first | exact trivial | exact fun head => (apart '=' head).2.2.2 rfl

theorem breaks_nil : Breaks [] :=
  breaks_of_head fun c head => by cases head

theorem breaks_cons {c : Char} (delimits : c ∈ delimiters) (rest : List Char) :
    Breaks (c :: rest) := by
  have all : delimiters.all (fun c =>
      isAsciiSign c && !c.isDigit && c != '.' && c != '=') = true := by decide
  have here := List.all_eq_true.mp all c delimits
  simp only [Bool.and_eq_true, Bool.not_eq_true', bne_iff_ne] at here
  obtain ⟨⟨⟨sign, no_digit⟩, no_point⟩, no_equals⟩ := here
  apply breaks_of_head
  rintro d ⟨⟩
  exact ⟨not_letter_of_asciiSign sign, no_digit, no_point, no_equals⟩

/-- The tokens of a text in the standard dialect, places apart. -/
def ScansTo (text : List Char) (tokens : List Token) : Prop :=
  ∃ pieces, Splits text pieces ∧
    pieces.map (fun piece => (piece.lexeme.token .eng 0).bare) = tokens

theorem ScansTo.tokens {text : List Char} {tokens : List Token} (scans : ScansTo text tokens)
    (offset : Nat) :
    (Scanner.mk text offset .eng).tokens.1.map Token.bare = tokens := by
  obtain ⟨pieces, splits, rfl⟩ := scans
  rw [splits.tokens]
  clear splits
  induction pieces generalizing offset with
  | nil => rfl
  | cons piece pieces ih => exact congrArg _ (ih _)

/-- Where the text stands between blanks and a text that breaks off, it is scanned to these
tokens. -/
def Spells (text : List Char) (tokens : List Token) : Prop :=
  ∀ (blanks after : List Char) (rest : List Token), (∀ c ∈ blanks, isBlank c = true) →
    Breaks after → ScansTo after rest → ScansTo (blanks ++ (text ++ after)) (tokens ++ rest)

/-- An operator or a delimiter. -/
def Token.sign (kind : TokenKind) : Token :=
  ⟨kind, kind.name, 0, 0⟩

/-- A keyword in the standard spelling. -/
def Token.word (word : Keyword) : Token :=
  ⟨.keyword word, word.canonical, 0, 0⟩

/-- Operators and delimiters are named by what they are written with. -/
theorem Lexeme.ofList_symbol {span : List Char} {kind : TokenKind} (known : (span, kind) ∈ symbols)
    (other : kind ≠ .newLine) : String.ofList span = kind.name := by
  have all : ∀ symbol ∈ symbols, symbol.2 ≠ .newLine →
      String.ofList symbol.1 = symbol.2.name := by decide
  exact all _ known other

theorem Lexeme.token_symbol {span : List Char} {kind : TokenKind} (known : (span, kind) ∈ symbols)
    (other : kind ≠ .newLine) :
    ((plain kind span).token .eng 0).bare = Token.sign kind := by
  rw [Token.sign, ← ofList_symbol known other]
  rfl

namespace Spells

theorem alone {text : List Char} {tokens : List Token} (spelled : Spells text tokens) :
    ScansTo text tokens := by
  have nothing : ScansTo [] [] := ⟨[], .blank (List.forall_mem_nil _), rfl⟩
  have scans := spelled [] [] [] (List.forall_mem_nil _) breaks_nil nothing
  rwa [List.nil_append, List.append_nil, List.append_nil] at scans

variable {lexeme : Lexeme} {text more : List Char} {tokens others : List Token}

theorem before (form : ∀ after, lexeme.Form after)
    (stops : ∀ after, Breaks after → lexeme.Stops (text ++ after)) (spelled : Spells text tokens) :
    Spells (lexeme.span ++ text) ((lexeme.token .eng 0).bare :: tokens) := by
  intro blanks after rest all breaks scans
  obtain ⟨pieces, splits, same⟩ := spelled [] after rest (List.forall_mem_nil _) breaks scans
  rw [List.append_assoc]
  exact ⟨_, .piece all (form _) (stops after breaks) splits, congrArg _ same⟩

theorem single (form : ∀ after, lexeme.Form after) :
    Spells lexeme.span [(lexeme.token .eng 0).bare] := by
  intro blanks after rest all breaks scans
  obtain ⟨pieces, splits, same⟩ := scans
  exact ⟨_, .piece all (form _) (breaks _) splits, congrArg _ same⟩

theorem blank (spelled : Spells text tokens) : Spells (' ' :: text) tokens := by
  intro blanks after rest all breaks scans
  have wider : ∀ c ∈ blanks ++ [' '], isBlank c = true :=
    List.forall_mem_append.mpr ⟨all, List.forall_mem_singleton.mpr rfl⟩
  have result := spelled (blanks ++ [' ']) after rest wider breaks scans
  rwa [List.append_assoc] at result

theorem append {c : Char} (spelled : Spells text tokens) (delimits : c ∈ delimiters)
    (other : Spells (c :: more) others) : Spells (text ++ c :: more) (tokens ++ others) := by
  intro blanks after rest all breaks scans
  have behind := other [] after rest (List.forall_mem_nil _) breaks scans
  rw [List.append_assoc, List.append_assoc]
  exact spelled blanks _ _ all (breaks_cons delimits _) behind

theorem symbol {span : List Char} {kind : TokenKind} (known : (span, kind) ∈ Lexeme.symbols)
    (other : kind ≠ .newLine) : Spells span [Token.sign kind] := by
  have spelled := single fun after => .symbol known after
  rwa [Lexeme.token_symbol known other] at spelled

theorem before_symbol {span : List Char} {kind : TokenKind}
    (known : (span, kind) ∈ Lexeme.symbols) (other : kind ≠ .newLine)
    (stops : ∀ after, Breaks after → (Lexeme.plain kind span).Stops (text ++ after))
    (spelled : Spells text tokens) : Spells (span ++ text) (Token.sign kind :: tokens) := by
  have longer := spelled.before (fun after => .symbol known after) stops
  rwa [Lexeme.token_symbol known other] at longer

theorem keyword (word : Keyword) : Spells word.canonical.toList [Token.word word] := by
  obtain ⟨some_letter, letters⟩ := Dialect.eng.spelling_letters word
  have spelled := single fun after => .word some_letter letters after
  have same : (Lexeme.token ⟨.word, (Dialect.eng.spelling word).toList,
      (Dialect.eng.spelling word).toList⟩ .eng 0).bare = Token.word word := by
    unfold Lexeme.token Token.bare LexemeKind.kind
    dsimp only
    rw [String.ofList_toList, Dialect.classify_spelling]
    rfl
  rwa [same] at spelled

end Spells

/-- The character stands for itself in a quoted text, or the scanner knows its escape. -/
def Text.Shown (c : Char) : Prop :=
  escape c = [c] ∨ c ∈ ['"', '\\', '\n', '\t']

instance : DecidablePred Text.Shown :=
  fun c => inferInstanceAs (Decidable (Text.escape c = [c] ∨ c ∈ ['"', '\\', '\n', '\t']))

theorem Lexeme.contents_escape {text : List Char} (shown : ∀ c ∈ text, Text.Shown c) :
    Contents (text.flatMap Text.escape) text := by
  induction text with
  | nil => exact .empty
  | cons c text ih =>
    obtain ⟨here, later⟩ := List.forall_mem_cons.mp shown
    rw [List.flatMap_cons]
    rcases here with itself | known
    · rw [itself]
      refine .plain ?_ ?_ (ih later)
      · rintro rfl
        cases itself
      · rintro rfl
        cases itself
    · simp only [List.mem_cons, List.not_mem_nil, or_false] at known
      rcases known with rfl | rfl | rfl | rfl
      all_goals exact .escape (ih later)

namespace Spells

theorem name {text : String} (written : TokenKind.Written .identifier text.toList)
    (free : Dialect.eng.keyword? text = none) : Spells text.toList [⟨.identifier, text, 0, 0⟩] := by
  have spelled := single fun after => .word written.1 written.2 after
  have same : (Lexeme.token ⟨.word, text.toList, text.toList⟩ .eng 0).bare =
      ⟨.identifier, text, 0, 0⟩ := by
    unfold Lexeme.token Token.bare LexemeKind.kind Dialect.classify
    dsimp only
    rw [String.ofList_toList, free]
  rwa [same] at spelled

theorem integer {text : String} (written : TokenKind.Written .integer text.toList) :
    Spells text.toList [⟨.integer, text, 0, 0⟩] := by
  have spelled := single fun after => .integer written.1 written.2 after
  unfold Lexeme.token Token.bare Lexeme.plain at spelled
  rwa [String.ofList_toList] at spelled

theorem float {text : String} (written : TokenKind.Written .float text.toList) :
    Spells text.toList [⟨.float, text, 0, 0⟩] := by
  obtain ⟨whole, fraction, same, some_digit, some_other, digits, others⟩ := written
  have spelled := single fun after => .float some_digit some_other digits others after
  unfold Lexeme.token Token.bare Lexeme.plain at spelled
  rwa [← same, String.ofList_toList] at spelled

theorem string {text : String} (shown : ∀ c ∈ text.toList, Text.Shown c) :
    Spells (Text.quote text).toList [⟨.string, text, 0, 0⟩] := by
  have spelled := single fun after => .string (Lexeme.contents_escape shown) after
  unfold Lexeme.token Token.bare at spelled
  rwa [String.ofList_toList, ← Text.quoted, ← String.toList_ofList (l := Text.quoted _)] at spelled

theorem empty : Spells [] [] := by
  intro blanks after rest all _ scans
  obtain ⟨pieces, splits, same⟩ := scans
  rw [List.nil_append, List.nil_append]
  cases splits with
  | blank later => exact ⟨_, .blank (List.forall_mem_append.mpr ⟨all, later⟩), same⟩
  | piece later form stops splits =>
    rw [← List.append_assoc]
    exact ⟨_, .piece (List.forall_mem_append.mpr ⟨all, later⟩) form stops splits, same⟩

end Spells

def UnaryOp.kind : UnaryOp → TokenKind
  | negate => .minus
  | not => .bang

def BinaryOp.kind : BinaryOp → TokenKind
  | add => .plus
  | sub => .minus
  | mul => .asterisk
  | div => .slash
  | eq => .equal
  | ne => .notEqual
  | lt => .less
  | gt => .greater
  | le => .lessEqual
  | ge => .greaterEqual

/-- Lists of tokens with commas between them. -/
def Token.listed : List (List Token) → List Token
  | [] => []
  | tokens :: rest => tokens ++ rest.flatMap (sign .comma :: ·)

mutual

/-- The tokens of the canonical text. -/
def Expr.printed : Expr → List Token
  | .identifier token => [⟨.identifier, token.literal, 0, 0⟩]
  | .integer token _ => [⟨.integer, token.literal, 0, 0⟩]
  | .float token _ => [⟨.float, token.literal, 0, 0⟩]
  | .string token => [⟨.string, token.literal, 0, 0⟩]
  | .boolean _ value => [.word (if value then .trueWord else .falseWord)]
  | .unary _ op operand =>
    .sign .leftParen :: .sign op.kind :: (operand.printed ++ [.sign .rightParen])
  | .binary _ op left right =>
    .sign .leftParen :: (left.printed ++ .sign op.kind :: (right.printed ++ [.sign .rightParen]))
  | .conditional _ condition consequence none =>
    .word .ifWord :: (condition.printed ++ consequence.printed)
  | .conditional _ condition consequence (some alternative) =>
    .word .ifWord :: (condition.printed ++ (consequence.printed ++
      .word .elseWord :: alternative.printed))
  | .function _ parameters body =>
    .word .fnWord :: .sign .leftParen ::
      (Token.listed (parameters.map fun name => [⟨.identifier, name.literal, 0, 0⟩]) ++
        .sign .rightParen :: body.printed)
  | .call _ callee arguments =>
    callee.printed ++ .sign .leftParen ::
      (Token.listed (Expr.allPrinted arguments) ++ [.sign .rightParen])

def Expr.allPrinted : List Expr → List (List Token)
  | [] => []
  | expr :: rest => expr.printed :: Expr.allPrinted rest

def Stmt.printed : Stmt → List Token
  | .binding _ name value =>
    .word .letWord :: ⟨.identifier, name.literal, 0, 0⟩ :: .sign .assign :: value.printed
  | .result _ value => .word .returnWord :: value.printed
  | .expression _ value => value.printed

def Stmt.allPrinted : List Stmt → List Token
  | [] => []
  | stmt :: rest => stmt.printed ++ Stmt.allPrinted rest

def Block.printed : Block → List Token
  | .mk _ statements =>
    .sign .leftBrace :: (Stmt.allPrinted statements ++ [.sign .rightBrace])

end

/-- The statements of a block. -/
def Part.statements : Part → List Stmt
  | .block (.mk _ statements) => statements
  | _ => []

/-- The part is read back from its canonical text, as far as its own tokens go: its names are no
keywords, its strings survive being quoted, and a block has no two statements that could run
together. -/
structure Part.Legible (part : Part) : Prop where
  fits : part.Fits Parse.Scanned
  names : ∀ token ∈ part.names, token.kind = .identifier →
    Dialect.eng.keyword? token.literal = none
  strings : ∀ token ∈ part.names, token.kind = .string → ∀ c ∈ token.literal.toList, Text.Shown c
  short : part.statements.length ≤ 1

namespace Spells

variable {text more : List Char} {tokens others : List Token}

theorem opened (spelled : Spells text tokens) :
    Spells ('(' :: text) (Token.sign .leftParen :: tokens) :=
  before_symbol (show (['('], TokenKind.leftParen) ∈ Lexeme.symbols by decide) (by decide)
    (fun _ _ => trivial) spelled

theorem braced (spelled : Spells text tokens) :
    Spells ('\x7b' :: (text ++ ['\x7d']))
      (Token.sign .leftBrace :: (tokens ++ [Token.sign .rightBrace])) :=
  before_symbol (show (['\x7b'], TokenKind.leftBrace) ∈ Lexeme.symbols by decide) (by decide)
    (fun _ _ => trivial) (spelled.append (by decide) (symbol (by decide) (by decide)))

theorem closed (spelled : Spells text tokens) :
    Spells (text ++ [')']) (tokens ++ [Token.sign .rightParen]) :=
  spelled.append (by decide) (symbol (by decide) (by decide))

theorem spaced (spelled : Spells text tokens) (other : Spells more others) :
    Spells (text ++ ' ' :: more) (tokens ++ others) :=
  spelled.append (by decide) other.blank

theorem unary (op : UnaryOp) (no_sign : ∀ after, Breaks after → (text ++ after).head? ≠ some '=')
    (spelled : Spells text tokens) :
    Spells (op.text.toList ++ text) (Token.sign op.kind :: tokens) := by
  cases op with
  | negate =>
    exact before_symbol (show (['-'], TokenKind.minus) ∈ Lexeme.symbols by decide) (by decide)
      (fun _ _ => trivial) spelled
  | not =>
    exact before_symbol (show (['!'], TokenKind.bang) ∈ Lexeme.symbols by decide) (by decide)
      no_sign spelled

theorem operator (op : BinaryOp) : Spells op.text.toList [Token.sign op.kind] := by
  cases op <;> exact symbol (by decide) (by decide)

theorem listed {texts : List (List Char)} {tokens : List (List Token)}
    (spelled : List.Forall₂ Spells texts tokens) :
    Spells ([',', ' '].intercalate texts) (Token.listed tokens) := by
  induction spelled with
  | nil => exact empty
  | @cons text first texts tokens spelled others ih =>
    cases others with
    | nil =>
      rw [List.intercalate_singleton]
      show Spells text (first ++ [])
      rwa [List.append_nil]
    | @cons next second texts tokens later others =>
      rw [List.intercalate_cons_cons, List.append_assoc]
      have comma := before_symbol (show ([','], TokenKind.comma) ∈ Lexeme.symbols by decide)
        (by decide) (fun _ _ => trivial) ih.blank
      exact spelled.append (by decide) comma

end Spells

namespace Part.Legible

theorem written {part : Part} (legible : part.Legible) {token : Token} {kind : TokenKind}
    (held : token ∈ part.tokens) (same : token.kind = kind) : kind.Written token.literal.toList :=
  same ▸ (legible.fits.tokens token held).written

theorem name {part : Part} (legible : part.Legible) {token : Token} (held : token ∈ part.tokens)
    (named : token ∈ part.names) (kind : token.kind = .identifier) :
    Spells token.literal.toList [⟨.identifier, token.literal, 0, 0⟩] :=
  .name (legible.written held kind) (legible.names token named kind)

end Part.Legible

theorem head?_run_ne {p : Char → Bool} {run : List Char} {c : Char} (some_char : run ≠ [])
    (all : ∀ d ∈ run, p d = true) (other : p c = false) (more : List Char) :
    (run ++ more).head? ≠ some c := by
  obtain ⟨d, rest, rfl⟩ := List.exists_cons_of_ne_nil some_char
  rintro ⟨⟩
  rw [all _ List.mem_cons_self] at other
  cases other

/-- No expression begins with the sign that makes another operator of a `!`. -/
theorem Expr.no_sign : (expr : Expr) → (∀ part ∈ expr.parts, part.Legible) →
    (more : List Char) → (expr.text.toList ++ more).head? ≠ some '='
  | .identifier token, legible, more => by
    have here := legible _ List.mem_cons_self
    obtain ⟨some_letter, letters⟩ := here.written List.mem_cons_self here.fits.proper
    exact head?_run_ne some_letter letters (not_letter_of_asciiSign rfl) more
  | .integer token value, legible, more => by
    have here := legible _ List.mem_cons_self
    obtain ⟨some_digit, digits⟩ := here.written List.mem_cons_self here.fits.proper.1
    exact head?_run_ne some_digit digits (by decide) more
  | .float token value, legible, more => by
    have here := legible _ List.mem_cons_self
    obtain ⟨whole, fraction, same, some_digit, _, digits, _⟩ :=
      here.written List.mem_cons_self here.fits.proper.1
    have literal : token.literal.toList = whole ++ '.' :: fraction := same
    rw [Expr.text, literal, List.append_assoc]
    exact head?_run_ne some_digit digits (by decide) _
  | .string token, _, more => by simp [Expr.text, Text.quote, Text.quoted]
  | .boolean token value, legible, more => by
    have kind : token.kind = _ := (legible _ List.mem_cons_self).fits.proper
    rw [Expr.text, Token.canonical, kind]
    cases value <;> simp [Keyword.canonical, Dialect.standard, Dialect.spelling]
  | .unary .., _, more => by simp [Expr.text]
  | .binary .., _, more => by simp [Expr.text]
  | .conditional _ _ _ none, _, more => by simp [Expr.text]
  | .conditional _ _ _ (some _), _, more => by simp [Expr.text]
  | .function .., _, more => by simp [Expr.text]
  | .call token callee arguments, legible, more => by
    simp only [Expr.parts, List.forall_mem_cons, List.forall_mem_append] at legible
    have shown : (Expr.call token callee arguments).text.toList ++ more = callee.text.toList ++
        '(' :: ((", ".intercalate (Expr.texts arguments)).toList ++ ')' :: more) := by
      simp [Expr.text]
    rw [shown]
    exact callee.no_sign legible.2.1 _

mutual

theorem Expr.spells : (expr : Expr) → (∀ part ∈ expr.parts, part.Legible) →
    Spells expr.text.toList expr.printed
  | .identifier token, legible =>
    have here := legible _ List.mem_cons_self
    here.name List.mem_cons_self List.mem_cons_self here.fits.proper
  | .integer token value, legible => by
    have here := legible _ List.mem_cons_self
    exact .integer (here.written List.mem_cons_self here.fits.proper.1)
  | .float token value, legible => by
    have here := legible _ List.mem_cons_self
    exact .float (here.written List.mem_cons_self here.fits.proper.1)
  | .string token, legible =>
    have here := legible _ List.mem_cons_self
    .string (here.strings token List.mem_cons_self here.fits.proper)
  | .boolean token value, legible => by
    have kind : token.kind = _ := (legible _ List.mem_cons_self).fits.proper
    rw [Expr.text, Token.canonical, kind]
    exact .keyword _
  | .unary token op operand, legible => by
    simp only [Expr.parts, List.forall_mem_cons] at legible
    have shown : (Expr.unary token op operand).text.toList =
        '(' :: (op.text.toList ++ (operand.text.toList ++ [')'])) := by
      simp [Expr.text]
    rw [shown]
    refine .opened (.unary op (fun after _ => ?_) (operand.spells legible.2).closed)
    rw [List.append_assoc]
    exact operand.no_sign legible.2 _
  | .binary token op left right, legible => by
    simp only [Expr.parts, List.forall_mem_cons, List.forall_mem_append] at legible
    have shown : (Expr.binary token op left right).text.toList = '(' :: (left.text.toList ++
        ' ' :: (op.text.toList ++ ' ' :: (right.text.toList ++ [')']))) := by
      simp [Expr.text]
    rw [shown]
    have second := (Spells.operator op).spaced (right.spells legible.2.2).closed
    exact .opened ((left.spells legible.2.1).spaced second)
  | .conditional token condition consequence none, legible => by
    simp only [Expr.parts, List.forall_mem_cons, List.forall_mem_append] at legible
    have shown : (Expr.conditional token condition consequence none).text.toList =
        Keyword.ifWord.canonical.toList ++
          ' ' :: (condition.text.toList ++ ' ' :: consequence.text.toList) := by
      simp [Expr.text, Keyword.canonical, Dialect.standard, Dialect.spelling]
    rw [shown]
    exact (Spells.keyword .ifWord).spaced
      ((condition.spells legible.2.1).spaced (consequence.spells legible.2.2))
  | .conditional token condition consequence (some alternative), legible => by
    simp only [Expr.parts, List.forall_mem_cons, List.forall_mem_append] at legible
    have shown : (Expr.conditional token condition consequence (some alternative)).text.toList =
        Keyword.ifWord.canonical.toList ++ ' ' :: (condition.text.toList ++
          ' ' :: (consequence.text.toList ++
            ' ' :: (Keyword.elseWord.canonical.toList ++ ' ' :: alternative.text.toList))) := by
      simp [Expr.text, Keyword.canonical, Dialect.standard, Dialect.spelling]
    rw [shown]
    have otherwise := (Spells.keyword .elseWord).spaced (alternative.spells legible.2.2.2)
    exact (Spells.keyword .ifWord).spaced ((condition.spells legible.2.1).spaced
      ((consequence.spells legible.2.2.1).spaced otherwise))
  | .function token parameters body, legible => by
    simp only [Expr.parts, List.forall_mem_cons] at legible
    have here := legible.1
    have names : List.Forall₂ Spells (parameters.map (String.toList ∘ Token.literal))
        (parameters.map fun name => [⟨.identifier, name.literal, 0, 0⟩]) := by
      rw [List.forall₂_map_left_iff, List.forall₂_map_right_iff, List.forall₂_same]
      intro name among
      exact here.name (List.mem_cons_of_mem _ among) among (here.fits.proper.2 name among)
    have shown : (Expr.function token parameters body).text.toList =
        Keyword.fnWord.canonical.toList ++ '(' ::
          ([',', ' '].intercalate (parameters.map (String.toList ∘ Token.literal)) ++
            ')' :: ' ' :: body.text.toList) := by
      simp [Expr.text, Keyword.canonical, Dialect.standard, Dialect.spelling,
        String.toList_intercalate]
    rw [shown]
    have closing := Spells.before_symbol
      (show ([')'], TokenKind.rightParen) ∈ Lexeme.symbols by decide) (by decide)
      (fun _ _ => trivial) (body.spells legible.2).blank
    exact (Spells.keyword .fnWord).append (by decide)
      (.opened ((Spells.listed names).append (by decide) closing))
  | .call token callee arguments, legible => by
    simp only [Expr.parts, List.forall_mem_cons, List.forall_mem_append] at legible
    have shown : (Expr.call token callee arguments).text.toList = callee.text.toList ++
        '(' :: ([',', ' '].intercalate ((Expr.texts arguments).map String.toList) ++ [')']) := by
      simp [Expr.text, String.toList_intercalate]
    rw [shown]
    exact (callee.spells legible.2.1).append (by decide)
      (.opened (Spells.listed (Expr.allSpell arguments legible.2.2)).closed)

theorem Expr.allSpell : (exprs : List Expr) → (∀ part ∈ Expr.allParts exprs, part.Legible) →
    List.Forall₂ Spells ((Expr.texts exprs).map String.toList) (Expr.allPrinted exprs)
  | [], _ => .nil
  | expr :: rest, legible => by
    simp only [Expr.allParts, List.forall_mem_append] at legible
    exact .cons (expr.spells legible.1) (Expr.allSpell rest legible.2)

theorem Stmt.spells : (stmt : Stmt) → (∀ part ∈ stmt.parts, part.Legible) →
    Spells stmt.text.toList stmt.printed
  | .binding token name value, legible => by
    simp only [Stmt.parts, List.forall_mem_cons] at legible
    have here := legible.1
    have named := here.name (List.mem_cons_of_mem _ List.mem_cons_self) List.mem_cons_self
      here.fits.proper.2
    have shown : (Stmt.binding token name value).text.toList = Keyword.letWord.canonical.toList ++
        ' ' :: (name.literal.toList ++ ' ' :: (['='] ++ ' ' :: value.text.toList)) := by
      simp [Stmt.text, Keyword.canonical, Dialect.standard, Dialect.spelling]
    rw [shown]
    have assigned := (Spells.symbol (show (['='], TokenKind.assign) ∈ Lexeme.symbols by decide)
      (by decide)).spaced (value.spells legible.2)
    exact (Spells.keyword .letWord).spaced (named.spaced assigned)
  | .result token value, legible => by
    simp only [Stmt.parts, List.forall_mem_cons] at legible
    have shown : (Stmt.result token value).text.toList =
        Keyword.returnWord.canonical.toList ++ ' ' :: value.text.toList := by
      simp [Stmt.text, Keyword.canonical, Dialect.standard, Dialect.spelling]
    rw [shown]
    exact (Spells.keyword .returnWord).spaced (value.spells legible.2)
  | .expression token value, legible => by
    simp only [Stmt.parts, List.forall_mem_cons] at legible
    exact value.spells legible.2

theorem Block.spells : (block : Block) → (∀ part ∈ block.parts, part.Legible) →
    Spells block.text.toList block.printed
  | .mk token [], _ => by
    have shown : (Block.mk token []).text.toList = '\x7b' :: ([] ++ ['\x7d']) := by
      simp [Block.text, Stmt.texts]
    rw [shown]
    exact Spells.empty.braced
  | .mk token [stmt], legible => by
    simp only [Block.parts, Stmt.allParts, List.append_nil, List.forall_mem_cons] at legible
    have shown : (Block.mk token [stmt]).text.toList =
        '\x7b' :: (stmt.text.toList ++ ['\x7d']) := by
      simp [Block.text, Stmt.texts]
    have printed : (Block.mk token [stmt]).printed =
        Token.sign .leftBrace :: (stmt.printed ++ [Token.sign .rightBrace]) := by
      simp [Block.printed, Stmt.allPrinted]
    rw [shown, printed]
    exact (stmt.spells legible.2).braced
  | .mk token (stmt :: next :: rest), legible => by
    have short := (legible _ List.mem_cons_self).short
    simp [Part.statements] at short

end

end Polyglot
