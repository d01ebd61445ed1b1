import Polyglot.Proofs.Respelling
import Polyglot.Proofs.Sessions
import Polyglot.Proofs.Shape
import Mathlib.Data.List.Forall2

/-! A program means the same in every dialect. Two texts that yield the same tokens in their dialects
are parsed and run in step. -/
namespace Polyglot

theorem Tokenizes.nodup {dialect : Dialect} {offset : Nat} {text : List Char} {tokens : List Token}
    (tokenizes : Tokenizes dialect offset text tokens) : tokens.Nodup := by
  refine tokenizes.apart.imp_of_mem fun first _ apart same => ?_
  have := tokenizes.start_lt_stop first
  rw [same] at apart this
  omega

theorem Tokenizes.kind_ne_end {dialect : Dialect} {offset : Nat} {text : List Char}
    {tokens : List Token} (tokenizes : Tokenizes dialect offset text tokens) {token : Token}
    (inside : token ∈ tokens) : token.kind ≠ .endOfInput := by
  obtain ⟨before, lexeme, after, -, longest, rfl⟩ := tokenizes.lexemes token inside
  exact longest.form.token_kind _ _

namespace Scanner

/-- Scanners that yield the same tokens in their dialects, none of them a `~`. -/
structure Twins (one other : Scanner) : Prop where
  twin : ∀ count, (one.nth count).Twin other.dialect (other.nth count)
  no_pragma : ∀ count, (one.nth count).kind ≠ .tilde

/-- The token of the second text that stands at the same place in the row of tokens. -/
def counterpart (one other : Scanner) (token : Token) : Token :=
  let twin := other.nth (one.tokens.1.idxOf token)
  ⟨token.kind, token.respelled other.dialect, twin.start, twin.stop⟩

variable {one other : Scanner}

theorem nth_past {count : Nat} (past : one.tokens.1.length ≤ count) :
    let total := one.offset + byteLength one.rest
    one.nth count = ⟨.endOfInput, "", total, total⟩ := by
  rw [nth_eq, List.getElem?_eq_none past]
  rfl

theorem length_le_of_end {count : Nat} (ended : (one.nth count).kind = .endOfInput) :
    one.tokens.1.length ≤ count := by
  by_contra less
  have inside : one.tokens.1[count]? = some (one.tokens.1.get ⟨count, by omega⟩) :=
    List.getElem?_eq_getElem (by omega)
  have tokenizes := (one.tokenizes_iff _).mpr rfl
  rw [nth_eq, inside] at ended
  exact tokenizes.kind_ne_end (List.get_mem _ _) ended

theorem Twins.of_tokens (same : List.Forall₂ (Token.Twin other.dialect) one.tokens.1 other.tokens.1)
    (no_pragma : ∀ token ∈ one.tokens.1, token.kind ≠ .tilde) : one.Twins other := by
  obtain ⟨lengths, twins⟩ := List.forall₂_iff_get.mp same
  refine ⟨fun count => ?_, fun count => ?_⟩
  · rw [nth_eq, nth_eq]
    rcases Nat.lt_or_ge count one.tokens.1.length with less | past
    · rw [List.getElem?_eq_getElem less, List.getElem?_eq_getElem (lengths ▸ less)]
      exact twins count less (lengths ▸ less)
    · rw [List.getElem?_eq_none past, List.getElem?_eq_none (lengths ▸ past)]
      exact ⟨rfl, rfl⟩
  · rw [nth_eq]
    rcases Nat.lt_or_ge count one.tokens.1.length with less | past
    · rw [List.getElem?_eq_getElem less]
      exact no_pragma _ (List.getElem_mem less)
    · rw [List.getElem?_eq_none past]
      exact TokenKind.noConfusion

theorem Twins.counterpart_nth (twins : one.Twins other) (count : Nat) :
    one.counterpart other (one.nth count) = other.nth count := by
  have tokenizes := (one.tokenizes_iff _).mpr rfl
  have place : other.nth (one.tokens.1.idxOf (one.nth count)) = other.nth count := by
    rcases Nat.lt_or_ge count one.tokens.1.length with less | past
    · have shown : one.nth count = one.tokens.1[count] := by
        rw [nth_eq, List.getElem?_eq_getElem less]
        rfl
      rw [shown, tokenizes.nodup.idxOf_getElem]
    · -- Behind the last token both texts yield the mark of their ends.
      have end_kind (count : Nat) (past : one.tokens.1.length ≤ count) :
          other.tokens.1.length ≤ count := by
        apply length_le_of_end
        rw [(twins.twin count).1, nth_past past]
      have outside : one.nth count ∉ one.tokens.1 := by
        intro inside
        apply tokenizes.kind_ne_end inside
        rw [nth_past past]
      rw [List.idxOf_of_notMem outside, nth_past (end_kind _ le_rfl), nth_past (end_kind _ past)]
  obtain ⟨kind, literal⟩ := twins.twin count
  rw [counterpart, place, ← kind, ← literal]

theorem Twins.matches (twins : one.Twins other) (count : Nat) :
    Matches (one.counterpart other) id (one.nth count) (other.nth count) := by
  obtain ⟨kind, literal⟩ := twins.twin count
  refine ⟨kind.symm, twins.counterpart_nth count, fun plain => ?_⟩
  rw [literal, Token.respelled]
  split
  · rename_i word same
    rw [same] at plain
    cases plain
  · rfl

theorem after_succ (scanner : Scanner) (count : Nat) :
    scanner.after (count + 1) = (scanner.after count).next.2 := by
  induction count generalizing scanner with
  | zero => rfl
  | succ count ih => exact ih scanner.next.2

theorem counterpart_keeps (one other : Scanner) {parts : List Part}
    (proper : ∀ part ∈ parts, part.Proper) : Token.Keeps (one.counterpart other) parts where
  plain token := by
    unfold Token.plain Token.canonical counterpart Token.respelled
    dsimp only
    cases token.kind <;> rfl
  names part inside name known := by
    have plain := (proper part inside).names name known
    unfold Token.bare counterpart Token.respelled
    dsimp only
    split
    · rename_i word same
      rw [same] at plain
      cases plain
    · rfl

/-- Twins are read in step. -/
def Twins.correspondence (twins : one.Twins other) : Correspondence where
  near first second := ∃ count, first = one.after count ∧ second = other.after count
  left := one.counterpart other
  right := id
  excused _ := False
  meets := by
    rintro _ _ ⟨count, rfl, rfl⟩
    exact Or.inl (twins.matches count)
  passes := by
    rintro _ _ ⟨count, rfl, rfl⟩ _ _
    exact ⟨count + 1, (after_succ one count).symm, (after_succ other count).symm⟩
  switches := by
    rintro _ _ ⟨count, rfl, rfl⟩ tilde
    exact absurd tilde (twins.no_pragma count)

end Scanner

theorem Correspondence.messages_of_sameLines {c : Correspondence}
    {items images : List (Except SyntaxFault (Option Stmt))}
    (same : List.Forall₂ c.SameLine items images) :
    (Parsed.ofLines images).faults.map SyntaxFault.message =
      (Parsed.ofLines items).faults.map SyntaxFault.message := by
  induction same with
  | nil => rfl
  | cons first _ ih =>
    cases first with
    | ok => exact ih
    | error fault => exact List.cons_eq_cons.mpr ⟨fault.2.symm, ih⟩

/-- What the parser makes of twins. -/
theorem Scanner.Twins.parse {source target : Dialect} {text copy : String}
    (twins : (Scanner.ofText source text).Twins (.ofText target copy)) (limit : Nat) :
    let twin := (Scanner.ofText source text).counterpart (.ofText target copy)
    let parsed := ((Reader.ofText source text).parse limit).1
    let other := ((Reader.ofText target copy).parse limit).1
    other.program = parsed.program.map (Stmt.mapTokens twin) ∧
      other.faults = parsed.faults.map (SyntaxFault.mapToken twin) ∧
      other.faults.map SyntaxFault.message = parsed.faults.map SyntaxFault.message ∧
      Stmt.allPlain other.program = Stmt.allPlain parsed.program := by
  intro twin parsed other
  obtain ⟨items, stop, reads, ended⟩ := Parse.exists_readsTo limit (Reader.ofText source text)
  have near : twins.correspondence.near (Reader.ofText source text).scanner
      (Reader.ofText target copy).scanner := ⟨0, rfl, rfl⟩
  obtain ⟨images, last, moved, at_end, lines, _⟩ :=
    Correspondence.readsTo_end (fun _ => id) near reads ended
  have first : parsed = .ofLines items := congrArg Prod.fst (Reader.parse_of_readsTo reads ended)
  have second : other = .ofLines images :=
    congrArg Prod.fst (Reader.parse_of_readsTo moved at_end)
  have mapped : other = ⟨parsed.program.map (Stmt.mapTokens twin),
      parsed.faults.map (SyntaxFault.mapToken twin)⟩ := by
    rw [second, Correspondence.eq_map_of_sameLines rfl lines, Parsed.ofLines_map, first]
    rfl
  refine ⟨by rw [mapped], by rw [mapped], ?_, ?_⟩
  · rw [first, second]
    exact Correspondence.messages_of_sameLines lines
  · have keeps : Token.Keeps twin (Stmt.allParts parsed.program) := by
      apply counterpart_keeps
      intro part inside
      exact ((Reader.ofText source text).parse_fits limit part inside).proper
    rw [mapped, ← Stmt.mapAllTokens_eq_map]
    exact Stmt.allPlain_mapAllTokens _ keeps

/-- Outcomes of a script in two dialects: runs that come to the same, or the same faults at
corresponding tokens. -/
inductive Outcome.Corresponds (f : Token → Token) : Outcome → Outcome → Prop
  | ran {one other : Outcome} (alike : one.Alike other) : Corresponds f one other
  | rejected {faults : List SyntaxFault}
      (told : (faults.map (SyntaxFault.mapToken f)).map SyntaxFault.message =
        faults.map SyntaxFault.message) :
      Corresponds f (.rejected faults) (.rejected (faults.map (SyntaxFault.mapToken f)))

theorem Outcome.Corresponds.text_eq {f : Token → Token} {one other : Outcome}
    (corresponds : one.Corresponds f other) : one.text = other.text := by
  cases corresponds with
  | ran alike => exact alike.text_eq
  | @rejected faults told =>
    have lines : ∀ faults : List SyntaxFault, Outcome.faultLines faults = "parser errors:\n" ++
        String.join ((faults.map SyntaxFault.message).map fun message => "\t" ++ message ++ "\n") := by
      intro faults
      rw [List.map_map]
      rfl
    show Outcome.faultLines faults = Outcome.faultLines (faults.map (SyntaxFault.mapToken f))
    rw [lines, lines, told]

theorem execute_of_fault (settings : Settings) (scope : ScopeId) (text : String)
    (machine : Machine)
    (faulty : ((Reader.ofText settings.dialect text).parse settings.maxNesting).1.faults ≠ []) :
    (execute settings scope text machine).outcome =
      .rejected ((Reader.ofText settings.dialect text).parse settings.maxNesting).1.faults := by
  rw [execute]
  dsimp only
  rw [if_neg (by simpa using faulty)]

theorem executeScript_outcome (settings : Settings) (text : String) :
    (executeScript settings text).1 = (execute settings (Store.empty.openScope none).1
      (text ++ "\n") { Machine.initial with store := (Store.empty.openScope none).2 }).outcome :=
  rfl

/-- What a run makes of twins. -/
theorem Scanner.Twins.execute {source target : Dialect} {text copy : String}
    (twins : (Scanner.ofText source text).Twins (.ofText target copy)) (limit depth : Nat)
    (scope : ScopeId) (machine : Machine) :
    (Polyglot.execute ⟨source, limit, depth⟩ scope text machine).outcome.Corresponds
      ((Scanner.ofText source text).counterpart (.ofText target copy))
      (Polyglot.execute ⟨target, limit, depth⟩ scope copy machine).outcome := by
  obtain ⟨_, faults, messages, plain⟩ := twins.parse limit
  by_cases sound : ((Reader.ofText source text).parse limit).1.faults = []
  · have copied : ((Reader.ofText target copy).parse limit).1.faults = [] := by
      rw [faults, sound, List.map_nil]
    have first := (execute_of_sound ⟨source, limit, depth⟩ scope text machine rfl sound).1
    have second := (execute_of_sound ⟨target, limit, depth⟩ scope copy machine rfl copied).1
    rw [first, second]
    exact .ran (Program.ending_alike depth scope machine plain.symm)
  · have copied : ((Reader.ofText target copy).parse limit).1.faults ≠ [] := by
      rw [faults]
      simpa using sound
    have first := execute_of_fault ⟨source, limit, depth⟩ scope text machine sound
    have second := execute_of_fault ⟨target, limit, depth⟩ scope copy machine copied
    rw [first, second]
    dsimp only
    rw [faults] at messages ⊢
    exact .rejected messages

theorem Splits.twins {text : List Char} {pieces : List Piece} (splits : Splits text pieces)
    {source target : Dialect} (clear : ∀ piece ∈ pieces, piece.lexeme.Clear source target) :
    (Scanner.mk text 0 source).Twins ⟨source.respell target text, 0, target⟩ := by
  have tokens := splits.tokens 0 source
  apply Scanner.Twins.of_tokens
  · rw [tokens, (splits.respell source target).tokens 0 target]
    exact Piece.tokens_respell clear 0 0
  · rw [tokens]
    exact Piece.no_pragma clear 0

/-- A program means the same in every dialect. -/
theorem respell_means_same (source target : Dialect) (text : String)
    (no_pragma : ∀ token ∈ (Scanner.ofText source text).tokens.1, token.kind ≠ .tilde)
    (no_clash : ∀ token ∈ (Scanner.ofText source text).tokens.1, token.kind = .identifier →
      target.keyword? token.literal = none) :
    let copy := String.ofList (source.respell target text.toList)
    let twin := (Scanner.ofText source text).counterpart (.ofText target copy)
    let last := (Scanner.ofText source (text ++ "\n")).counterpart (.ofText target (copy ++ "\n"))
    (∀ count, (Scanner.ofText target copy).nth count =
        twin ((Scanner.ofText source text).nth count)) ∧
      (∀ limit,
        let parsed := ((Reader.ofText source text).parse limit).1
        let other := ((Reader.ofText target copy).parse limit).1
        other.program = parsed.program.map (Stmt.mapTokens twin) ∧
          Program.text other.program = Program.text parsed.program ∧
          other.faults = parsed.faults.map (SyntaxFault.mapToken twin) ∧
          other.faults.map SyntaxFault.message = parsed.faults.map SyntaxFault.message) ∧
      ∀ limit depth, (executeScript ⟨source, limit, depth⟩ text).1.Corresponds last
        (executeScript ⟨target, limit, depth⟩ copy).1 := by
  intro copy twin last
  obtain ⟨pieces, splits⟩ := exists_splits text.toList
  have tokens := splits.tokens 0 source
  have clear : ∀ piece ∈ pieces, piece.lexeme.Clear source target := by
    rw [Scanner.ofText, tokens] at no_pragma no_clash
    exact Piece.clear_of_tokens no_pragma no_clash
  have twins : (Scanner.ofText source text).Twins (.ofText target copy) := by
    rw [Scanner.ofText, Scanner.ofText, String.toList_ofList]
    exact splits.twins clear
  have closed : (Scanner.ofText source (text ++ "\n")).Twins (.ofText target (copy ++ "\n")) := by
    obtain ⟨⟨others, ends, still⟩, moved⟩ := splits.lineEnd clear
    have spelled : (copy ++ "\n").toList = source.respell target (text.toList ++ ['\n']) := by
      rw [moved]
      simp [copy]
    have added : (text ++ "\n").toList = text.toList ++ ['\n'] := by simp
    rw [Scanner.ofText, Scanner.ofText, spelled, added]
    exact ends.twins still
  refine ⟨fun count => (twins.counterpart_nth count).symm, fun limit => ?_, fun limit depth => ?_⟩
  · obtain ⟨program, faults, messages, plain⟩ := twins.parse limit
    have same : Stmt.texts ((Reader.ofText target copy).parse limit).1.program =
        Stmt.texts ((Reader.ofText source text).parse limit).1.program := by
      rw [← Stmt.texts_plain, ← Stmt.texts_plain ((Reader.ofText source text).parse limit).1.program]
      exact congrArg Stmt.texts plain
    exact ⟨program, same, faults, messages⟩
  · rw [executeScript_outcome ⟨source, limit, depth⟩ text,
      executeScript_outcome ⟨target, limit, depth⟩ copy]
    exact closed.execute limit depth _ _

/-- A text with a name that only begins like a keyword and with a keyword in a string. -/
private def sampleText : String :=
  "let f = fn(letter) \x7b return letter + \"~let\" \x7d\nf(\"ş\")"

theorem respell_means_same_trk :
    let copy := String.ofList (Dialect.eng.respell .trk sampleText.toList)
    copy = "olsun f = fn(letter) \x7b döndür letter + \"~let\" \x7d\nf(\"ş\")" ∧
      (executeScript ⟨.trk, 9, 9⟩ copy).1.text = "ş~let\n" := by
  intro copy
  have shown : (executeScript ⟨.eng, 9, 9⟩ sampleText).1.text = "ş~let\n" := by decide +kernel
  obtain ⟨_, _, runs⟩ :=
    respell_means_same .eng .trk sampleText (by decide +kernel) (by decide +kernel)
  exact ⟨by decide +kernel, (runs 9 9).text_eq.symm.trans shown⟩

end Polyglot
