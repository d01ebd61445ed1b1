import Polyglot.Proofs.Reading

/-! The tokens of a source whose dialect is switched by its pragmas: right after a `~` and a name,
the dialect of that name classifies the words. -/
namespace Polyglot

namespace Scanner

/-- The scanner after a token. A name behind a `~` switches the dialect. -/
def behind (afterTilde : Bool) (token : Token) (scanner : Scanner) : Scanner :=
  if afterTilde ∧ token.kind = .identifier then
    { scanner with dialect := Dialect.resolve token.literal }
  else scanner

/-- The tokens in front, as many as the bound allows, up to the end of the source. The dialect is
switched right after every pair of a `~` and a name; the flag tells whether a `~` has just been
passed. -/
def switchingWithin : Nat → Bool → Scanner → List Token
  | 0, _, _ => []
  | bound + 1, afterTilde, scanner =>
    let (token, after) := scanner.next
    if token.kind = .endOfInput then []
    else token :: switchingWithin bound (token.kind = .tilde) (after.behind afterTilde token)

/-- All tokens up to the end of the source, when a `~` may have been passed already. -/
def switchingAfter (afterTilde : Bool) (scanner : Scanner) : List Token :=
  switchingWithin (scanner.rest.length + 1) afterTilde scanner

/-- All tokens up to the end of the source, the dialect switched by every pragma. -/
def switching (scanner : Scanner) : List Token :=
  scanner.switchingAfter false

@[simp] theorem behind_rest (afterTilde : Bool) (token : Token) (scanner : Scanner) :
    (scanner.behind afterTilde token).rest = scanner.rest := by
  unfold behind
  split <;> rfl

@[simp] theorem behind_false (token : Token) (scanner : Scanner) :
    scanner.behind false token = scanner :=
  if_neg fun both => Bool.false_ne_true both.1

theorem switchingWithin_bound (bound other : Nat) (afterTilde : Bool) (scanner : Scanner)
    (enough : scanner.rest.length < bound) (plenty : scanner.rest.length < other) :
    switchingWithin bound afterTilde scanner = switchingWithin other afterTilde scanner := by
  induction bound generalizing other afterTilde scanner with
  | zero => omega
  | succ bound ih =>
    obtain ⟨other, rfl⟩ : ∃ smaller, other = smaller + 1 := ⟨other - 1, by omega⟩
    unfold switchingWithin
    dsimp only
    by_cases ended : scanner.next.1.kind = .endOfInput
    · rw [if_pos ended, if_pos ended]
    · have shorter := next_shorter ended
      rw [if_neg ended, if_neg ended, ih other _ _ (by rw [behind_rest]; omega)
        (by rw [behind_rest]; omega)]

theorem switchingAfter_eq (afterTilde : Bool) (scanner : Scanner) :
    scanner.switchingAfter afterTilde =
      if scanner.next.1.kind = .endOfInput then []
      else scanner.next.1 :: switchingAfter (scanner.next.1.kind = .tilde)
        (scanner.next.2.behind afterTilde scanner.next.1) := by
  rw [switchingAfter, switchingWithin]
  dsimp only
  split
  · rfl
  · rename_i more
    have shorter := next_shorter more
    rw [switchingAfter, switchingWithin_bound _ _ _ _ (by rw [behind_rest]; exact shorter)
      (Nat.lt_succ_self _)]

end Scanner

namespace Reader

/-- The tokens that are still to come, the dialect switched by every pragma among them. -/
def remaining (reader : Reader) : List Token :=
  reader.scanner.switching

@[simp] theorem remaining_look (reader : Reader) : reader.look.remaining = reader.remaining := by
  rw [remaining, look_scanner, remaining]

theorem remaining_eq (reader : Reader) :
    reader.remaining = if reader.next.kind = .endOfInput then []
      else reader.next :: reader.advance.scanner.switchingAfter (reader.next.kind = .tilde) := by
  rw [remaining, Scanner.switching, Scanner.switchingAfter_eq, Scanner.behind_false]
  rfl

theorem remaining_eq_nil_iff (reader : Reader) :
    reader.remaining = [] ↔ reader.next.kind = .endOfInput := by
  rw [remaining_eq]
  split <;> simp_all

theorem remaining_cons {reader : Reader} (more : reader.next.kind ≠ .endOfInput)
    (plain : reader.next.kind ≠ .tilde) :
    reader.remaining = reader.next :: reader.advance.remaining := by
  rw [remaining_eq, if_neg more, decide_eq_false plain]
  rfl

theorem remaining_pragma {reader : Reader} (tilde : reader.next.kind = .tilde)
    (named : reader.advance.next.kind = .identifier) :
    reader.remaining = reader.next :: reader.advance.next ::
      (reader.advance.advance.switch reader.advance.next.literal).remaining := by
  have name : reader.advance.scanner.next.1.kind = .identifier := named
  rw [remaining_eq, if_neg (by rw [tilde]; decide), decide_eq_true tilde,
    Scanner.switchingAfter_eq, if_neg (by rw [name]; decide), Scanner.behind, if_pos ⟨rfl, name⟩,
    decide_eq_false (by rw [name]; decide)]
  rfl

theorem next_of_remaining {reader : Reader} {token : Token} {rest : List Token}
    (coming : reader.remaining = token :: rest) :
    reader.next = token ∧ reader.next.kind ≠ .endOfInput ∧
      (token.kind ≠ .tilde → reader.advance.remaining = rest) := by
  have more : reader.next.kind ≠ .endOfInput := by
    intro ended
    rw [(remaining_eq_nil_iff reader).mpr ended] at coming
    cases coming
  have head : reader.next = token := by
    rw [remaining_eq, if_neg more] at coming
    exact (List.cons.inj coming).1
  refine ⟨head, more, fun plain => ?_⟩
  rw [remaining_cons more (by rw [head]; exact plain)] at coming
  exact (List.cons.inj coming).2

theorem pragma_of_remaining {reader : Reader} {token name : Token} {rest : List Token}
    (coming : reader.remaining = token :: name :: rest) (tilde : token.kind = .tilde)
    (named : name.kind = .identifier) :
    reader.next = token ∧ reader.advance.next = name ∧
      (reader.advance.advance.switch name.literal).remaining = rest := by
  obtain ⟨head, more, _⟩ := next_of_remaining coming
  have first : reader.next.kind = .tilde := by rw [head]; exact tilde
  have second : reader.advance.next = name := by
    rw [remaining_eq, if_neg more] at coming
    have after := (List.cons.inj coming).2
    rw [Scanner.switchingAfter_eq] at after
    split at after
    · cases after
    · exact (List.cons.inj after).1
  refine ⟨head, second, ?_⟩
  rw [remaining_pragma first (by rw [second]; exact named), second] at coming
  exact (List.cons.inj (List.cons.inj coming).2).2

end Reader

end Polyglot
