import Polyglot.Proofs.Joining

/-! The limit on nesting shows nowhere but in its own faults. Under a greater limit a source is read
in the same way, line by line, up to the first line that is nested too deep. -/
namespace Polyglot

def SyntaxFault.isNesting : SyntaxFault → Bool
  | nesting _ _ => true
  | _ => false

/-- Whether the line was given up because it is nested too deep. -/
def Parsed.tooDeep : Except SyntaxFault (Option Stmt) → Bool
  | .error fault => fault.isNesting
  | .ok _ => false

/-- What each line of the source comes to, in the order of reading. -/
def Reader.lines (limit : Nat) (reader : Reader) : List (Except SyntaxFault (Option Stmt)) :=
  match (Parse.repeating (Parse.sourceItem limit)).run reader with
  | .ok lines _ => lines
  | .error _ _ => []

/-- The same text on both sides. After a fault for nesting nothing is said. -/
def Correspondence.deeper : Correspondence where
  near one other := other = one
  left := id
  right := id
  excused fault := fault.isNesting = true
  meets := by
    rintro one other rfl
    exact Or.inl ⟨rfl, rfl, fun _ => rfl⟩
  passes := by
    rintro one other rfl _ _
    rfl
  switches := by
    rintro one other rfl _ _ dialect
    rfl

namespace Parse
variable {limit more : Nat} {reader stop : Reader}
  {items others : List (Except SyntaxFault (Option Stmt))}

/-- Lines none of which is nested too deep are read under every greater limit, and to the same
place. -/
theorem ReadsTo.deeper (enough : limit ≤ more) (reads : ReadsTo limit reader items stop)
    (shallow : ∀ item ∈ items, Parsed.tooDeep item = false) {twin : Reader}
    (same : twin.scanner = reader.scanner) :
    ∃ last, ReadsTo more twin items last ∧ last.scanner = stop.scanner := by
  have fits : Correspondence.deeper.Fits limit limit more more := .deeper enough fun _ => rfl
  -- The lines are the same up to their tokens, which are the same.
  suffices ∃ images last, ReadsTo more twin images last ∧
      List.Forall₂ Correspondence.deeper.SameLine items images ∧ last.scanner = stop.scanner by
    obtain ⟨images, last, reads, lines, there⟩ := this
    have equal : images = items := by
      rw [Correspondence.eq_map_of_sameLines rfl lines]
      exact (List.map_congr_left fun line _ => Parsed.mapLine_id line).trans (List.map_id items)
    exact ⟨last, equal ▸ reads, there⟩
  induction reads generalizing twin with
  | here reader => exact ⟨[], twin, .here twin, .nil, same⟩
  | @step reader after stop item items ran _ ih =>
    obtain ⟨first, rest⟩ := List.forall_mem_cons.mp shallow
    have matched : Matches id id reader.next twin.next := by
      rw [Reader.next, Reader.next, same]
      exact ⟨rfl, rfl, fun _ => rfl⟩
    obtain ⟨image, middle, read, alike, close⟩ :=
      Correspondence.sourceItem_inStep fits same matched ran (by
        rintro fault rfl deep
        exact absurd (deep.symm.trans first) (by decide))
    obtain ⟨images, last, reads, lines, there⟩ := ih rest close
    exact ⟨image :: images, last, .step read reads, .cons alike lines, there⟩

theorem ReadsTo.split (reads : ReadsTo limit reader (items ++ others) stop) :
    ∃ middle, ReadsTo limit reader items middle ∧ ReadsTo limit middle others stop := by
  induction items generalizing reader with
  | nil => exact ⟨reader, .here reader, reads⟩
  | cons item items ih =>
    cases reads with
    | step ran later =>
      obtain ⟨middle, first, second⟩ := ih later
      exact ⟨middle, .step ran first, second⟩

/-- From any reader the lines up to the end of the source are determined. -/
theorem ReadsTo.lines_eq (reads : ReadsTo limit reader items stop)
    (ended : stop.next.kind = .endOfInput) : reader.lines limit = items := by
  rw [Reader.lines, reads.repeating ended]

/-- What has been read is the beginning of what there is to read. -/
theorem ReadsTo.prefix_lines (reads : ReadsTo limit reader items stop) :
    items <+: reader.lines limit := by
  obtain ⟨others, last, later, ended⟩ := exists_readsTo limit stop
  rw [(reads.append later).lines_eq ended]
  exact List.prefix_append items others

end Parse

theorem Parsed.ofLines_prefix {lines more : List (Except SyntaxFault (Option Stmt))}
    (begins : lines <+: more) :
    (ofLines lines).program <+: (ofLines more).program ∧
      (ofLines lines).faults <+: (ofLines more).faults := by
  obtain ⟨rest, rfl⟩ := begins
  rw [ofLines_append]
  exact ⟨List.prefix_append _ _, List.prefix_append _ _⟩

namespace Reader

theorem parse_eq_ofLines (limit : Nat) (reader : Reader) :
    (reader.parse limit).1 = .ofLines (reader.lines limit) := by
  obtain ⟨items, stop, reads, ended⟩ := Parse.exists_readsTo limit reader
  rw [parse_of_readsTo reads ended, reads.lines_eq ended]

/-- The lines before the first one that is nested too deep are the first lines under every greater
limit. -/
theorem shallow_prefix {limit more : Nat} (deeper : limit ≤ more) (reader : Reader) :
    (reader.lines limit).takeWhile (!Parsed.tooDeep ·) <+: reader.lines more := by
  obtain ⟨items, stop, reads, ended⟩ := Parse.exists_readsTo limit reader
  rw [reads.lines_eq ended]
  rw [← List.takeWhile_append_dropWhile (p := (!Parsed.tooDeep ·)) (l := items)] at reads
  obtain ⟨middle, before, _⟩ := reads.split
  have shallow : ∀ item ∈ items.takeWhile (!Parsed.tooDeep ·), Parsed.tooDeep item = false := by
    intro item inside
    simpa using List.mem_takeWhile_imp inside
  obtain ⟨last, again, _⟩ := before.deeper deeper shallow rfl
  exact again.prefix_lines

/-- A source without a fault for nesting is parsed alike under every greater limit. -/
theorem parse_shallow {limit more : Nat} (deeper : limit ≤ more) {reader : Reader}
    (shallow : ∀ fault ∈ (reader.parse limit).1.faults, fault.isNesting = false) :
    (reader.parse more).1 = (reader.parse limit).1 ∧
      (reader.parse more).2.dialect = (reader.parse limit).2.dialect := by
  obtain ⟨items, stop, reads, ended⟩ := Parse.exists_readsTo limit reader
  have parsed := parse_of_readsTo reads ended
  have lines : ∀ item ∈ items, Parsed.tooDeep item = false := by
    intro item inside
    cases item with
    | ok stmt => rfl
    | error fault =>
      apply shallow
      rw [parsed]
      exact List.mem_filterMap.mpr ⟨_, inside, rfl⟩
  obtain ⟨last, again, there⟩ := reads.deeper deeper lines rfl
  have finished : last.next.kind = .endOfInput := by
    rw [next, there]
    exact ended
  rw [parsed, parse_of_readsTo again finished, look_dialect, look_dialect, dialect, there]
  exact ⟨rfl, rfl⟩

/-- The limit on nesting is otherwise invisible. Without a fault for nesting, a source is parsed to
the same program, the same faults and the same dialect under every greater limit. In any case the
statements and the faults of the lines before the first such fault come first under the greater
limit too. -/
theorem parse_under_greater_limit (dialect : Dialect) (text : String) {limit more : Nat}
    (deeper : limit ≤ more) :
    let reader := Reader.ofText dialect text
    ((∀ fault ∈ (reader.parse limit).1.faults, fault.isNesting = false) →
      (reader.parse more).1 = (reader.parse limit).1 ∧
        (reader.parse more).2.dialect = (reader.parse limit).2.dialect) ∧
    (reader.parse limit).1 = .ofLines (reader.lines limit) ∧
    let before := Parsed.ofLines ((reader.lines limit).takeWhile (!Parsed.tooDeep ·))
    before.program <+: (reader.parse more).1.program ∧
      before.faults <+: (reader.parse more).1.faults := by
  intro reader
  refine ⟨parse_shallow deeper, parse_eq_ofLines limit reader, ?_⟩
  rw [parse_eq_ofLines more]
  exact Parsed.ofLines_prefix (reader.shallow_prefix deeper)

/-- Under the limit 3 the source `f(1)`, `)`, `~trk` has a fault on its second line, and the source
`f`, `)`, `(((1)))`, `2` has one for nesting on its third. -/
theorem parse_under_greater_limit_nine :
    3 ≤ 9 ∧
    (∀ fault ∈ ((Reader.ofText .eng "f(1)\n)\n~trk").parse 3).1.faults, fault.isNesting = false) ∧
    ((Reader.ofText .eng "f(1)\n)\n~trk").parse 9).1.faults.length = 1 ∧
    ((Reader.ofText .eng "f(1)\n)\n~trk").parse 9).2.dialect = .trk ∧
    ((Reader.ofText .eng "f\n)\n(((1)))\n2").parse 3).1.faults.map SyntaxFault.isNesting =
      [false, true] ∧
    ∃ stmt fault, [stmt] <+: ((Reader.ofText .eng "f\n)\n(((1)))\n2").parse 9).1.program ∧
      [fault] <+: ((Reader.ofText .eng "f\n)\n(((1)))\n2").parse 9).1.faults := by
  have shallow : ∀ fault ∈ ((Reader.ofText .eng "f(1)\n)\n~trk").parse 3).1.faults,
      fault.isNesting = false := by decide +kernel
  obtain ⟨program, dialect⟩ :=
    (parse_under_greater_limit .eng "f(1)\n)\n~trk" (by decide : 3 ≤ 9)).1 shallow
  obtain ⟨statements, faults⟩ :=
    (parse_under_greater_limit .eng "f\n)\n(((1)))\n2" (by decide : 3 ≤ 9)).2.2
  refine ⟨by decide, shallow, ?_, ?_, by decide +kernel, ?_⟩
  · rw [program]
    decide +kernel
  · rw [dialect]
    decide +kernel
  · have one : ((Parsed.ofLines (((Reader.ofText .eng "f\n)\n(((1)))\n2").lines 3).takeWhile
        (!Parsed.tooDeep ·))).program).length = 1 := by decide +kernel
    have other : ((Parsed.ofLines (((Reader.ofText .eng "f\n)\n(((1)))\n2").lines 3).takeWhile
        (!Parsed.tooDeep ·))).faults).length = 1 := by decide +kernel
    obtain ⟨stmt, first⟩ := List.length_eq_one_iff.mp one
    obtain ⟨fault, second⟩ := List.length_eq_one_iff.mp other
    rw [first] at statements
    rw [second] at faults
    exact ⟨stmt, fault, statements, faults⟩

end Reader

end Polyglot
