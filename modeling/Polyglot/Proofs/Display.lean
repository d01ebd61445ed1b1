import Polyglot.Session

/-! What an output takes that soon is full. Outcomes are written in pieces, but only the bytes count:
an output takes the first bytes of all that is written, as many as it has room for, and a line is
noted when it does not end there. -/
namespace Polyglot

/-- Bytes one after another. -/
def joined (pieces : List ByteArray) : ByteArray :=
  pieces.foldr (· ++ ·) .empty

@[simp] theorem joined_nil : joined [] = .empty := rfl

@[simp] theorem joined_cons (piece : ByteArray) (rest : List ByteArray) :
    joined (piece :: rest) = piece ++ joined rest := rfl

theorem joined_toUTF8 (pieces : List String) :
    joined (pieces.map String.toUTF8) = (String.join pieces).toUTF8 := by
  induction pieces with
  | nil => rfl
  | cons piece rest ih => rw [List.map_cons, joined_cons, ih, String.join_cons, String.toUTF8,
      String.toUTF8, String.toUTF8, String.toByteArray_append]

/-- The bytes that an outcome is shown with. -/
def Outcome.bytes (outcome : Outcome) : ByteArray :=
  outcome.text.toUTF8

theorem Outcome.join_pieces (outcome : Outcome) : String.join outcome.pieces = outcome.text := by
  cases outcome with
  | value result => cases result <;> simp [pieces, text, String.join_cons]
  | failed fault => simp [pieces, text, String.append_assoc]
  | rejected faults =>
    simp only [pieces, text, faultLines, String.join_cons]
    congr 1
    induction faults with
    | nil => rfl
    | cons fault faults ih => simp [ih, String.append_assoc]

theorem extract_min (bytes : ByteArray) (room : Nat) :
    bytes.extract 0 (min room bytes.size) = bytes.extract 0 room :=
  calc bytes.extract 0 (min room bytes.size)
    _ = (bytes.extract 0 bytes.size).extract 0 room := by
      rw [ByteArray.extract_extract, Nat.zero_add, Nat.zero_add]
    _ = bytes.extract 0 room := by rw [ByteArray.extract_zero_size]

theorem extract_of_le {bytes : ByteArray} {room : Nat} (fits : bytes.size ≤ room) :
    bytes.extract 0 room = bytes := by
  rw [← extract_min, Nat.min_eq_right fits, ByteArray.extract_zero_size]

theorem size_le_joined_take {pieces : List ByteArray} {piece : ByteArray} {count : Nat}
    (at_count : pieces[count]? = some piece) :
    piece.size ≤ (joined (pieces.take (count + 1))).size := by
  induction pieces generalizing count with
  | nil => simp at at_count
  | cons first rest ih =>
    rw [List.take_succ_cons, joined_cons, ByteArray.size_append]
    cases count with
    | zero =>
      obtain rfl : first = piece := by simpa using at_count
      exact Nat.le_add_right _ _
    | succ count =>
      have := ih at_count
      omega

namespace Output

theorem write_unlimited (bytes : ByteArray) : write ⟨none⟩ bytes = (bytes, true, ⟨none⟩) :=
  rfl

theorem write_limited (room : Nat) (bytes : ByteArray) :
    write ⟨some room⟩ bytes =
      (bytes.extract 0 room, decide (bytes.size ≤ room), ⟨some (room - bytes.size)⟩) := by
  rw [← extract_min]
  rfl

theorem writeAll_unlimited (pieces : List ByteArray) :
    writeAll ⟨none⟩ pieces = (joined pieces, true, ⟨none⟩) := by
  induction pieces with
  | nil => rfl
  | cons piece rest ih => simp [writeAll, write_unlimited, ih]

/-- Once a piece is cut, nothing of a later one is taken. -/
theorem writeAll_limited (room : Nat) (pieces : List ByteArray) :
    writeAll ⟨some room⟩ pieces =
      ((joined pieces).extract 0 room, decide ((joined pieces).size ≤ room),
        ⟨some (room - (joined pieces).size)⟩) := by
  induction pieces generalizing room with
  | nil => simp [writeAll, extract_of_le]
  | cons piece rest ih =>
    rw [writeAll, write_limited, joined_cons, ByteArray.extract_append, ByteArray.size_append]
    by_cases fits : piece.size ≤ room
    · have size : piece.size + (joined rest).size ≤ room ↔ (joined rest).size ≤ room - piece.size := by
        omega
      simp [fits, ih, size, Nat.sub_sub]
    · have used : room - piece.size = 0 := by omega
      have beyond : ¬piece.size + (joined rest).size ≤ room := by omega
      have left : room - (piece.size + (joined rest).size) = 0 := by omega
      simp [fits, used, beyond, left]

/-- However a text is divided into pieces, it is taken as if it were one. -/
theorem writeAll_eq (output : Output) (pieces : List ByteArray) :
    output.writeAll pieces = output.write (joined pieces) := by
  obtain ⟨room⟩ := output
  cases room with
  | none => rw [writeAll_unlimited, write_unlimited]
  | some room => rw [writeAll_limited, write_limited]

/-- Shows outcomes one after another: for each what is taken of it, and what is noted. -/
def displayAll (output : Output) : List Outcome → List (ByteArray × List Event)
  | [] => []
  | outcome :: rest =>
    let (taken, noted, after) := output.display outcome
    (taken, noted) :: after.displayAll rest

theorem display_eq (output : Output) (outcome : Outcome) :
    output.display outcome =
      ((output.write outcome.bytes).1, if (output.write outcome.bytes).2.1 then [] else [.outputFull],
        (output.write outcome.bytes).2.2) := by
  rw [display, writeAll_eq, joined_toUTF8, Outcome.join_pieces]
  rfl

theorem displayAll_unlimited (outcomes : List Outcome) :
    displayAll ⟨none⟩ outcomes = outcomes.map fun outcome => (outcome.bytes, []) := by
  induction outcomes with
  | nil => rfl
  | cons outcome rest ih => simp [displayAll, display_eq, write_unlimited, ih]

theorem displayAll_taken (room : Nat) (outcomes : List Outcome) :
    joined ((displayAll ⟨some room⟩ outcomes).map Prod.fst) =
      (joined (outcomes.map Outcome.bytes)).extract 0 room := by
  induction outcomes generalizing room with
  | nil => exact (extract_of_le (Nat.zero_le room)).symm
  | cons outcome rest ih =>
    simp only [displayAll, display_eq, write_limited, List.map_cons, joined_cons, ih,
      ByteArray.extract_append, Nat.zero_sub]

/-- A line is noted if some of its own bytes find no room, not if only those before it did. -/
theorem displayAll_noted (room count : Nat) (outcomes : List Outcome) :
    ((displayAll ⟨some room⟩ outcomes).map Prod.snd)[count]? =
      (outcomes.map Outcome.bytes)[count]?.map fun bytes =>
        if 0 < bytes.size ∧ room < (joined ((outcomes.map Outcome.bytes).take (count + 1))).size
        then [.outputFull] else [] := by
  induction outcomes generalizing room count with
  | nil => rfl
  | cons outcome rest ih =>
    simp only [displayAll, display_eq, write_limited, List.map_cons, List.take_succ_cons, joined_cons,
      ByteArray.size_append]
    cases count with
    | zero =>
      by_cases fits : outcome.bytes.size ≤ room
      · simp [fits, Nat.not_lt.mpr fits]
      · have positive : 0 < outcome.bytes.size := by omega
        simp [fits, positive, Nat.lt_of_not_le fits]
    | succ count =>
      rw [List.getElem?_cons_succ, List.getElem?_cons_succ, ih]
      refine Option.map_congr fun bytes at_count => ?_
      have within := size_le_joined_take at_count
      have moved : 0 < bytes.size ∧ room - outcome.bytes.size <
            (joined ((rest.map Outcome.bytes).take (count + 1))).size ↔
          0 < bytes.size ∧ room < outcome.bytes.size +
            (joined ((rest.map Outcome.bytes).take (count + 1))).size := by
        omega
      simp only [moved]

/-- An output with room for so many bytes takes exactly the first of those that an unlimited one
takes, whatever outcomes are shown and however their texts are divided into pieces; and a note is
made once for each outcome that has a text and ends beyond that room, and for no other. -/
theorem displayAll_limited (room : Nat) (outcomes : List Outcome) :
    let whole := (displayAll ⟨none⟩ outcomes).map Prod.fst
    let shown := displayAll ⟨some room⟩ outcomes
    whole = outcomes.map (fun outcome => outcome.text.toUTF8) ∧
    joined (shown.map Prod.fst) = (joined whole).extract 0 (min room (joined whole).size) ∧
    (∀ count, (shown.map Prod.snd)[count]? = whole[count]?.map fun bytes =>
      if 0 < bytes.size ∧ room < (joined (whole.take (count + 1))).size
      then [.outputFull] else []) ∧
    ∀ (output : Output) (pieces : List ByteArray),
      output.writeAll pieces = output.write (joined pieces) := by
  have unlimited : (displayAll ⟨none⟩ outcomes).map Prod.fst = outcomes.map Outcome.bytes := by
    rw [displayAll_unlimited, List.map_map]
    rfl
  simp only [unlimited]
  refine ⟨rfl, ?_, fun count => displayAll_noted room count outcomes, writeAll_eq⟩
  rw [extract_min, displayAll_taken]

end Output

end Polyglot
