import VirtualTables.Proofs.RowStream.Format

/-!
Where readers tolerate other bytes than the written ones.

Null flags and truth values are the only such places: any byte but zero is read there as one. Each
byte of a written stream has its place, and `Tolerated` compares bytes with the written ones place
by place.
-/

namespace VirtualTables.RowStream

/-- What a byte of a stream is for. -/
inductive Place where
  | exact
  | nullFlag (isNull : Bool)
  | truth
deriving DecidableEq

namespace Place

def isFlag : Place → Bool
  | .exact => false
  | .nullFlag _ => true
  | .truth => true

/-- The bytes that may be read where one is written. -/
def Admits : Place → UInt8 → UInt8 → Prop
  | .exact, read, written => read = written
  | .nullFlag isNull, read, written => (read != 0) = isNull ∧ written = if isNull then 1 else 0
  | .truth, read, written => written = if read != 0 then 1 else 0

theorem Admits.same_or {place : Place} {read written : UInt8} (admits : place.Admits read written) :
    read = written ∨
      (place = .nullFlag true ∨ place = .truth) ∧ read ≠ 0 ∧ written = 1 := by
  cases place with
  | exact => exact .inl admits
  | nullFlag isNull =>
      obtain ⟨flag, rfl⟩ := admits
      cases isNull with
      | false => exact .inl (by simpa using flag)
      | true => exact .inr ⟨.inl rfl, by simpa using flag, rfl⟩
  | truth =>
      obtain rfl := admits
      by_cases zero : read = 0
      · exact .inl (by simp [zero])
      · exact .inr ⟨.inr rfl, zero, by simp [zero]⟩

theorem Admits.same_iff {place : Place} {read written : UInt8} (admits : place.Admits read written)
    (flag : place.isFlag = true) : read = written ↔ read = 0 ∨ read = 1 := by
  constructor
  · intro same
    rcases admits.same_or with _ | ⟨_, _, one⟩
    · cases place with
      | exact => cases flag
      | nullFlag isNull =>
          have value := admits.2
          rw [← same] at value
          cases isNull with
          | false => exact .inl value
          | true => exact .inr value
      | truth =>
          have value : written = if read != 0 then 1 else 0 := admits
          rw [← same] at value
          split at value
          · exact .inr value
          · exact .inl value
    · exact .inr (same.trans one)
  · intro small
    rcases admits.same_or with same | ⟨_, nonzero, one⟩
    · exact same
    · rw [one]
      exact small.resolve_left nonzero

end Place

/-- Bytes that were read stand place by place for the written ones. -/
inductive Tolerated : List Place → List UInt8 → List UInt8 → Prop where
  | nil : Tolerated [] [] []
  | cons {place : Place} {byte written : UInt8} {places : List Place} {bytes others : List UInt8}
      (admits : place.Admits byte written) (tolerated : Tolerated places bytes others) :
      Tolerated (place :: places) (byte :: bytes) (written :: others)

namespace Tolerated

variable {places morePlaces : List Place} {bytes written moreBytes moreWritten : List UInt8}

theorem append (first : Tolerated places bytes written)
    (second : Tolerated morePlaces moreBytes moreWritten) :
    Tolerated (places ++ morePlaces) (bytes ++ moreBytes) (written ++ moreWritten) := by
  induction first with
  | nil => exact second
  | cons admits _ inductionHypothesis => exact .cons admits inductionHypothesis

theorem exact (bytes : List UInt8) :
    Tolerated (List.replicate bytes.length .exact) bytes bytes := by
  induction bytes with
  | nil => exact .nil
  | cons byte bytes inductionHypothesis => exact .cons rfl inductionHypothesis

theorem length_eq (tolerated : Tolerated places bytes written) : written.length = bytes.length := by
  induction tolerated with
  | nil => rfl
  | cons _ _ inductionHypothesis => exact congrArg Nat.succ inductionHypothesis

theorem admits_at (tolerated : Tolerated places bytes written) {index : Nat} {byte : UInt8}
    (found : bytes[index]? = some byte) :
    ∃ place other, places[index]? = some place ∧ written[index]? = some other ∧
      place.Admits byte other := by
  induction tolerated generalizing index with
  | nil => cases found
  | cons admits _ inductionHypothesis =>
      cases index with
      | zero =>
          cases found
          exact ⟨_, _, rfl, rfl, admits⟩
      | succ index => exact inductionHypothesis found

/-- The bytes that were read are the written ones exactly if all flags are zero or one. -/
theorem same_iff (tolerated : Tolerated places bytes written) :
    written = bytes ↔ ∀ (index : Nat) (place : Place) (byte : UInt8),
      places[index]? = some place → place.isFlag = true → bytes[index]? = some byte →
        byte = 0 ∨ byte = 1 := by
  constructor
  · rintro rfl index place byte placed flag found
    obtain ⟨other, again, placedToo, foundToo, admits⟩ := tolerated.admits_at found
    obtain rfl := Option.some.inj (placed.symm.trans placedToo)
    obtain rfl := Option.some.inj (found.symm.trans foundToo)
    exact (admits.same_iff flag).mp rfl
  · intro small
    apply List.ext_getElem?
    intro index
    cases found : bytes[index]? with
    | none =>
        rw [List.getElem?_eq_none_iff] at found ⊢
        rw [tolerated.length_eq]
        exact found
    | some byte =>
        obtain ⟨place, other, placed, foundToo, admits⟩ := tolerated.admits_at found
        rw [foundToo]
        cases flag : place.isFlag with
        | true => rw [(admits.same_iff flag).mpr (small index place byte placed flag found)]
        | false =>
            cases place with
            | exact => rw [show byte = other from admits]
            | _ => cases flag

end Tolerated

namespace Format

def valuePlaces : Cell → List Place
  | .boolean _ => [.truth]
  | cell => List.replicate (value cell).length .exact

def cellPlaces (cell : Cell) : List Place :=
  .nullFlag cell.isNull :: valuePlaces cell

def recordPlaces (row : Row) : List Place :=
  .exact :: row.cells.flatMap cellPlaces

/-- The place of each byte of a written stream. -/
def places (banner : Banner) (layout : Layout) (rows : List Row) : List Place :=
  List.replicate (head banner layout).length .exact ++ (rows.flatMap recordPlaces ++ [.exact])

end Format

end VirtualTables.RowStream
