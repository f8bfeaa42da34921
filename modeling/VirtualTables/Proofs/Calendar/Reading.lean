import VirtualTables.Calendar.Reading
import VirtualTables.Proofs.Text.Digits

/-!
Written instants are read back.

Each part of an instant is a number in front of a mark, padded to as many digits as are read for it
at most; years beyond four digits have a sign, and then any number of digits is read. The date is
counted back to its day, so `ofText?_isoText` holds of every instant, leap seconds included.
-/

namespace VirtualTables.Instant

open Text

section Parts

variable {width number most : Nat} {rest : List Char}

/-- A padded number is read if it has no more digits than are read, and either exactly so many or
none behind it. -/
theorem digits?_paddedNat (fits : (paddedNat width number).length ≤ most)
    (ends : (paddedNat width number).length = most ∨ EndsDigits rest) :
    digits? most (paddedNat width number ++ rest) = some (number, rest) := by
  have behind : EndsDigits (rest.take (most - (paddedNat width number).length)) := by
    rcases ends with full | ends
    · rw [full, Nat.sub_self]
      exact nofun
    · exact ends.take _
  have taken : ((paddedNat width number ++ rest).take most).takeWhile isDigit =
      paddedNat width number := by
    rw [List.take_append, List.take_of_length_le fits]
    exact takeWhile_digits (fun _ => isDigit_of_mem_paddedNat) behind
  have nonempty : ¬ (paddedNat width number).isEmpty = true :=
    mt List.isEmpty_iff.mp (paddedNat_ne_nil width number)
  rw [digits?, taken, if_neg nonempty, natOfDigits_paddedNat, List.drop_left]

theorem not_isBlank_of_isDigit {character : Char} (digit : isDigit character = true) :
    isBlank character = false := by
  simp only [isDigit, Bool.and_eq_true, decide_eq_true_eq] at digit
  have low : 48 ≤ character.toNat := digit.1
  have high : character.toNat ≤ 57 := digit.2
  simp only [isBlank, Bool.or_eq_false_iff, Bool.and_eq_false_iff, decide_eq_false_iff_not,
    beq_eq_false_iff_ne]
  omega

theorem dropWhile_paddedNat (width number : Nat) (rest : List Char) :
    (paddedNat width number ++ rest).dropWhile isBlank = paddedNat width number ++ rest := by
  obtain ⟨first, others, parts, digit⟩ := exists_paddedNat width number
  rw [parts, List.cons_append, List.dropWhile_cons, not_isBlank_of_isDigit digit]
  rfl

theorem twoDigits?_paddedNat (small : number < 100) (rest : List Char) :
    twoDigits? (paddedNat 2 number ++ rest) = some (number, rest) := by
  have length : (paddedNat 2 number).length = 2 := length_paddedNat (by decide) small
  rw [twoDigits?, dropWhile_paddedNat]
  exact digits?_paddedNat (Nat.le_of_eq length) (.inl length)

theorem mark?_cons {mark : Char} (solid : isBlank mark = false) (rest : List Char) :
    mark? mark (mark :: rest) = some rest := by
  rw [mark?, List.dropWhile_cons, solid]
  exact if_pos rfl

end Parts

theorem year?_minus (rest : List Char) :
    year? ('-' :: rest) = (digits? rest.length rest).map fun found => (-↑found.1, found.2) := rfl

theorem year?_plus (rest : List Char) :
    year? ('+' :: rest) = (digits? rest.length rest).map fun found => (↑found.1, found.2) := rfl

theorem year?_yearText (year : Int) (rest : List Char) :
    year? (yearText year ++ '-' :: rest) = some (year, '-' :: rest) := by
  have ends : EndsDigits ('-' :: rest) := by
    rintro _ ⟨⟩
    decide
  have signed (size : Nat) :
      digits? (paddedNat 4 size ++ '-' :: rest).length (paddedNat 4 size ++ '-' :: rest) =
        some (size, '-' :: rest) := by
    refine digits?_paddedNat ?_ (.inr ends)
    rw [List.length_append]
    exact Nat.le_add_right _ _
  unfold yearText
  split
  · next plain =>
      have length : (paddedNat 4 year.toNat).length = 4 :=
        length_paddedNat (by decide) (show year.toNat < 10000 by omega)
      have read : digits? 4 (paddedNat 4 year.toNat ++ '-' :: rest) =
          some (year.toNat, '-' :: rest) :=
        digits?_paddedNat (Nat.le_of_eq length) (.inl length)
      obtain ⟨first, others, parts, digit⟩ := exists_paddedNat 4 year.toNat
      rw [year?, dropWhile_paddedNat]
      split
      · next found =>
          rw [parts] at found
          cases found
          exact absurd digit (by decide)
      · next found =>
          rw [parts] at found
          cases found
          exact absurd digit (by decide)
      · rw [read, Option.map_some]
        exact congrArg (fun value => some (value, _)) (Int.toNat_of_nonneg plain.1)
  · next large =>
      by_cases negative : year < 0
      · have size : -(year.natAbs : Int) = year := by omega
        rw [if_pos negative, List.cons_append, year?_minus, signed, Option.map_some, size]
      · have size : (year.natAbs : Int) = year := by omega
        rw [if_neg negative, List.cons_append, year?_plus, signed, Option.map_some, size]

theorem nanos?_fractionText (instant : Instant) :
    nanos? (instant.fractionText ++ ['Z']) = some (instant.fraction, ['Z']) := by
  have small : instant.fraction < 1000000000 := Nat.mod_lt _ (by decide)
  have ends : EndsDigits ['Z'] := by
    rintro _ ⟨⟩
    decide
  have read {width number : Nat} (positive : 0 < width) (most : width ≤ 9)
      (below : number < Nat.pow 10 width) :
      nanos? ('.' :: paddedNat width number ++ ['Z']) =
        some (number * Nat.pow 10 (9 - width), ['Z']) := by
    have length : (paddedNat width number).length = width := length_paddedNat positive below
    have fits : (paddedNat width number).length ≤ 9 := by omega
    have behind : (paddedNat width number ++ ['Z']).length - ['Z'].length = width := by
      rw [List.length_append, length]
      omega
    rw [List.cons_append, nanos?, digits?_paddedNat fits (.inr ends), Option.map_some]
    dsimp only
    rw [behind, ends.dropWhile]
  unfold fractionText
  dsimp only
  split
  · next none =>
      rw [none]
      rfl
  · split
    · next millis =>
        rw [read (by decide) (by decide) (show instant.fraction / 1000000 < 1000 by omega)]
        refine congrArg some (Prod.ext ?_ rfl)
        change instant.fraction / 1000000 * 1000000 = instant.fraction
        omega
    · split
      · next micros =>
          rw [read (by decide) (by decide) (show instant.fraction / 1000 < 1000000 by omega)]
          refine congrArg some (Prod.ext ?_ rfl)
          change instant.fraction / 1000 * 1000 = instant.fraction
          omega
      · rw [read (by decide) (by decide) small]
        refine congrArg some (Prod.ext ?_ rfl)
        exact Nat.mul_one _

theorem date?_text {date : Date} (month : date.month < 100) (day : date.day < 100)
    (rest : List Char) :
    date? (yearText date.year ++ '-' :: (paddedNat 2 date.month ++ '-' ::
      (paddedNat 2 date.day ++ rest))) = some (date, rest) := by
  have dash : isBlank '-' = false := by decide
  simp only [date?, year?_yearText, mark?_cons dash, twoDigits?_paddedNat month,
    twoDigits?_paddedNat day, Option.bind_eq_bind, Option.bind_some, Option.pure_def]

theorem timeOfDay?_text {hour minute second nanos : Nat} {text rest : List Char}
    (inDay : hour < 24) (inHour : minute < 60) (inMinute : second ≤ 60)
    (fraction : nanos? text = some (nanos, rest)) :
    timeOfDay? (paddedNat 2 hour ++ ':' :: (paddedNat 2 minute ++ ':' ::
      (paddedNat 2 second ++ text))) =
      some (if second = 60 then (hour * 3600 + minute * 60 + 59, nanos + 1000000000)
        else (hour * 3600 + minute * 60 + second, nanos), rest) := by
  have colon : isBlank ':' = false := by decide
  simp only [timeOfDay?, mark?_cons colon, twoDigits?_paddedNat (show hour < 100 by omega),
    twoDigits?_paddedNat (show minute < 100 by omega),
    twoDigits?_paddedNat (show second < 100 by omega), fraction, Option.bind_eq_bind,
    Option.bind_some]
  exact if_pos ⟨inDay, inHour, inMinute⟩

/-- Hour, minute and second, and the fraction behind them, make up the time of day again. -/
theorem timeOfDay_eq (instant : Instant) :
    (if instant.clock.2.2 = 60 then
        (instant.clock.1 * 3600 + instant.clock.2.1 * 60 + 59, instant.fraction + 1000000000)
      else (instant.clock.1 * 3600 + instant.clock.2.1 * 60 + instant.clock.2.2,
        instant.fraction)) = ((instant.seconds % 86400).toNat, instant.nanos) := by
  have inSecond := instant.nanos_lt
  have hour : instant.clock.1 = (instant.seconds % 86400).toNat / 3600 := rfl
  have minute : instant.clock.2.1 = (instant.seconds % 86400).toNat / 60 % 60 := rfl
  have second : instant.clock.2.2 =
      (instant.seconds % 86400).toNat % 60 + instant.nanos / 1000000000 := rfl
  have fraction : instant.fraction = instant.nanos % 1000000000 := rfl
  by_cases leap : instant.nanos < 1000000000
  · rw [if_neg (by omega)]
    exact Prod.ext (by dsimp only; omega) (by dsimp only; omega)
  · rw [if_pos (by omega)]
    exact Prod.ext (by dsimp only; omega) (by dsimp only; omega)

theorem toList_isoText (instant : Instant) :
    instant.isoText.toList =
      yearText instant.date.year ++ '-' :: (paddedNat 2 instant.date.month ++ '-' ::
        (paddedNat 2 instant.date.day ++ 'T' :: (paddedNat 2 instant.clock.1 ++ ':' ::
          (paddedNat 2 instant.clock.2.1 ++ ':' ::
            (paddedNat 2 instant.clock.2.2 ++ (instant.fractionText ++ ['Z'])))))) := by
  rw [isoText, String.toList_ofList, text]
  simp only [List.append_assoc, List.cons_append]

theorem date_valid (instant : Instant) : instant.date.isValid = true ∧
    instant.date.toDays = instant.seconds / 86400 ∧
      instant.date.month < 100 ∧ instant.date.day < 100 := by
  have valid : instant.date.isValid = true := Date.isValid_ofDays _
  refine ⟨valid, Date.toDays_ofDays _, ?_⟩
  simp only [Date.isValid, Bool.and_eq_true, decide_eq_true_eq] at valid
  have inMonth : Date.daysInMonth instant.date.year instant.date.month ≤ 31 := by
    unfold Date.daysInMonth
    split
    · split <;> omega
    · split <;> omega
  omega

/-- Every instant is read back from its text. -/
theorem ofText?_isoText (instant : Instant) :
    ofText? instant.isoText.toList = some instant := by
  obtain ⟨valid, days, month, day⟩ := instant.date_valid
  have inClock : instant.clock.1 < 24 ∧ instant.clock.2.1 < 60 ∧ instant.clock.2.2 ≤ 60 := by
    have inSecond := instant.nanos_lt
    dsimp only [clock]
    omega
  have offset : offset? ['Z'] = some (0, []) := rfl
  have solid : ['Z'].dropWhile isBlank = ['Z'] := rfl
  have whole : instant.seconds / 86400 * 86400 + ↑(instant.seconds % 86400).toNat =
      instant.seconds := by omega
  have inRange (nanos : Nat) (inSecond : nanos < 1000000000 ∨
      (nanos < 2000000000 ∧ instant.seconds % 60 = 59)) :
      ofUnix? instant.seconds nanos = some ⟨instant.seconds, nanos, instant.inYears, inSecond⟩ := by
    rw [ofUnix?, dif_pos instant.inYears, dif_pos inSecond]
  rw [toList_isoText, ofText?]
  simp only [date?_text month day, Option.bind_eq_bind, Option.bind_some, or_true, true_or,
    if_true, timeOfDay?_text inClock.1 inClock.2.1 inClock.2.2 instant.nanos?_fractionText,
    timeOfDay_eq, solid, offset, valid, days, whole, List.all_nil, Bool.and_self, Bool.not_true,
    Bool.false_eq_true, if_false, inRange 0 (.inl (by decide)), Int.sub_zero,
    inRange instant.nanos instant.nanos_lt]

end VirtualTables.Instant
