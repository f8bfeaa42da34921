import VirtualTables.Proofs.Backend.Sending

/-!
Statements on one line.

A statement is put on one line in two passes, the second over what the first has left. `scan` goes
over it once and looks one character ahead. Both give the same (`onOneLine_eq_scan`): in a run of
line breaks, what becomes of each depends on its neighbours alone.
-/

namespace VirtualTables.Query

/-- From the front to the back a carriage return and the line feed behind it become one space, and
so does either of them alone. Other characters stay. -/
def scan : List Char → List Char
  | [] => []
  | '\r' :: '\n' :: rest => ' ' :: scan rest
  | character :: rest =>
      (if character = '\r' ∨ character = '\n' then ' ' else character) :: scan rest

/-- How often a line feed stands right behind a carriage return. -/
def pairs (text : List Char) : Nat :=
  (text.zip text.tail).count ('\r', '\n')

theorem not_prefix_of_alone {character : Char} {rest : List Char}
    (alone : ∀ more, character = '\r' → rest = '\n' :: more → False) :
    ¬ ['\r', '\n'] <+: character :: rest := by
  rintro ⟨more, same⟩
  obtain ⟨first, second⟩ := List.cons.inj same
  exact alone more first.symm second.symm

theorem onOneLine_eq_scan (text : List Char) : onOneLine text = scan text := by
  fun_induction scan text with
  | case1 => simp [onOneLine]
  | case2 rest inductionHypothesis =>
      have nonempty : ['\r', '\n'] ≠ [] := List.cons_ne_nil _ _
      rw [← inductionHypothesis, onOneLine]
      rw [show '\r' :: '\n' :: rest = ['\r', '\n'] ++ rest from rfl]
      rw [Text.replaceAll_mark nonempty]
      rfl
  | case3 character rest alone inductionHypothesis =>
      rw [← inductionHypothesis, onOneLine, Text.replaceAll_cons (not_prefix_of_alone alone)]
      simp [onOneLine, isLineBreak]

theorem pairs_pair (rest : List Char) : pairs ('\r' :: '\n' :: rest) = pairs rest + 1 := by
  cases rest with
  | nil => rfl
  | cons next rest => simp [pairs]

theorem pairs_cons {character : Char} {rest : List Char}
    (alone : ∀ more, character = '\r' → rest = '\n' :: more → False) :
    pairs (character :: rest) = pairs rest := by
  cases rest with
  | nil => rfl
  | cons next rest =>
      have other : (character, next) ≠ ('\r', '\n') := by
        intro same
        obtain ⟨rfl, rfl⟩ := Prod.mk.inj same
        exact alone rest rfl rfl
      simp [pairs, other]

theorem isLineBreak_iff {character : Char} :
    isLineBreak character = true ↔ character = '\r' ∨ character = '\n' := by
  simp [isLineBreak]

/-- A line for a text: its line breaks are gone, and what else it holds stands there in order. -/
structure IsLineFor (text line : List Char) : Prop where
  unbroken : '\r' ∉ line ∧ '\n' ∉ line
  kept : (text.filter (!isLineBreak ·)).Sublist line
  filled : line.filter (· != ' ') = (text.filter (!isLineBreak ·)).filter (· != ' ')
  length : line.length + pairs text = text.length
  size : (Text.Utf8.encode line).length + pairs text = (Text.Utf8.encode text).length

section IsLineFor

variable {character : Char} {rest line : List Char}

theorem IsLineFor.pair (isLine : IsLineFor rest line) :
    IsLineFor ('\r' :: '\n' :: rest) (' ' :: line) where
  unbroken := by simpa using isLine.unbroken
  kept := isLine.kept.cons ' '
  filled := isLine.filled
  length := by
    have := isLine.length
    rw [pairs_pair, List.length_cons, List.length_cons, List.length_cons]
    omega
  size := by
    have := isLine.size
    have oneByte : (Text.Utf8.encodeChar ' ').length = 1 ∧
        (Text.Utf8.encodeChar '\r').length = 1 ∧ (Text.Utf8.encodeChar '\n').length = 1 := by
      decide
    simp only [pairs_pair, Text.Utf8.encode_cons, List.length_append, oneByte]
    omega

theorem IsLineFor.lineBreak (isLine : IsLineFor rest line)
    (alone : ∀ more, character = '\r' → rest = '\n' :: more → False)
    (broken : character = '\r' ∨ character = '\n') : IsLineFor (character :: rest) (' ' :: line) := by
  have dropped : (character :: rest).filter (!isLineBreak ·) = rest.filter (!isLineBreak ·) :=
    List.filter_cons_of_neg (by simp [isLineBreak_iff.mpr broken])
  have oneByte : (Text.Utf8.encodeChar ' ').length = 1 ∧
      (Text.Utf8.encodeChar character).length = 1 := by
    rcases broken with rfl | rfl <;> decide
  have length := isLine.length
  have size := isLine.size
  refine ⟨by simpa using isLine.unbroken, dropped ▸ isLine.kept.cons ' ', dropped ▸ isLine.filled,
    ?_, ?_⟩
  · rw [pairs_cons alone, List.length_cons, List.length_cons]
    omega
  · simp only [pairs_cons alone, Text.Utf8.encode_cons, List.length_append, oneByte]
    omega

theorem IsLineFor.other (isLine : IsLineFor rest line)
    (alone : ∀ more, character = '\r' → rest = '\n' :: more → False)
    (whole : ¬ (character = '\r' ∨ character = '\n')) :
    IsLineFor (character :: rest) (character :: line) := by
  have held : (character :: rest).filter (!isLineBreak ·) =
      character :: rest.filter (!isLineBreak ·) :=
    List.filter_cons_of_pos (by simpa using mt isLineBreak_iff.mp whole)
  have length := isLine.length
  have size := isLine.size
  rw [not_or] at whole
  refine ⟨by simp [isLine.unbroken, Ne.symm whole.1, Ne.symm whole.2],
    held ▸ isLine.kept.cons_cons character, ?_, ?_, ?_⟩
  · rw [held, List.filter_cons, List.filter_cons, isLine.filled]
  · rw [pairs_cons alone, List.length_cons, List.length_cons]
    omega
  · simp only [pairs_cons alone, Text.Utf8.encode_cons, List.length_append]
    omega

end IsLineFor

theorem isLineFor_scan (text : List Char) : IsLineFor text (scan text) := by
  fun_induction scan text with
  | case1 => exact ⟨by simp, .slnil, rfl, rfl, rfl⟩
  | case2 rest inductionHypothesis => exact inductionHypothesis.pair
  | case3 character rest alone inductionHypothesis =>
      split
      · next broken => exact inductionHypothesis.lineBreak alone broken
      · next whole => exact inductionHypothesis.other alone whole

theorem scan_of_unbroken {text : List Char} (unbroken : '\r' ∉ text ∧ '\n' ∉ text) :
    scan text = text := by
  fun_induction scan text with
  | case1 => rfl
  | case2 rest => simp at unbroken
  | case3 character rest alone inductionHypothesis =>
      simp only [List.mem_cons, not_or] at unbroken
      rw [inductionHypothesis ⟨unbroken.1.2, unbroken.2.2⟩, if_neg]
      simp [Ne.symm unbroken.1.1, Ne.symm unbroken.2.1]

/-- A statement is sent on one line, as one scan gives it, and no header of the request has a line
break. What is on one line already stays as it is. -/
theorem sentSql_scanned (query : Query) :
    query.sentSql = .ofList (scan query.sql.toList) ∧
    IsLineFor query.sql.toList query.sentSql.toList ∧
    { query with sql := query.sentSql }.sentSql = query.sentSql ∧
    ∀ address, ("SQL", query.sentSql) ∈ (Remote.requestOf address query).headers ∧
      ∀ header ∈ (Remote.requestOf address query).headers,
        '\r' ∉ header.2.toList ∧ '\n' ∉ header.2.toList := by
  have scanned : query.sentSql = .ofList (scan query.sql.toList) := by
    rw [sentSql, onOneLine_eq_scan]
  have isLine : IsLineFor query.sql.toList query.sentSql.toList := by
    rw [scanned, String.toList_ofList]
    exact isLineFor_scan query.sql.toList
  refine ⟨scanned, isLine, ?_, fun address => ?_⟩
  · rw [sentSql, onOneLine_eq_scan, scan_of_unbroken isLine.unbroken, String.ofList_toList]
  · rw [(query.isSentAs_requestOf address).headers]
    refine ⟨List.mem_cons_self, List.forall_mem_cons.mpr ⟨isLine.unbroken, ?_⟩⟩
    rw [List.forall_mem_singleton, String.toList_ofList]
    have digits (character : Char) (inside : character ∈ Nat.toDigits 10 query.maxRows) :=
      Text.isDigit_of_mem_toDigits inside
    exact ⟨fun inside => absurd (digits _ inside) (by decide),
      fun inside => absurd (digits _ inside) (by decide)⟩

example : onOneLine "a\r\r\nb\n\r\n\rc\n".toList = "a  b   c ".toList := by decide +kernel

end VirtualTables.Query
