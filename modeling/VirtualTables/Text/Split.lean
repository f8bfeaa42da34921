/-!
Taking texts apart: at a given beginning, at the first occurrence of a mark, at every separator, and
at every occurrence of a mark, for another text to take its place.

Nothing is lost: `afterStart?_eq_some_iff` and `upTo?_eq_some_iff` give the text back from its
parts, and `splitAt_intercalate` gives the pieces of a text that is put together.
-/

namespace VirtualTables.Text

def afterStart? (start text : List Char) : Option (List Char) :=
  match start, text with
  | [], rest => some rest
  | _ :: _, [] => none
  | expected :: start, found :: rest => if expected = found then afterStart? start rest else none

/-- What stands before the first occurrence of a mark, and what follows it. -/
def upTo? (mark : List Char) : List Char → Option (List Char × List Char)
  | [] => if mark.isEmpty then some ([], []) else none
  | character :: rest =>
      match afterStart? mark (character :: rest) with
      | some after => some ([], after)
      | none => (upTo? mark rest).map fun (content, after) => (character :: content, after)

/-- Split a text at every character of a class; there is one piece more than separators. -/
def splitAt (isSeparator : Char → Bool) : List Char → List (List Char)
  | [] => [[]]
  | character :: rest =>
      match splitAt isSeparator rest with
      | [] => [[character]]
      | piece :: pieces =>
          if isSeparator character then [] :: piece :: pieces
          else (character :: piece) :: pieces

theorem afterStart?_eq_some_iff {start text rest : List Char} :
    afterStart? start text = some rest ↔ text = start ++ rest := by
  induction start, text using afterStart?.induct with
  | case1 text => simp [afterStart?]
  | case2 => simp [afterStart?]
  | case3 start found rest inductionHypothesis => simpa [afterStart?] using inductionHypothesis
  | case4 expected start found rest other => simp [afterStart?, other, Ne.symm other]

theorem afterStart?_eq_none_iff {start text : List Char} :
    afterStart? start text = none ↔ ¬ start <+: text := by
  rw [Option.eq_none_iff_forall_ne_some]
  simp only [ne_eq, afterStart?_eq_some_iff]
  exact ⟨fun absent ⟨rest, equal⟩ => absent rest equal.symm,
    fun absent rest equal => absent ⟨rest, equal.symm⟩⟩

theorem afterStart?_length {start text rest : List Char}
    (found : afterStart? start text = some rest) : rest.length ≤ text.length := by
  simp [afterStart?_eq_some_iff.mp found]

/-- A text with another one in the place of a mark, wherever it occurs. Behind an occurrence the next
one is looked for; an empty mark occurs nowhere. -/
def replaceAll (mark other : List Char) : List Char → List Char
  | [] => []
  | character :: rest =>
      match _ : afterStart? mark (character :: rest) with
      | none => character :: replaceAll mark other rest
      | some after =>
          if _ : mark = [] then character :: rest
          else other ++ replaceAll mark other after
termination_by text => text.length
decreasing_by
  · simp
  · next found nonempty =>
      have size := congrArg List.length (afterStart?_eq_some_iff.mp found)
      have positive := List.length_pos_iff.mpr nonempty
      rw [List.length_append] at size
      omega

@[simp]
theorem replaceAll_nil (mark other : List Char) : replaceAll mark other [] = [] := by
  rw [replaceAll]

theorem replaceAll_mark {mark : List Char} (nonempty : mark ≠ []) (other rest : List Char) :
    replaceAll mark other (mark ++ rest) = other ++ replaceAll mark other rest := by
  have found : afterStart? mark (mark ++ rest) = some rest := afterStart?_eq_some_iff.mpr rfl
  obtain ⟨first, others, rfl⟩ := List.exists_cons_of_ne_nil nonempty
  rw [List.cons_append] at found ⊢
  rw [replaceAll, found]
  simp

theorem replaceAll_cons {mark rest : List Char} {character : Char}
    (absent : ¬ mark <+: character :: rest) (other : List Char) :
    replaceAll mark other (character :: rest) = character :: replaceAll mark other rest := by
  rw [replaceAll, afterStart?_eq_none_iff.mpr absent]

theorem upTo?_eq_some {mark text content rest : List Char}
    (found : upTo? mark text = some (content, rest)) : text = content ++ mark ++ rest := by
  induction text generalizing content with
  | nil =>
      simp only [upTo?] at found
      split at found
      · next empty =>
          cases found
          simp [List.isEmpty_iff.mp empty]
      · cases found
  | cons character text inductionHypothesis =>
      simp only [upTo?] at found
      split at found
      · next after started =>
          cases found
          simpa using afterStart?_eq_some_iff.mp started
      · simp only [Option.map_eq_some_iff, Prod.mk.injEq] at found
        obtain ⟨⟨before, after⟩, ran, rfl, rfl⟩ := found
        simp [inductionHypothesis ran]

theorem upTo?_length {mark text content rest : List Char}
    (found : upTo? mark text = some (content, rest)) : rest.length ≤ text.length := by
  simp only [upTo?_eq_some found, List.length_append]
  omega

theorem upTo?_eq_none_iff {mark text : List Char} : upTo? mark text = none ↔ ¬ mark <:+: text := by
  induction text with
  | nil => simp [upTo?, List.isEmpty_iff]
  | cons character text inductionHypothesis =>
      rw [List.infix_cons_iff]
      simp only [upTo?]
      cases started : afterStart? mark (character :: text) with
      | some after =>
          have isPrefix : mark <+: character :: text :=
            ⟨after, (afterStart?_eq_some_iff.mp started).symm⟩
          simp [isPrefix]
      | none => simp [afterStart?_eq_none_iff.mp started, inductionHypothesis]

/-- A mark behind some text begins nowhere before, also where it would overlap with that text. -/
def IsFirst (mark content : List Char) : Prop :=
  ¬ mark <:+: content ++ mark.dropLast

theorem upTo?_eq_some_iff {mark text content rest : List Char} (nonempty : mark ≠ []) :
    upTo? mark text = some (content, rest) ↔
      text = content ++ mark ++ rest ∧ IsFirst mark content := by
  have positive := List.length_pos_iff.mpr nonempty
  have size : mark.dropLast.length = mark.length - 1 := List.length_dropLast
  have cut (content rest : List Char) : content ++ mark.dropLast <+: content ++ mark ++ rest := by
    rw [List.append_assoc, List.prefix_append_right_inj]
    exact (List.dropLast_prefix mark).trans (List.prefix_append mark rest)
  induction text generalizing content with
  | nil => simp [upTo?, nonempty]
  | cons character text inductionHypothesis =>
      simp only [upTo?]
      cases started : afterStart? mark (character :: text) with
      | some after =>
          have split := afterStart?_eq_some_iff.mp started
          constructor
          · rintro found
            cases found
            refine ⟨split, ?_⟩
            intro inside
            have := inside.length_le
            rw [List.nil_append] at this
            omega
          · rintro ⟨equal, first⟩
            cases content with
            | nil =>
                rw [split, List.nil_append] at equal
                rw [List.append_cancel_left equal]
            | cons other content =>
                refine absurd (List.IsPrefix.isInfix ?_) first
                have isPrefix : mark <+: character :: text := ⟨after, split.symm⟩
                apply List.prefix_of_prefix_length_le isPrefix (equal ▸ cut _ rest)
                simp only [List.length_append, List.length_cons]
                omega
      | none =>
          have notPrefix := afterStart?_eq_none_iff.mp started
          simp only [Option.map_eq_some_iff, Prod.mk.injEq, Prod.exists]
          constructor
          · rintro ⟨before, after, found, rfl, rfl⟩
            obtain ⟨rfl, first⟩ := inductionHypothesis.mp found
            refine ⟨rfl, ?_⟩
            rw [IsFirst, List.cons_append, List.infix_cons_iff]
            rintro (isPrefix | inside)
            · exact notPrefix (isPrefix.trans (cut (character :: before) after))
            · exact first inside
          · rintro ⟨equal, first⟩
            cases content with
            | nil => exact absurd ⟨rest, equal.symm⟩ notPrefix
            | cons other content =>
                rw [List.cons_append, List.cons_append] at equal
                cases equal
                refine ⟨content, rest, inductionHypothesis.mpr ⟨rfl, ?_⟩, rfl, rfl⟩
                intro inside
                exact first (List.infix_cons inside)

section Between

variable {start mark text content rest : List Char}

/-- What stands between a given beginning and the first mark behind it. -/
theorem between_eq_some_iff (nonempty : mark ≠ []) :
    (afterStart? start text).bind (upTo? mark) = some (content, rest) ↔
      text = start ++ (content ++ mark ++ rest) ∧ IsFirst mark content := by
  rw [Option.bind_eq_some_iff]
  constructor
  · rintro ⟨after, started, found⟩
    obtain ⟨rfl, first⟩ := (upTo?_eq_some_iff nonempty).mp found
    exact ⟨afterStart?_eq_some_iff.mp started, first⟩
  · rintro ⟨starts, first⟩
    exact ⟨_, afterStart?_eq_some_iff.mpr starts, (upTo?_eq_some_iff nonempty).mpr ⟨rfl, first⟩⟩

theorem between_length
    (found : (afterStart? start text).bind (upTo? mark) = some (content, rest)) :
    rest.length ≤ text.length := by
  obtain ⟨after, started, ran⟩ := Option.bind_eq_some_iff.mp found
  exact Nat.le_trans (upTo?_length ran) (afterStart?_length started)

end Between

theorem splitAt_ne_nil (isSeparator : Char → Bool) (text : List Char) :
    splitAt isSeparator text ≠ [] := by
  cases text with
  | nil => simp [splitAt]
  | cons character rest =>
      simp only [splitAt]
      split
      · simp
      · split <;> simp

theorem splitAt_eq_singleton {isSeparator : Char → Bool} {text : List Char}
    (none : ∀ character ∈ text, isSeparator character = false) :
    splitAt isSeparator text = [text] := by
  induction text with
  | nil => rfl
  | cons character rest inductionHypothesis =>
      have separates := none character List.mem_cons_self
      rw [splitAt,
        inductionHypothesis fun other member => none other (List.mem_cons_of_mem _ member)]
      simp [separates]

theorem splitAt_append {isSeparator : Char → Bool} {separator : Char}
    (separates : isSeparator separator = true) (left right : List Char) :
    splitAt isSeparator (left ++ separator :: right) =
      splitAt isSeparator left ++ splitAt isSeparator right := by
  induction left with
  | nil =>
      cases pieces : splitAt isSeparator right with
      | nil => exact absurd pieces (splitAt_ne_nil _ _)
      | cons piece others => simp [splitAt, pieces, separates]
  | cons character left inductionHypothesis =>
      simp only [List.cons_append, splitAt, inductionHypothesis]
      cases pieces : splitAt isSeparator left with
      | nil => exact absurd pieces (splitAt_ne_nil _ _)
      | cons piece others => cases isSeparator character <;> simp

/-- Pieces without separators are the pieces of the text that a separator joins them to. -/
theorem splitAt_intercalate {isSeparator : Char → Bool} {separator : Char}
    (separates : isSeparator separator = true) {pieces : List (List Char)} (nonempty : pieces ≠ [])
    (none : ∀ piece ∈ pieces, ∀ character ∈ piece, isSeparator character = false) :
    splitAt isSeparator ([separator].intercalate pieces) = pieces := by
  induction pieces with
  | nil => exact absurd rfl nonempty
  | cons piece pieces inductionHypothesis =>
      rw [List.forall_mem_cons] at none
      cases pieces with
      | nil => rw [List.intercalate_singleton, splitAt_eq_singleton none.1]
      | cons other pieces =>
          rw [List.intercalate_cons_cons, List.append_assoc, List.singleton_append,
            splitAt_append separates, splitAt_eq_singleton none.1,
            inductionHypothesis (List.cons_ne_nil _ _) none.2, List.singleton_append]

theorem intercalate_splitAt {isSeparator : Char → Bool} {separator : Char}
    (separates : ∀ character, isSeparator character = true ↔ character = separator)
    (text : List Char) : [separator].intercalate (splitAt isSeparator text) = text := by
  induction text with
  | nil => rfl
  | cons character text inductionHypothesis =>
      rw [splitAt]
      cases pieces : splitAt isSeparator text with
      | nil => exact absurd pieces (splitAt_ne_nil _ _)
      | cons piece others =>
          rw [pieces] at inductionHypothesis
          dsimp only
          by_cases found : character = separator
          · rw [if_pos ((separates character).mpr found), List.intercalate_cons_cons,
              inductionHypothesis, found]
            rfl
          · rw [if_neg (mt (separates character).mp found), ← inductionHypothesis]
            cases others with
            | nil => simp
            | cons other others => simp

theorem mem_splitAt {isSeparator : Char → Bool} {text piece : List Char}
    (member : piece ∈ splitAt isSeparator text) :
    ∀ character ∈ piece, isSeparator character = false := by
  induction text generalizing piece with
  | nil => simp_all [splitAt]
  | cons character rest inductionHypothesis =>
      simp only [splitAt] at member
      split at member
      · next empty => exact absurd empty (splitAt_ne_nil _ _)
      · next first others pieces =>
          have ofRest {piece : List Char} (inPieces : piece ∈ first :: others) :=
            inductionHypothesis (pieces ▸ inPieces)
          split at member
          · rcases List.mem_cons.mp member with equal | inPieces
            · simp [equal]
            · exact ofRest inPieces
          · next separates =>
              rcases List.mem_cons.mp member with equal | inOthers
              · subst equal
                intro other inPiece
                rcases List.mem_cons.mp inPiece with equal | inFirst
                · simpa [equal] using separates
                · exact ofRest List.mem_cons_self other inFirst
              · exact ofRest (List.mem_cons_of_mem _ inOthers)

end VirtualTables.Text
