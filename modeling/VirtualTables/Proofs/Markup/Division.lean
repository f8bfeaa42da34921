import VirtualTables.Proofs.Markup.Pieces
import VirtualTables.Proofs.Text.Strip

/-!
Texts that markup without an event divides.

A text is delivered without the blanks at its ends and with its references replaced. If it is
divided, each part loses the blanks at its ends. Nothing else is lost, as long as no reference is
divided (`read_divided`).
-/

namespace VirtualTables

namespace Text

section Strip

variable {inClass : Char → Bool} {text middle left right : List Char}

/-- Two parts of a text have more than blanks, and blanks stand between them. -/
def HasGap (inClass : Char → Bool) (left right : List Char) : Prop :=
  stripBoth inClass left ≠ [] ∧ stripBoth inClass right ≠ [] ∧
    ((∃ character ∈ left.getLast?, inClass character = true) ∨
      ∃ character ∈ right.head?, inClass character = true)

instance (left right : List Char) : Decidable (HasGap inClass left right) :=
  have : Decidable (∃ character ∈ left.getLast?, inClass character = true) :=
    Option.decidableExistsMem _
  have : Decidable (∃ character ∈ right.head?, inClass character = true) :=
    Option.decidableExistsMem _
  inferInstanceAs (Decidable (_ ∧ _ ∧ (_ ∨ _)))

theorem exists_last_iff (stripped : IsStripped inClass middle) (nonempty : middle ≠ [])
    {trail : List Char} (blank : ∀ character ∈ trail, inClass character = true)
    (lead : List Char) :
    (∃ character ∈ (lead ++ middle ++ trail).getLast?, inClass character = true) ↔ trail ≠ [] := by
  rcases List.eq_nil_or_concat' trail with rfl | ⟨trail, last, rfl⟩
  · rw [List.append_nil, List.getLast?_append_of_ne_nil _ nonempty]
    refine iff_of_false ?_ (not_not_intro rfl)
    rintro ⟨last, isLast, isBlank⟩
    rw [stripped.last last isLast] at isBlank
    cases isBlank
  · rw [← List.append_assoc, List.getLast?_concat]
    exact iff_of_true ⟨last, rfl, blank last (by simp)⟩ (by simp)

theorem exists_head_iff (stripped : IsStripped inClass middle) (nonempty : middle ≠ [])
    {lead : List Char} (blank : ∀ character ∈ lead, inClass character = true)
    (trail : List Char) :
    (∃ character ∈ (lead ++ middle ++ trail).head?, inClass character = true) ↔ lead ≠ [] := by
  rw [List.append_assoc]
  cases lead with
  | nil =>
      rw [List.nil_append, List.head?_append_of_ne_nil _ nonempty]
      refine iff_of_false ?_ (not_not_intro rfl)
      rintro ⟨first, isFirst, isBlank⟩
      rw [stripped.first first isFirst] at isBlank
      cases isBlank
  | cons first lead =>
      exact iff_of_true ⟨first, rfl, blank first List.mem_cons_self⟩ (List.cons_ne_nil _ _)

/-- Parts of a text that are stripped one by one lose the gap between them, and nothing else. -/
theorem exists_gap (inClass : Char → Bool) (left right : List Char) :
    ∃ gap, stripBoth inClass (left ++ right) =
        stripBoth inClass left ++ gap ++ stripBoth inClass right ∧
      (∀ character ∈ gap, inClass character = true) ∧
        (gap = [] ↔ ¬ HasGap inClass left right) := by
  unfold HasGap
  obtain ⟨strippedLeft, lead, within, isLeft, blankLead, blankWithin⟩ :=
    stripBoth_eq_iff.mp (rfl : stripBoth inClass left = _)
  obtain ⟨strippedRight, between, trail, isRight, blankBetween, blankTrail⟩ :=
    stripBoth_eq_iff.mp (rfl : stripBoth inClass right = _)
  generalize stripBoth inClass left = first at strippedLeft isLeft ⊢
  generalize stripBoth inClass right = second at strippedRight isRight ⊢
  have blankGap := List.forall_mem_append.mpr ⟨blankWithin, blankBetween⟩
  -- A part with nothing but blanks goes with the blanks at an end of the whole.
  by_cases noLeft : first = []
  · subst noLeft
    have front := List.forall_mem_append.mpr ⟨blankLead, blankGap⟩
    refine ⟨[], stripBoth_eq_iff.mpr ⟨strippedRight, _, trail, ?_, front, blankTrail⟩,
      List.forall_mem_nil _, iff_of_true rfl fun both => both.1 rfl⟩
    simp [isLeft, isRight]
  by_cases noRight : second = []
  · subst noRight
    have back := List.forall_mem_append.mpr ⟨blankGap, blankTrail⟩
    refine ⟨[], stripBoth_eq_iff.mpr ⟨?_, lead, _, ?_, blankLead, back⟩, List.forall_mem_nil _,
      iff_of_true rfl fun both => both.2.1 rfl⟩
    · simpa using strippedLeft
    · simp [isLeft, isRight]
  refine ⟨within ++ between, stripBoth_eq_iff.mpr ⟨⟨?_, ?_⟩, lead, trail, ?_, blankLead,
    blankTrail⟩, blankGap, ?_⟩
  · rw [List.append_assoc, List.head?_append_of_ne_nil _ noLeft]
    exact strippedLeft.first
  · rw [List.getLast?_append_of_ne_nil _ noRight]
    exact strippedRight.last
  · simp [isLeft, isRight]
  · rw [isLeft, isRight, exists_last_iff strippedLeft noLeft blankWithin,
      exists_head_iff strippedRight noRight blankBetween]
    simp [noLeft, noRight]

end Strip

end Text

namespace Markup

open Text (stripBoth)

/-- A text with references, and what it stands for. -/
inductive Resolves : List Char → List Char → Prop where
  | nil : Resolves [] []
  | plain {character : Char} {text resolved : List Char} (plain : character ≠ '&')
      (others : Resolves text resolved) : Resolves (character :: text) (character :: resolved)
  | reference {name text resolved : List Char} {character : Char}
      (isName : ∀ other ∈ name, endsName other = false)
      (known : ∀ position, reference? position name = .ok character)
      (others : Resolves text resolved) :
      Resolves ('&' :: (name ++ ';' :: text)) (character :: resolved)

/-- A reference begins in a text and does not end in it. -/
def CutsReference (text : List Char) : Prop :=
  ∃ front name, text = front ++ '&' :: name ∧ ';' ∉ name

theorem CutsReference.behind {text : List Char} (cuts : CutsReference text) (front : List Char) :
    CutsReference (front ++ text) := by
  obtain ⟨before, name, rfl, noEnd⟩ := cuts
  exact ⟨front ++ before, name, (List.append_assoc _ _ _).symm, noEnd⟩

section Resolves

variable {text left right resolved : List Char} {position : Nat}

theorem reference?_eq_ok {name : List Char} {character : Char}
    (known : reference? position name = .ok character) (other : Nat) :
    reference? other name = .ok character := by
  unfold reference? at known ⊢
  split at known
  · exact known
  · split at known
    · next isPredefined => simpa [isPredefined] using known
    · cases known

/-- Where a text begins does not matter unless a reference in it is wrong. -/
theorem resolve_eq_ok_iff : resolve position text = .ok resolved ↔ Resolves text resolved := by
  constructor
  · intro isResolved
    fun_induction resolve position text generalizing resolved with
    | case1 =>
        cases isResolved
        exact .nil
    | case4 position rest name others behind character known found isFound =>
        cases isResolved
        have isName : ∀ other ∈ name, endsName other = false := by
          intro other inside
          simpa using List.mem_takeWhile_imp inside
        have parts : rest = name ++ ';' :: others := by
          rw [← behind, List.takeWhile_append_dropWhile]
        rename_i inductionHypothesis
        rw [parts]
        exact .reference isName (reference?_eq_ok known) (inductionHypothesis isFound)
    | case7 position character rest plain found isFound inductionHypothesis =>
        cases isResolved
        exact .plain plain (inductionHypothesis isFound)
    | case2 | case3 | case5 | case6 => cases isResolved
  · intro resolves
    induction resolves generalizing position with
    | nil => rw [resolve]
    | plain plain _ inductionHypothesis =>
        rw [resolve_cons position plain, inductionHypothesis]
        rfl
    | reference isName known _ inductionHypothesis =>
        rw [resolve_reference position isName known, inductionHypothesis]
        rfl

theorem Resolves.divided (uncut : ¬ CutsReference left)
    (resolves : Resolves (left ++ right) resolved) :
    ∃ first second, resolved = first ++ second ∧ Resolves left first ∧ Resolves right second := by
  generalize isText : left ++ right = text at resolves
  induction resolves generalizing left with
  | nil =>
      obtain ⟨rfl, rfl⟩ := List.append_eq_nil_iff.mp isText
      exact ⟨[], [], rfl, .nil, .nil⟩
  | @plain character text resolved plain others inductionHypothesis =>
      cases left with
      | nil =>
          obtain rfl : right = character :: text := isText
          exact ⟨[], _, rfl, .nil, .plain plain others⟩
      | cons first left =>
          obtain ⟨rfl, parts⟩ := List.cons.inj isText
          obtain ⟨first, second, rfl, isFirst, isSecond⟩ :=
            inductionHypothesis (fun cuts => uncut (cuts.behind [_])) parts
          exact ⟨_, second, rfl, .plain plain isFirst, isSecond⟩
  | @reference name text resolved character isName known others inductionHypothesis =>
      have noEnd : ';' ∉ name := fun inside => absurd (isName ';' inside) (by decide)
      cases left with
      | nil =>
          obtain rfl : right = '&' :: (name ++ ';' :: text) := isText
          exact ⟨[], _, rfl, .nil, .reference isName known others⟩
      | cons first left =>
          obtain ⟨rfl, parts⟩ := List.cons.inj isText
          -- The first part must reach to the end of the reference that begins in it.
          rcases List.append_eq_append_iff.mp parts with ⟨more, rfl, -⟩ | ⟨more, rfl, ends⟩
          · exact absurd ⟨[], left, rfl, fun inside => noEnd (List.mem_append_left _ inside)⟩ uncut
          · cases more with
            | nil => exact absurd ⟨[], name ++ [], rfl, by simpa using noEnd⟩ uncut
            | cons semicolon more =>
                obtain ⟨rfl, isRest⟩ := List.cons.inj ends
                have uncut : ¬ CutsReference more := by
                  intro cuts
                  have behind := cuts.behind ('&' :: (name ++ [';']))
                  rw [List.cons_append, List.append_assoc] at behind
                  exact uncut behind
                obtain ⟨first, second, rfl, isFirst, isSecond⟩ :=
                  inductionHypothesis uncut isRest.symm
                exact ⟨_, second, rfl, .reference isName known isFirst, isSecond⟩

theorem Resolves.eq_of_blank (blank : ∀ character ∈ text, isBlank character = true)
    (resolves : Resolves text resolved) : resolved = text := by
  induction resolves with
  | nil => rfl
  | plain _ _ inductionHypothesis =>
      rw [inductionHypothesis fun other inside => blank other (List.mem_cons_of_mem _ inside)]
  | reference => exact absurd (blank '&' List.mem_cons_self) (by decide)

/-- If a text is divided, its parts are delivered one by one, without the gap between them. -/
theorem read_divided {opened inner : List (List Char)} {found : List Event}
    (uncut : ¬ CutsReference left)
    (read : Piece.read opened (.text (left ++ right)) = .ok (found, inner)) :
    ∃ first gap second, found = textEvents (first ++ gap ++ second) ∧ inner = opened ∧
      (∀ character ∈ gap, isBlank character = true) ∧
      (gap = [] ↔ ¬ Text.HasGap isBlank left right) ∧
      Piece.read opened (.text left) = .ok (textEvents first, opened) ∧
      Piece.read opened (.text right) = .ok (textEvents second, opened) := by
  obtain ⟨gap, isStripped, blank, noGap⟩ := Text.exists_gap isBlank left right
  simp only [Piece.read, isStripped] at read
  cases isResolved : resolve 0 (stripBoth isBlank left ++ gap ++ stripBoth isBlank right) with
  | error fault =>
      rw [isResolved] at read
      cases read
  | ok resolved =>
      rw [isResolved] at read
      cases read
      have uncutGap : ¬ CutsReference gap := by
        rintro ⟨front, name, rfl, -⟩
        have ampersand : '&' ∈ front ++ '&' :: name := by simp
        exact absurd (blank '&' ampersand) (by decide)
      have uncutLeft : ¬ CutsReference (stripBoth isBlank left) := by
        obtain ⟨-, lead, trail, parts, -, blankTrail⟩ :=
          Text.stripBoth_eq_iff.mp (rfl : stripBoth isBlank left = _)
        rintro ⟨front, name, isLeft, noEnd⟩
        refine uncut ⟨lead ++ front, name ++ trail, ?_, ?_⟩
        · rw [isLeft] at parts
          simpa using parts
        · simp only [List.mem_append, not_or]
          exact ⟨noEnd, fun inside => absurd (blankTrail ';' inside) (by decide)⟩
      rw [List.append_assoc] at isResolved
      obtain ⟨first, behind, rfl, isFirst, isBehind⟩ :=
        (resolve_eq_ok_iff.mp isResolved).divided uncutLeft
      obtain ⟨between, second, rfl, isBetween, isSecond⟩ := isBehind.divided uncutGap
      obtain rfl := isBetween.eq_of_blank blank
      refine ⟨first, between, second, by rw [List.append_assoc], rfl, blank, noGap, ?_, ?_⟩
      · simp only [Piece.read, resolve_eq_ok_iff.mpr isFirst]
      · simp only [Piece.read, resolve_eq_ok_iff.mpr isSecond]

end Resolves

end Markup

end VirtualTables
