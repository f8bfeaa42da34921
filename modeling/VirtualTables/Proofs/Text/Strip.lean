import Mathlib.Data.List.DropRight
import VirtualTables.Text.Blank

/-!
What is left of a text without the characters of a class at its ends.
-/

namespace VirtualTables.Text

variable {inClass : Char → Bool} {text middle : List Char}

theorem stripBoth_eq_iff :
    stripBoth inClass text = middle ↔
      IsStripped inClass middle ∧ ∃ lead trail, text = lead ++ middle ++ trail ∧
        (∀ character ∈ lead, inClass character = true) ∧
          ∀ character ∈ trail, inClass character = true := by
  constructor
  · rintro rfl
    have behind : text.dropWhile inClass =
        stripBoth inClass text ++ (text.dropWhile inClass).rtakeWhile inClass :=
      List.rdropWhile_append_rtakeWhile.symm
    have parts : text = text.takeWhile inClass ++ stripBoth inClass text ++
        (text.dropWhile inClass).rtakeWhile inClass := by
      rw [List.append_assoc, ← behind, List.takeWhile_append_dropWhile]
    refine ⟨⟨fun character isFirst => ?_, fun character isLast => ?_⟩, _, _, parts,
      fun character inside => List.mem_takeWhile_imp inside,
      fun character inside => List.mem_rtakeWhile_imp inside⟩
    · have first := List.head?_dropWhile_not inClass text
      rw [behind, List.head?_append, isFirst] at first
      exact first
    · have nonempty : stripBoth inClass text ≠ [] := by
        intro nothing
        simp [nothing] at isLast
      rw [List.getLast?_eq_getLast_of_ne_nil nonempty] at isLast
      obtain rfl := Option.some.inj isLast
      exact Bool.eq_false_iff.mpr (List.rdropWhile_last_not inClass _ nonempty)
  · rintro ⟨stripped, lead, trail, rfl, blankLead, blankTrail⟩
    have behind : (lead ++ middle ++ trail).dropWhile inClass =
        (middle ++ trail).dropWhile inClass := by
      rw [List.append_assoc, List.dropWhile_append_of_pos blankLead]
    rw [stripBoth, behind, List.dropWhile_append, stripped.dropWhile]
    cases middle with
    | nil =>
        have nothing : trail.dropWhile inClass = [] := List.dropWhile_eq_nil_iff.mpr blankTrail
        simp [nothing]
    | cons character middle =>
        have blankTrail : ∀ character ∈ trail.reverse, inClass character = true :=
          fun character inside => blankTrail character (List.mem_reverse.mp inside)
        rw [if_neg (by simp), List.reverse_append, List.dropWhile_append_of_pos blankTrail,
          stripped.reverse.dropWhile, List.reverse_reverse]

theorem stripBoth_eq_nil_iff :
    stripBoth inClass text = [] ↔ ∀ character ∈ text, inClass character = true := by
  rw [stripBoth_eq_iff]
  constructor
  · rintro ⟨-, lead, trail, rfl, blankLead, blankTrail⟩
    rw [List.append_nil]
    exact List.forall_mem_append.mpr ⟨blankLead, blankTrail⟩
  · intro blank
    exact ⟨⟨nofun, nofun⟩, text, [], by simp, blank, List.forall_mem_nil _⟩

theorem mem_of_mem_stripBoth {character : Char} (inside : character ∈ stripBoth inClass text) :
    character ∈ text := by
  obtain ⟨-, lead, trail, parts, -⟩ := stripBoth_eq_iff.mp (rfl : stripBoth inClass text = _)
  rw [parts]
  exact List.mem_append_left _ (List.mem_append_right _ inside)

end VirtualTables.Text
