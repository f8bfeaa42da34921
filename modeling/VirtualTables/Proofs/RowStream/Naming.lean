import Mathlib.Data.List.Forall2
import Mathlib.Data.List.Nodup
import VirtualTables.Proofs.RowStream.Offering
import VirtualTables.Proofs.RowStream.Taking

/-!
Columns found by their names.

A layout may use a name twice, in one spelling or in several. `Layout.Names` says which column a name
stands for: the first one of exactly this name or, where there is none, the first one whose name
has the same letters in another case. That a column is found by its own name is then a matter of
its exact name alone (`Layout.indexOf?_names`).
-/

namespace VirtualTables

namespace Text

/-- An ASCII letter in upper and in lower case. -/
def IsCasePair (upper lower : Char) : Prop :=
  65 ≤ upper.toNat ∧ upper.toNat ≤ 90 ∧ lower.toNat = upper.toNat + 32

/-- Two characters are equal, or one ASCII letter in different cases. -/
def IsSameLetter (left right : Char) : Prop :=
  left = right ∨ IsCasePair left right ∨ IsCasePair right left

/-- Two names are equal, character by character, up to the case of ASCII letters. -/
def IsSameName (left right : String) : Prop :=
  List.Forall₂ IsSameLetter left.toList right.toList

theorem toNat_lower (character : Char) :
    (lower character).toNat =
      if 65 ≤ character.toNat ∧ character.toNat ≤ 90 then character.toNat + 32
      else character.toNat := by
  unfold lower
  by_cases upper : 65 ≤ character.toNat ∧ character.toNat ≤ 90
  · rw [if_pos upper]
    exact (congrArg Char.toNat (if_pos upper)).trans (Utf8.toNat_ofNat (.inl (by omega)))
  · rw [if_neg upper]
    exact congrArg Char.toNat (if_neg upper)

theorem lower_eq_iff {left right : Char} : lower left = lower right ↔ IsSameLetter left right := by
  rw [← Char.toNat_inj, toNat_lower, toNat_lower, IsSameLetter, ← Char.toNat_inj, IsCasePair,
    IsCasePair]
  split
  · split <;> omega
  · split <;> omega

theorem sameName_iff {left right : String} :
    sameName left right = true ↔ IsSameName left right := by
  have letters : (fun one other => lower one = lower other) = IsSameLetter := by
    funext one other
    exact propext lower_eq_iff
  rw [sameName, sameLetters, beq_iff_eq, ← List.forall₂_eq_eq_eq, List.forall₂_map_left_iff,
    List.forall₂_map_right_iff, letters]
  rfl

theorem isSameName_refl (name : String) : IsSameName name name :=
  sameName_iff.mp (beq_self_eq_true _)

end Text

namespace Layout

open Text

def IsFirst (layout : Layout) (property : String → Prop) (position : Nat) : Prop :=
  (∃ name, layout.names[position]? = some name ∧ property name) ∧
    ∀ before < position, ∀ name, layout.names[before]? = some name → ¬ property name

/-- A name stands for the column at a position: for the first one of exactly this name, or if there
is none, for the first one of the same name in another case. -/
def Names (layout : Layout) (name : String) (position : Nat) : Prop :=
  layout.IsFirst (· = name) position ∨
    (name ∉ layout.names ∧ layout.IsFirst (IsSameName · name) position)

variable {layout : Layout} {name : String} {position : Nat}

theorem findIdx?_names_iff {test : String → Bool} {property : String → Prop}
    (decides : ∀ name, test name = true ↔ property name) :
    layout.names.findIdx? test = some position ↔ layout.IsFirst property position := by
  rw [List.findIdx?_eq_some_iff_getElem]
  constructor
  · rintro ⟨inside, holds, others⟩
    refine ⟨⟨_, List.getElem?_eq_getElem inside, (decides _).mp holds⟩, ?_⟩
    intro before front name found
    obtain ⟨_, same⟩ := List.getElem?_eq_some_iff.mp found
    rw [← decides, ← same]
    exact others before front
  · rintro ⟨⟨name, found, holds⟩, others⟩
    obtain ⟨inside, same⟩ := List.getElem?_eq_some_iff.mp found
    refine ⟨inside, ?_, fun before front => ?_⟩
    · rw [same]
      exact (decides name).mpr holds
    · rw [decides]
      exact others before front _ (List.getElem?_eq_getElem _)

theorem findIdx?_names_eq_none_iff {test : String → Bool} {property : String → Prop}
    (decides : ∀ name, test name = true ↔ property name) :
    layout.names.findIdx? test = none ↔ ∀ name ∈ layout.names, ¬ property name := by
  rw [List.findIdx?_eq_none_iff]
  refine forall₂_congr fun name _ => ?_
  rw [← decides, Bool.not_eq_true]

theorem indexOf?_eq (layout : Layout) (name : String) :
    layout.indexOf? name =
      (layout.names.findIdx? (· == name)).or (layout.names.findIdx? (sameName · name)) := by
  rw [names, List.findIdx?_map, List.findIdx?_map]
  exact Option.orElse_eq_or

theorem indexOf?_eq_some_iff : layout.indexOf? name = some position ↔ layout.Names name position := by
  have unnamed : layout.names.findIdx? (· == name) = none ↔ name ∉ layout.names := by
    rw [findIdx?_names_eq_none_iff fun _ => beq_iff_eq]
    exact ⟨fun absent inside => absent name inside rfl, fun absent other inside same =>
      absent (same ▸ inside)⟩
  rw [indexOf?_eq, Option.or_eq_some_iff, unnamed, findIdx?_names_iff fun _ => beq_iff_eq,
    findIdx?_names_iff fun _ => sameName_iff]
  rfl

theorem indexOf?_eq_none_iff :
    layout.indexOf? name = none ↔ ∀ other ∈ layout.names, ¬ IsSameName other name := by
  rw [indexOf?_eq, Option.or_eq_none_iff, findIdx?_names_eq_none_iff fun _ => beq_iff_eq,
    findIdx?_names_eq_none_iff fun _ => sameName_iff]
  refine ⟨fun absent => absent.2, fun absent => ⟨?_, absent⟩⟩
  rintro other inside rfl
  exact absent other inside (isSameName_refl other)

theorem exists_names_iff :
    (∃ position, layout.Names name position) ↔ ∃ other ∈ layout.names, IsSameName other name := by
  simp only [← indexOf?_eq_some_iff]
  rw [← Option.isSome_iff_exists, ← not_iff_not, Bool.not_eq_true, Option.isSome_eq_false_iff,
    Option.isNone_iff_eq_none, indexOf?_eq_none_iff]
  push Not
  rfl

theorem Names.exists_name (stands : layout.Names name position) :
    ∃ found, layout.names[position]? = some found ∧ (name ∈ layout.names → found = name) := by
  rcases stands with ⟨⟨found, same, spelled⟩, _⟩ | ⟨absent, ⟨found, same, _⟩, _⟩
  · exact ⟨found, same, fun _ => spelled⟩
  · exact ⟨found, same, fun inside => absurd inside absent⟩

/-- Every column is found by its own name just if no exact name is used twice. -/
theorem indexOf?_own_iff :
    (∀ position name, layout.names[position]? = some name →
      layout.indexOf? name = some position) ↔ layout.names.Nodup := by
  rw [List.nodup_iff_getElem?_ne_getElem?]
  constructor
  · intro own before after front inside same
    have found := List.getElem?_eq_getElem inside
    have foundBefore := same.trans found
    have equal := (own before _ foundBefore).symm.trans (own after _ found)
    cases equal
    exact Nat.lt_irrefl _ front
  · intro distinct position name found
    refine indexOf?_eq_some_iff.mpr (.inl ⟨⟨name, found, rfl⟩, ?_⟩)
    rintro before front _ foundBefore rfl
    obtain ⟨inside, _⟩ := List.getElem?_eq_some_iff.mp found
    exact distinct before position front inside (foundBefore.trans found.symm)

theorem length_of_record {source rest : ByteSource} {row : Row}
    (read : RowStream.Reader.record layout source = .ok (some row, rest)) :
    row.cells.length = layout.names.length := by
  obtain ⟨_, _, fits, _⟩ := RowStream.Reader.Takes.record _ read
  rw [names, List.length_map]
  exact (accepts_iff.mp fits.accepted).arity

theorem get?_eq_some_iff {row : Row} {cell : Cell} :
    row.get? layout name = some cell ↔
      ∃ position, layout.Names name position ∧ row.cells[position]? = some cell := by
  rw [Row.get?, Option.bind_eq_some_iff]
  exact exists_congr fun _ => and_congr_left' indexOf?_eq_some_iff

theorem Names.exists_cell {row : Row} (stands : layout.Names name position)
    (arity : row.cells.length = layout.names.length) : ∃ cell, row.cells[position]? = some cell := by
  obtain ⟨_, same, _⟩ := stands.exists_name
  obtain ⟨inside, _⟩ := List.getElem?_eq_some_iff.mp same
  rw [← arity] at inside
  exact ⟨_, List.getElem?_eq_getElem inside⟩

/-- Every column is found by its own name just if no two columns have exactly the same name,
whatever the case of others. A name is looked up as `Names` says, and in vain only if no column has
it in any case. So a row that is read under a layout has a cell for each name of a column in any
case, and for an exact name the cell of a column with exactly this name. -/
theorem indexOf?_names (layout : Layout) :
    ((∀ position name, layout.names[position]? = some name →
        layout.indexOf? name = some position) ↔ layout.names.Nodup) ∧
      (∀ name position, layout.indexOf? name = some position ↔ layout.Names name position) ∧
      (∀ name, layout.indexOf? name = none ↔ ∀ other ∈ layout.names, ¬ IsSameName other name) ∧
      ∀ (source rest : ByteSource) (row : Row),
        RowStream.Reader.record layout source = .ok (some row, rest) → ∀ name,
          (∀ cell, row.get? layout name = some cell ↔
            ∃ position, layout.Names name position ∧ row.cells[position]? = some cell) ∧
          ((∃ cell, row.get? layout name = some cell) ↔
            ∃ other ∈ layout.names, IsSameName other name) ∧
          (name ∈ layout.names → ∃ (position : Nat) (cell : Cell),
            layout.names[position]? = some name ∧ row.cells[position]? = some cell ∧
              row.get? layout name = some cell) := by
  refine ⟨indexOf?_own_iff, fun _ _ => indexOf?_eq_some_iff, fun _ => indexOf?_eq_none_iff, ?_⟩
  intro source rest row read name
  have arity := length_of_record read
  have found {position : Nat} (stands : layout.Names name position) :
      ∃ cell, row.cells[position]? = some cell ∧ row.get? layout name = some cell := by
    obtain ⟨cell, held⟩ := stands.exists_cell arity
    exact ⟨cell, held, get?_eq_some_iff.mpr ⟨position, stands, held⟩⟩
  refine ⟨fun _ => get?_eq_some_iff, ?_, fun inside => ?_⟩
  · rw [← exists_names_iff]
    constructor
    · rintro ⟨cell, got⟩
      obtain ⟨position, stands, _⟩ := get?_eq_some_iff.mp got
      exact ⟨position, stands⟩
    · rintro ⟨position, stands⟩
      obtain ⟨cell, _, got⟩ := found stands
      exact ⟨cell, got⟩
  · obtain ⟨position, stands⟩ := exists_names_iff.mpr ⟨name, inside, isSameName_refl name⟩
    obtain ⟨_, same, spelled⟩ := stands.exists_name
    obtain ⟨cell, held, got⟩ := found stands
    exact ⟨position, cell, spelled inside ▸ same, held, got⟩

/-- Two columns whose names differ in case only: each is found by its own name, the first one also
by a third spelling. -/
theorem indexOf?_names_cases :
    let layout : Layout := ⟨[⟨"ID", .boolean⟩, ⟨"id", .boolean⟩]⟩
    let row : Row := ⟨[.boolean true, .boolean false]⟩
    layout.names.Nodup ∧ layout.indexOf? "id" = some 1 ∧ layout.indexOf? "Id" = some 0 ∧
      RowStream.Reader.record layout ⟨[1, 0, 1, 0, 0], .ends⟩ = .ok (some row, ⟨[], .ends⟩) ∧
      row.get? layout "id" = some (.boolean false) ∧ row.get? layout "Id" = some (.boolean true) := by
  intro layout row
  obtain ⟨own, index, _, rows⟩ := indexOf?_names layout
  have distinct : layout.names.Nodup := by decide
  have read : RowStream.Reader.record layout ⟨[1, 0, 1, 0, 0], .ends⟩ =
      .ok (some row, ⟨[], .ends⟩) := rfl
  have second : layout.indexOf? "id" = some 1 := own.mpr distinct 1 "id" rfl
  have first : layout.indexOf? "Id" = some 0 := rfl
  refine ⟨distinct, second, first, read, ?_, ?_⟩
  · exact ((rows _ _ row read "id").1 _).mpr ⟨1, (index "id" 1).mp second, rfl⟩
  · exact ((rows _ _ row read "Id").1 _).mpr ⟨0, (index "Id" 0).mp first, rfl⟩

end Layout

end VirtualTables
