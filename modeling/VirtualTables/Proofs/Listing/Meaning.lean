import Mathlib.Data.List.Forall2
import VirtualTables.Listing.Reader
import VirtualTables.Proofs.Markup.Forest

/-!
The services that a document describes, read off its elements.

`Describes` relates the elements of a document to services: each element `service` to one service
and each `value-meta` in it, at whatever depth, to one field. Names, types and dimensions are the
texts of direct children, of which the last with a tag counts. A document describes services as soon
as it `IsComplete`, and never more than one list of them.
-/

namespace VirtualTables.Listing

open Markup (Forest)

/-- The text of the last child with a tag, without the white space at its ends. -/
def lastText? (tag : String) (forest : Forest) : Option (List Char) :=
  (forest.children tag).getLast?.map fun content => Text.trim content.ownText

/-- A dimension is the number that a text writes, if there is one and it has 32 bits with a sign and
is not negative. -/
def IsDimension (text? : Option (List Char)) (dimension : Option Int32) : Prop :=
  ∀ size : Int32, dimension = some size ↔
    0 ≤ size ∧ ∃ text, text? = some text ∧
      Text.intOfText? Int32.minValue.toInt Int32.maxValue.toInt text = some size.toInt

structure DescribesField (content : Forest) (field : Service.Field) : Prop where
  name : lastText? "name" content = some field.name.toList
  type : ∃ text, lastText? "type" content = some text ∧
    CellType.ofName? (String.ofList text) = some field.type
  length : IsDimension (lastText? "length" content) field.length
  precision : IsDimension (lastText? "precision" content) field.precision

structure DescribesService (content : Forest) (service : Service) : Prop where
  name : lastText? "name" content = some service.name.toList
  named : service.name ≠ ""
  closed : "value-meta" ∉ content.selfClosedTags
  fields : List.Forall₂ DescribesField (content.descendants "value-meta") service.fields

structure Describes (forest : Forest) (services : List Service) : Prop where
  listing : "services" ∈ forest.tags
  closed : "service" ∉ forest.selfClosedTags
  services : List.Forall₂ DescribesService (forest.descendants "service") services

/-- What a field cannot do without. -/
structure IsCompleteField (content : Forest) : Prop where
  name : ∃ text, lastText? "name" content = some text
  type : ∃ text type, lastText? "type" content = some text ∧
    CellType.ofName? (String.ofList text) = some type

/-- What a document must have to describe services. -/
structure IsComplete (forest : Forest) : Prop where
  listing : "services" ∈ forest.tags
  closed : "service" ∉ forest.selfClosedTags
  fieldsClosed : ∀ service ∈ forest.descendants "service", "value-meta" ∉ service.selfClosedTags
  named : ∀ service ∈ forest.descendants "service",
    ∃ text, lastText? "name" service = some text ∧ text ≠ []
  fields : ∀ service ∈ forest.descendants "service",
    ∀ field ∈ service.descendants "value-meta", IsCompleteField field

/-- The elements whose text is read. -/
def leafTags : List String :=
  ["name", "type", "length", "precision"]

/-- Services, and fields, do not lie inside one another, and the elements whose text is read have
no elements in them. -/
structure IsRegular (forest : Forest) : Prop where
  services : ∀ content ∈ forest.descendants "service", content.descendants "service" = []
  fields : ∀ content ∈ forest.descendants "value-meta", content.descendants "value-meta" = []
  leaves : ∀ tag ∈ leafTags, ∀ content ∈ forest.descendants tag, content.tags = []

section Element

variable {tag other : String} {content rest : Forest}

theorem lastText?_element :
    lastText? tag (.element other content rest) =
      (lastText? tag rest).or (if other = tag then some (Text.trim content.ownText) else none) := by
  rw [lastText?, Forest.getLast?_children_element, Option.map_or]
  congr 1
  by_cases same : other = tag
  · rw [if_pos same, if_pos same]
    rfl
  · rw [if_neg same, if_neg same]
    rfl

theorem IsRegular.of_descendants {forest part : Forest} (regular : IsRegular forest)
    (kept : ∀ tag, part.descendants tag ⊆ forest.descendants tag) : IsRegular part where
  services content member := regular.services content (kept _ member)
  fields content member := regular.fields content (kept _ member)
  leaves tag isLeaf content member := regular.leaves tag isLeaf content (kept tag member)

theorem IsRegular.inside (regular : IsRegular (.element other content rest)) : IsRegular content :=
  regular.of_descendants fun _ _ member => Forest.mem_descendants_element.mpr (.inr (.inl member))

theorem IsRegular.behind (regular : IsRegular (.element other content rest)) : IsRegular rest :=
  regular.of_descendants fun _ _ member => Forest.mem_descendants_element.mpr (.inr (.inr member))

theorem IsRegular.behindSelfClosed (regular : IsRegular (.selfClosed tag rest)) : IsRegular rest :=
  regular.of_descendants fun _ => List.Subset.refl _

theorem IsRegular.behindText {text : List Char} (regular : IsRegular (.text text rest)) :
    IsRegular rest :=
  regular.of_descendants fun _ => List.Subset.refl _

theorem IsRegular.behindVerbatim {text : List Char} (regular : IsRegular (.verbatim text rest)) :
    IsRegular rest :=
  regular.of_descendants fun _ => List.Subset.refl _

theorem IsRegular.leafText (regular : IsRegular (.element tag content rest))
    (isLeaf : tag ∈ leafTags) : content.textBehind [] = content.ownText :=
  Forest.textBehind_of_childless
    (regular.leaves tag isLeaf content (Forest.mem_descendants_element.mpr (.inl ⟨rfl, rfl⟩))) []

end Element

theorem dimension?_eq_some_iff {text : List Char} {size : Int32} :
    dimension? text = some size ↔ 0 ≤ size ∧
      Text.intOfText? Int32.minValue.toInt Int32.maxValue.toInt text = some size.toInt := by
  rw [dimension?, Option.filter_eq_some_iff, Option.map_eq_some_iff, decide_eq_true_iff, and_comm]
  refine and_congr_right fun _ => ⟨?_, fun read => ⟨_, read, Int32.ofInt_toInt size⟩⟩
  rintro ⟨value, read, rfl⟩
  -- The number that is read has 32 bits, so nothing of it is lost.
  obtain ⟨low, high⟩ := Text.bounds_of_intOfText? read
  rw [read, Int32.toInt_ofInt_of_le low (Int.lt_add_one_of_le high)]

theorem isDimension_bind (text? : Option (List Char)) :
    IsDimension text? (text?.bind dimension?) := by
  intro size
  rw [Option.bind_eq_some_iff, ← exists_and_left]
  refine exists_congr fun text => ?_
  rw [dimension?_eq_some_iff, and_left_comm]

theorem IsDimension.unique {text? : Option (List Char)} {dimension : Option Int32}
    (isDimension : IsDimension text? dimension) : dimension = text?.bind dimension? := by
  refine Option.ext fun size => ?_
  rw [isDimension size, ← isDimension_bind text? size]

theorem exists_forall₂_iff {Part Item : Type} {relates : Part → Item → Prop} {parts : List Part} :
    (∃ items, List.Forall₂ relates parts items) ↔ ∀ part ∈ parts, ∃ item, relates part item := by
  induction parts with
  | nil => simp
  | cons part parts inductionHypothesis =>
      rw [List.forall_mem_cons, ← inductionHypothesis]
      constructor
      · rintro ⟨items, related⟩
        cases related with
        | cons first others => exact ⟨⟨_, first⟩, _, others⟩
      · rintro ⟨⟨item, first⟩, items, others⟩
        exact ⟨item :: items, .cons first others⟩

theorem exists_describesField_iff {content : Forest} :
    (∃ field, DescribesField content field) ↔ IsCompleteField content := by
  constructor
  · rintro ⟨field, described⟩
    obtain ⟨text, isLast, isType⟩ := described.type
    exact ⟨⟨_, described.name⟩, text, field.type, isLast, isType⟩
  · rintro ⟨⟨name, isName⟩, text, type, isLast, isType⟩
    refine ⟨⟨String.ofList name, type, _, _⟩, ?_, ⟨text, isLast, isType⟩, isDimension_bind _,
      isDimension_bind _⟩
    rw [isName, String.toList_ofList]

theorem exists_describesService_iff {content : Forest} :
    (∃ service, DescribesService content service) ↔
      "value-meta" ∉ content.selfClosedTags ∧
        (∃ text, lastText? "name" content = some text ∧ text ≠ []) ∧
          ∀ field ∈ content.descendants "value-meta", IsCompleteField field := by
  simp only [← exists_describesField_iff, ← exists_forall₂_iff]
  constructor
  · rintro ⟨service, described⟩
    refine ⟨described.closed, ⟨_, described.name, ?_⟩, _, described.fields⟩
    intro nothing
    exact described.named (String.toList_eq_nil_iff.mp nothing)
  · rintro ⟨closed, ⟨text, isName, nonempty⟩, fields, described⟩
    refine ⟨⟨String.ofList text, fields⟩, ?_, ?_, closed, described⟩
    · rw [isName, String.toList_ofList]
    · intro nothing
      exact nonempty (String.ofList_eq_empty_iff.mp nothing)

/-- A document describes services exactly when it is complete. -/
theorem exists_describes_iff {forest : Forest} :
    (∃ services, Describes forest services) ↔ IsComplete forest := by
  have all : (∃ services, List.Forall₂ DescribesService (forest.descendants "service") services) ↔
      ∀ content ∈ forest.descendants "service", ∃ service, DescribesService content service :=
    exists_forall₂_iff
  simp only [exists_describesService_iff] at all
  constructor
  · rintro ⟨services, described⟩
    have complete := all.mp ⟨services, described.services⟩
    exact ⟨described.listing, described.closed, fun service member => (complete service member).1,
      fun service member => (complete service member).2.1,
      fun service member => (complete service member).2.2⟩
  · intro complete
    obtain ⟨services, described⟩ := all.mpr fun service member =>
      ⟨complete.fieldsClosed service member, complete.named service member,
        complete.fields service member⟩
    exact ⟨services, complete.listing, complete.closed, described⟩

end VirtualTables.Listing
