import Mathlib.Data.List.Forall2
import Mathlib.Tactic.Choose
import VirtualTables.Listing.Service
import VirtualTables.Proofs.Markup.Written

/-!
The documents that list services.

There are many for the same services: blanks may stand between any elements, an XML declaration may
stand in front, and a dimension that is absent is written as -1 or left out.
-/

namespace VirtualTables

open Text (IsStripped isBlank)

/-- The fields that a listing can hold: white space at the ends of a name is lost, and so is a
negative dimension. -/
structure Service.Field.IsListable (field : Service.Field) : Prop where
  name : IsStripped isBlank field.name.toList
  length : ∀ size ∈ field.length, 0 ≤ size
  precision : ∀ size ∈ field.precision, 0 ≤ size

structure Service.IsListable (service : Service) : Prop where
  named : service.name ≠ ""
  name : IsStripped isBlank service.name.toList
  fields : ∀ field ∈ service.fields, field.IsListable

namespace Listing

open Markup (Spaced IsProlog element leaf)

/-- The element, if there is one, for a length or a number of places. -/
inductive WritesDimension (tag : String) : Option Int32 → List (List Char) → Prop where
  | given {size : Int32} (nonnegative : 0 ≤ size) :
      WritesDimension tag (some size) [leaf tag (Nat.toDigits 10 size.toInt.toNat)]
  | negative : WritesDimension tag none [leaf tag "-1".toList]
  | leftOut : WritesDimension tag none []

inductive WritesField : Service.Field → List Char → Prop where
  | valueMeta {field : Service.Field} {length precision : List (List Char)} {content : List Char}
      (writesLength : WritesDimension "length" field.length length)
      (writesPrecision : WritesDimension "precision" field.precision precision)
      (children : Spaced (leaf "type" field.type.name.toList :: leaf "name" field.name.toList ::
        (length ++ precision)) content) :
      WritesField field (element "value-meta" content)

inductive WritesService : Service → List Char → Prop where
  | service {service : Service} {fields : List (List Char)} {rows content : List Char}
      (writesFields : List.Forall₂ WritesField service.fields fields)
      (valueMetas : Spaced fields rows)
      (children : Spaced [leaf "name" service.name.toList, element "row-meta" rows] content) :
      WritesService service (element "service" content)

inductive WritesListing : List Service → List Char → Prop where
  | services {services : List Service} {parts : List (List Char)} {prolog content root : List Char}
      (writesServices : List.Forall₂ WritesService services parts) (children : Spaced parts content)
      (isProlog : IsProlog prolog) (isRoot : Spaced [element "services" content] root) :
      WritesListing services (prolog ++ root)

theorem exists_writesDimension (tag : String) {dimension : Option Int32}
    (nonnegative : ∀ size ∈ dimension, 0 ≤ size) : ∃ parts, WritesDimension tag dimension parts := by
  cases dimension with
  | none => exact ⟨[], .leftOut⟩
  | some size => exact ⟨_, .given (nonnegative size rfl)⟩

theorem exists_writesField {field : Service.Field} (listable : field.IsListable) :
    ∃ part, WritesField field part := by
  obtain ⟨length, writesLength⟩ := exists_writesDimension "length" listable.length
  obtain ⟨precision, writesPrecision⟩ := exists_writesDimension "precision" listable.precision
  obtain ⟨content, children⟩ := Markup.exists_spaced (leaf "type" field.type.name.toList ::
    leaf "name" field.name.toList :: (length ++ precision))
  exact ⟨_, .valueMeta writesLength writesPrecision children⟩

theorem exists_writesService {service : Service} (listable : service.IsListable) :
    ∃ part, WritesService service part := by
  choose! part writesPart using fun field => @exists_writesField field
  have writesFields : List.Forall₂ WritesField service.fields (service.fields.map part) :=
    List.forall₂_map_right_iff.mpr
      (List.forall₂_same.mpr fun field inside => writesPart field (listable.fields field inside))
  obtain ⟨rows, valueMetas⟩ := Markup.exists_spaced (service.fields.map part)
  obtain ⟨content, children⟩ :=
    Markup.exists_spaced [leaf "name" service.name.toList, element "row-meta" rows]
  exact ⟨_, .service writesFields valueMetas children⟩

theorem exists_writesListing {services : List Service}
    (listable : ∀ service ∈ services, service.IsListable) :
    ∃ document, WritesListing services document := by
  choose! part writesPart using fun service => @exists_writesService service
  have writesServices : List.Forall₂ WritesService services (services.map part) :=
    List.forall₂_map_right_iff.mpr
      (List.forall₂_same.mpr fun service inside => writesPart service (listable service inside))
  obtain ⟨content, children⟩ := Markup.exists_spaced (services.map part)
  obtain ⟨root, isRoot⟩ := Markup.exists_spaced [element "services" content]
  exact ⟨[] ++ root, .services writesServices children .nothing isRoot⟩

end Listing

end VirtualTables
