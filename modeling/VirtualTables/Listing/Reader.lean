import VirtualTables.Listing.Service
import VirtualTables.Markup.Event

/-!
Reading the services from a listing document.

The document has an element `services`. Each `service` inside it has a `name` and any number of
`value-meta`, and each of those a `name`, a `type` and perhaps a `length` and a `precision`; a
dimension that is no number or negative counts as absent. Other elements are passed over, and
elements may stand at any depth; where one is given twice, the last counts.

`Progress.step` takes one event of the document. The text of an element is gathered from its last
start tag on, and what is done with it is decided at its end tag.
-/

namespace VirtualTables

open Markup (Event)

inductive ListingFault where
  | malformed (fault : Markup.Fault)
  /-- A service has no name, or an empty one. -/
  | namelessService
  | emptyField
  | namelessField (service : Option String)
  | typelessField (field : String) (service : Option String)
  | unknownType (field : String) (service : Option String) (type : String)
  | unbalanced
  /-- The document ends within elements, of which the outermost comes first. -/
  | unfinished (path : List String)
  | noListing
deriving DecidableEq

namespace ListingFault

def owner (service : Option String) : String :=
  service.getD "<unnamed>"

def message : ListingFault → String
  | .malformed fault => "Malformed service listing: " ++ fault.message
  | .namelessService => "Service entry has no <name>"
  | .emptyField => "Service field has no <name>"
  | .namelessField service => "Field of service '" ++ owner service ++ "' has no <name>"
  | .typelessField field service =>
      "Field '" ++ field ++ "' of service '" ++ owner service ++ "' has no <type>"
  | .unknownType field service type =>
      "Field '" ++ field ++ "' of service '" ++ owner service ++ "' has unknown type '" ++
        type ++ "'"
  | .unbalanced => "Unbalanced service listing"
  | .unfinished path => "Service listing ends inside <" ++ "/".intercalate path ++ ">"
  | .noListing => "Service listing has no <services> element"

end ListingFault

namespace Listing

structure PendingField where
  name : Option String
  type : Option String
  length : Option Int32
  precision : Option Int32

structure PendingService where
  name : Option String
  fields : List Service.Field

structure Progress where
  /-- The names of the open elements, the innermost first. -/
  path : List String
  /-- The text gathered since the last tag that discards it. -/
  text : List Char
  sawListing : Bool
  services : List Service
  service : Option PendingService
  field : Option PendingField

def Progress.start : Progress :=
  ⟨[], [], false, [], none, none⟩

/-- A length or number of places: a number from 0 to 2147483647, with a plus sign or not. -/
def dimension? (text : List Char) : Option Int32 :=
  ((Text.intOfText? Int32.minValue.toInt Int32.maxValue.toInt text).map Int32.ofInt).filter (0 ≤ ·)

def PendingField.finish (field : PendingField) (service : Option String) :
    Except ListingFault Service.Field :=
  match field.name, field.type with
  | none, _ => .error (.namelessField service)
  | some name, none => .error (.typelessField name service)
  | some name, some type =>
      match CellType.ofName? type with
      | none => .error (.unknownType name service type)
      | some found => .ok ⟨name, found, field.length, field.precision⟩

def PendingService.finish (service : PendingService) : Except ListingFault Service :=
  match service.name with
  | none => .error .namelessService
  | some name => if name.isEmpty then .error .namelessService else .ok ⟨name, service.fields⟩

namespace Progress

def atTop (progress : Progress) : Bool :=
  progress.path.isEmpty

def opening (progress : Progress) (tag : String) : Progress :=
  let entered : Progress :=
    if tag = "services" ∧ progress.atTop then { progress with sawListing := true }
    else if tag = "service" then { progress with service := some ⟨none, []⟩ }
    else if tag = "value-meta" ∧ progress.service.isSome then
      { progress with field := some ⟨none, none, none, none⟩ }
    else progress
  { entered with path := tag :: progress.path, text := [] }

def empty (progress : Progress) (tag : String) : Except ListingFault Progress :=
  if tag = "services" ∧ progress.atTop then .ok { progress with sawListing := true }
  else if tag = "service" then .error .namelessService
  else if tag = "value-meta" ∧ progress.service.isSome then .error .emptyField
  else .ok progress

def inField (progress : Progress) (change : PendingField → PendingField) : Progress :=
  { progress with field := progress.field.map change }

def endField (progress : Progress) : Except ListingFault Progress :=
  match progress.field, progress.service with
  | some field, some service =>
      match field.finish service.name with
      | .error fault => .error fault
      | .ok finished =>
          .ok { progress with
            field := none
            service := some { service with fields := service.fields ++ [finished] } }
  | _, _ => .ok { progress with field := none }

def endService (progress : Progress) : Except ListingFault Progress :=
  match progress.service with
  | none => .ok progress
  | some service =>
      match service.finish with
      | .error fault => .error fault
      | .ok finished =>
          .ok { progress with service := none, services := progress.services ++ [finished] }

/-- After an end tag, with the text of the element and the element around it. -/
def closed (progress : Progress) (tag : String) (parent : Option String) (text : List Char) :
    Except ListingFault Progress :=
  let value := String.ofList text
  match tag, parent with
  | "name", some "value-meta" => .ok (progress.inField ({ · with name := some value }))
  | "type", some "value-meta" => .ok (progress.inField ({ · with type := some value }))
  | "length", some "value-meta" => .ok (progress.inField ({ · with length := dimension? text }))
  | "precision", some "value-meta" =>
      .ok (progress.inField ({ · with precision := dimension? text }))
  | "name", some "service" =>
      .ok { progress with service := progress.service.map ({ · with name := some value }) }
  | "value-meta", _ => progress.endField
  | "service", _ => progress.endService
  | _, _ => .ok progress

def step (progress : Progress) : Event → Except ListingFault Progress
  | .opening name => .ok (progress.opening (String.ofList name))
  | .empty name => progress.empty (String.ofList name)
  | .text content => .ok { progress with text := progress.text ++ content }
  | .verbatim content => .ok { progress with text := progress.text ++ content }
  | .closing _ =>
      match progress.path with
      | [] => .error .unbalanced
      | tag :: path =>
          { progress with path, text := [] }.closed tag path.head? (Text.trim progress.text)

def run (progress : Progress) : List Event → Except ListingFault Progress
  | [] => .ok progress
  | event :: events =>
      match progress.step event with
      | .error fault => .error fault
      | .ok after => after.run events

theorem run_cons {before after : Progress} {event : Event}
    (stepped : before.step event = .ok after) (events : List Event) :
    before.run (event :: events) = after.run events := by
  rw [run, stepped]

theorem run_append_eq (before : Progress) (found more : List Event) :
    before.run (found ++ more) =
      match before.run found with
      | .error fault => .error fault
      | .ok inside => inside.run more := by
  induction found generalizing before with
  | nil => rfl
  | cons event found inductionHypothesis =>
      rw [List.cons_append, run, run]
      cases before.step event with
      | error fault => rfl
      | ok inside => exact inductionHypothesis inside

theorem run_append {before inside : Progress} {found : List Event}
    (ran : before.run found = .ok inside) (more : List Event) :
    before.run (found ++ more) = inside.run more := by
  rw [run_append_eq, ran]

def finish (progress : Progress) : Except ListingFault (List Service) :=
  if !progress.path.isEmpty then .error (.unfinished progress.path.reverse)
  else if !progress.sawListing then .error .noListing
  else .ok progress.services

end Progress

def services (document : String) : Except ListingFault (List Service) :=
  let (events, fault?) := Markup.scan document.toList
  match Progress.start.run events, fault? with
  | .error fault, _ => .error fault
  | .ok _, some fault => .error (.malformed fault)
  | .ok progress, none => progress.finish

end Listing

end VirtualTables
