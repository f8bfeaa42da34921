import Mathlib.Data.Option.Defs
import VirtualTables.Proofs.Listing.Elements
import VirtualTables.Proofs.Listing.Outcome

/-!
Reading two documents side by side.

A `Likeness` says how the texts that are gathered in the two may differ, and what then becomes of
the values that are read from them. Two states that are `Alike` make the same steps and stay so
(`Alike.step`). So what one document is read as, the other is read as too, up to the likeness of its
values (`Alike.outcome`). A text matters only where it is read, and the pending field only where an
end tag can still complete it.
-/

namespace VirtualTables.Listing

open Markup (Event)

def IsRead : List String → Prop
  | tag :: outer :: _ => tag ∈ leafTags ∧ outer = "value-meta" ∨ tag = "name" ∧ outer = "service"
  | _ => False

instance : DecidablePred IsRead
  | [] => .isFalse id
  | [_] => .isFalse id
  | _ :: _ :: _ => inferInstanceAs (Decidable (_ ∨ _))

/-- The innermost open element that has a record of its own. -/
def holder (path : List String) : Option String :=
  path.find? fun tag => tag = "service" ∨ tag = "value-meta"

theorem holder_cons_of_other {tag : String} (noService : tag ≠ "service")
    (noField : tag ≠ "value-meta") (path : List String) : holder (tag :: path) = holder path := by
  simp [holder, noService, noField]

section Rel

variable {Item : Type} {relates : Item → Item → Prop} {item? other? : Option Item}

theorem isSome_of_rel (related : Option.Rel relates item? other?) :
    other?.isSome = item?.isSome := by
  cases related with
  | some => rfl
  | none => rfl

theorem rel_refl (same : ∀ item, relates item item) (item? : Option Item) :
    Option.Rel relates item? item? := by
  cases item? with
  | some item => exact .some (same item)
  | none => exact .none

theorem rel_map {change change' : Item → Item} (related : Option.Rel relates item? other?)
    (changes : ∀ {item other}, relates item other → relates (change item) (change' other)) :
    Option.Rel relates (item?.map change) (other?.map change') := by
  cases related with
  | some related => exact .some (changes related)
  | none => exact .none

end Rel

structure Likeness where
  texts : List Char → List Char → Prop
  values : String → String → Prop
  sizes : Option Int32 → Option Int32 → Prop
  sameText (text : List Char) : texts text text
  sameValue (value : String) : values value value
  sameSize (size : Option Int32) : sizes size size
  append {first second : List Char} (alike : texts first second) (more : List Char) :
    texts (first ++ more) (second ++ more)
  value {first second : List Char} (alike : texts first second) :
    values (String.ofList (Text.trim first)) (String.ofList (Text.trim second))
  size {first second : List Char} (alike : texts first second) :
    sizes (dimension? (Text.trim first)) (dimension? (Text.trim second))
  named {first second : String} (alike : values first second) (nonempty : first ≠ "") : second ≠ ""
  typed {first second : String} (alike : values first second) {type : CellType}
    (isType : CellType.ofName? first = some type) : CellType.ofName? second = some type

namespace Likeness

structure Fields (likeness : Likeness) (first second : Service.Field) : Prop where
  name : likeness.values first.name second.name
  type : second.type = first.type
  length : likeness.sizes first.length second.length
  precision : likeness.sizes first.precision second.precision

structure Services (likeness : Likeness) (first second : Service) : Prop where
  name : likeness.values first.name second.name
  fields : List.Forall₂ likeness.Fields first.fields second.fields

structure PendingFields (likeness : Likeness) (first second : PendingField) : Prop where
  name : Option.Rel likeness.values first.name second.name
  type : Option.Rel likeness.values first.type second.type
  length : likeness.sizes first.length second.length
  precision : likeness.sizes first.precision second.precision

structure PendingServices (likeness : Likeness) (first second : PendingService) : Prop where
  name : Option.Rel likeness.values first.name second.name
  fields : List.Forall₂ likeness.Fields first.fields second.fields

variable {likeness : Likeness}

theorem PendingFields.finish {first second : PendingField} {field : Service.Field}
    {service : Option String} (alike : likeness.PendingFields first second)
    (finishes : first.finish service = .ok field) (other : Option String) :
    ∃ behind, second.finish other = .ok behind ∧ likeness.Fields field behind := by
  obtain ⟨name, type, length, precision⟩ := first
  obtain ⟨name', type', length', precision'⟩ := second
  obtain ⟨names, types, lengths, precisions⟩ := alike
  cases names with
  | none => cases finishes
  | @some name name' names =>
      cases types with
      | none => cases finishes
      | @some type type' types =>
          simp only [PendingField.finish] at finishes
          cases isType : CellType.ofName? type with
          | none => simp [isType] at finishes
          | some found =>
              rw [isType] at finishes
              cases finishes
              have isType : CellType.ofName? type' = some found := likeness.typed types isType
              refine ⟨⟨name', found, length', precision'⟩, ?_, names, rfl, lengths, precisions⟩
              simp only [PendingField.finish, isType]

theorem PendingServices.finish {first second : PendingService} {service : Service}
    (alike : likeness.PendingServices first second) (finishes : first.finish = .ok service) :
    ∃ other, second.finish = .ok other ∧ likeness.Services service other := by
  obtain ⟨name, fields⟩ := first
  obtain ⟨name', fields'⟩ := second
  obtain ⟨names, alikeFields⟩ := alike
  cases names with
  | none => cases finishes
  | @some name name' names =>
      simp only [PendingService.finish] at finishes
      split at finishes
      · cases finishes
      · next nonempty =>
          cases finishes
          have nonempty' : ¬ name'.isEmpty = true := by
            rw [String.isEmpty_iff] at nonempty ⊢
            exact likeness.named names nonempty
          refine ⟨⟨name', fields'⟩, ?_, names, alikeFields⟩
          simp only [PendingService.finish, if_neg nonempty']

theorem PendingFields.note {first second : PendingField} {text other : List Char}
    (alike : likeness.PendingFields first second) (texts : likeness.texts text other)
    (tag : String) :
    likeness.PendingFields (first.note tag (Text.trim text))
      (second.note tag (Text.trim other)) := by
  unfold PendingField.note
  split
  · exact { alike with name := .some (likeness.value texts) }
  · exact { alike with type := .some (likeness.value texts) }
  · exact { alike with length := likeness.size texts }
  · exact { alike with precision := likeness.size texts }
  · exact alike

theorem Fields.refl (field : Service.Field) : likeness.Fields field field :=
  ⟨likeness.sameValue field.name, rfl, likeness.sameSize field.length,
    likeness.sameSize field.precision⟩

theorem Services.refl (service : Service) : likeness.Services service service :=
  ⟨likeness.sameValue service.name, List.forall₂_same.mpr fun field _ => .refl field⟩

theorem PendingFields.refl (field : PendingField) : likeness.PendingFields field field :=
  ⟨rel_refl likeness.sameValue field.name, rel_refl likeness.sameValue field.type,
    likeness.sameSize field.length, likeness.sameSize field.precision⟩

theorem PendingServices.refl (service : PendingService) :
    likeness.PendingServices service service :=
  ⟨rel_refl likeness.sameValue service.name, List.forall₂_same.mpr fun field _ => .refl field⟩

end Likeness

/-- Two documents have been read alike. -/
structure Alike (likeness : Likeness) (first second : Progress) : Prop where
  path : second.path = first.path
  sawListing : second.sawListing = first.sawListing
  services : List.Forall₂ likeness.Services first.services second.services
  service : Option.Rel likeness.PendingServices first.service second.service
  /-- A field that no end tag completes may differ. -/
  field : Option.Rel likeness.PendingFields first.field second.field ∨ first.service = none ∨
    holder first.path = some "service"
  text : IsRead first.path → likeness.texts first.text second.text

section Alike

variable {likeness : Likeness} {first second after : Progress}

/-- States are alike if they differ in nothing but texts that are alike or not read, and in a field
without a service. -/
theorem Alike.of_same (progress : Progress) {text other : List Char} {field : Option PendingField}
    (texts : IsRead progress.path → likeness.texts text other)
    (fields : field = progress.field ∨ progress.service = none) :
    Alike likeness { progress with text } { progress with text := other, field } where
  path := rfl
  sawListing := rfl
  services := List.forall₂_same.mpr fun service _ => .refl service
  service := rel_refl .refl progress.service
  field := by
    rcases fields with rfl | noService
    · exact .inl (rel_refl .refl progress.field)
    · exact .inr (.inl noService)
  text := texts

theorem Alike.opening (alike : Alike likeness first second) (tag : String) :
    Alike likeness (first.opening tag) (second.opening tag) := by
  have path : tag :: second.path = tag :: first.path := congrArg _ alike.path
  have atTop : second.atTop = first.atTop := congrArg List.isEmpty alike.path
  unfold Progress.opening
  rw [atTop, isSome_of_rel alike.service]
  by_cases isListing : tag = "services" ∧ first.atTop = true
  · simp only [if_pos isListing]
    obtain ⟨rfl, -⟩ := isListing
    refine ⟨path, rfl, alike.services, alike.service, ?_, fun _ => likeness.sameText []⟩
    rw [holder_cons_of_other (by decide) (by decide)]
    exact alike.field
  · simp only [if_neg isListing]
    by_cases isService : tag = "service"
    · subst isService
      exact ⟨path, alike.sawListing, alike.services, .some ⟨.none, .nil⟩,
        .inr (.inr rfl), fun _ => likeness.sameText []⟩
    · simp only [if_neg isService]
      by_cases isField : tag = "value-meta" ∧ first.service.isSome = true
      · simp only [if_pos isField]
        exact ⟨path, alike.sawListing, alike.services, alike.service,
          .inl (.some ⟨.none, .none, likeness.sameSize none, likeness.sameSize none⟩),
          fun _ => likeness.sameText []⟩
      · simp only [if_neg isField]
        refine ⟨path, alike.sawListing, alike.services, alike.service, ?_,
          fun _ => likeness.sameText []⟩
        by_cases outside : tag = "value-meta"
        -- No field begins outside a service, and no end tag completes one there.
        · have noService : first.service = none := by simpa [outside] using isField
          exact .inr (.inl noService)
        · rw [holder_cons_of_other isService outside]
          exact alike.field

theorem Alike.empty {tag : String} (alike : Alike likeness first second)
    (passes : first.empty tag = .ok after) :
    ∃ other, second.empty tag = .ok other ∧ Alike likeness after other := by
  have atTop : second.atTop = first.atTop := congrArg List.isEmpty alike.path
  unfold Progress.empty at passes ⊢
  rw [atTop, isSome_of_rel alike.service]
  split
  · next isListing =>
      rw [if_pos isListing] at passes
      cases passes
      exact ⟨_, rfl, { alike with sawListing := rfl }⟩
  · next noListing =>
      rw [if_neg noListing] at passes
      split
      · next isService =>
          rw [if_pos isService] at passes
          cases passes
      · next noService =>
          rw [if_neg noService] at passes
          split
          · next isField =>
              rw [if_pos isField] at passes
              cases passes
          · next noField =>
              rw [if_neg noField] at passes
              cases passes
              exact ⟨second, rfl, alike⟩

theorem Alike.append (alike : Alike likeness first second) (more : List Char) :
    Alike likeness { first with text := first.text ++ more }
      { second with text := second.text ++ more } :=
  { alike with text := fun isRead => likeness.append (alike.text isRead) more }

theorem Alike.popped {tag : String} {path : List String} (alike : Alike likeness first second)
    (isPath : first.path = tag :: path) (noService : tag ≠ "service")
    (noField : tag ≠ "value-meta") :
    Alike likeness { first with path, text := [] } { second with path, text := [] } := by
  refine { alike with path := rfl, field := ?_, text := fun _ => likeness.sameText [] }
  have field := alike.field
  rwa [isPath, holder_cons_of_other noService noField] at field

theorem closed_leaf {tag : String} (isLeaf : tag ∈ leafTags) (progress : Progress)
    (text : List Char) :
    progress.closed tag (some "value-meta") text = .ok (progress.inField (·.note tag text)) := by
  simp only [leafTags, List.mem_cons, List.not_mem_nil, or_false] at isLeaf
  rcases isLeaf with rfl | rfl | rfl | rfl
  · rfl
  · rfl
  · rfl
  · rfl

theorem closed_of_unread {tag : String} {path : List String} {progress : Progress}
    {text : List Char} (noService : tag ≠ "service") (noField : tag ≠ "value-meta")
    (unread : ¬ IsRead (tag :: path)) : progress.closed tag path.head? text = .ok progress := by
  have noChild (outer : String) (isOuter : path.head? = some outer) :
      ¬ (tag ∈ leafTags ∧ outer = "value-meta" ∨ tag = "name" ∧ outer = "service") := by
    obtain ⟨behind, rfl⟩ := List.head?_eq_some_iff.mp isOuter
    exact unread
  exact closed_of_other noService noField
    (fun isOuter isLeaf => noChild _ isOuter (.inl ⟨isLeaf, rfl⟩))
    (fun isOuter isName => noChild _ isOuter (.inr ⟨isName, rfl⟩))

theorem Alike.inField {change change' : PendingField → PendingField}
    (alike : Alike likeness first second)
    (changes : ∀ {field field'}, likeness.PendingFields field field' →
      likeness.PendingFields (change field) (change' field')) :
    Alike likeness (first.inField change) (second.inField change') :=
  { alike with field := alike.field.imp_left fun fields => rel_map fields changes }

theorem Alike.named {text other : List Char} (alike : Alike likeness first second)
    (texts : likeness.texts text other) :
    Alike likeness
      { first with service :=
          first.service.map ({ · with name := some (String.ofList (Text.trim text)) }) }
      { second with service :=
          second.service.map ({ · with name := some (String.ofList (Text.trim other)) }) } := by
  refine { alike with service := rel_map alike.service fun services => ?_, field := ?_ }
  · exact { services with name := .some (likeness.value texts) }
  · refine alike.field.imp_right (Or.imp_left fun noService => ?_)
    dsimp only
    rw [noService, Option.map_none]

theorem endField_of_none {progress : Progress}
    (unused : progress.field = none ∨ progress.service = none) :
    progress.endField = .ok { progress with field := none } := by
  unfold Progress.endField
  split
  · next isField isService => simp [isField, isService] at unused
  · rfl

theorem Alike.endField {path : List String} (alike : Alike likeness first second)
    (isPath : first.path = "value-meta" :: path)
    (closes : Progress.endField { first with path, text := [] } = .ok after) :
    ∃ other, Progress.endField { second with path, text := [] } = .ok other ∧
      Alike likeness after other := by
  -- The element that ends is the innermost with a record, so that the fields may differ only
  -- without a service.
  have fields : Option.Rel likeness.PendingFields first.field second.field ∨
      first.service = none := by
    have noService : holder first.path ≠ some "service" := by
      rw [isPath]
      exact (by decide : some "value-meta" ≠ some "service")
    exact alike.field.imp_right fun others => others.resolve_right noService
  obtain ⟨_, text, saw, found, service, field⟩ := first
  obtain ⟨_, text', saw', found', service', field'⟩ := second
  cases alike.service with
  | none =>
      rw [endField_of_none (.inr rfl)] at closes
      cases closes
      exact ⟨_, endField_of_none (.inr rfl),
        { alike with path := rfl, field := .inl .none, text := fun _ => likeness.sameText [] }⟩
  | @some service service' services =>
      cases fields.resolve_right (Option.some_ne_none service) with
      | none =>
          rw [endField_of_none (.inl rfl)] at closes
          cases closes
          exact ⟨_, endField_of_none (.inl rfl),
            { alike with path := rfl, field := .inl .none, text := fun _ => likeness.sameText [] }⟩
      | @some field field' pending =>
          simp only [Progress.endField] at closes
          cases finishes : field.finish service.name with
          | error fault => simp [finishes] at closes
          | ok finished =>
              rw [finishes] at closes
              cases closes
              obtain ⟨other, finishes', alikeFields⟩ := pending.finish finishes service'.name
              refine ⟨_, by simp only [Progress.endField, finishes']; rfl, ?_⟩
              have all := List.rel_append services.fields (.cons alikeFields .nil)
              exact { alike with
                path := rfl
                service := .some ⟨services.name, all⟩
                field := .inl .none
                text := fun _ => likeness.sameText [] }

theorem Alike.endService (alike : Alike likeness first second) (path : List String)
    (closes : Progress.endService { first with path, text := [] } = .ok after) :
    ∃ other, Progress.endService { second with path, text := [] } = .ok other ∧
      Alike likeness after other := by
  obtain ⟨_, text, saw, found, service, field⟩ := first
  obtain ⟨_, text', saw', found', service', field'⟩ := second
  cases alike.service with
  | none =>
      cases closes
      exact ⟨_, rfl,
        { alike with path := rfl, field := .inr (.inl rfl), text := fun _ => likeness.sameText [] }⟩
  | @some service service' services =>
      simp only [Progress.endService] at closes
      cases finishes : service.finish with
      | error fault => simp [finishes] at closes
      | ok finished =>
          rw [finishes] at closes
          cases closes
          obtain ⟨other, finishes', alikeServices⟩ := services.finish finishes
          refine ⟨_, by simp only [Progress.endService, finishes']; rfl, ?_⟩
          have all := List.rel_append alike.services (.cons alikeServices .nil)
          exact { alike with
            path := rfl
            services := all
            service := .none
            field := .inr (.inl rfl)
            text := fun _ => likeness.sameText [] }

/-- What an end tag does with the text is the same if the text is read, and nothing otherwise. -/
theorem Alike.closed {tag : String} {path : List String} (alike : Alike likeness first second)
    (isPath : first.path = tag :: path)
    (closes : Progress.closed { first with path, text := [] } tag path.head?
      (Text.trim first.text) = .ok after) :
    ∃ other, Progress.closed { second with path, text := [] } tag path.head?
        (Text.trim second.text) = .ok other ∧ Alike likeness after other := by
  by_cases isService : tag = "service"
  · subst isService
    exact alike.endService path closes
  by_cases isField : tag = "value-meta"
  · subst isField
    exact alike.endField isPath closes
  have popped := alike.popped isPath isService isField
  by_cases isRead : IsRead (tag :: path)
  · have texts := alike.text (isPath ▸ isRead)
    cases path with
    | nil => exact isRead.elim
    | cons outer path =>
        rcases isRead with ⟨isLeaf, rfl⟩ | ⟨rfl, rfl⟩
        · rw [List.head?_cons, closed_leaf isLeaf] at closes
          cases closes
          exact ⟨_, closed_leaf isLeaf _ _, popped.inField fun fields => fields.note texts tag⟩
        · cases closes
          exact ⟨_, rfl, popped.named texts⟩
  · rw [closed_of_unread isService isField isRead] at closes
    cases closes
    exact ⟨_, closed_of_unread isService isField isRead, popped⟩

theorem Alike.step {event : Event} (alike : Alike likeness first second)
    (stepped : first.step event = .ok after) :
    ∃ other, second.step event = .ok other ∧ Alike likeness after other := by
  cases event with
  | opening name =>
      cases stepped
      exact ⟨_, rfl, alike.opening (String.ofList name)⟩
  | empty name => exact alike.empty stepped
  | text content =>
      cases stepped
      exact ⟨_, rfl, alike.append content⟩
  | verbatim content =>
      cases stepped
      exact ⟨_, rfl, alike.append content⟩
  | closing name =>
      simp only [Progress.step, alike.path] at stepped ⊢
      cases isPath : first.path with
      | nil => simp [isPath] at stepped
      | cons tag path =>
          rw [isPath] at stepped
          exact alike.closed isPath stepped

theorem Alike.run {events : List Event} (alike : Alike likeness first second)
    (ran : first.run events = .ok after) :
    ∃ other, second.run events = .ok other ∧ Alike likeness after other := by
  induction events generalizing first second with
  | nil =>
      cases ran
      exact ⟨second, rfl, alike⟩
  | cons event events inductionHypothesis =>
      obtain ⟨inside, stepped, ran⟩ := run_cons_eq_ok_iff.mp ran
      obtain ⟨inside', stepped', alike⟩ := alike.step stepped
      obtain ⟨other, ran', alike⟩ := inductionHypothesis alike ran
      exact ⟨other, run_cons_eq_ok_iff.mpr ⟨inside', stepped', ran'⟩, alike⟩

theorem Alike.finish {services : List Service} (alike : Alike likeness first second)
    (finishes : first.finish = .ok services) :
    ∃ others, second.finish = .ok others ∧ List.Forall₂ likeness.Services services others := by
  unfold Progress.finish at finishes ⊢
  rw [alike.path, alike.sawListing]
  split at finishes
  · cases finishes
  · split at finishes
    · cases finishes
    · next closed saw =>
        cases finishes
        rw [if_neg closed, if_neg saw]
        exact ⟨_, rfl, alike.services⟩

/-- What follows comes to the same behind the two. -/
theorem Alike.outcome {scanned : List Event × Option Markup.Fault} {services : List Service}
    (alike : Alike likeness first second) (accepted : outcome first scanned = .ok services) :
    ∃ others, outcome second scanned = .ok others ∧
      List.Forall₂ likeness.Services services others := by
  obtain ⟨noFault, after, ran, finishes⟩ := outcome_eq_ok_iff.mp accepted
  obtain ⟨other, ran', alike⟩ := alike.run ran
  obtain ⟨others, finishes', all⟩ := alike.finish finishes
  exact ⟨others, outcome_eq_ok_iff.mpr ⟨noFault, other, ran', finishes'⟩, all⟩

end Alike

namespace Likeness

/-- Texts that differ in nothing but white space in front of them. -/
def equal : Likeness where
  texts first second := first.dropWhile Text.isBlank = second.dropWhile Text.isBlank
  values := Eq
  sizes := Eq
  sameText _ := rfl
  sameValue _ := rfl
  sameSize _ := rfl
  append alike more := by rw [List.dropWhile_append, List.dropWhile_append, alike]
  value alike := by rw [Text.trim, Text.stripBoth, alike]; rfl
  size alike := by rw [Text.trim, Text.stripBoth, alike]; rfl
  named alike nonempty := alike ▸ nonempty
  typed alike _ isType := alike ▸ isType

theorem Fields.eq {first second : Service.Field} (alike : equal.Fields first second) :
    first = second := by
  obtain ⟨name, type, length, precision⟩ := first
  obtain ⟨rfl, rfl, rfl, rfl⟩ := alike
  rfl

theorem Services.eq {first second : Service} (alike : equal.Services first second) :
    first = second := by
  obtain ⟨name, fields⟩ := first
  obtain ⟨rfl, alike⟩ := alike
  have same : fields = second.fields := List.forall₂_eq_eq_eq ▸ alike.imp fun _ _ => Fields.eq
  rw [same]

end Likeness

theorem Alike.outcome_eq {first second : Progress} {scanned : List Event × Option Markup.Fault}
    {services : List Service} (alike : Alike .equal first second)
    (accepted : Listing.outcome first scanned = .ok services) :
    Listing.outcome second scanned = .ok services := by
  obtain ⟨others, accepted', all⟩ := alike.outcome accepted
  have same : services = others := List.forall₂_eq_eq_eq ▸ all.imp fun _ _ => Likeness.Services.eq
  rw [accepted', same]

end VirtualTables.Listing
