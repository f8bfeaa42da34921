import VirtualTables.Proofs.Listing.Meaning

/-!
Reading a listing event by event agrees with reading it off its elements.

What has been read is followed through the forest in three contexts, each of which the one before
opens: outside all services, within a service, and within a field of a service. In each of them one
induction over the forest tells whether the nodes can be passed, and what is pending behind them.
-/

namespace VirtualTables.Listing

open Markup (Forest)

/-- Reading the nodes of a forest takes the progress from one state to another. -/
def Passes (before : Progress) (forest : Forest) (after : Progress) : Prop :=
  before.run forest.events = .ok after

/-- The same for an element with a tag and what stands inside it. -/
def Crosses (before : Progress) (tag : String) (content : Forest) (after : Progress) : Prop :=
  ∃ inside, Passes (before.opening tag) content inside ∧
    inside.step (.closing tag.toList) = .ok after

section Passes

variable {before after : Progress} {tag : String} {content rest : Forest}

theorem run_cons_eq_ok_iff {event : Markup.Event} {events : List Markup.Event} :
    before.run (event :: events) = .ok after ↔
      ∃ inside, before.step event = .ok inside ∧ inside.run events = .ok after := by
  rw [Progress.run]
  cases before.step event with
  | error fault => simp
  | ok inside => simp

theorem run_append_eq_ok_iff {found more : List Markup.Event} :
    before.run (found ++ more) = .ok after ↔
      ∃ inside, before.run found = .ok inside ∧ inside.run more = .ok after := by
  rw [Progress.run_append_eq]
  cases before.run found with
  | error fault => simp
  | ok inside => simp

theorem passes_nil_iff : Passes before .nil after ↔ after = before := by
  simp [Passes, Forest.events, Progress.run, eq_comm]

theorem passes_element_iff :
    Passes before (.element tag content rest) after ↔
      ∃ closed, Crosses before tag content closed ∧ Passes closed rest after := by
  have opens : before.step (.opening tag.toList) = .ok (before.opening tag) := by
    rw [Progress.step, String.ofList_toList]
  simp only [Passes, Crosses, Forest.events, run_cons_eq_ok_iff, run_append_eq_ok_iff, opens,
    Except.ok.injEq, exists_eq_left']
  constructor
  · rintro ⟨inside, ran, closed, stepped, ranRest⟩
    exact ⟨closed, ⟨inside, ran, stepped⟩, ranRest⟩
  · rintro ⟨closed, ⟨inside, ran, stepped⟩, ranRest⟩
    exact ⟨inside, ran, closed, stepped, ranRest⟩

theorem passes_selfClosed_iff :
    Passes before (.selfClosed tag rest) after ↔
      ∃ inside, before.empty tag = .ok inside ∧ Passes inside rest after := by
  have reads : before.step (.empty tag.toList) = before.empty tag := by
    rw [Progress.step, String.ofList_toList]
  simp only [Passes, Forest.events, run_cons_eq_ok_iff, reads]

theorem passes_text_iff {text : List Char} :
    Passes before (.text text rest) after ↔
      Passes { before with text := before.text ++ text } rest after := by
  simp only [Passes, Forest.events, run_cons_eq_ok_iff, Progress.step, Except.ok.injEq,
    exists_eq_left']

theorem passes_verbatim_iff {text : List Char} :
    Passes before (.verbatim text rest) after ↔
      Passes { before with text := before.text ++ text } rest after := by
  simp only [Passes, Forest.events, run_cons_eq_ok_iff, Progress.step, Except.ok.injEq,
    exists_eq_left']

end Passes

section Field

def PendingField.note (field : PendingField) (tag : String) (text : List Char) : PendingField :=
  match tag with
  | "name" => { field with name := some (String.ofList text) }
  | "type" => { field with type := some (String.ofList text) }
  | "length" => { field with length := dimension? text }
  | "precision" => { field with precision := dimension? text }
  | _ => field

def PendingField.noteAll (field : PendingField) (content : Forest) : PendingField where
  name := ((lastText? "name" content).map String.ofList).or field.name
  type := ((lastText? "type" content).map String.ofList).or field.type
  length := (lastText? "length" content).elim field.length dimension?
  precision := (lastText? "precision" content).elim field.precision dimension?

theorem note_of_not_mem {tag : String} (noLeaf : tag ∉ leafTags) (field : PendingField)
    (text : List Char) : field.note tag text = field := by
  simp only [leafTags, List.mem_cons, List.not_mem_nil, or_false, not_or] at noLeaf
  obtain ⟨noName, noType, noLength, noPrecision⟩ := noLeaf
  unfold PendingField.note
  split
  · exact absurd rfl noName
  · exact absurd rfl noType
  · exact absurd rfl noLength
  · exact absurd rfl noPrecision
  · rfl

/-- What is noted is the own text of an element, and the text gathered in it is no other. -/
theorem IsRegular.note_text {tag : String} {content rest : Forest}
    (regular : IsRegular (.element tag content rest)) (field : PendingField) :
    field.note tag (Text.trim (content.textBehind [])) =
      field.note tag (Text.trim content.ownText) := by
  by_cases isLeaf : tag ∈ leafTags
  · rw [regular.leafText isLeaf]
  · rw [note_of_not_mem isLeaf, note_of_not_mem isLeaf]

theorem noteAll_element (field : PendingField) (tag : String) (content rest : Forest) :
    field.noteAll (.element tag content rest) =
      (field.note tag (Text.trim content.ownText)).noteAll rest := by
  have behind (leaf : String) : lastText? leaf (.element tag content rest) =
      (lastText? leaf rest).or (if tag = leaf then some (Text.trim content.ownText) else none) :=
    lastText?_element
  by_cases isLeaf : tag ∈ leafTags
  · simp only [leafTags, List.mem_cons, List.not_mem_nil, or_false] at isLeaf
    rcases isLeaf with rfl | rfl | rfl | rfl
    · cases named : lastText? "name" rest <;>
        simp [PendingField.noteAll, PendingField.note, behind, named]
    · cases typed : lastText? "type" rest <;>
        simp [PendingField.noteAll, PendingField.note, behind, typed]
    · cases long : lastText? "length" rest <;>
        simp [PendingField.noteAll, PendingField.note, behind, long]
    · cases precise : lastText? "precision" rest <;>
        simp [PendingField.noteAll, PendingField.note, behind, precise]
  · rw [note_of_not_mem isLeaf]
    simp only [leafTags, List.mem_cons, List.not_mem_nil, or_false, not_or] at isLeaf
    simp [PendingField.noteAll, behind, isLeaf]

theorem elim_dimension? (text? : Option (List Char)) :
    text?.elim none dimension? = text?.bind dimension? := by
  cases text? with
  | none => rfl
  | some text => rfl

theorem finish_noteAll_iff {content : Forest} {owner : Option String} {field : Service.Field} :
    (PendingField.noteAll ⟨none, none, none, none⟩ content).finish owner = .ok field ↔
      DescribesField content field := by
  constructor
  · intro finished
    simp only [PendingField.finish, PendingField.noteAll, Option.or_none, elim_dimension?]
      at finished
    cases named : lastText? "name" content with
    | none => simp [named] at finished
    | some name =>
        cases typed : lastText? "type" content with
        | none => simp [named, typed] at finished
        | some type =>
            cases known : CellType.ofName? (String.ofList type) with
            | none => simp [named, typed, known] at finished
            | some found =>
                simp only [named, typed, known, Option.map_some, Except.ok.injEq] at finished
                subst finished
                refine ⟨?_, ⟨type, typed, known⟩, isDimension_bind _, isDimension_bind _⟩
                rw [named, String.toList_ofList]
  · rintro ⟨named, ⟨type, typed, known⟩, long, precise⟩
    simp only [PendingField.finish, PendingField.noteAll, Option.or_none, elim_dimension?, named,
      typed, Option.map_some, known, String.ofList_toList, ← long.unique, ← precise.unique]

variable {path : List String} {text : List Char} {saw : Bool} {found : List Service}
  {service : PendingService} {after : Progress} {tag : String}

theorem closed_of_other {progress : Progress} {other : String} {parent : Option String}
    (noService : other ≠ "service") (noField : other ≠ "value-meta")
    (inField : parent = some "value-meta" → other ∉ leafTags)
    (inService : parent = some "service" → other ≠ "name") :
    progress.closed other parent text = .ok progress := by
  unfold Progress.closed
  split
  · exact absurd (by decide) (inField rfl)
  · exact absurd (by decide) (inField rfl)
  · exact absurd (by decide) (inField rfl)
  · exact absurd (by decide) (inField rfl)
  · exact absurd rfl (inService rfl)
  · exact absurd rfl noField
  · exact absurd rfl noService
  · rfl

theorem closed_inField {other : String} (field : PendingField) (noService : other ≠ "service")
    (noField : other ≠ "value-meta") (inside : tag ≠ "service") :
    Progress.closed ⟨tag :: path, [], saw, found, some service, some field⟩ other (some tag) text =
      .ok ⟨tag :: path, [], saw, found, some service,
        some (if tag = "value-meta" then field.note other text else field)⟩ := by
  by_cases direct : tag = "value-meta"
  · subst direct
    rw [if_pos rfl]
    by_cases isLeaf : other ∈ leafTags
    · simp only [leafTags, List.mem_cons, List.not_mem_nil, or_false] at isLeaf
      rcases isLeaf with rfl | rfl | rfl | rfl
      · rfl
      · rfl
      · rfl
      · rfl
    · rw [note_of_not_mem isLeaf]
      exact closed_of_other noService noField (fun _ => isLeaf) (fun same => absurd same (by decide))
  · rw [if_neg direct]
    refine closed_of_other noService noField (fun same => ?_) (fun same => ?_)
    · exact absurd (Option.some.inj same) direct
    · exact absurd (Option.some.inj same) inside

/-- No self-closed element stands where one with content is expected. -/
def IsOpen (forest : Forest) : Prop :=
  "service" ∉ forest.selfClosedTags ∧ "value-meta" ∉ forest.selfClosedTags

theorem isOpen_element_iff {other : String} {content rest : Forest} :
    IsOpen (.element other content rest) ↔ IsOpen content ∧ IsOpen rest := by
  simp only [IsOpen, Forest.selfClosedTags, List.mem_append, not_or]
  exact and_and_and_comm

theorem isOpen_selfClosed_iff {other : String} {rest : Forest} :
    IsOpen (.selfClosed other rest) ↔
      (other ≠ "service" ∧ other ≠ "value-meta") ∧ IsOpen rest := by
  simp only [IsOpen, Forest.selfClosedTags, List.mem_cons, not_or, ne_eq, eq_comm]
  exact and_and_and_comm

theorem empty_inService_iff {field : Option PendingField} {other : String} :
    Progress.empty ⟨tag :: path, text, saw, found, some service, field⟩ other = .ok after ↔
      (other ≠ "service" ∧ other ≠ "value-meta") ∧
        after = ⟨tag :: path, text, saw, found, some service, field⟩ := by
  by_cases isService : other = "service"
  · simp [Progress.empty, Progress.atTop, isService]
  · by_cases isField : other = "value-meta"
    · simp [Progress.empty, Progress.atTop, isField]
    · simp [Progress.empty, Progress.atTop, isService, isField, eq_comm]

/-- Within a field, only the children of the field itself are noted. -/
theorem passes_inField_iff {forest : Forest} (regular : IsRegular forest)
    (noService : forest.descendants "service" = [])
    (noField : forest.descendants "value-meta" = []) (inside : tag ≠ "service")
    (field : PendingField) :
    Passes ⟨tag :: path, text, saw, found, some service, some field⟩ forest after ↔
      IsOpen forest ∧ after = ⟨tag :: path, forest.textBehind text, saw, found, some service,
        some (if tag = "value-meta" then field.noteAll forest else field)⟩ := by
  induction forest generalizing tag path text field after with
  | nil =>
      rw [passes_nil_iff]
      simp [IsOpen, Forest.selfClosedTags, Forest.textBehind, PendingField.noteAll, lastText?,
        Forest.children]
  | element other content rest inContent inRest =>
      obtain ⟨otherService, contentService, restService⟩ :=
        Forest.descendants_element_eq_nil.mp noService
      obtain ⟨otherField, contentField, restField⟩ := Forest.descendants_element_eq_nil.mp noField
      have opens : Progress.opening ⟨tag :: path, text, saw, found, some service, some field⟩ other =
          ⟨other :: tag :: path, [], saw, found, some service, some field⟩ := by
        simp [Progress.opening, Progress.atTop, otherService, otherField]
      have closes : Progress.step ⟨other :: tag :: path, content.textBehind [], saw, found,
          some service, some field⟩ (.closing other.toList) =
          .ok ⟨tag :: path, [], saw, found, some service, some (if tag = "value-meta" then
            field.note other (Text.trim content.ownText) else field)⟩ := by
        rw [← regular.note_text]
        exact closed_inField field otherService otherField inside
      -- The tag decides once more for the nodes behind the child, and in the same way.
      have noted : (if tag = "value-meta" then field.noteAll (.element other content rest)
          else field) = if tag = "value-meta" then PendingField.noteAll (if tag = "value-meta" then
            field.note other (Text.trim content.ownText) else field) rest
          else if tag = "value-meta" then field.note other (Text.trim content.ownText)
            else field := by
        split
        · exact noteAll_element field other content rest
        · rfl
      simp only [passes_element_iff, Crosses, opens,
        inContent regular.inside contentService contentField otherService, if_neg otherField,
        and_assoc, exists_and_left, exists_eq_left, closes, Except.ok.injEq, exists_eq_left',
        inRest regular.behind restService restField inside, isOpen_element_iff,
        Forest.textBehind, noted]
  | selfClosed other rest inRest =>
      simp only [passes_selfClosed_iff, empty_inService_iff, and_assoc, exists_and_left,
        exists_eq_left, inRest regular.behindSelfClosed noService noField inside,
        isOpen_selfClosed_iff]
      rfl
  | text more rest inRest =>
      rw [passes_text_iff]
      exact inRest regular.behindText noService noField inside field
  | verbatim more rest inRest =>
      rw [passes_verbatim_iff]
      exact inRest regular.behindVerbatim noService noField inside field

end Field

section Service

variable {path : List String} {text : List Char} {saw : Bool} {found : List Service}
  {after : Progress} {tag : String}

/-- A service behind all its children, of which the name alone is noted, and behind some fields. -/
def PendingService.noteAll (service : PendingService) (tag : String) (content : Forest)
    (fields : List Service.Field) : PendingService where
  name :=
    if tag = "service" then ((lastText? "name" content).map String.ofList).or service.name
    else service.name
  fields := service.fields ++ fields

def PendingService.note (service : PendingService) (tag other : String) (text : List Char) :
    PendingService :=
  if tag = "service" ∧ other = "name" then { service with name := some (String.ofList text) }
  else service

theorem closed_inService {other : String} (service : PendingService) (noService : other ≠ "service")
    (noField : other ≠ "value-meta") (outside : tag ≠ "value-meta") :
    Progress.closed ⟨tag :: path, [], saw, found, some service, none⟩ other (some tag) text =
      .ok ⟨tag :: path, [], saw, found, some (service.note tag other text), none⟩ := by
  by_cases direct : tag = "service" ∧ other = "name"
  · obtain ⟨rfl, rfl⟩ := direct
    rfl
  · rw [PendingService.note, if_neg direct]
    refine closed_of_other noService noField (fun same => ?_) (fun same isName => ?_)
    · exact absurd (Option.some.inj same) outside
    · exact direct ⟨Option.some.inj same, isName⟩

theorem closed_field_iff {content : Forest} (service : PendingService) :
    Progress.step ⟨"value-meta" :: path, text, saw, found, some service,
        some (PendingField.noteAll ⟨none, none, none, none⟩ content)⟩
        (.closing "value-meta".toList) = .ok after ↔
      ∃ field, DescribesField content field ∧ after = ⟨path, [], saw, found,
        some { service with fields := service.fields ++ [field] }, none⟩ := by
  simp only [← @finish_noteAll_iff content service.name]
  change Progress.endField ⟨path, [], saw, found, some service,
    some (PendingField.noteAll ⟨none, none, none, none⟩ content)⟩ = .ok after ↔ _
  unfold Progress.endField
  dsimp only
  cases PendingField.finish (PendingField.noteAll ⟨none, none, none, none⟩ content) service.name with
  | error fault => simp
  | ok field => simp [eq_comm]

theorem crosses_field_iff {content : Forest} (regular : IsRegular content)
    (noService : content.descendants "service" = [])
    (noField : content.descendants "value-meta" = []) (service : PendingService) :
    Crosses ⟨tag :: path, text, saw, found, some service, none⟩ "value-meta" content after ↔
      ∃ fields, IsOpen content ∧ List.Forall₂ DescribesField [content] fields ∧
        after = ⟨tag :: path, [], saw, found,
          some { service with fields := service.fields ++ fields }, none⟩ := by
  have opens : Progress.opening ⟨tag :: path, text, saw, found, some service, none⟩ "value-meta" =
      ⟨"value-meta" :: tag :: path, [], saw, found, some service,
        some ⟨none, none, none, none⟩⟩ := by
    simp [Progress.opening, Progress.atTop]
  simp only [Crosses, opens, passes_inField_iff regular noService noField
    (show "value-meta" ≠ "service" by decide), if_true, and_assoc, exists_and_left, exists_eq_left,
    closed_field_iff]
  refine and_congr_right fun _ => ?_
  constructor
  · rintro ⟨field, described, rfl⟩
    exact ⟨[field], .cons described .nil, rfl⟩
  · rintro ⟨fields, described, rfl⟩
    cases described with
    | cons first others =>
        cases others
        exact ⟨_, first, rfl⟩

theorem IsRegular.noteService_text {other : String} {content rest : Forest}
    (regular : IsRegular (.element other content rest)) (service : PendingService) (tag : String) :
    service.note tag other (Text.trim (content.textBehind [])) =
      service.note tag other (Text.trim content.ownText) := by
  by_cases isName : other = "name"
  · rw [regular.leafText (isName ▸ by decide)]
  · rw [PendingService.note, PendingService.note, if_neg fun both => isName both.2,
      if_neg fun both => isName both.2]

theorem note_fields (service : PendingService) (fields : List Service.Field) (tag other : String)
    (text : List Char) :
    PendingService.note { service with fields } tag other text =
      { service.note tag other text with fields } := by
  unfold PendingService.note
  split
  · rfl
  · rfl

theorem forall₂_append_iff {Part Item : Type} {relates : Part → Item → Prop}
    {front back : List Part} {items : List Item} :
    List.Forall₂ relates (front ++ back) items ↔
      ∃ first second, List.Forall₂ relates front first ∧ List.Forall₂ relates back second ∧
        items = first ++ second := by
  constructor
  · intro related
    refine ⟨items.take front.length, items.drop front.length, ?_, ?_,
      (List.take_append_drop _ _).symm⟩
    · simpa using List.forall₂_take front.length related
    · simpa using List.forall₂_drop front.length related
  · rintro ⟨first, second, relatedFirst, relatedSecond, rfl⟩
    exact List.rel_append relatedFirst relatedSecond

theorem PendingService.noteAll_element (service : PendingService) (tag other : String)
    (content rest : Forest) (first second : List Service.Field) :
    service.noteAll tag (.element other content rest) (first ++ second) =
      PendingService.noteAll { service.note tag other (Text.trim content.ownText) with
        fields := service.fields ++ first } tag rest second := by
  rw [noteAll, noteAll, lastText?_element, List.append_assoc]
  by_cases isService : tag = "service"
  · by_cases isName : other = "name"
    · cases named : lastText? "name" rest <;> simp [note, isService, isName]
    · cases named : lastText? "name" rest <;> simp [note, isService, isName]
  · simp [note, isService]

/-- Within a service, only its own children are noted, but fields at any depth. -/
theorem passes_inService_iff {forest : Forest} (regular : IsRegular forest)
    (noService : forest.descendants "service" = []) (outside : tag ≠ "value-meta")
    (service : PendingService) :
    Passes ⟨tag :: path, text, saw, found, some service, none⟩ forest after ↔
      ∃ fields, IsOpen forest ∧
        List.Forall₂ DescribesField (forest.descendants "value-meta") fields ∧
        after = ⟨tag :: path, forest.textBehind text, saw, found,
          some (service.noteAll tag forest fields), none⟩ := by
  induction forest generalizing tag path text service after with
  | nil =>
      rw [passes_nil_iff]
      simp [IsOpen, Forest.selfClosedTags, Forest.textBehind, PendingService.noteAll, lastText?,
        Forest.children, Forest.descendants]
  | element other content rest inContent inRest =>
      obtain ⟨otherService, contentService, restService⟩ :=
        Forest.descendants_element_eq_nil.mp noService
      have crosses (closed : Progress) :
          Crosses ⟨tag :: path, text, saw, found, some service, none⟩ other content closed ↔
            ∃ fields, IsOpen content ∧
              List.Forall₂ DescribesField ((if other = "value-meta" then [content] else []) ++
                content.descendants "value-meta") fields ∧
              closed = ⟨tag :: path, [], saw, found,
                some { service.note tag other (Text.trim content.ownText) with
                  fields := service.fields ++ fields }, none⟩ := by
        -- A child that is a field has no field in it; into any other the induction goes on.
        by_cases isField : other = "value-meta"
        · subst isField
          have noField := regular.fields content
            (Forest.mem_descendants_element.mpr (.inl ⟨rfl, rfl⟩))
          rw [if_pos rfl, noField, List.append_nil]
          have unnamed (text : List Char) : service.note tag "value-meta" text = service :=
            if_neg (fun both => absurd both.2 (by decide))
          simp only [unnamed]
          exact crosses_field_iff regular.inside contentService noField service
        · have opens : Progress.opening ⟨tag :: path, text, saw, found, some service, none⟩ other =
              ⟨other :: tag :: path, [], saw, found, some service, none⟩ := by
            simp [Progress.opening, Progress.atTop, otherService, isField]
          have closes (fields : List Service.Field) : Progress.step ⟨other :: tag :: path,
              content.textBehind [], saw, found, some (service.noteAll other content fields), none⟩
              (.closing other.toList) = .ok ⟨tag :: path, [], saw, found,
                some { service.note tag other (Text.trim content.ownText) with
                  fields := service.fields ++ fields }, none⟩ := by
            rw [← regular.noteService_text, ← note_fields, PendingService.noteAll,
              if_neg otherService]
            exact closed_inService _ otherService isField outside
          simp only [Crosses, opens, inContent regular.inside contentService isField]
          rw [if_neg isField, List.nil_append]
          constructor
          · rintro ⟨_, ⟨fields, isOpen, described, rfl⟩, stepped⟩
            rw [closes] at stepped
            cases stepped
            exact ⟨fields, isOpen, described, rfl⟩
          · rintro ⟨fields, isOpen, described, rfl⟩
            exact ⟨_, ⟨fields, isOpen, described, rfl⟩, closes fields⟩
      simp only [passes_element_iff, crosses, isOpen_element_iff, Forest.descendants,
        ← List.append_assoc, forall₂_append_iff, Forest.textBehind]
      constructor
      · rintro ⟨closed, ⟨first, open₁, described₁, rfl⟩, passed⟩
        obtain ⟨second, open₂, described₂, rfl⟩ :=
          (inRest regular.behind restService outside _).mp passed
        refine ⟨first ++ second, ⟨open₁, open₂⟩, ⟨first, second, described₁, described₂, rfl⟩, ?_⟩
        rw [PendingService.noteAll_element]
      · rintro ⟨_, ⟨open₁, open₂⟩, ⟨first, second, described₁, described₂, rfl⟩, rfl⟩
        refine ⟨_, ⟨first, open₁, described₁, rfl⟩,
          (inRest regular.behind restService outside _).mpr ⟨second, open₂, described₂, ?_⟩⟩
        rw [PendingService.noteAll_element]
  | selfClosed other rest inRest =>
      simp only [passes_selfClosed_iff, empty_inService_iff, and_assoc, exists_and_left,
        exists_eq_left, inRest regular.behindSelfClosed noService outside,
        isOpen_selfClosed_iff]
      rfl
  | text more rest inRest =>
      rw [passes_text_iff]
      exact inRest regular.behindText noService outside service
  | verbatim more rest inRest =>
      rw [passes_verbatim_iff]
      exact inRest regular.behindVerbatim noService outside service

end Service

section Outside

variable {path : List String} {text : List Char} {saw : Bool} {found : List Service}
  {after : Progress} {tag : String}

/-- Whether a listing has begun behind elements with some tags, for those at the top can begin it. -/
def sawBehind (path : List String) (saw : Bool) (tags : List String) : Bool :=
  saw || (path.isEmpty && decide ("services" ∈ tags))

theorem sawBehind_cons (tag : String) (tags : List String) :
    sawBehind path (sawBehind path saw [tag]) tags = sawBehind path saw (tag :: tags) := by
  cases path with
  | nil => simp [sawBehind, Bool.or_assoc]
  | cons outer path => simp [sawBehind]

theorem sawBehind_within (tag : String) (tags : List String) :
    sawBehind (tag :: path) saw tags = saw := by
  simp [sawBehind]

theorem closed_outside {other : String} (noService : other ≠ "service") (parent : Option String) :
    Progress.closed ⟨path, [], saw, found, none, none⟩ other parent text =
      .ok ⟨path, [], saw, found, none, none⟩ := by
  unfold Progress.closed
  split
  · rfl
  · rfl
  · rfl
  · rfl
  · rfl
  · rfl
  · exact absurd rfl noService
  · rfl

theorem opening_outside {other : String} (noService : other ≠ "service") :
    Progress.opening ⟨path, text, saw, found, none, none⟩ other =
      ⟨other :: path, [], sawBehind path saw [other], found, none, none⟩ := by
  by_cases isListing : other = "services"
  · cases path with
    | nil => simp [Progress.opening, Progress.atTop, sawBehind, isListing]
    | cons outer path => simp [Progress.opening, Progress.atTop, sawBehind, isListing]
  · simp [Progress.opening, sawBehind, isListing, noService, Ne.symm isListing]

theorem empty_outside_iff {other : String} :
    Progress.empty ⟨path, text, saw, found, none, none⟩ other = .ok after ↔
      other ≠ "service" ∧ after = ⟨path, text, sawBehind path saw [other], found, none, none⟩ := by
  by_cases isListing : other = "services"
  · cases path with
    | nil => simp [Progress.empty, Progress.atTop, sawBehind, isListing, @eq_comm _ after]
    | cons outer path => simp [Progress.empty, Progress.atTop, sawBehind, isListing, @eq_comm _ after]
  · by_cases isService : other = "service"
    · simp [Progress.empty, isService]
    · simp [Progress.empty, sawBehind, isListing, isService, Ne.symm isListing, @eq_comm _ after]

theorem finish_service_iff {content : Forest} {fields : List Service.Field} {service : Service} :
    (PendingService.noteAll ⟨none, []⟩ "service" content fields).finish = .ok service ↔
      lastText? "name" content = some service.name.toList ∧ service.name ≠ "" ∧
        service.fields = fields := by
  cases named : lastText? "name" content with
  | none => simp [PendingService.finish, PendingService.noteAll, named]
  | some text =>
      simp only [PendingService.finish, PendingService.noteAll, named, if_true, Option.map_some,
        Option.some_or, List.nil_append, Option.some.injEq]
      constructor
      · intro finished
        split at finished
        · cases finished
        · next nonempty =>
            cases finished
            refine ⟨String.toList_ofList.symm, ?_, rfl⟩
            intro nothing
            exact nonempty (String.isEmpty_iff.mpr nothing)
      · rintro ⟨rfl, nonempty, rfl⟩
        rw [String.ofList_toList, if_neg]
        rwa [String.isEmpty_iff]

theorem crosses_service_iff {content : Forest} (regular : IsRegular content)
    (noService : content.descendants "service" = []) :
    Crosses ⟨path, text, saw, found, none, none⟩ "service" content after ↔
      ∃ service, "service" ∉ content.selfClosedTags ∧ DescribesService content service ∧
        after = ⟨path, [], saw, found ++ [service], none, none⟩ := by
  have opens : Progress.opening ⟨path, text, saw, found, none, none⟩ "service" =
      ⟨"service" :: path, [], saw, found, some ⟨none, []⟩, none⟩ := by
    simp [Progress.opening]
  have closes (fields : List Service.Field) : Progress.step ⟨"service" :: path,
      content.textBehind [], saw, found,
      some (PendingService.noteAll ⟨none, []⟩ "service" content fields), none⟩
      (.closing "service".toList) = .ok after ↔
      ∃ service, (lastText? "name" content = some service.name.toList ∧ service.name ≠ "" ∧
        service.fields = fields) ∧ after = ⟨path, [], saw, found ++ [service], none, none⟩ := by
    simp only [← finish_service_iff]
    change Progress.endService ⟨path, [], saw, found,
      some (PendingService.noteAll ⟨none, []⟩ "service" content fields), none⟩ = .ok after ↔ _
    unfold Progress.endService
    dsimp only
    cases (PendingService.noteAll ⟨none, []⟩ "service" content fields).finish with
    | error fault => simp
    | ok service => simp [eq_comm]
  simp only [Crosses, opens, passes_inService_iff regular noService
    (show "service" ≠ "value-meta" by decide)]
  constructor
  · rintro ⟨_, ⟨fields, isOpen, described, rfl⟩, stepped⟩
    obtain ⟨service, ⟨name, named, rfl⟩, rfl⟩ := (closes fields).mp stepped
    exact ⟨service, isOpen.1, ⟨name, named, isOpen.2, described⟩, rfl⟩
  · rintro ⟨service, closed, described, rfl⟩
    exact ⟨_, ⟨service.fields, ⟨closed, described.closed⟩, described.fields, rfl⟩,
      (closes service.fields).mpr ⟨service, ⟨described.name, described.named, rfl⟩, rfl⟩⟩

/-- Outside all services, every service is noted at whatever depth. -/
theorem passes_outside_iff {forest : Forest} (regular : IsRegular forest) :
    Passes ⟨path, text, saw, found, none, none⟩ forest after ↔
      ∃ services, "service" ∉ forest.selfClosedTags ∧
        List.Forall₂ DescribesService (forest.descendants "service") services ∧
        after = ⟨path, forest.textBehind text, sawBehind path saw forest.tags, found ++ services,
          none, none⟩ := by
  induction forest generalizing path text saw found after with
  | nil =>
      rw [passes_nil_iff]
      simp [Forest.selfClosedTags, Forest.textBehind, Forest.descendants, Forest.tags, sawBehind]
  | element other content rest inContent inRest =>
      have crosses (closed : Progress) :
          Crosses ⟨path, text, saw, found, none, none⟩ other content closed ↔
            ∃ services, "service" ∉ content.selfClosedTags ∧
              List.Forall₂ DescribesService ((if other = "service" then [content] else []) ++
                content.descendants "service") services ∧
              closed = ⟨path, [], sawBehind path saw [other], found ++ services, none, none⟩ := by
        -- Nothing goes on within a service here, since it has no service in it.
        by_cases isService : other = "service"
        · subst isService
          have noService := regular.services content
            (Forest.mem_descendants_element.mpr (.inl ⟨rfl, rfl⟩))
          have sawSame : sawBehind path saw ["service"] = saw := by simp [sawBehind]
          rw [if_pos rfl, noService, List.append_nil, crosses_service_iff regular.inside noService,
            sawSame]
          constructor
          · rintro ⟨service, closed, described, rfl⟩
            exact ⟨[service], closed, .cons described .nil, rfl⟩
          · rintro ⟨services, closed, described, rfl⟩
            cases described with
            | cons first others =>
                cases others
                exact ⟨_, closed, first, rfl⟩
        · rw [if_neg isService, List.nil_append]
          simp only [Crosses, opening_outside isService, inContent regular.inside,
            sawBehind_within]
          constructor
          · rintro ⟨_, ⟨services, closed, described, rfl⟩, stepped⟩
            cases (closed_outside isService path.head?).symm.trans stepped
            exact ⟨services, closed, described, rfl⟩
          · rintro ⟨services, closed, described, rfl⟩
            exact ⟨_, ⟨services, closed, described, rfl⟩, closed_outside isService path.head?⟩
      simp only [passes_element_iff, crosses, Forest.descendants, Forest.selfClosedTags,
        List.mem_append, not_or, ← List.append_assoc, forall₂_append_iff, Forest.textBehind]
      constructor
      · rintro ⟨closed, ⟨first, closed₁, described₁, rfl⟩, passed⟩
        obtain ⟨second, closed₂, described₂, rfl⟩ := (inRest regular.behind).mp passed
        refine ⟨first ++ second, ⟨closed₁, closed₂⟩, ⟨first, second, described₁, described₂, rfl⟩,
          ?_⟩
        rw [sawBehind_cons, List.append_assoc]
        rfl
      · rintro ⟨_, ⟨closed₁, closed₂⟩, ⟨first, second, described₁, described₂, rfl⟩, rfl⟩
        refine ⟨_, ⟨first, closed₁, described₁, rfl⟩,
          (inRest regular.behind).mpr ⟨second, closed₂, described₂, ?_⟩⟩
        rw [sawBehind_cons, List.append_assoc]
        rfl
  | selfClosed other rest inRest =>
      simp only [passes_selfClosed_iff, empty_outside_iff, and_assoc, exists_and_left,
        exists_eq_left, inRest regular.behindSelfClosed, sawBehind_cons, Forest.selfClosedTags,
        List.mem_cons, not_or, ne_eq, eq_comm (b := "service")]
      rfl
  | text more rest inRest =>
      rw [passes_text_iff]
      exact inRest regular.behindText
  | verbatim more rest inRest =>
      rw [passes_verbatim_iff]
      exact inRest regular.behindVerbatim

end Outside

theorem services_eq_ok_iff {document : String} {forest : Forest} {found : List Service}
    (delivered : Markup.scan document.toList = (forest.events, none))
    (regular : IsRegular forest) : services document = .ok found ↔ Describes forest found := by
  have finishes {after : Progress} (top : after.path = []) :
      after.finish = .ok found ↔ after.sawListing = true ∧ after.services = found := by
    cases seen : after.sawListing <;> simp [Progress.finish, top, seen]
  have reads : services document = .ok found ↔
      ∃ after, Passes .start forest after ∧ after.finish = .ok found := by
    unfold services Passes
    rw [delivered]
    cases ran : Progress.start.run forest.events with
    | error fault => simp [ran]
    | ok after => simp [ran]
  simp only [reads, Progress.start, passes_outside_iff regular]
  constructor
  · rintro ⟨_, ⟨services, closed, described, rfl⟩, finished⟩
    obtain ⟨listing, rfl⟩ := (finishes rfl).mp finished
    exact ⟨by simpa [sawBehind] using listing, closed, described⟩
  · intro described
    refine ⟨_, ⟨found, described.closed, described.services, rfl⟩, (finishes rfl).mpr ⟨?_, rfl⟩⟩
    simpa [sawBehind] using described.listing

/-- A document that is delivered as a forest is read exactly if it is complete, and what is read is
what its elements describe: one service for each element `service`, in document order. -/
theorem services_described {document : String} {forest : Forest}
    (delivered : Markup.scan document.toList = (forest.events, none))
    (regular : IsRegular forest) :
    ((∃ found, services document = .ok found) ↔ IsComplete forest) ∧
      ∀ found, services document = .ok found ↔ Describes forest found := by
  have reads (found : List Service) : services document = .ok found ↔ Describes forest found :=
    services_eq_ok_iff delivered regular
  refine ⟨?_, reads⟩
  simp only [reads]
  exact exists_describes_iff

/-- The listing's element is empty and the service stands elsewhere; its second name counts, and so
does the second length, which is none. -/
theorem services_described_elsewhere :
    let field : Forest := .element "type" (.text "INTEGER".toList .nil) <|
      .element "length" (.text ['7'] .nil) <| .element "x" (.element "name" .nil .nil) <|
      .element "length" (.text ['-', '1'] .nil) <| .element "name" .nil .nil
    let service : Forest := .element "name" (.text ['o'] .nil) <|
      .element "row-meta" (.element "value-meta" field .nil) <| .selfClosed "name" <|
      .element "name" (.text ['a'] <| .verbatim [' ', '<'] .nil) .nil
    let forest : Forest := .selfClosed "services" <|
      .element "a" (.element "service" service .nil) .nil
    let document := "<services/><a><service><name>o</name><row-meta><value-meta>" ++
      "<type> INTEGER</type><length>7</length><x><name></name></x><length>-1</length>" ++
      "<name> </name></value-meta></row-meta><name/><name>a<![CDATA[ <]]></name></service></a>"
    Markup.scan document.toList = (forest.events, none) ∧ IsRegular forest ∧
      IsComplete forest ∧ services document = .ok [⟨"a <", [⟨"", .integer, none, none⟩]⟩] := by
  intro field service forest document
  have delivered : Markup.scan document.toList = (forest.events, none) := by decide +kernel
  have regular : IsRegular forest := ⟨by decide, by decide, by decide⟩
  have described : Describes forest [⟨"a <", [⟨"", .integer, none, none⟩]⟩] := by
    have noLength : (lastText? "length" field).bind dimension? = none := by decide
    have noPrecision : (lastText? "precision" field).bind dimension? = none := by decide
    have isField : DescribesField field ⟨"", .integer, none, none⟩ := by
      refine ⟨by decide, ⟨"INTEGER".toList, by decide, by decide⟩, ?_, ?_⟩
      · exact noLength ▸ isDimension_bind _
      · exact noPrecision ▸ isDimension_bind _
    exact ⟨by decide, by decide,
      .cons ⟨by decide, by decide, by decide, .cons isField .nil⟩ .nil⟩
  have read := services_described delivered regular
  have found := (read.2 _).mpr described
  exact ⟨delivered, regular, read.1.mp ⟨_, found⟩, found⟩

end VirtualTables.Listing
