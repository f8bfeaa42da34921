import VirtualTables.Listing.Reader
import VirtualTables.Proofs.Listing.Format

/-!
Listing documents are read back.

`Leads` follows the progress of reading over a part of a document, and `LeadsAll` over parts that
stand one after another. Every field and every service that is written leads to the progress with
that field or service behind those before, and so do all of them in their order.
-/

namespace VirtualTables.Listing

open Markup (Reads ReadsUpToTag Spaced element leaf)
open Text (IsStripped)

def tags : List String :=
  ["services", "service", "name", "row-meta", "value-meta", "type", "length", "precision"]

theorem isPlainName_of_mem_tags {tag : String} (isTag : tag ∈ tags) :
    Markup.IsPlainName tag.toList := by
  have plain : ∀ tag ∈ tags, tag.toList ≠ [] ∧ ∀ character ∈ tag.toList,
      Markup.isBlank character = false ∧ character ∉ Markup.marks := by
    simp [tags, Markup.isBlank, Markup.marks]
  exact ⟨(plain tag isTag).1, (plain tag isTag).2⟩

/-- Reading a part of a document takes the progress from one state to another. -/
def Leads (text : List Char) (before after : Progress) : Prop :=
  ∃ found, Reads text found ∧ before.run found = .ok after

theorem Leads.append {left right : List Char} {before inside after : Progress}
    (first : Leads left before inside) (second : Leads right inside after) :
    Leads (left ++ right) before after := by
  obtain ⟨found, reads, ran⟩ := first
  obtain ⟨later, readsLater, ranLater⟩ := second
  exact ⟨found ++ later, reads.append readsLater, (Progress.run_append ran later).trans ranLater⟩

theorem leads_nothing {text : List Char} (reads : Reads text []) (progress : Progress) :
    Leads text progress progress :=
  ⟨[], reads, rfl⟩

/-- The same for parts of a document, one after another. -/
inductive LeadsAll : List (List Char) → Progress → Progress → Prop where
  | nil {progress : Progress} : LeadsAll [] progress progress
  | cons {part : List Char} {parts : List (List Char)} {before inside after : Progress}
      (first : Leads part before inside) (others : LeadsAll parts inside after) :
      LeadsAll (part :: parts) before after

theorem LeadsAll.append {parts more : List (List Char)} {before inside after : Progress}
    (first : LeadsAll parts before inside) (second : LeadsAll more inside after) :
    LeadsAll (parts ++ more) before after := by
  induction first with
  | nil => exact second
  | cons leads _ inductionHypothesis => exact .cons leads (inductionHypothesis second)

theorem LeadsAll.leads {parts : List (List Char)} {text : List Char} {before after : Progress}
    (all : LeadsAll parts before after) (spaced : Spaced parts text) : Leads text before after := by
  induction all generalizing text with
  | nil =>
      cases spaced with
      | nil blank => exact leads_nothing (Markup.reads_blanks blank) _
  | cons first _ inductionHypothesis =>
      cases spaced with
      | cons blank spaced =>
          have leads := first.append (inductionHypothesis spaced)
          rw [List.append_assoc]
          exact (leads_nothing (Markup.reads_blanks blank) _).append leads

section Element

variable {tag : String} {content text : List Char} {before inside after : Progress}

theorem leads_content {found : List Markup.Event} (isTag : tag ∈ tags)
    (reads : ReadsUpToTag content found) (ran : (before.opening tag).run found = .ok inside)
    (path : inside.path = tag :: before.path)
    (closes : ({ inside with path := before.path, text := [] } : Progress).closed tag
      before.path.head? (Text.trim inside.text) = .ok after) :
    Leads (element tag content) before after := by
  refine ⟨_, Markup.reads_element (isPlainName_of_mem_tags isTag) reads, ?_⟩
  have opens : before.step (.opening tag.toList) = .ok (before.opening tag) := by
    rw [Progress.step, String.ofList_toList]
  have ends : inside.step (.closing tag.toList) = .ok after := by
    rw [Progress.step, path]
    exact closes
  rw [Progress.run_cons opens, Progress.run_append ran, Progress.run_cons ends]
  rfl

theorem leads_element (isTag : tag ∈ tags) (leads : Leads content (before.opening tag) inside)
    (path : inside.path = tag :: before.path)
    (closes : ({ inside with path := before.path, text := [] } : Progress).closed tag
      before.path.head? (Text.trim inside.text) = .ok after) :
    Leads (element tag content) before after := by
  obtain ⟨found, reads, ran⟩ := leads
  exact leads_content isTag reads.upToTag ran path closes

theorem leads_leaf (isTag : tag ∈ tags) (stripped : IsStripped Text.isBlank text)
    (closes : ({ before.opening tag with path := before.path, text := [] } : Progress).closed tag
      before.path.head? text = .ok after) :
    Leads (leaf tag text) before after := by
  have solid : IsStripped Markup.isBlank text := Markup.isStripped_of_textBlank stripped
  have ran : (before.opening tag).run (Markup.textEvents text) =
      .ok { before.opening tag with text } := by
    unfold Markup.textEvents
    by_cases nothing : text = []
    · rw [if_pos nothing, nothing]
      rfl
    · rw [if_neg nothing]
      rfl
  apply leads_content isTag (Markup.readsUpToTag_escaped solid) ran rfl
  rw [Text.trim, Text.stripBoth_eq_self stripped]
  exact closes

end Element

theorem dimension?_toDigits {size : Int32} (nonnegative : 0 ≤ size) :
    dimension? (Nat.toDigits 10 size.toInt.toNat) = some size := by
  have positive : (size.toInt.toNat : Int) = size.toInt :=
    Int.toNat_of_nonneg (Int32.le_iff_toInt_le.mp nonnegative)
  have read := Text.intOfText?_toDigits (positive ▸ size.minValue_le_toInt)
    (positive ▸ size.toInt_le)
  rw [dimension?, read, positive, Option.map_some, Int32.ofInt_toInt, Option.filter_some,
    if_pos (decide_eq_true nonnegative)]

theorem isStripped_toDigits (size : Nat) : IsStripped Text.isBlank (Nat.toDigits 10 size) := by
  apply Text.isStripped_of_forall_mem
  intro digit inside
  have isDigit := Text.isDigit_of_mem_toDigits inside
  simp only [Text.isDigit, Bool.and_eq_true, decide_eq_true_eq] at isDigit
  have low : 48 ≤ digit.toNat := isDigit.1
  have high : digit.toNat ≤ 57 := isDigit.2
  simp [Text.isBlank]
  omega

theorem isStripped_name (type : CellType) : IsStripped Text.isBlank type.name.toList := by
  apply Text.isStripped_of_forall_mem
  cases type <;> simp [CellType.name, Text.isBlank]

def amongServices (services : List Service) : Progress :=
  ⟨["services"], [], true, services, none, none⟩

def amongFields (services : List Service) (name : String) (fields : List Service.Field) :
    Progress :=
  ⟨["row-meta", "service", "services"], [], true, services, some ⟨some name, fields⟩, none⟩

def withinField (services : List Service) (name : String) (fields : List Service.Field)
    (field : PendingField) : Progress :=
  ⟨["value-meta", "row-meta", "service", "services"], [], true, services,
    some ⟨some name, fields⟩, some field⟩

theorem leadsAll_dimension {tag : String} {size : Option Int32} {parts : List (List Char)}
    (writes : WritesDimension tag size parts) (state : Option Int32 → Progress)
    (reads : ∀ text, IsStripped Text.isBlank text →
      Leads (leaf tag text) (state none) (state (dimension? text))) :
    LeadsAll parts (state none) (state size) := by
  cases writes with
  | @given size nonnegative =>
      have leads := reads _ (isStripped_toDigits size.toInt.toNat)
      rw [dimension?_toDigits nonnegative] at leads
      exact .cons leads .nil
  | negative =>
      have stripped : IsStripped Text.isBlank "-1".toList := by
        apply Text.isStripped_of_forall_mem
        simp [Text.isBlank]
      have leads := reads _ stripped
      have none : dimension? "-1".toList = none := by decide
      rw [none] at leads
      exact .cons leads .nil
  | leftOut => exact .nil

section Fields

variable {services : List Service} {name : String} {fields : List Service.Field}

theorem endField_given (field : Service.Field) :
    ({ amongFields services name fields with
      field := some ⟨some field.name, some field.type.name, field.length, field.precision⟩ } :
        Progress).endField = .ok (amongFields services name (fields ++ [field])) := by
  simp only [Progress.endField, amongFields, PendingField.finish, CellType.ofName?_name]

theorem leads_field {field : Service.Field} {part : List Char} (writes : WritesField field part)
    (listable : field.IsListable) :
    Leads part (amongFields services name fields)
      (amongFields services name (fields ++ [field])) := by
  cases writes with
  | valueMeta writesLength writesPrecision children =>
      have lengthLeads := leadsAll_dimension writesLength
        (fun size => withinField services name fields
          ⟨some field.name, some field.type.name, size, none⟩)
        fun text solid => leads_leaf (by decide) solid rfl
      have precisionLeads := leadsAll_dimension writesPrecision
        (fun size => withinField services name fields
          ⟨some field.name, some field.type.name, field.length, size⟩)
        fun text solid => leads_leaf (by decide) solid rfl
      have typeLeads : Leads (leaf "type" field.type.name.toList)
          (withinField services name fields ⟨none, none, none, none⟩)
          (withinField services name fields
            ⟨none, some (String.ofList field.type.name.toList), none, none⟩) :=
        leads_leaf (by decide) (isStripped_name field.type) rfl
      have nameLeads : Leads (leaf "name" field.name.toList)
          (withinField services name fields ⟨none, some field.type.name, none, none⟩)
          (withinField services name fields
            ⟨some (String.ofList field.name.toList), some field.type.name, none, none⟩) :=
        leads_leaf (by decide) listable.name rfl
      rw [String.ofList_toList] at typeLeads nameLeads
      have all := LeadsAll.cons typeLeads (.cons nameLeads (lengthLeads.append precisionLeads))
      exact leads_element (by decide) (all.leads children) rfl (endField_given field)

end Fields

theorem leadsAll_of_forall₂ {Item : Type} {writes : Item → List Char → Prop} {holds : Item → Prop}
    {state : List Item → Progress}
    (one : ∀ before item part, writes item part → holds item →
      Leads part (state before) (state (before ++ [item])))
    {items : List Item} {parts : List (List Char)} (written : List.Forall₂ writes items parts)
    (hold : ∀ item ∈ items, holds item) (before : List Item) :
    LeadsAll parts (state before) (state (before ++ items)) := by
  induction written generalizing before with
  | nil =>
      rw [List.append_nil]
      exact .nil
  | @cons item part items parts first _ inductionHypothesis =>
      rw [List.forall_mem_cons] at hold
      have others := inductionHypothesis hold.2 (before ++ [item])
      rw [List.append_assoc, List.singleton_append] at others
      exact .cons (one before item part first hold.1) others

theorem endService_given {services : List Service} {service : Service} (named : service.name ≠ "") :
    ({ amongServices services with service := some ⟨some service.name, service.fields⟩ } :
        Progress).endService = .ok (amongServices (services ++ [service])) := by
  simp [Progress.endService, amongServices, PendingService.finish, named]

theorem leads_service {services : List Service} {service : Service} {part : List Char}
    (writes : WritesService service part) (listable : service.IsListable) :
    Leads part (amongServices services) (amongServices (services ++ [service])) := by
  cases writes with
  | @service fields rows content writesFields valueMetas children =>
      have nameLeads : Leads (leaf "name" service.name.toList)
          ⟨["service", "services"], [], true, services, some ⟨none, []⟩, none⟩
          ⟨["service", "services"], [], true, services,
            some ⟨some (String.ofList service.name.toList), []⟩, none⟩ :=
        leads_leaf (by decide) listable.name rfl
      rw [String.ofList_toList] at nameLeads
      have fieldsLead : LeadsAll fields (amongFields services service.name [])
          (amongFields services service.name service.fields) :=
        leadsAll_of_forall₂ (fun _ _ _ => leads_field) writesFields listable.fields []
      have rowsLead : Leads (element "row-meta" rows)
          ⟨["service", "services"], [], true, services, some ⟨some service.name, []⟩, none⟩
          ⟨["service", "services"], [], true, services,
            some ⟨some service.name, service.fields⟩, none⟩ :=
        leads_element (by decide) (fieldsLead.leads valueMetas) rfl rfl
      have all := LeadsAll.cons nameLeads (.cons rowsLead .nil)
      exact leads_element (by decide) (all.leads children) rfl (endService_given listable.named)

theorem scan_written {services : List Service} {document : List Char}
    (writes : WritesListing services document)
    (listable : ∀ service ∈ services, service.IsListable) :
    ∃ found, Markup.scan document = (found, none) ∧
      Progress.start.run found = .ok ⟨[], [], true, services, none, none⟩ := by
  cases writes with
  | @services parts prolog content root writesServices children isProlog isRoot =>
      have servicesLead : LeadsAll parts (amongServices []) (amongServices services) :=
        leadsAll_of_forall₂ (fun _ _ _ => leads_service) writesServices listable []
      have rootLeads : Leads (element "services" content) Progress.start
          ⟨[], [], true, services, none, none⟩ :=
        leads_element (by decide) (servicesLead.leads children) rfl rfl
      have prologLeads := leads_nothing (Markup.reads_prolog isProlog) Progress.start
      obtain ⟨found, reads, ran⟩ :=
        prologLeads.append ((LeadsAll.cons rootLeads .nil).leads isRoot)
      exact ⟨found, Markup.scan_of_reads reads (Markup.head?_ne_mark isProlog isRoot), ran⟩

/-- There is a document that lists some services, and every such document is read as these
services. -/
theorem services_written {services : List Service}
    (listable : ∀ service ∈ services, service.IsListable) :
    (∃ document : String, WritesListing services document.toList) ∧
      ∀ document : String, WritesListing services document.toList →
        Listing.services document = .ok services := by
  constructor
  · obtain ⟨document, writes⟩ := exists_writesListing listable
    refine ⟨String.ofList document, ?_⟩
    rw [String.toList_ofList]
    exact writes
  · intro document writes
    obtain ⟨found, scanned, ran⟩ := scan_written writes listable
    rw [Listing.services, scanned]
    dsimp only
    rw [ran]
    rfl

/-- Names hold markup, inner white space, the words of the format or nothing at all. -/
theorem services_written_marked :
    let services : List Service :=
      [⟨"a &  b", [⟨"</name>", .bigNumber, some 0, none⟩, ⟨"", .date, none, some 2147483647⟩]⟩,
        ⟨"value-meta", []⟩]
    let document := "<?xml version='1.0'?>\r\n<services>\n" ++
      "<service><name>a &amp;  b</name><row-meta>\t" ++
      "<value-meta><type>BigNumber</type>\n" ++ "<name>&lt;/name&gt;</name>" ++
      "<length>0</length>" ++ "<precision>-1</precision>\t</value-meta>" ++
      "<value-meta><type>Date</type><name></name>" ++
      "<precision>2147483647</precision></value-meta>" ++ "</row-meta></service>\n" ++
      "<service>\t<name>value-meta</name>" ++ "<row-meta></row-meta></service></services>\n"
    (∀ service ∈ services, service.IsListable) ∧ WritesListing services document.toList ∧
      Listing.services document = .ok services := by
  intro services document
  have listable : ∀ service ∈ services, service.IsListable := by
    have spaced : IsStripped Text.isBlank "a &  b".toList :=
      ⟨by simp [Text.isBlank], by simp [Text.isBlank]⟩
    have closing : IsStripped Text.isBlank "</name>".toList :=
      Text.isStripped_of_forall_mem (by simp [Text.isBlank])
    have tag : IsStripped Text.isBlank "value-meta".toList :=
      Text.isStripped_of_forall_mem (by simp [Text.isBlank])
    have first : Service.Field.IsListable ⟨"</name>", .bigNumber, some 0, .none⟩ := by
      refine ⟨closing, ?_, ?_⟩
      · rintro _ ⟨⟩
        decide
      · rintro _ ⟨⟩
    have second : Service.Field.IsListable ⟨"", .date, .none, some 2147483647⟩ := by
      refine ⟨Text.isStripped_of_forall_mem (List.forall_mem_nil _), ?_, ?_⟩
      · rintro _ ⟨⟩
      · rintro _ ⟨⟩
        decide
    refine List.forall_mem_cons.mpr ⟨⟨by decide, spaced, ?_⟩, List.forall_mem_singleton.mpr ?_⟩
    · exact List.forall_mem_cons.mpr ⟨first, List.forall_mem_singleton.mpr second⟩
    · exact ⟨by decide, tag, List.forall_mem_nil _⟩
  have none : ∀ character ∈ [], Markup.isBlank character = true := List.forall_mem_nil _
  have line : ∀ character ∈ ['\n'], Markup.isBlank character = true :=
    List.forall_mem_singleton.mpr rfl
  have tab : ∀ character ∈ ['\t'], Markup.isBlank character = true :=
    List.forall_mem_singleton.mpr rfl
  have lines : ∀ character ∈ ['\r', '\n'], Markup.isBlank character = true := by
    simp [Markup.isBlank]
  have first : WritesField ⟨"</name>", .bigNumber, some 0, .none⟩ _ :=
    .valueMeta (.given (by decide)) .negative (.cons none (.cons line (.cons none (.cons none (.nil tab)))))
  have second : WritesField ⟨"", .date, .none, some 2147483647⟩ _ :=
    .valueMeta .leftOut (.given (by decide)) (.cons none (.cons none (.cons none (.nil none))))
  have marked : WritesService ⟨"a &  b", _⟩ _ :=
    .service (.cons first (.cons second .nil)) (.cons tab (.cons none (.nil none)))
      (.cons none (.cons none (.nil none)))
  have bare : WritesService ⟨"value-meta", []⟩ _ :=
    .service .nil (.nil none) (.cons tab (.cons none (.nil none)))
  have noEnd : '>' ∉ "xml version='1.0'".toList ++ "?>".toList.dropLast := by decide
  have isProlog : Markup.IsProlog ("<?".toList ++ "xml version='1.0'".toList ++ "?>".toList) :=
    .declaration (by decide)
      fun inside => absurd (inside.subset (List.mem_cons_of_mem _ List.mem_cons_self)) noEnd
  have written : WritesListing services _ :=
    .services (.cons marked (.cons bare .nil)) (.cons line (.cons line (.nil none))) isProlog
      (.cons lines (.nil line))
  have writes : WritesListing services document.toList := by
    apply Eq.mp (congrArg (WritesListing services) _) written
    simp only [document, String.toList_append]
    decide +kernel
  exact ⟨listable, writes, (services_written listable).2 document writes⟩

end VirtualTables.Listing
