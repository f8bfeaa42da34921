import Mathlib.Control.Monad.Basic
import VirtualTables.Proofs.Settings.Variables
import VirtualTables.Proofs.Toml.Distinct

/-!
Where every setting gets its value from.

Files and the environment are layers (`Settings.isLayer_ofFile`, `isLayer_ofVariables`), and
from a layer all settings can be read: a field of a section sets its own setting and no other
(`Field.Sets`), so what the fields set one after the other is what the layer says, and the default
where it says nothing (`ofEntries_of_isLayer`). The law of `read_layered` is for each setting by
itself: the environment decides, then the later file, then the earlier one, then the default.
-/

namespace VirtualTables

open Settings (Value)

namespace Setting

/-- What a document says of a setting. -/
def inDocument? (setting : Setting) (document : Toml.Entries) : Option Toml.Value :=
  match document.get? setting.sectionName with
  | some (.table _ inner) => Toml.Entries.get? inner setting.key
  | _ => none

/-- The section of a setting, if a document has it, is a table, and the value of the setting, if it
has one there, fits. -/
def Admits (setting : Setting) (document : Toml.Entries) : Prop :=
  match document.get? setting.sectionName with
  | none => True
  | some (.table _ inner) =>
      ∀ given ∈ Toml.Entries.get? inner setting.key, setting.Fits (.ofToml given)
  | some _ => False

instance (setting : Setting) : DecidablePred setting.Admits := by
  intro document
  unfold Admits
  exact
    match document.get? setting.sectionName with
    | none => inferInstanceAs (Decidable True)
    | some (.table _ inner) =>
        inferInstanceAs (Decidable (∀ given ∈ Toml.Entries.get? inner setting.key,
          setting.Fits (.ofToml given)))
    | some (.string _) => inferInstanceAs (Decidable False)
    | some (.integer _) => inferInstanceAs (Decidable False)
    | some (.float _) => inferInstanceAs (Decidable False)
    | some (.boolean _) => inferInstanceAs (Decidable False)
    | some (.datetime _) => inferInstanceAs (Decidable False)
    | some (.array _ _) => inferInstanceAs (Decidable False)

def inFile? (setting : Setting) (content : Option String) : Option Value := do
  let document ← Toml.read? (← content)
  (setting.inDocument? document).map .ofToml

end Setting

namespace Settings

/-- A file is missing, or a document with suitable sections. Whatever else it holds. -/
def IsProperFile (content : Option String) : Prop :=
  ∀ text ∈ content, ∃ document ∈ Toml.read? text, ∀ setting : Setting, setting.Admits document

instance : DecidablePred IsProperFile := fun content =>
  inferInstanceAs (Decidable (∀ text ∈ content, ∃ document ∈ Toml.read? text,
    ∀ setting : Setting, setting.Admits document))

theorem keys_entriesOfToml (document : Toml.Entries) :
    (Value.entriesOfToml document).map Prod.fst = document.map Prod.fst := by
  induction document with
  | nil => rfl
  | cons entry rest inductionHypothesis =>
      rw [Value.entriesOfToml, List.map_cons, List.map_cons, inductionHypothesis]

theorem get?_entriesOfToml (document : Toml.Entries) (key : String) :
    Value.get? (Value.entriesOfToml document) key = (document.get? key).map Value.ofToml := by
  induction document with
  | nil => rfl
  | cons entry rest inductionHypothesis =>
      obtain ⟨name, value⟩ := entry
      rw [Value.entriesOfToml, Value.get?_cons, inductionHypothesis]
      by_cases same : key = name
      · simp [Toml.Entries.get?, same]
      · simp [Toml.Entries.get?, same, Ne.symm same]

theorem setting?_entriesOfToml {setting : Setting} {document : Toml.Entries}
    (admits : setting.Admits document) :
    (∀ value, Value.get? (Value.entriesOfToml document) setting.sectionName = some value →
      ∃ origin inner, document.get? setting.sectionName = some (.table origin inner) ∧
        value = .table (Value.entriesOfToml inner)) ∧
    Value.setting? (Value.entriesOfToml document) setting =
      (setting.inDocument? document).map .ofToml ∧
    ∀ given, setting.inDocument? document = some given → setting.Fits (.ofToml given) := by
  rw [Value.setting?, get?_entriesOfToml, Setting.inDocument?]
  unfold Setting.Admits at admits
  split at admits
  · next missing =>
      rw [missing]
      refine ⟨?_, rfl, ?_⟩
      · rintro _ ⟨⟩
      · rintro _ ⟨⟩
  · next origin inner found =>
      rw [found]
      refine ⟨?_, get?_entriesOfToml inner setting.key, admits⟩
      rintro _ ⟨⟩
      exact ⟨origin, inner, rfl, rfl⟩
  · exact admits.elim

theorem isLayer_ofFile {content : Option String} (proper : IsProperFile content) :
    ∃ entries, ofFile content = .ok entries ∧ Value.IsLayer entries ∧
      ∀ setting, Value.setting? entries setting = setting.inFile? content := by
  cases content with
  | none => exact ⟨[], rfl, Value.isLayer_nil, fun _ => rfl⟩
  | some text =>
      obtain ⟨document, isRead, admits⟩ := proper text rfl
      have read : Toml.read? text = some document := isRead
      have distinct := Toml.areDistinct_of_read? read
      refine ⟨Value.entriesOfToml document, by rw [ofFile, read], ⟨?_, ?_, ?_⟩, ?_⟩
      · rw [keys_entriesOfToml]
        exact distinct.keys
      · intro setting value found
        obtain ⟨origin, inner, isTable, rfl⟩ :=
          (setting?_entriesOfToml (admits setting)).1 value found
        refine ⟨_, rfl, ?_⟩
        rw [keys_entriesOfToml]
        exact (distinct.get? isTable).areDistinct.keys
      · intro setting value found
        obtain ⟨_, values, fits⟩ := setting?_entriesOfToml (admits setting)
        rw [values, Option.map_eq_some_iff] at found
        obtain ⟨given, isGiven, rfl⟩ := found
        exact fits given isGiven
      · intro setting
        rw [(setting?_entriesOfToml (admits setting)).2.1, Setting.inFile?]
        simp only [Option.bind_eq_bind, Option.bind_some, read]

theorem isLayer_ofFiles {files : String → Option String} {names : List String}
    (proper : ∀ name ∈ names, IsProperFile (files name)) :
    ∃ sources, names.mapM (fun name => ofFile (files name)) = .ok sources ∧
      (∀ source ∈ sources, Value.IsLayer source) ∧ ∀ setting,
        (sources.reverse.findSome? fun source => Value.setting? source setting) =
          names.reverse.findSome? fun name => setting.inFile? (files name) := by
  induction names with
  | nil => exact ⟨[], rfl, nofun, fun _ => rfl⟩
  | cons name names inductionHypothesis =>
      rw [List.forall_mem_cons] at proper
      obtain ⟨first, isFirst, isLayer, ofFirst⟩ := isLayer_ofFile proper.1
      obtain ⟨sources, areRead, areLayers, ofOthers⟩ := inductionHypothesis proper.2
      refine ⟨first :: sources, ?_, List.forall_mem_cons.mpr ⟨isLayer, areLayers⟩, ?_⟩
      · rw [List.mapM_cons, isFirst, areRead]
        rfl
      · intro setting
        rw [List.reverse_cons, List.reverse_cons, List.findSome?_append, List.findSome?_append,
          List.findSome?_singleton, List.findSome?_singleton, ofOthers, ofFirst]

/-- A field sets one setting to any value that fits it, and leaves the others as they are. -/
structure Field.Sets {σ : Type} (view : σ → Setting → Option Value) (field : Field σ)
    (setting : Setting) : Prop where
  name : field.name = setting.key
  set : ∀ path value section_, setting.Fits value → ∃ changed,
    field.set path value section_ = .ok changed ∧ view changed setting = some value ∧
      ∀ other, other ≠ setting → view changed other = view section_ other

theorem natural_of_fits {setting : Setting} (isNumber : setting.isNumber = true) {value : Value}
    (fits : setting.Fits value) (path : List String) :
    ∃ number : Nat, natural path value = .ok number ∧ value = .integer number := by
  cases value with
  | integer number =>
      obtain ⟨_, low, high⟩ := fits
      refine ⟨number.toNat, ?_, by rw [Int.toNat_of_nonneg low]⟩
      rw [natural, if_pos ⟨low, high⟩]
  | string text => exact absurd (isNumber.symm.trans fits) nofun
  | _ => exact fits.elim

theorem text_of_fits {setting : Setting} (isText : setting.isNumber = false) {value : Value}
    (fits : setting.Fits value) (path : List String) :
    ∃ name : String, text path value = .ok name ∧ value = .string name.toList := by
  cases value with
  | integer number => exact absurd (fits.1.symm.trans isText) nofun
  | string name => exact ⟨String.ofList name, rfl, by rw [String.toList_ofList]⟩
  | _ => exact fits.elim

/-- The settings of one section, with the defaults of the other. -/
def Connection.view (connection : Connection) (setting : Setting) : Option Value :=
  setting.valueIn ⟨connection, .default⟩

def Logging.view (logging : Logging) (setting : Setting) : Option Value :=
  setting.valueIn ⟨.default, logging⟩

section Sets

variable {σ : Type} {view : σ → Setting → Option Value} {field : Field σ} {setting : Setting}

theorem Field.Sets.of_number (change : σ → Nat → σ) (name : field.name = setting.key)
    (isNumber : setting.isNumber = true)
    (set : ∀ path value section_,
      field.set path value section_ = (natural path value).map (change section_))
    (own : ∀ section_ number, view (change section_ number) setting = some (.integer number))
    (others : ∀ section_ number other, other ≠ setting →
      view (change section_ number) other = view section_ other) : field.Sets view setting where
  name := name
  set path value section_ fits := by
    obtain ⟨number, isRead, rfl⟩ := natural_of_fits isNumber fits path
    exact ⟨change section_ number, by rw [set, isRead]; rfl, own section_ number,
      others section_ number⟩

theorem Field.Sets.of_text (change : σ → String → σ) (name : field.name = setting.key)
    (isText : setting.isNumber = false)
    (set : ∀ path value section_,
      field.set path value section_ = (text path value).map (change section_))
    (own : ∀ section_ content,
      view (change section_ content) setting = some (.string content.toList))
    (others : ∀ section_ content other, other ≠ setting →
      view (change section_ content) other = view section_ other) : field.Sets view setting where
  name := name
  set path value section_ fits := by
    obtain ⟨content, isRead, rfl⟩ := text_of_fits isText fits path
    exact ⟨change section_ content, by rw [set, isRead]; rfl, own section_ content,
      others section_ content⟩

end Sets

theorem connection_fields_set : ∀ field ∈ Connection.fields, ∃ setting : Setting,
    setting.sectionName = "http" ∧ field.Sets Connection.view setting := by
  unfold Connection.fields
  rw [List.forall_mem_cons, List.forall_mem_cons, List.forall_mem_cons, List.forall_mem_singleton]
  refine ⟨
    ⟨.connectTimeout, rfl, .of_number
      (fun section_ number => { section_ with connectTimeout := number })
      rfl rfl (fun _ _ _ => rfl) (fun _ _ => rfl) ?_⟩,
    ⟨.requestTimeout, rfl, .of_number
      (fun section_ number => { section_ with requestTimeout := number })
      rfl rfl (fun _ _ _ => rfl) (fun _ _ => rfl) ?_⟩,
    ⟨.maxRedirects, rfl, .of_number
      (fun section_ number => { section_ with maxRedirects := number })
      rfl rfl (fun _ _ _ => rfl) (fun _ _ => rfl) ?_⟩,
    ⟨.userAgent, rfl, .of_text
      (fun section_ name => { section_ with userAgent := name })
      rfl rfl (fun _ _ _ => rfl) (fun _ _ => rfl) ?_⟩⟩
  all_goals
    intro section_ given other different
    cases other <;> first | rfl | exact absurd rfl different

theorem logging_fields_set : ∀ field ∈ Logging.fields, ∃ setting : Setting,
    setting.sectionName = "logging" ∧ field.Sets Logging.view setting := by
  unfold Logging.fields
  rw [List.forall_mem_cons, List.forall_mem_cons, List.forall_mem_singleton]
  refine ⟨
    ⟨.level, rfl, .of_text (fun section_ level => { section_ with level := level })
      rfl rfl (fun _ _ _ => rfl) (fun _ _ => rfl) ?_⟩,
    ⟨.format, rfl, .of_text (fun section_ format => { section_ with format := format })
      rfl rfl (fun _ _ _ => rfl) (fun _ _ => rfl) ?_⟩,
    ⟨.file, rfl, .of_text (fun section_ file => { section_ with file := some file })
      rfl rfl (fun _ _ _ => rfl) (fun _ _ => rfl) ?_⟩⟩
  all_goals
    intro section_ given other different
    cases other <;> first | rfl | exact absurd rfl different

def Field.setFrom {σ : Type} (name : String) (entries : List (String × Value)) (section_ : σ)
    (field : Field σ) : Except Fault σ :=
  match Value.get? entries field.name with
  | none => .ok section_
  | some value => field.set [name, field.name] value section_

def found? {σ : Type} (fields : List (Field σ)) (entries : List (String × Value))
    (setting : Setting) : Option Value :=
  if setting.key ∈ fields.map Field.name then Value.get? entries setting.key else none

section SetFrom

variable {σ : Type} {view : σ → Setting → Option Value} {name : String} {field : Field σ}
  {fields : List (Field σ)} {entries : List (String × Value)} {setting : Setting}

theorem Field.Sets.setFrom (sets : field.Sets view setting) (name : String)
    (fits : ∀ value, Value.get? entries setting.key = some value → setting.Fits value)
    (section_ : σ) :
    ∃ changed, field.setFrom name entries section_ = .ok changed ∧ ∀ other, view changed other =
      (if other = setting then Value.get? entries setting.key else none).or
        (view section_ other) := by
  rw [Field.setFrom, sets.name]
  cases found : Value.get? entries setting.key with
  | none =>
      refine ⟨section_, rfl, fun other => ?_⟩
      rw [ite_self]
      rfl
  | some value =>
      obtain ⟨changed, isSet, own, others⟩ :=
        sets.set [name, setting.key] value section_ (fits value found)
      refine ⟨changed, isSet, fun other => ?_⟩
      by_cases same : other = setting
      · rw [if_pos same, same, own]
        rfl
      · rw [if_neg same, others other same]
        rfl

theorem found?_cons (sets : field.Sets view setting) (other : Setting) :
    found? (field :: fields) entries other = (found? fields entries other).or
      (if other = setting then Value.get? entries setting.key else none) := by
  have isFirst : other.key = field.name ↔ other = setting := by
    rw [sets.name]
    exact ⟨Setting.eq_of_key_eq, congrArg Setting.key⟩
  simp only [found?, List.map_cons, List.mem_cons, isFirst]
  by_cases same : other = setting
  · subst same
    by_cases again : other.key ∈ fields.map Field.name
    · simp [again]
    · simp [again]
  · simp [same]

theorem foldlM_setFrom
    (sets : ∀ field ∈ fields, ∃ setting : Setting,
      setting.sectionName = name ∧ field.Sets view setting)
    (fits : ∀ setting : Setting, setting.sectionName = name → ∀ value,
      Value.get? entries setting.key = some value → setting.Fits value) (section_ : σ) :
    ∃ changed, fields.foldlM (Field.setFrom name entries) section_ = .ok changed ∧
      ∀ setting, view changed setting =
        (found? fields entries setting).or (view section_ setting) := by
  induction fields generalizing section_ with
  | nil => exact ⟨section_, rfl, fun _ => rfl⟩
  | cons field fields inductionHypothesis =>
      rw [List.forall_mem_cons] at sets
      obtain ⟨⟨setting, inSection, sets⟩, setOthers⟩ := sets
      obtain ⟨between, step, view_between⟩ :=
        sets.setFrom name (fits setting inSection) section_
      obtain ⟨changed, run, view_changed⟩ := inductionHypothesis setOthers between
      refine ⟨changed, ?_, fun other => ?_⟩
      · rw [List.foldlM_cons, step]
        exact run
      · rw [view_changed, view_between, found?_cons sets, Option.or_assoc]

theorem readSection_of_fits
    (sets : ∀ field ∈ fields, ∃ setting : Setting,
      setting.sectionName = name ∧ field.Sets view setting)
    (fits : ∀ setting : Setting, setting.sectionName = name → ∀ value,
      Value.get? entries setting.key = some value → setting.Fits value)
    (complete : ∀ setting : Setting, setting.sectionName = name →
      setting.key ∈ fields.map Field.name) (defaults : σ) :
    ∃ read, readSection name fields defaults (.table entries) = .ok read ∧
      ∀ setting : Setting, setting.sectionName = name →
        view read setting = (Value.get? entries setting.key).or (view defaults setting) := by
  have sorted : ∀ field ∈ fields.mergeSort fun left right => decide (left.name ≤ right.name),
      ∃ setting : Setting, setting.sectionName = name ∧ field.Sets view setting :=
    fun field member => sets field (List.mem_mergeSort.mp member)
  obtain ⟨read, run, values⟩ := foldlM_setFrom sorted fits defaults
  refine ⟨read, run, fun setting inSection => ?_⟩
  have given := complete setting inSection
  rw [List.mem_map] at given
  simp only [values, found?, List.mem_map, List.mem_mergeSort, if_pos given]

end SetFrom

def part {σ : Type} (entries : List (String × Value)) (name : String) (fields : List (Field σ))
    (defaults : σ) : Except Fault σ :=
  match Value.get? entries name with
  | none => .ok defaults
  | some value => readSection name fields defaults value

theorem part_of_isLayer {σ : Type} {view : σ → Setting → Option Value} {name : String}
    {fields : List (Field σ)} {entries : List (String × Value)} (layer : Value.IsLayer entries)
    (sets : ∀ field ∈ fields, ∃ setting : Setting,
      setting.sectionName = name ∧ field.Sets view setting)
    (complete : ∀ setting : Setting, setting.sectionName = name →
      setting.key ∈ fields.map Field.name)
    (exists_ : ∃ setting : Setting, setting.sectionName = name) (defaults : σ) :
    ∃ read, part entries name fields defaults = .ok read ∧
      ∀ setting : Setting, setting.sectionName = name → view read setting =
        (Value.setting? entries setting).or (view defaults setting) := by
  obtain ⟨some_, inName⟩ := exists_
  rw [part]
  cases found : Value.get? entries name with
  | none =>
      refine ⟨defaults, rfl, fun setting inSection => ?_⟩
      rw [Value.setting?, inSection, found]
      rfl
  | some value =>
      obtain ⟨inner, rfl, _⟩ := layer.tables some_ value (by rw [inName]; exact found)
      have inside (setting : Setting) (inSection : setting.sectionName = name) :
          Value.setting? entries setting = Value.get? inner setting.key := by
        rw [Value.setting?, inSection, found]
      have fits (setting : Setting) (inSection : setting.sectionName = name) (value : Value)
          (given : Value.get? inner setting.key = some value) : setting.Fits value :=
        layer.fits setting value ((inside setting inSection).trans given)
      obtain ⟨read, isRead, values⟩ := readSection_of_fits sets fits complete defaults
      exact ⟨read, isRead, fun setting inSection => by
        rw [values setting inSection, inside setting inSection]⟩

/-- From a layer all settings can be read: what it does not give keeps its default. -/
theorem ofEntries_of_isLayer {entries : List (String × Value)} (layer : Value.IsLayer entries) :
    ∃ settings, ofEntries entries = .ok settings ∧ ∀ setting : Setting,
      setting.valueIn settings =
        (Value.setting? entries setting).or (setting.valueIn .default) := by
  obtain ⟨connection, isRead, ofConnection⟩ := part_of_isLayer layer connection_fields_set
    (by decide) ⟨.maxRedirects, rfl⟩ .default
  obtain ⟨logging, isReadToo, ofLogging⟩ := part_of_isLayer layer logging_fields_set
    (by decide) ⟨.level, rfl⟩ .default
  refine ⟨⟨connection, logging⟩, ?_, fun setting => ?_⟩
  · change (part entries "http" Connection.fields .default >>= fun connection =>
      part entries "logging" Logging.fields .default >>= fun logging =>
        pure (⟨connection, logging⟩ : Settings)) = _
    rw [isRead, isReadToo]
    rfl
  · by_cases inConnection : setting.sectionName = "http"
    · have same (other : Logging) : setting.valueIn ⟨connection, other⟩ =
          connection.view setting := by
        cases setting <;> first | rfl | exact absurd inConnection (by decide)
      rw [same, ofConnection setting inConnection]
      rfl
    · have inLogging : setting.sectionName = "logging" := by
        cases setting <;> first | rfl | exact absurd rfl inConnection
      have same (other : Connection) : setting.valueIn ⟨other, logging⟩ =
          logging.view setting := by
        cases setting <;> first | rfl | exact absurd rfl inConnection
      rw [same, ofLogging setting inLogging]
      rfl

variable {files : String → Option String} {environment : List (String × String)}

/-- The settings of files, each over those before it, with those of the environment over them. -/
def readFiles (files : String → Option String) (names : List String)
    (environment : List (String × String)) : Except Fault Settings := do
  let sources ← names.mapM fun name => ofFile (files name)
  let merged := sources.foldl Value.mergeEntries []
  match Value.ofVariables environment with
  | .table entries => ofEntries (Value.mergeEntries merged entries)
  | _ => ofEntries merged

theorem read_none (files : String → Option String) (environment : List (String × String)) :
    read files none environment = readFiles files defaultFiles environment := rfl

theorem read_some (files : String → Option String) (name : String)
    (environment : List (String × String)) :
    read files (some name) environment = readFiles files [name] environment := rfl

/-- Every setting has the value of the environment, or that of the last file that gives it one, or
its default. -/
theorem readFiles_of_proper {names : List String}
    (proper : ∀ name ∈ names, IsProperFile (files name))
    (accepts : ∀ entry ∈ environment, ∀ setting : Setting, setting.Accepts entry) :
    ∃ settings, readFiles files names environment = .ok settings ∧ ∀ setting : Setting,
      setting.valueIn settings = (setting.inEnvironment? environment).or
        ((names.reverse.findSome? fun name => setting.inFile? (files name)).or
          (setting.valueIn .default)) := by
  obtain ⟨sources, areRead, areLayers, ofSources⟩ := isLayer_ofFiles proper
  obtain ⟨assigned, areTable, isLayerToo, ofAssigned⟩ := Value.isLayer_ofVariables accepts
  obtain ⟨isLayerAll, ofAll⟩ := Value.isLayer_nil.mergeAll areLayers
  obtain ⟨isLayer, ofMerged⟩ := isLayerAll.merge isLayerToo
  obtain ⟨settings, isExtracted, values⟩ := ofEntries_of_isLayer isLayer
  refine ⟨settings, ?_, fun setting => ?_⟩
  · rw [readFiles, areRead, areTable]
    exact isExtracted
  · have nothing : Value.setting? [] setting = none := rfl
    rw [values, ofMerged, ofAll, nothing, Option.or_none, ofSources, ofAssigned,
      Option.or_assoc]

/-- Whatever documents with suitable sections the files are, and whatever an environment says
besides suitable values for settings, the settings can be read. Each of them, whatever the others
are, has the value that the environment gives it, else the local file, else the base file, else its
default; and likewise with one named file in the place of the two. A variable changes no setting
that it is not for, and the one for a password is for none. -/
theorem read_layered (accepts : ∀ entry ∈ environment, ∀ setting : Setting, setting.Accepts entry) :
    (IsProperFile (files "dataservice.toml") → IsProperFile (files "dataservice.local.toml") →
      ∃ settings, read files none environment = .ok settings ∧ ∀ setting : Setting,
        setting.valueIn settings = (setting.inEnvironment? environment).or
          ((setting.inFile? (files "dataservice.local.toml")).or
            ((setting.inFile? (files "dataservice.toml")).or (setting.valueIn .default)))) ∧
    (∀ name, IsProperFile (files name) →
      ∃ settings, read files (some name) environment = .ok settings ∧ ∀ setting : Setting,
        setting.valueIn settings = (setting.inEnvironment? environment).or
          ((setting.inFile? (files name)).or (setting.valueIn .default))) ∧
    (∀ (setting : Setting) entry before after, ¬ setting.IsNamedBy entry.1 →
      setting.inEnvironment? (before ++ entry :: after) =
        setting.inEnvironment? (before ++ after)) ∧
    ∀ setting : Setting, ¬ setting.IsNamedBy "DATASERVICE_PASSWORD" := by
  refine ⟨fun base local_ => ?_, fun name proper => ?_, ?_, by decide⟩
  · have proper : ∀ name ∈ defaultFiles, IsProperFile (files name) :=
      List.forall_mem_cons.mpr ⟨base, List.forall_mem_singleton.mpr local_⟩
    obtain ⟨settings, isRead, values⟩ := readFiles_of_proper proper accepts
    refine ⟨settings, by rw [read_none, isRead], fun setting => ?_⟩
    have reversed : defaultFiles.reverse = ["dataservice.local.toml"] ++ ["dataservice.toml"] := rfl
    rw [values, reversed, List.findSome?_append, List.findSome?_singleton,
      List.findSome?_singleton, Option.or_assoc]
  · obtain ⟨settings, isRead, values⟩ :=
      readFiles_of_proper (List.forall_mem_singleton.mpr proper) accepts
    refine ⟨settings, by rw [read_some, isRead], fun setting => ?_⟩
    rw [values, List.reverse_singleton, List.findSome?_singleton]
  · intro setting entry before after unnamed
    unfold Setting.inEnvironment?
    rw [List.reverse_append, List.reverse_append, List.reverse_cons, List.append_assoc,
      List.findSome?_append, List.findSome?_append, List.findSome?_append,
      List.findSome?_singleton, if_neg unnamed, Option.none_or]

def Value.simple? : Value → Option (Int ⊕ String)
  | .integer number => some (.inl number)
  | .string text => some (.inr (String.ofList text))
  | _ => none

/-- Two files and an environment, each of which decides some settings and has something else to
say. -/
theorem read_layered_apart :
    let files : String → Option String := fun name =>
      if name = "dataservice.toml" then
        some "[http]\nconnect_timeout_ms = 1\nmax_redirects = 1\n\n[logging]\nlevel = 'info'\nx = 1"
      else some "http.max_redirects = 3\nlogging = \x7b format = \"json\" \x7d\nx = 1979-05-27"
    let environment := [("DATASERVICE_HTTP__USER_AGENT", "me"), ("DATASERVICE_PASSWORD", "4"),
      ("DataService_Http__Max_Redirects", "4"), ("DATASERVICE_HTTP__MAX__REDIRECTS", "5")]
    (∀ entry ∈ environment, ∀ setting : Setting, setting.Accepts entry) ∧
      IsProperFile (files "dataservice.toml") ∧ IsProperFile (files "dataservice.local.toml") ∧
      ∃ settings, read files none environment = .ok settings ∧
        (Setting.all.map fun setting => (setting.valueIn settings).bind Value.simple?) =
          [some (.inl 1), some (.inl 60000), some (.inl 4), some (.inr "me"), some (.inr "info"),
            some (.inr "json"), none] := by
  intro files environment
  have accepts : ∀ entry ∈ environment, ∀ setting : Setting, setting.Accepts entry := by
    decide +kernel
  have base : IsProperFile (files "dataservice.toml") := by decide +kernel
  have local_ : IsProperFile (files "dataservice.local.toml") := by decide +kernel
  obtain ⟨settings, isRead, values⟩ := (read_layered accepts).1 base local_
  refine ⟨accepts, base, local_, settings, isRead, ?_⟩
  simp only [values]
  decide +kernel

end Settings

end VirtualTables
