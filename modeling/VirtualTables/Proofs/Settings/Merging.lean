import VirtualTables.Settings.Reader

/-!
Sources of settings merged into one.

A layer is what a source says, if its sections are tables and give every setting a value that fits
it (`IsLayer`). Merging a layer over another gives a layer again, and in it every setting has the
value of the later layer, or that of the earlier one where the later has none (`IsLayer.merge`). So
many layers leave every setting the value of the last one that has one (`IsLayer.mergeAll`).
-/

namespace VirtualTables

inductive Setting where
  | connectTimeout
  | requestTimeout
  | maxRedirects
  | userAgent
  | level
  | format
  | file
deriving DecidableEq

namespace Setting

open Settings (Value)

def all : List Setting :=
  [.connectTimeout, .requestTimeout, .maxRedirects, .userAgent, .level, .format, .file]

theorem mem_all (setting : Setting) : setting ∈ all := by
  cases setting <;> decide

instance {holds : Setting → Prop} [DecidablePred holds] : Decidable (∀ setting, holds setting) :=
  decidable_of_iff (∀ setting ∈ all, holds setting)
    ⟨fun ofAll setting => ofAll setting setting.mem_all, fun always setting _ => always setting⟩

def sectionName : Setting → String
  | .connectTimeout => "http"
  | .requestTimeout => "http"
  | .maxRedirects => "http"
  | .userAgent => "http"
  | .level => "logging"
  | .format => "logging"
  | .file => "logging"

def key : Setting → String
  | .connectTimeout => "connect_timeout_ms"
  | .requestTimeout => "request_timeout_ms"
  | .maxRedirects => "max_redirects"
  | .userAgent => "user_agent"
  | .level => "level"
  | .format => "format"
  | .file => "file"

theorem eq_of_key_eq {setting other : Setting} (same : setting.key = other.key) :
    setting = other := by
  revert same
  revert other
  revert setting
  decide

/-- Whether a setting is a number; the others are texts. -/
def isNumber : Setting → Bool
  | .connectTimeout => true
  | .requestTimeout => true
  | .maxRedirects => true
  | _ => false

/-- A value has the type of a setting and is in its range. -/
def Fits (setting : Setting) : Value → Prop
  | .integer number => setting.isNumber = true ∧ 0 ≤ number ∧ number < UInt64.size
  | .string _ => setting.isNumber = false
  | _ => False

instance (setting : Setting) : DecidablePred setting.Fits
  | .integer number =>
      inferInstanceAs (Decidable (setting.isNumber = true ∧ 0 ≤ number ∧ number < UInt64.size))
  | .string _ => inferInstanceAs (Decidable (setting.isNumber = false))
  | .float _ => inferInstanceAs (Decidable False)
  | .truth _ => inferInstanceAs (Decidable False)
  | .list _ => inferInstanceAs (Decidable False)
  | .table _ => inferInstanceAs (Decidable False)

/-- The value of a setting; the log need not have a file. -/
def valueIn (settings : Settings) : Setting → Option Value
  | .connectTimeout => some (.integer settings.connection.connectTimeout)
  | .requestTimeout => some (.integer settings.connection.requestTimeout)
  | .maxRedirects => some (.integer settings.connection.maxRedirects)
  | .userAgent => some (.string settings.connection.userAgent.toList)
  | .level => some (.string settings.logging.level.toList)
  | .format => some (.string settings.logging.format.toList)
  | .file => settings.logging.file.map fun name => .string name.toList

end Setting

namespace Settings.Value

variable {entries earlier later : List (String × Value)}

theorem get?_cons (name key : String) (value : Value) :
    get? ((name, value) :: entries) key = if key = name then some value else get? entries key := by
  by_cases same : key = name
  · simp [get?, same]
  · simp [get?, same, Ne.symm same]

theorem get?_put (name key : String) (value : Value) (entries : List (String × Value)) :
    get? (put name value entries) key = if key = name then some value else get? entries key := by
  induction entries with
  | nil => exact get?_cons name key value
  | cons first rest inductionHypothesis =>
      obtain ⟨firstName, firstValue⟩ := first
      rw [put]
      by_cases same : firstName = name
      · rw [if_pos same, get?_cons, get?_cons, same]
        split
        · rfl
        · rfl
      · rw [if_neg same, get?_cons, get?_cons, inductionHypothesis]
        by_cases found : key = firstName
        · rw [if_pos found, if_pos found, if_neg (found ▸ same)]
        · rw [if_neg found, if_neg found]

theorem get?_eq_none_iff {key : String} :
    get? entries key = none ↔ key ∉ entries.map Prod.fst := by
  simp only [get?, Option.map_eq_none_iff, List.find?_eq_none, List.mem_map, not_exists, not_and,
    beq_iff_eq]

theorem not_mem_keys_put {name key : String} {value : Value} :
    key ∉ (put name value entries).map Prod.fst ↔ key ≠ name ∧ key ∉ entries.map Prod.fst := by
  rw [← get?_eq_none_iff, ← get?_eq_none_iff, get?_put]
  by_cases same : key = name
  · simp [same]
  · simp [same]

theorem nodup_put {name : String} {value : Value} (nodup : (entries.map Prod.fst).Nodup) :
    ((put name value entries).map Prod.fst).Nodup := by
  induction entries with
  | nil => simp [put]
  | cons first rest inductionHypothesis =>
      rw [List.map_cons, List.nodup_cons] at nodup
      rw [put]
      split
      · next same =>
          rw [List.map_cons, List.nodup_cons, ← same]
          exact nodup
      · next other =>
          rw [List.map_cons, List.nodup_cons, not_mem_keys_put]
          exact ⟨⟨other, nodup.1⟩, inductionHypothesis nodup.2⟩

theorem nodup_mergeEntries (nodup : (earlier.map Prod.fst).Nodup) :
    ((mergeEntries earlier later).map Prod.fst).Nodup := by
  induction later generalizing earlier with
  | nil => exact nodup
  | cons first rest inductionHypothesis =>
      rw [mergeEntries]
      exact inductionHypothesis (nodup_put nodup)

/-- The value under a key of merged tables. -/
def merged? : (earlier later : Option Value) → Option Value
  | earlier, none => earlier
  | none, some later => some later
  | some earlier, some later => some (merge earlier later)

theorem get?_mergeEntries (distinct : (later.map Prod.fst).Nodup) (key : String) :
    get? (mergeEntries earlier later) key = merged? (get? earlier key) (get? later key) := by
  induction later generalizing earlier with
  | nil =>
      rw [mergeEntries]
      cases get? earlier key with
      | none => rfl
      | some value => rfl
  | cons first rest inductionHypothesis =>
      obtain ⟨name, value⟩ := first
      rw [List.map_cons, List.nodup_cons] at distinct
      rw [mergeEntries, inductionHypothesis distinct.2, get?_put, get?_cons]
      by_cases same : key = name
      · rw [if_pos same, if_pos same, same, get?_eq_none_iff.mpr distinct.1]
        cases get? earlier name with
        | none => rfl
        | some found => rfl
      · rw [if_neg same, if_neg same]

/-- The value that the tables of the sections give a setting. -/
def setting? (entries : List (String × Value)) (setting : Setting) : Option Value :=
  match get? entries setting.sectionName with
  | some (.table inner) => get? inner setting.key
  | _ => none

/-- The sections of a source are tables, and all values of settings in them fit. -/
structure IsLayer (entries : List (String × Value)) : Prop where
  keys : (entries.map Prod.fst).Nodup
  tables : ∀ (setting : Setting) value, get? entries setting.sectionName = some value →
    ∃ inner, value = .table inner ∧ (inner.map Prod.fst).Nodup
  fits : ∀ (setting : Setting) value, setting? entries setting = some value → setting.Fits value

theorem isLayer_nil : IsLayer [] :=
  ⟨.nil, nofun, nofun⟩

theorem merge_of_fits {setting : Setting} {value : Value} (fits : setting.Fits value)
    (earlier : Value) : merge earlier value = value := by
  cases value with
  | table inner => exact fits.elim
  | _ => rw [merge]; nofun

namespace IsLayer

theorem section_cases (layer : IsLayer entries) (setting : Setting) :
    (get? entries setting.sectionName = none ∧ setting? entries setting = none) ∨
      ∃ inner, get? entries setting.sectionName = some (.table inner) ∧
        (inner.map Prod.fst).Nodup ∧ setting? entries setting = get? inner setting.key := by
  cases found : get? entries setting.sectionName with
  | none => exact .inl ⟨rfl, by rw [setting?, found]⟩
  | some value =>
      obtain ⟨inner, rfl, nodup⟩ := layer.tables setting value found
      exact .inr ⟨inner, rfl, nodup, by rw [setting?, found]⟩

theorem merged_section (earlierLayer : IsLayer earlier) (laterLayer : IsLayer later)
    (setting : Setting) :
    (get? (mergeEntries earlier later) setting.sectionName = none ∨
      ∃ inner, get? (mergeEntries earlier later) setting.sectionName = some (.table inner) ∧
        (inner.map Prod.fst).Nodup) ∧
    setting? (mergeEntries earlier later) setting =
      (setting? later setting).or (setting? earlier setting) := by
  have found : get? (mergeEntries earlier later) setting.sectionName =
      merged? (get? earlier setting.sectionName) (get? later setting.sectionName) :=
    get?_mergeEntries laterLayer.keys setting.sectionName
  rcases earlierLayer.section_cases setting with
    ⟨inEarlier, valueEarlier⟩ | ⟨innerEarlier, inEarlier, nodupEarlier, valueEarlier⟩ <;>
  rcases laterLayer.section_cases setting with
    ⟨inLater, valueLater⟩ | ⟨innerLater, inLater, nodupLater, valueLater⟩
  · rw [inEarlier, inLater] at found
    exact ⟨.inl found, by rw [setting?, found, valueEarlier, valueLater]; rfl⟩
  · rw [inEarlier, inLater] at found
    refine ⟨.inr ⟨innerLater, found, nodupLater⟩, ?_⟩
    rw [setting?, found, valueEarlier, valueLater, Option.or_none]
    rfl
  · rw [inEarlier, inLater] at found
    refine ⟨.inr ⟨innerEarlier, found, nodupEarlier⟩, ?_⟩
    rw [setting?, found, valueEarlier, valueLater]
    rfl
  · rw [inEarlier, inLater] at found
    have whole : merged? (some (.table innerEarlier)) (some (.table innerLater)) =
        some (.table (mergeEntries innerEarlier innerLater)) := rfl
    rw [whole] at found
    refine ⟨.inr ⟨_, found, nodup_mergeEntries nodupEarlier⟩, ?_⟩
    rw [setting?, found, valueEarlier, valueLater]
    dsimp only
    rw [get?_mergeEntries nodupLater]
    cases given : get? innerLater setting.key with
    | none =>
        cases get? innerEarlier setting.key with
        | none => rfl
        | some value => rfl
    | some value =>
        have fits := laterLayer.fits setting value (valueLater.trans given)
        cases get? innerEarlier setting.key with
        | none => rfl
        | some before => exact congrArg some (merge_of_fits fits before)

/-- Every setting has the value of the later layer or, where it has none, of the earlier one. -/
theorem merge (earlierLayer : IsLayer earlier) (laterLayer : IsLayer later) :
    IsLayer (mergeEntries earlier later) ∧ ∀ setting,
      setting? (mergeEntries earlier later) setting =
        (setting? later setting).or (setting? earlier setting) := by
  refine ⟨⟨nodup_mergeEntries earlierLayer.keys, ?_, ?_⟩, fun setting =>
    (earlierLayer.merged_section laterLayer setting).2⟩
  · intro setting value found
    rcases (earlierLayer.merged_section laterLayer setting).1 with missing | ⟨inner, isTable, nodup⟩
    · rw [missing] at found
      cases found
    · rw [isTable] at found
      cases found
      exact ⟨inner, rfl, nodup⟩
  · intro setting value found
    rw [(earlierLayer.merged_section laterLayer setting).2, Option.or_eq_some_iff] at found
    rcases found with ofLater | ⟨_, ofEarlier⟩
    · exact laterLayer.fits setting value ofLater
    · exact earlierLayer.fits setting value ofEarlier

theorem mergeAll {layers : List (List (String × Value))} (first : IsLayer earlier)
    (all : ∀ layer ∈ layers, IsLayer layer) :
    IsLayer (layers.foldl mergeEntries earlier) ∧ ∀ setting,
      setting? (layers.foldl mergeEntries earlier) setting =
        (layers.reverse.findSome? fun layer => setting? layer setting).or
          (setting? earlier setting) := by
  induction layers generalizing earlier with
  | nil => exact ⟨first, fun _ => rfl⟩
  | cons layer layers inductionHypothesis =>
      rw [List.forall_mem_cons] at all
      obtain ⟨isLayer, values⟩ := first.merge all.1
      obtain ⟨isLayerAll, valuesAll⟩ := inductionHypothesis isLayer all.2
      refine ⟨isLayerAll, fun setting => ?_⟩
      rw [List.foldl_cons, valuesAll, values, List.reverse_cons, List.findSome?_append,
        List.findSome?_singleton, Option.or_assoc]

end IsLayer

end Settings.Value

end VirtualTables
