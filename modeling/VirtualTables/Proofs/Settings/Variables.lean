import Mathlib.Data.List.Basic
import VirtualTables.Proofs.Settings.Merging

/-!
What the variables of an environment say, as layers.

A variable is for a setting if its name is that of the setting, the case of letters and blanks
around it aside (`Setting.IsNamedBy`). Other names count only if they give a whole section, or are
divided at another place; `Setting.Accepts` excludes that. Then each variable is a layer of its own
with the one value or none (`isLayer_variableLayer`), and an environment is their merger
(`isLayer_ofVariables`).
-/

namespace VirtualTables

open Settings (Value)

namespace Setting

/-- The name of a variable, without blanks around it and in small letters. -/
def plainName (name : String) : List Char :=
  (Text.trim name.toList).map Text.lower

/-- What the names of variables for a section begin with, in small letters. -/
def sectionStart (setting : Setting) : List Char :=
  Value.nameStart ++ setting.sectionName.toList

/-- The name of the variable for a setting, in small letters. -/
def variableName (setting : Setting) : List Char :=
  setting.sectionStart ++ "__".toList ++ setting.key.toList

/-- A variable with this name is for a setting. -/
def IsNamedBy (setting : Setting) (name : String) : Prop :=
  plainName name = setting.variableName

instance (setting : Setting) : DecidablePred setting.IsNamedBy :=
  fun name => inferInstanceAs (Decidable (plainName name = setting.variableName))

/-- A variable that is for the section of a setting has a key in it behind two underscores, and one
that is for the setting has a value that fits. -/
structure Accepts (setting : Setting) (entry : String × String) : Prop where
  /-- It does not stand for the section as a whole. -/
  partial_ : plainName entry.1 ≠ setting.sectionStart
  /-- The key does not begin behind a point. -/
  unpointed : ¬ setting.sectionStart ++ ".".toList <+: plainName entry.1
  /-- The name does not go on behind the key of the setting, with underscores or a point. -/
  ended : ¬ setting.variableName ++ "__".toList <+: plainName entry.1 ∧
    ¬ setting.variableName ++ ".".toList <+: plainName entry.1
  fits : setting.IsNamedBy entry.1 → setting.Fits (Value.ofText entry.2.toList)

instance (setting : Setting) : DecidablePred setting.Accepts := fun entry =>
  decidable_of_iff (plainName entry.1 ≠ setting.sectionStart ∧
    ¬ setting.sectionStart ++ ".".toList <+: plainName entry.1 ∧
    (¬ setting.variableName ++ "__".toList <+: plainName entry.1 ∧
      ¬ setting.variableName ++ ".".toList <+: plainName entry.1) ∧
    (setting.IsNamedBy entry.1 → setting.Fits (Value.ofText entry.2.toList)))
    ⟨fun ⟨partial_, unpointed, ended, fits⟩ => ⟨partial_, unpointed, ended, fits⟩,
      fun accepts => ⟨accepts.partial_, accepts.unpointed, accepts.ended, accepts.fits⟩⟩

/-- What an environment says of a setting: what the last of the variables for it says. -/
def inEnvironment? (setting : Setting) (environment : List (String × String)) : Option Value :=
  environment.reverse.findSome? fun entry =>
    if setting.IsNamedBy entry.1 then some (.ofText entry.2.toList) else none

end Setting

namespace Settings.Value

theorem segments_ne_nil (text : List Char) : segments text ≠ [] := by
  unfold segments
  split
  · exact List.cons_ne_nil _ _
  · exact List.cons_ne_nil _ _
  · exact List.cons_ne_nil _ _
  · split
    · exact List.cons_ne_nil _ _
    · exact List.cons_ne_nil _ _

/-- The first key of a name is all of it, or ends at two underscores or a point. -/
theorem segments_eq_cons {text front : List Char} {others : List (List Char)}
    (parts : segments text = front :: others) :
    (text = front ∧ others = []) ∨
      ∃ rest, (text = front ++ "__".toList ++ rest ∨ text = front ++ ".".toList ++ rest) ∧
        others = segments rest := by
  induction text using segments.induct generalizing front with
  | case1 =>
      cases parts
      exact .inl ⟨rfl, rfl⟩
  | case2 rest =>
      rw [segments] at parts
      cases parts
      exact .inr ⟨rest, .inl rfl, rfl⟩
  | case3 rest =>
      rw [segments] at parts
      cases parts
      exact .inr ⟨rest, .inr rfl, rfl⟩
  | case4 character rest _ _ nothing => exact absurd nothing (segments_ne_nil rest)
  | case5 character rest noUnderscores noPoint segment segments_ found inductionHypothesis =>
      rw [segments, found] at parts
      · cases parts
        rcases inductionHypothesis found with ⟨rfl, rfl⟩ | ⟨behind, ended, rfl⟩
        · exact .inl ⟨rfl, rfl⟩
        · refine .inr ⟨behind, ?_, rfl⟩
          rcases ended with rfl | rfl
          · exact .inl rfl
          · exact .inr rfl
      · exact noUnderscores
      · exact noPoint

variable {entry : String × String} {setting : Setting}

theorem path?_eq (name : String) :
    path? name = (Text.afterStart? nameStart (Setting.plainName name)).bind fun rest =>
      if (segments rest).any (·.isEmpty) then none else some ((segments rest).map String.ofList) :=
  rfl

theorem path?_eq_some {name : String} {path : List String} (found : path? name = some path) :
    ∃ rest, Setting.plainName name = nameStart ++ rest ∧
      path = (segments rest).map String.ofList := by
  rw [path?_eq] at found
  obtain ⟨rest, started, found⟩ := Option.bind_eq_some_iff.mp found
  refine ⟨rest, Text.afterStart?_eq_some_iff.mp started, ?_⟩
  split at found
  · cases found
  · exact (Option.some.inj found).symm

theorem path?_ne_nil (name : String) : path? name ≠ some [] := by
  intro found
  obtain ⟨rest, _, empty⟩ := path?_eq_some found
  exact segments_ne_nil rest (List.map_eq_nil_iff.mp empty.symm)

theorem path?_of_isNamedBy {name : String} (named : setting.IsNamedBy name) :
    path? name = some [setting.sectionName, setting.key] := by
  have started : Text.afterStart? nameStart (Setting.plainName name) =
      some (setting.sectionName.toList ++ "__".toList ++ setting.key.toList) := by
    rw [Text.afterStart?_eq_some_iff, named, Setting.variableName, Setting.sectionStart,
      List.append_assoc, List.append_assoc, List.append_assoc]
  have divided : segments (setting.sectionName.toList ++ "__".toList ++ setting.key.toList) =
      [setting.sectionName.toList, setting.key.toList] := by
    cases setting <;> decide
  have nonempty : ¬ [setting.sectionName.toList, setting.key.toList].any (·.isEmpty) = true := by
    cases setting <;> decide
  rw [path?_eq, started, Option.bind_some, divided, if_neg nonempty, List.map_cons,
    List.map_singleton, String.ofList_toList, String.ofList_toList]

theorem key_of_section (accepts : setting.Accepts entry) {path : List String}
    (found : path? entry.1 = some (setting.sectionName :: path)) :
    (path = [setting.key] ∧ setting.IsNamedBy entry.1) ∨
      ∃ key others, path = key :: others ∧ key ≠ setting.key := by
  obtain ⟨rest, started, split⟩ := path?_eq_some found
  obtain ⟨front, others, parts⟩ := List.exists_cons_of_ne_nil (segments_ne_nil rest)
  rw [parts, List.map_cons, List.cons.injEq] at split
  obtain ⟨isSection, rfl⟩ := split
  have inSection : setting.sectionName.toList = front := by rw [isSection, String.toList_ofList]
  rcases segments_eq_cons parts with ⟨rfl, rfl⟩ | ⟨behind, rfl | rfl, rfl⟩
  · rw [← inSection] at started
    exact absurd started accepts.partial_
  · obtain ⟨key, more, keys⟩ := List.exists_cons_of_ne_nil (segments_ne_nil behind)
    rw [keys, List.map_cons]
    by_cases same : String.ofList key = setting.key
    · refine .inl ?_
      have isKey : setting.key.toList = key := by rw [← same, String.toList_ofList]
      rw [← inSection, ← List.append_assoc, ← List.append_assoc] at started
      rcases segments_eq_cons keys with ⟨rfl, rfl⟩ | ⟨further, rfl | rfl, rfl⟩
      · refine ⟨by rw [same]; rfl, ?_⟩
        rw [Setting.IsNamedBy, started, ← isKey]
        rfl
      · refine absurd ?_ accepts.ended.1
        rw [started, ← isKey, Setting.variableName, Setting.sectionStart]
        simp only [List.append_assoc]
        simp
      · refine absurd ?_ accepts.ended.2
        rw [started, ← isKey, Setting.variableName, Setting.sectionStart]
        simp only [List.append_assoc]
        simp
    · exact .inr ⟨_, _, rfl, same⟩
  · refine absurd ?_ accepts.unpointed
    rw [started, ← inSection, Setting.sectionStart]
    simp

def variableLayer (entry : String × String) : List (String × Value) :=
  match path? entry.1 with
  | some (key :: path) => [(key, nested path (ofText entry.2.toList))]
  | _ => []

theorem variableLayer_cases (accepts : setting.Accepts entry) :
    (setting.IsNamedBy entry.1 ∧ variableLayer entry =
        [(setting.sectionName, .table [(setting.key, ofText entry.2.toList)])]) ∨
      (¬ setting.IsNamedBy entry.1 ∧ (get? (variableLayer entry) setting.sectionName = none ∨
        ∃ key value, key ≠ setting.key ∧
          variableLayer entry = [(setting.sectionName, .table [(key, value)])])) := by
  by_cases named : setting.IsNamedBy entry.1
  · refine .inl ⟨named, ?_⟩
    rw [variableLayer, path?_of_isNamedBy named]
    rfl
  · refine .inr ⟨named, ?_⟩
    unfold variableLayer
    split
    · next name path found =>
        by_cases inSection : setting.sectionName = name
        · subst inSection
          rcases key_of_section accepts found with ⟨_, isNamed⟩ | ⟨key, others, rfl, other⟩
          · exact absurd isNamed named
          · exact .inr ⟨key, _, other, rfl⟩
        · refine .inl ?_
          rw [get?_cons, if_neg inSection]
          rfl
    · exact .inl rfl

theorem setting?_variableLayer (accepts : setting.Accepts entry) :
    setting? (variableLayer entry) setting =
      if setting.IsNamedBy entry.1 then some (ofText entry.2.toList) else none := by
  rw [setting?]
  rcases variableLayer_cases accepts with
    ⟨named, layer⟩ | ⟨unnamed, missing | ⟨key, value, other, layer⟩⟩
  · rw [if_pos named, layer, get?_cons, if_pos rfl]
    dsimp only
    rw [get?_cons, if_pos rfl]
  · rw [if_neg unnamed, missing]
  · rw [if_neg unnamed, layer, get?_cons, if_pos rfl]
    dsimp only
    rw [get?_cons, if_neg (Ne.symm other)]
    rfl

theorem isLayer_variableLayer (accepts : ∀ setting : Setting, setting.Accepts entry) :
    IsLayer (variableLayer entry) := by
  have single (key : String) (value : Value) : ([(key, value)].map Prod.fst).Nodup :=
    List.nodup_cons.mpr ⟨nofun, .nil⟩
  refine ⟨?_, fun setting value found => ?_, fun setting value found => ?_⟩
  · unfold variableLayer
    split
    · exact single _ _
    · exact .nil
  · rcases variableLayer_cases (accepts setting) with
      ⟨_, layer⟩ | ⟨_, missing | ⟨key, _, _, layer⟩⟩
    · rw [layer, get?_cons, if_pos rfl] at found
      cases found
      exact ⟨_, rfl, single _ _⟩
    · rw [missing] at found
      cases found
    · rw [layer, get?_cons, if_pos rfl] at found
      cases found
      exact ⟨_, rfl, single _ _⟩
  · rw [setting?_variableLayer (accepts setting)] at found
    split at found
    · next named =>
        cases found
        exact (accepts setting).fits named
    · cases found

theorem ofVariables_eq (environment : List (String × String)) :
    ofVariables environment =
      .table ((environment.map variableLayer).foldl mergeEntries []) := by
  unfold ofVariables
  generalize ([] : List (String × Value)) = entries
  induction environment generalizing entries with
  | nil => rfl
  | cons entry environment inductionHypothesis =>
      rw [List.foldl_cons, List.map_cons, List.foldl_cons, ← inductionHypothesis]
      refine congrArg (fun value => environment.foldl _ value) ?_
      unfold variableLayer
      cases found : path? entry.1 with
      | none => rw [mergeEntries]
      | some path =>
          cases path with
          | nil => exact absurd found (path?_ne_nil entry.1)
          | cons key path => rfl

/-- An environment says of each setting what the last of the variables for it says. -/
theorem isLayer_ofVariables {environment : List (String × String)}
    (accepts : ∀ entry ∈ environment, ∀ setting : Setting, setting.Accepts entry) :
    ∃ entries, ofVariables environment = .table entries ∧ IsLayer entries ∧
      ∀ setting, setting? entries setting = setting.inEnvironment? environment := by
  have all : ∀ layer ∈ environment.map variableLayer, IsLayer layer := by
    intro layer member
    obtain ⟨entry, inside, rfl⟩ := List.mem_map.mp member
    exact isLayer_variableLayer (accepts entry inside)
  obtain ⟨isLayer, values⟩ := isLayer_nil.mergeAll all
  refine ⟨_, ofVariables_eq environment, isLayer, fun setting => ?_⟩
  have nothing : setting? [] setting = none := rfl
  rw [values setting, nothing, Option.or_none, Setting.inEnvironment?, ← List.map_reverse,
    List.findSome?_map, ← List.head?_filterMap, ← List.head?_filterMap]
  refine congrArg List.head? (List.filterMap_congr fun entry member => ?_)
  exact setting?_variableLayer (accepts entry (List.mem_reverse.mp member) setting)

end Settings.Value

end VirtualTables
