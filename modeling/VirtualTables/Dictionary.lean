/-!
Finite maps from names to values, kept in ascending order of the names by code point.

Two dictionaries are equal as soon as they have the same entries, because the order is part of the
type. `get?_insert`, `get?_erase`, `get?_insertAll` and `get?_withDefaults` say what the operations
do to what is found under a name, and by `ext_get?` nothing else can be told of a dictionary.
-/

namespace VirtualTables

/-- Values under names, in ascending order of the names. -/
structure Dictionary (α : Type) where
  entries : List (String × α)
  sorted : entries.Pairwise fun left right => left.1 < right.1

namespace Dictionary

variable {α : Type}

@[ext]
theorem ext {left right : Dictionary α} (same : left.entries = right.entries) : left = right := by
  cases left
  cases right
  cases same
  rfl

instance [DecidableEq α] : DecidableEq (Dictionary α) := fun left right =>
  decidable_of_iff (left.entries = right.entries) ⟨ext, fun same => same ▸ rfl⟩

def empty : Dictionary α :=
  ⟨[], .nil⟩

def place (name : String) (value : α) : List (String × α) → List (String × α)
  | [] => [(name, value)]
  | entry :: rest =>
      if name < entry.1 then (name, value) :: entry :: rest
      else if entry.1 < name then entry :: place name value rest
      else (name, value) :: rest

theorem mem_place {name : String} {value : α} {entries : List (String × α)}
    {entry : String × α} (member : entry ∈ place name value entries) :
    entry = (name, value) ∨ entry ∈ entries := by
  induction entries with
  | nil => simpa [place] using member
  | cons first rest inductionHypothesis =>
      simp only [place] at member
      split at member
      · simpa using member
      · split at member
        · rcases List.mem_cons.mp member with equal | inRest
          · exact .inr (equal ▸ List.mem_cons_self)
          · exact (inductionHypothesis inRest).imp id (List.mem_cons_of_mem _)
        · rcases List.mem_cons.mp member with equal | inRest
          · exact .inl equal
          · exact .inr (List.mem_cons_of_mem _ inRest)

theorem sorted_place (name : String) (value : α) {entries : List (String × α)}
    (sorted : entries.Pairwise fun left right => left.1 < right.1) :
    (place name value entries).Pairwise fun left right => left.1 < right.1 := by
  induction entries with
  | nil => simp [place]
  | cons first rest inductionHypothesis =>
      obtain ⟨firstLess, restSorted⟩ := List.pairwise_cons.mp sorted
      simp only [place]
      split
      · next less =>
          refine List.pairwise_cons.mpr ⟨?_, sorted⟩
          intro entry member
          rcases List.mem_cons.mp member with equal | inRest
          · exact equal ▸ less
          · exact String.lt_trans less (firstLess entry inRest)
      · split
        · next greater =>
            refine List.pairwise_cons.mpr ⟨?_, inductionHypothesis restSorted⟩
            intro entry member
            rcases mem_place member with equal | inRest
            · exact equal ▸ greater
            · exact firstLess entry inRest
        · next notLess notGreater =>
            have same : first.1 = name :=
              String.le_antisymm (String.not_lt.mp notLess) (String.not_lt.mp notGreater)
            exact List.pairwise_cons.mpr ⟨fun entry inRest => same ▸ firstLess entry inRest,
              restSorted⟩

def insert (dictionary : Dictionary α) (name : String) (value : α) : Dictionary α :=
  ⟨place name value dictionary.entries, sorted_place name value dictionary.sorted⟩

def get? (dictionary : Dictionary α) (name : String) : Option α :=
  (dictionary.entries.find? fun entry => entry.1 == name).map (·.2)

def erase (dictionary : Dictionary α) (name : String) : Dictionary α :=
  ⟨dictionary.entries.filter fun entry => entry.1 != name, dictionary.sorted.filter _⟩

def insertAll (dictionary : Dictionary α) (entries : List (String × α)) : Dictionary α :=
  entries.foldl (fun filled entry => filled.insert entry.1 entry.2) dictionary

/-- The entries of a list; of several values under a name the last counts. -/
def ofList (entries : List (String × α)) : Dictionary α :=
  empty.insertAll entries

/-- Add the entries of another dictionary whose names are new. -/
def withDefaults (dictionary defaults : Dictionary α) : Dictionary α :=
  defaults.insertAll dictionary.entries

@[simp]
theorem get?_empty (name : String) : (empty : Dictionary α).get? name = none := rfl

theorem find?_place (key name : String) (value : α) (entries : List (String × α)) :
    ((place name value entries).find? fun entry => entry.1 == key).map (·.2) =
      if key = name then some value
      else (entries.find? fun entry => entry.1 == key).map (·.2) := by
  induction entries with
  | nil =>
      by_cases same : key = name
      · simp [place, same]
      · simp [place, same, Ne.symm same]
  | cons first rest inductionHypothesis =>
      simp only [place]
      split
      · by_cases same : key = name
        · simp [same]
        · simp [same, Ne.symm same]
      · split
        · next greater =>
            by_cases found : first.1 = key
            · have other : key ≠ name := by
                rintro rfl
                exact absurd (found ▸ greater) (String.lt_irrefl key)
              simp [found, other]
            · simpa [found] using inductionHypothesis
        · next notLess notGreater =>
            have same : first.1 = name :=
              String.le_antisymm (String.not_lt.mp notLess) (String.not_lt.mp notGreater)
            by_cases found : key = name
            · simp [found]
            · simp [found, same, Ne.symm found]

theorem get?_insert (dictionary : Dictionary α) (key name : String) (value : α) :
    (dictionary.insert name value).get? key =
      if key = name then some value else dictionary.get? key :=
  find?_place key name value dictionary.entries

theorem get?_erase (dictionary : Dictionary α) (key name : String) :
    (dictionary.erase name).get? key = if key = name then none else dictionary.get? key := by
  simp only [get?, erase, List.find?_filter, Bool.decide_and, Bool.decide_eq_true]
  by_cases same : key = name
  · subst same
    simp
  · have agree : (fun entry : String × α => entry.1 != name && entry.1 == key) =
        fun entry => entry.1 == key := by
      funext entry
      by_cases found : entry.1 = key
      · simp [found, same]
      · simp [found]
    rw [if_neg same]
    exact congrArg (fun test => (dictionary.entries.find? test).map (·.2)) agree

theorem get?_eq_some_iff {dictionary : Dictionary α} {name : String} {value : α} :
    dictionary.get? name = some value ↔ (name, value) ∈ dictionary.entries := by
  obtain ⟨entries, sorted⟩ := dictionary
  simp only [get?]
  induction entries with
  | nil => simp
  | cons first rest inductionHypothesis =>
      obtain ⟨firstLess, restSorted⟩ := List.pairwise_cons.mp sorted
      obtain ⟨key, kept⟩ := first
      by_cases same : key = name
      · subst same
        have absent : (key, value) ∉ rest := fun inRest =>
          String.lt_irrefl key (firstLess _ inRest)
        simp [absent, eq_comm]
      · simpa [same, Ne.symm same] using inductionHypothesis restSorted

/-- Two dictionaries in which the same is found under every name are equal. -/
theorem ext_get? {left right : Dictionary α} (same : ∀ name, left.get? name = right.get? name) :
    left = right := by
  have members (entry : String × α) : entry ∈ left.entries ↔ entry ∈ right.entries := by
    rw [← get?_eq_some_iff, ← get?_eq_some_iff, same]
  have distinct {dictionary : Dictionary α} : dictionary.entries.Nodup :=
    dictionary.sorted.imp fun {first _} less => by
      rintro rfl
      exact String.lt_irrefl first.1 less
  refine ext (List.Perm.eq_of_pairwise ?_ left.sorted right.sorted
    ((List.perm_ext_iff_of_nodup distinct distinct).mpr members))
  intro first second _ _ less greater
  exact absurd (String.lt_trans less greater) (String.lt_irrefl _)

theorem get?_insertAll (dictionary : Dictionary α) (key : String) (entries : List (String × α)) :
    (dictionary.insertAll entries).get? key =
      ((entries.reverse.find? fun entry => entry.1 == key).map (·.2)).or
        (dictionary.get? key) := by
  induction entries generalizing dictionary with
  | nil => simp [insertAll]
  | cons first rest inductionHypothesis =>
      have step := inductionHypothesis (dictionary.insert first.1 first.2)
      rw [get?_insert] at step
      rw [List.reverse_cons, List.find?_append]
      refine Eq.trans step ?_
      by_cases same : key = first.1
      · subst same
        cases rest.reverse.find? fun entry => entry.1 == first.1 <;> simp
      · cases rest.reverse.find? fun entry => entry.1 == key <;> simp [same, Ne.symm same]

theorem find?_reverse_entries (dictionary : Dictionary α) (key : String) :
    (dictionary.entries.reverse.find? fun entry => entry.1 == key).map (·.2) =
      dictionary.get? key := by
  obtain ⟨entries, sorted⟩ := dictionary
  simp only [get?]
  induction entries with
  | nil => rfl
  | cons first rest inductionHypothesis =>
      obtain ⟨firstLess, restSorted⟩ := List.pairwise_cons.mp sorted
      have tail := inductionHypothesis restSorted
      rw [List.reverse_cons, List.find?_append]
      by_cases same : first.1 = key
      · have absent : rest.reverse.find? (fun entry => entry.1 == key) = none := by
          refine List.find?_eq_none.mpr fun entry member found => ?_
          have less := firstLess entry (List.mem_reverse.mp member)
          rw [same, ← eq_of_beq found] at less
          exact String.lt_irrefl entry.1 less
        simp [absent, same]
      · simpa [same] using tail

theorem get?_ofList (entries : List (String × α)) (key : String) :
    (ofList entries).get? key =
      (entries.reverse.find? fun entry => entry.1 == key).map (·.2) := by
  rw [ofList, get?_insertAll, get?_empty, Option.or_none]

theorem get?_ofList_append (front back : List (String × α)) (key : String) :
    (ofList (front ++ back)).get? key =
      ((ofList back).get? key).or ((ofList front).get? key) := by
  rw [get?_ofList, get?_ofList, get?_ofList, List.reverse_append, List.find?_append, Option.map_or]

theorem mem_of_get?_ofList {entries : List (String × α)} {name : String} {value : α}
    (found : (ofList entries).get? name = some value) : (name, value) ∈ entries := by
  rw [get?_ofList, Option.map_eq_some_iff] at found
  obtain ⟨entry, found, rfl⟩ := found
  have named : (entry.1 == name) = true :=
    List.find?_some (p := fun entry : String × α => entry.1 == name) found
  rw [← eq_of_beq named]
  exact List.mem_reverse.mp (List.mem_of_find?_eq_some found)

theorem ofList_entries (dictionary : Dictionary α) : ofList dictionary.entries = dictionary := by
  apply ext_get?
  intro name
  rw [get?_ofList, find?_reverse_entries]

theorem get?_foldl_erase (dictionary : Dictionary α) (key : String) (names : List String) :
    (names.foldl erase dictionary).get? key =
      if key ∈ names then none else dictionary.get? key := by
  induction names generalizing dictionary with
  | nil => simp
  | cons name names inductionHypothesis =>
      rw [List.foldl_cons, inductionHypothesis, get?_erase]
      by_cases same : key = name
      · simp [same]
      · simp [same]

theorem get?_withDefaults (dictionary defaults : Dictionary α) (key : String) :
    (dictionary.withDefaults defaults).get? key =
      (dictionary.get? key).or (defaults.get? key) := by
  rw [withDefaults, get?_insertAll, find?_reverse_entries]

end Dictionary

end VirtualTables
