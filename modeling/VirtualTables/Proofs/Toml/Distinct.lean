import VirtualTables.Toml.Reader

/-!
Documents have every key once.

That holds of every table in a document, between braces or under headers, because whatever adds to a
table either looks for the key first or replaces what it finds. `Value.IsDistinct` says it of a
value with all tables inside, and `areDistinct_of_read?` of whole documents.
-/

namespace VirtualTables.Toml

inductive Value.IsDistinct : Value → Prop
  | string (value : List Char) : IsDistinct (.string value)
  | integer (value : Int) : IsDistinct (.integer value)
  | float (value : Binary64) : IsDistinct (.float value)
  | boolean (value : Bool) : IsDistinct (.boolean value)
  | datetime (written : List Char) : IsDistinct (.datetime written)
  | array {isOpen : Bool} {values : List Value} (inside : ∀ value ∈ values, IsDistinct value) :
      IsDistinct (.array isOpen values)
  | table {origin : Origin} {entries : Entries} (keys : (entries.map Prod.fst).Nodup)
      (inside : ∀ entry ∈ entries, IsDistinct entry.2) : IsDistinct (.table origin entries)

/-- Every key stands once among some entries, and in every table inside. -/
structure Entries.AreDistinct (entries : Entries) : Prop where
  keys : (entries.map Prod.fst).Nodup
  inside : ∀ entry ∈ entries, entry.2.IsDistinct

theorem Value.IsDistinct.areDistinct {origin : Origin} {entries : Entries}
    (distinct : (Value.table origin entries).IsDistinct) : entries.AreDistinct := by
  cases distinct with
  | table keys inside => exact ⟨keys, inside⟩

namespace Entries

variable {entries after : Entries} {key : String} {value : Value}

theorem AreDistinct.table (distinct : entries.AreDistinct) (origin : Origin) :
    (Value.table origin entries).IsDistinct :=
  .table distinct.keys distinct.inside

theorem areDistinct_nil : AreDistinct [] :=
  ⟨.nil, nofun⟩

theorem mem_put {entry : String × Value} (member : entry ∈ put key value entries) :
    entry = (key, value) ∨ entry ∈ entries := by
  induction entries with
  | nil => exact .inl (List.mem_singleton.mp member)
  | cons first rest inductionHypothesis =>
      rw [put] at member
      split at member
      · exact (List.mem_cons.mp member).imp id (List.mem_cons_of_mem first)
      · rcases List.mem_cons.mp member with rfl | inRest
        · exact .inr List.mem_cons_self
        · exact (inductionHypothesis inRest).imp id (List.mem_cons_of_mem first)

theorem nodup_put (nodup : (entries.map Prod.fst).Nodup) :
    ((put key value entries).map Prod.fst).Nodup := by
  induction entries with
  | nil => simp [put]
  | cons first rest inductionHypothesis =>
      rw [List.map_cons, List.nodup_cons] at nodup
      rw [put]
      split
      · next same =>
          rw [List.map_cons, List.nodup_cons, ← same]
          exact nodup
      · next other =>
          rw [List.map_cons, List.nodup_cons]
          refine ⟨?_, inductionHypothesis nodup.2⟩
          intro again
          obtain ⟨entry, member, named⟩ := List.mem_map.mp again
          rcases mem_put member with rfl | inRest
          · exact other named.symm
          · exact nodup.1 (List.mem_map.mpr ⟨entry, inRest, named⟩)

theorem AreDistinct.put (distinct : entries.AreDistinct) (value_ : value.IsDistinct) :
    (put key value entries).AreDistinct where
  keys := nodup_put distinct.keys
  inside entry member := by
    rcases mem_put member with rfl | found
    · exact value_
    · exact distinct.inside entry found

theorem AreDistinct.get? (distinct : entries.AreDistinct) (found : entries.get? key = some value) :
    value.IsDistinct := by
  obtain ⟨entry, isFirst, rfl⟩ := Option.map_eq_some_iff.mp found
  exact distinct.inside entry (List.mem_of_find?_eq_some isFirst)

def KeepsDistinct (change : Origin → Entries → Option Entries) : Prop :=
  ∀ origin entries after, change origin entries = some after → entries.AreDistinct →
    after.AreDistinct

variable {change : Origin → Entries → Option Entries} {path : List String}

/-- What happens at the end of a path happens to no other table. -/
theorem KeepsDistinct.extend (keeps : KeepsDistinct change) (isDotted : Bool)
    (path : List String) : KeepsDistinct (extend isDotted change path) := by
  induction path with
  | nil => exact keeps
  | cons key path inductionHypothesis =>
      intro origin entries after changed distinct
      rw [Entries.extend] at changed
      split at changed
      · obtain ⟨inner, ran, changed⟩ := Option.bind_eq_some_iff.mp changed
        cases changed
        exact distinct.put ((inductionHypothesis _ _ _ ran areDistinct_nil).table _)
      · cases changed
      · next reached inner _ found =>
          split at changed
          · cases changed
          · obtain ⟨inner, ran, changed⟩ := Option.bind_eq_some_iff.mp changed
            cases changed
            exact distinct.put
              ((inductionHypothesis _ _ _ ran (distinct.get? found).areDistinct).table _)
      · next values found =>
          split at changed
          · next reached inner others isLast =>
              obtain ⟨extended, ran, changed⟩ := Option.bind_eq_some_iff.mp changed
              cases changed
              have inArray : ∀ value ∈ values, value.IsDistinct := by
                cases distinct.get? found with
                | array inside => exact inside
              have inReversed : ∀ value ∈ Value.table reached inner :: others,
                  value.IsDistinct := by
                rw [← isLast]
                exact fun value member => inArray value (List.mem_reverse.mp member)
              rw [List.forall_mem_cons] at inReversed
              have extendedToo := inductionHypothesis _ _ _ ran inReversed.1.areDistinct
              refine distinct.put (.array ?_)
              intro value member
              rw [List.mem_reverse] at member
              exact List.forall_mem_cons.mpr ⟨extendedToo.table _, inReversed.2⟩ value member
          · cases changed
      · cases changed

theorem keepsDistinct_define (path : List String) (key : String) (distinct : value.IsDistinct) :
    KeepsDistinct fun origin entries => define path key value origin entries := by
  refine KeepsDistinct.extend ?_ true path
  intro origin entries after changed distinctEntries
  dsimp only at changed
  split at changed
  · cases changed
  · split at changed
    · cases changed
    · cases changed
      exact distinctEntries.put distinct

theorem AreDistinct.beginTable (distinct : entries.AreDistinct)
    (begun : entries.beginTable path key = some after) : after.AreDistinct := by
  refine KeepsDistinct.extend ?_ false path _ _ _ begun distinct
  intro _ entries after changed distinct
  dsimp only at changed
  split at changed
  · cases changed
    exact distinct.put (areDistinct_nil.table _)
  · next found =>
      cases changed
      exact distinct.put ((distinct.get? found).areDistinct.table _)
  · cases changed

theorem AreDistinct.beginItem (distinct : entries.AreDistinct)
    (begun : entries.beginItem path key = some after) : after.AreDistinct := by
  refine KeepsDistinct.extend ?_ false path _ _ _ begun distinct
  intro _ entries after changed distinct
  have empty : (Value.table .defined []).IsDistinct := areDistinct_nil.table _
  dsimp only at changed
  split at changed
  · cases changed
    exact distinct.put (.array (List.forall_mem_singleton.mpr empty))
  · next found =>
      cases changed
      cases distinct.get? found with
      | array inside =>
          refine distinct.put (.array (List.forall_mem_append.mpr ⟨inside, ?_⟩))
          exact List.forall_mem_singleton.mpr empty
  · cases changed

end Entries

theorem isDistinct_of_integer? {text : List Char} {value : Value}
    (found : integer? text = some value) : value.IsDistinct := by
  have inRange {number : Int} {value : Value} (found : ranged number = some value) :
      value.IsDistinct := by
    rw [ranged] at found
    split at found
    · cases found
      exact .integer number
    · cases found
  have inBase {base : Nat} {text : List Char} (found : inBase? base text = some value) :
      value.IsDistinct := by
    obtain ⟨digits, _, found⟩ := Option.bind_eq_some_iff.mp found
    obtain ⟨number, _, found⟩ := Option.bind_eq_some_iff.mp found
    exact inRange found
  unfold integer? at found
  split at found
  · exact inBase found
  · exact inBase found
  · exact inBase found
  · obtain ⟨digits, _, found⟩ := Option.bind_eq_some_iff.mp found
    exact inRange found

theorem isDistinct_of_float? {text : List Char} {value : Value}
    (found : float? text = some value) : value.IsDistinct := by
  unfold float? at found
  dsimp only at found
  split at found
  · cases found
    exact .float _
  · cases found
    exact .float _
  · obtain ⟨number, _, rfl⟩ := Option.map_eq_some_iff.mp found
    exact .float number

theorem isDistinct_of_datetime? {text : List Char} {value : Value}
    (found : datetime? text = some value) : value.IsDistinct := by
  simp only [datetime?, Option.ite_none_right_eq_some] at found
  cases found.2
  exact .datetime text

theorem isDistinct_of_scalar? {text : List Char} {value : Value}
    (found : scalar? text = some value) : value.IsDistinct := by
  unfold scalar? at found
  split at found
  · cases found
    exact .boolean true
  · cases found
    exact .boolean false
  · rw [Option.orElse_eq_orElse, Option.orElse_eq_or, Option.or_eq_some_iff,
      Option.orElse_eq_or, Option.or_eq_some_iff] at found
    rcases found with found | ⟨_, found | ⟨_, found⟩⟩
    · exact isDistinct_of_datetime? found
    · exact isDistinct_of_float? found
    · exact isDistinct_of_integer? found

/-- The three readers of values that call each other, with one number of steps. -/
theorem isDistinct_of_value? (most : Nat) :
    (∀ text value rest, value? most text = some (value, rest) → value.IsDistinct) ∧
    (∀ text before values rest, items? most text before = some (values, rest) →
      (∀ value ∈ before, value.IsDistinct) → ∀ value ∈ values, value.IsDistinct) ∧
    ∀ text before entries rest, pairs? most text before = some (entries, rest) →
      before.AreDistinct → entries.AreDistinct := by
  induction most with
  | zero => exact ⟨nofun, nofun, nofun⟩
  | succ most inductionHypothesis =>
      obtain ⟨ofValue, ofItems, ofPairs⟩ := inductionHypothesis
      refine ⟨?_, ?_, ?_⟩
      · intro text value rest read
        unfold value? at read
        dsimp only at read
        split at read
        · obtain ⟨⟨values, rest⟩, ran, read⟩ := Option.map_eq_some_iff.mp read
          cases read
          exact .array (ofItems _ _ _ _ ran nofun)
        · split at read
          · cases read
            exact Entries.areDistinct_nil.table _
          · obtain ⟨⟨entries, rest⟩, ran, read⟩ := Option.map_eq_some_iff.mp read
            cases read
            exact (ofPairs _ _ _ _ ran Entries.areDistinct_nil).table _
        · split at read
          · obtain ⟨⟨content, rest⟩, _, read⟩ := Option.map_eq_some_iff.mp read
            cases read
            exact .string content
          · obtain ⟨⟨content, rest⟩, _, read⟩ := Option.map_eq_some_iff.mp read
            cases read
            exact .string content
          · obtain ⟨value, ran, read⟩ := Option.map_eq_some_iff.mp read
            cases read
            exact isDistinct_of_scalar? ran
      · intro text before values rest read distinct
        have inReversed : ∀ value ∈ before.reverse, value.IsDistinct :=
          fun value member => distinct value (List.mem_reverse.mp member)
        rw [items?] at read
        split at read
        · cases read
          exact inReversed
        · obtain ⟨⟨value, text⟩, ran, read⟩ := Option.bind_eq_some_iff.mp read
          have more : ∀ other ∈ value :: before, other.IsDistinct :=
            List.forall_mem_cons.mpr ⟨ofValue _ _ _ ran, distinct⟩
          dsimp only at read
          split at read
          · exact ofItems _ _ _ _ read more
          · cases read
            exact fun other member => more other (List.mem_reverse.mp member)
          · cases read
      · intro text before entries rest read distinct
        obtain ⟨⟨⟨path, key⟩, text⟩, _, read⟩ := Option.bind_eq_some_iff.mp read
        dsimp only at read
        split at read
        · obtain ⟨⟨value, text⟩, ran, read⟩ := Option.bind_eq_some_iff.mp read
          obtain ⟨defined, defines, read⟩ := Option.bind_eq_some_iff.mp read
          have more : defined.AreDistinct :=
            Entries.keepsDistinct_define path key (ofValue _ _ _ ran) _ _ _ defines distinct
          dsimp only at read
          split at read
          · exact ofPairs _ _ _ _ read more
          · cases read
            exact more
          · cases read
        · cases read

namespace Document

variable {document after : Document} {text rest : List Char}

theorem areDistinct_of_header? (read : document.header? text = some (after, rest))
    (distinct : document.entries.AreDistinct) : after.entries.AreDistinct := by
  unfold header? at read
  split at read
  · obtain ⟨⟨⟨path, key⟩, _⟩, _, read⟩ := Option.bind_eq_some_iff.mp read
    obtain ⟨_, _, read⟩ := Option.bind_eq_some_iff.mp read
    obtain ⟨entries, begun, read⟩ := Option.bind_eq_some_iff.mp read
    cases read
    exact distinct.beginItem begun
  · obtain ⟨⟨⟨path, key⟩, _⟩, _, read⟩ := Option.bind_eq_some_iff.mp read
    obtain ⟨_, _, read⟩ := Option.bind_eq_some_iff.mp read
    obtain ⟨entries, begun, read⟩ := Option.bind_eq_some_iff.mp read
    cases read
    exact distinct.beginTable begun

theorem areDistinct_of_pair? (read : document.pair? text = some (after, rest))
    (distinct : document.entries.AreDistinct) : after.entries.AreDistinct := by
  obtain ⟨⟨⟨path, key⟩, _⟩, _, read⟩ := Option.bind_eq_some_iff.mp read
  obtain ⟨_, _, read⟩ := Option.bind_eq_some_iff.mp read
  obtain ⟨⟨value, _⟩, ran, read⟩ := Option.bind_eq_some_iff.mp read
  obtain ⟨entries, extended, read⟩ := Option.bind_eq_some_iff.mp read
  cases read
  have isDistinct := (isDistinct_of_value? _).1 _ _ _ ran
  have keeps := (Entries.keepsDistinct_define path key isDistinct).extend false document.current
  exact keeps _ _ _ extended distinct

theorem areDistinct_of_line? (read : document.line? text = some (after, rest))
    (distinct : document.entries.AreDistinct) : after.entries.AreDistinct := by
  unfold line? at read
  split at read
  · cases read
    exact distinct
  · exact areDistinct_of_header? read distinct
  · split at read
    · cases read
      exact distinct
    · exact areDistinct_of_pair? read distinct

theorem areDistinct_of_lines? {most : Nat} (read : document.lines? most text = some after)
    (distinct : document.entries.AreDistinct) : after.entries.AreDistinct := by
  induction most generalizing document text with
  | zero => cases read
  | succ most inductionHypothesis =>
      obtain ⟨⟨between, rest⟩, ran, read⟩ := Option.bind_eq_some_iff.mp read
      have distinctBetween := areDistinct_of_line? ran distinct
      dsimp only at read
      split at read
      · cases read
        exact distinctBetween
      · obtain ⟨others, _, read⟩ := Option.bind_eq_some_iff.mp read
        exact inductionHypothesis read distinctBetween

end Document

/-- In every document that can be read every key stands once. -/
theorem areDistinct_of_read? {text : String} {entries : Entries}
    (read : read? text = some entries) : entries.AreDistinct := by
  obtain ⟨document, ran, rfl⟩ := Option.map_eq_some_iff.mp read
  exact Document.areDistinct_of_lines? ran Entries.areDistinct_nil

end VirtualTables.Toml
