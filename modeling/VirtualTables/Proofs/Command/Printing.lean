import Mathlib.Data.List.Dedup
import VirtualTables.Command.Replay
import VirtualTables.Proofs.Address.Grammar
import VirtualTables.Proofs.Backend.Course
import VirtualTables.Proofs.RowStream.Handing
import VirtualTables.Proofs.RowStream.Offering
import VirtualTables.Proofs.RowStream.Taking

/-!
Rows that are printed as JSON.

A run that gets to the rows of a statement prints a line for every row that is handed out. The line
is an object with one member for every name, so cells get lost as soon as two columns share a name
(`run_query_json`).
-/

namespace VirtualTables

namespace Dictionary

variable {α : Type} {entries : List (String × α)} {name : String} {value : α}

theorem nodup_names (dictionary : Dictionary α) : (dictionary.entries.map Prod.fst).Nodup :=
  List.pairwise_map.mpr (dictionary.sorted.imp String.ne_of_lt)

theorem mem_entries_ofList_iff : (name, value) ∈ (ofList entries).entries ↔
    ∃ front back, entries = front ++ (name, value) :: back ∧ name ∉ back.map Prod.fst := by
  rw [← get?_eq_some_iff, get?_ofList, Option.map_eq_some_iff]
  constructor
  · rintro ⟨⟨key, kept⟩, found, rfl⟩
    obtain ⟨named, behind, before, parts, others⟩ := List.find?_eq_some_iff_append.mp found
    obtain rfl : key = name := eq_of_beq named
    refine ⟨before.reverse, behind.reverse, ?_, ?_⟩
    · simpa using congrArg List.reverse parts
    · rw [List.map_reverse, List.mem_reverse, List.mem_map]
      rintro ⟨entry, inside, same⟩
      simpa [same] using others entry inside
  · rintro ⟨front, back, rfl, absent⟩
    refine ⟨(name, value), List.find?_eq_some_iff_append.mpr ⟨beq_self_eq_true name, back.reverse,
      front.reverse, by simp, ?_⟩, rfl⟩
    rintro ⟨key, other⟩ inside
    have different : key ≠ name := by
      rintro rfl
      exact absent (List.mem_map_of_mem (List.mem_reverse.mp inside))
    simpa using different

theorem mem_names_ofList_iff :
    name ∈ (ofList entries).entries.map Prod.fst ↔ name ∈ entries.map Prod.fst := by
  constructor
  · intro inside
    obtain ⟨⟨_, value⟩, kept, rfl⟩ := List.mem_map.mp inside
    exact List.mem_map_of_mem (mem_of_get?_ofList (get?_eq_some_iff.mpr kept))
  · intro inside
    obtain ⟨entry, given, rfl⟩ := List.mem_map.mp inside
    cases found : (ofList entries).get? entry.1 with
    | some value =>
        exact List.mem_map.mpr ⟨(entry.1, value), get?_eq_some_iff.mp found, rfl⟩
    | none =>
        rw [get?_ofList, Option.map_eq_none_iff, List.find?_eq_none] at found
        exact absurd (beq_self_eq_true entry.1) (found entry (List.mem_reverse.mpr given))

theorem length_entries_ofList :
    (ofList entries).entries.length = (entries.map Prod.fst).dedup.length := by
  have same : ((ofList entries).entries.map Prod.fst).Perm (entries.map Prod.fst).dedup := by
    rw [List.perm_ext_iff_of_nodup (nodup_names _) (List.nodup_dedup _)]
    intro name
    rw [mem_names_ofList_iff, List.mem_dedup]
  rw [← List.length_map, same.length_eq]

end Dictionary

theorem Cursor.HandsOut.arity {cursor after : Cursor} {rows : List Row}
    (handsOut : cursor.HandsOut rows after) :
    ∀ row ∈ rows, row.cells.length = cursor.layout.size := by
  induction handsOut with
  | nothing =>
      intro row inside
      cases inside
  | row step _ inductionHypothesis =>
      cases step with
      | row _ _ ran =>
          obtain ⟨_, _, fits, _⟩ := RowStream.Reader.Takes.record _ ran
          rw [List.forall_mem_cons]
          exact ⟨(Layout.accepts_iff.mp fits.accepted).arity, inductionHypothesis⟩

namespace Command

def memberText (member : String × Cell) : String :=
  String.ofList (Json.quoted member.1.toList) ++ ":" ++ member.2.toJson

def objectText (members : List (String × Cell)) : String :=
  "\x7b" ++ ",".intercalate (members.map memberText) ++ "\x7d"

/-- No cell of a row is missing among the members of an object. -/
structure IsWhole (layout : Layout) (row : Row) (members : List (String × Cell)) : Prop where
  length : members.length = row.cells.length
  shown : ∀ (position : Nat) (name : String), layout.names[position]? = some name →
    ∃ cell, row.cells[position]? = some cell ∧ (name, cell) ∈ members

/-- The members of an object show a row: one for every name, with the cell of the last column that
has it. -/
structure Shows (layout : Layout) (row : Row) (members : List (String × Cell)) : Prop where
  length : members.length = layout.names.dedup.length
  once : (members.map Prod.fst).Nodup
  mem_iff : ∀ name cell, (name, cell) ∈ members ↔
    ∃ front back, layout.names.zip row.cells = front ++ (name, cell) :: back ∧
      name ∉ back.map Prod.fst

variable {layout : Layout} {row : Row} {members : List (String × Cell)}

theorem rowObject_eq (layout : Layout) (row : Row) :
    rowObject layout row = objectText (rowMembers layout row).entries :=
  rfl

theorem names_zip (arity : row.cells.length = layout.size) :
    (layout.names.zip row.cells).map Prod.fst = layout.names := by
  apply List.map_fst_zip
  rw [arity, Layout.names, List.length_map]
  exact Nat.le_refl _

theorem shows_rowMembers (arity : row.cells.length = layout.size) :
    Shows layout row (rowMembers layout row).entries := by
  refine ⟨?_, Dictionary.nodup_names _, fun name cell => Dictionary.mem_entries_ofList_iff⟩
  rw [rowMembers, Dictionary.length_entries_ofList, names_zip arity]

/-- A row is shown whole exactly if no name is used twice. -/
theorem Shows.isWhole_iff (shows : Shows layout row members)
    (arity : row.cells.length = layout.size) :
    IsWhole layout row members ↔ layout.names.Nodup := by
  have count : row.cells.length = layout.names.length := by
    rw [arity, Layout.names, List.length_map]
    rfl
  constructor
  · intro whole
    have same := whole.length
    rw [shows.length, count, (List.dedup_sublist _).length_eq] at same
    exact List.dedup_eq_self.mp same
  · intro distinct
    refine ⟨?_, ?_⟩
    · rw [shows.length, List.dedup_eq_self.mpr distinct, count]
    · intro position name named
      obtain ⟨within, -⟩ := List.getElem?_eq_some_iff.mp named
      rw [← count] at within
      have found := List.getElem?_eq_getElem within
      refine ⟨row.cells[position], found, ?_⟩
      have inside : (name, row.cells[position]) ∈ layout.names.zip row.cells :=
        List.mem_of_getElem? (List.getElem?_zip_eq_some.mpr ⟨named, found⟩)
      -- Where all names differ, every column is the last one with its name.
      obtain ⟨front, back, parts⟩ := List.append_of_mem inside
      refine (shows.mem_iff name _).mpr ⟨front, back, parts, ?_⟩
      rw [← names_zip arity, parts, List.map_append, List.map_cons] at distinct
      exact (List.nodup_cons.mp (List.nodup_append.mp distinct).2.1).1

/-- A run of a command line gets to the rows of a statement and prints them as JSON. -/
inductive PrintsRows {σ : Type} [HasRegistry σ] (surroundings : Surroundings)
    (network : Client → Exchange σ) (arguments : List String) (world : σ) : Cursor → Prop where
  | query {invocation sql maxRows settings remarks session between cursor after}
      (read : Invocation.ofArguments arguments = .ok invocation)
      (task : invocation.task = .query sql maxRows true)
      (configured : settingsOf surroundings invocation.settingsFile = .ok (settings, remarks))
      (connected : Session.connect invocation.address (credentialsOf surroundings invocation)
        settings.connection network world = (.ok session, between))
      (executed : session.execute (.ofStatement sql maxRows) between = (.ok cursor, after)) :
      PrintsRows surroundings network arguments world cursor

section Run

variable {σ : Type} [HasRegistry σ] {surroundings : Surroundings} {network : Client → Exchange σ}
  {arguments : List String} {world : σ} {cursor : Cursor}

theorem accepts_of_connect {text : String} {credentials : Credentials}
    {settings : Settings.Connection} {session : Session σ} {after : σ}
    (connected : Session.connect text credentials settings network world = (.ok session, after)) :
    Address.accepts text = true := by
  by_contra foreign
  rw [Bool.not_eq_true, Address.accepts_eq_false_iff] at foreign
  have refused : Session.addressOf text credentials = .error (.malformedAddress text .wrongStart) :=
    Address.addressOf_eq_error_iff.mpr ⟨.wrongStart, rfl, foreign⟩
  unfold Session.connect Session.overNetwork at connected
  rw [refused] at connected
  cases connected

/-- A task that gets as far as its report has all of it printed, however the report ends. -/
theorem output_of_perform {invocation : Invocation} {settings : Settings} {remarks : List String}
    {report : Report} {after : σ} (read : Invocation.ofArguments arguments = .ok invocation)
    (configured : settingsOf surroundings invocation.settingsFile = .ok (settings, remarks))
    (accepted : Address.accepts invocation.address = true)
    (performed : invocation.perform surroundings settings network world = (.ok report, after)) :
    (run surroundings network arguments world).1.output = report.lines := by
  have bound (next : Except Fault Report → StateM σ Outcome) :
      ((invocation.perform surroundings settings network).run >>= next) world =
        next (.ok report) after := by
    change StateT.bind (invocation.perform surroundings settings network) next world = _
    unfold StateT.bind
    rw [performed]
    rfl
  unfold run
  rw [read]
  dsimp only
  rw [configured]
  dsimp only
  rw [accepted, Bool.not_true, if_neg Bool.false_ne_true, bound]
  dsimp only
  cases report.ending with
  | error fault => rfl
  | ok remark => rfl

theorem PrintsRows.output_eq (prints : PrintsRows surroundings network arguments world cursor) :
    (run surroundings network arguments world).1.output =
      cursor.drain.1.1.map (rowObject cursor.layout) := by
  cases prints with
  | @query invocation sql maxRows settings _ session _ _ after read task configured connected
      executed =>
      have performed : invocation.perform surroundings settings network world =
          (.ok (rowReport true cursor), after) := by
        rw [Invocation.perform, Attempt.run_bind, connected, task]
        dsimp only [Task.report]
        rw [Attempt.run_bind, executed]
        rfl
      rw [output_of_perform read configured (accepts_of_connect connected) performed]
      rfl

/-- A run that prints the rows of a cursor as JSON prints a line for every row that is handed out
up to the end or the first failure. The line is an object that shows the row, and no cell gets lost
exactly if no two columns have one name. -/
theorem run_query_json (prints : PrintsRows surroundings network arguments world cursor) :
    ∃ rows fault? last after, cursor.HandsOut rows last ∧
      Cursor.Step last (Cursor.ending fault?, after) ∧
      (run surroundings network arguments world).1.output.length = rows.length ∧
      List.Forall₂ (fun row line => ∃ members, line = objectText members ∧
          Shows cursor.layout row members ∧
          (IsWhole cursor.layout row members ↔ cursor.layout.names.Nodup))
        rows (run surroundings network arguments world).1.output := by
  obtain ⟨last, handsOut, ended⟩ := cursor.handsOut_drain
  refine ⟨cursor.drain.1.1, cursor.drain.1.2, last, cursor.drain.2, handsOut, ended, ?_, ?_⟩
  · rw [prints.output_eq, List.length_map]
  · rw [prints.output_eq, List.forall₂_map_right_iff, List.forall₂_same]
    intro row inside
    have arity := handsOut.arity row inside
    have shows := shows_rowMembers arity
    exact ⟨_, rowObject_eq cursor.layout row, shows, shows.isWhole_iff arity⟩

end Run

section Instances

def bare : Surroundings :=
  ⟨fun _ => none, [], fun _ => none⟩

/-- A world with a service that answers every statement with the same rows. -/
def answering (layout : Layout) (rows : List Row) : Replay :=
  ⟨[], none, Registry.empty.register ⟨.ok (), .ok [],
    fun _ => .ok (.ofBytes (RowStream.Format.stream ⟨"", "", "", "", ""⟩ layout rows))⟩⟩

def jsonArguments : List String :=
  ["--url", "jdbc:pdi://h:1/kettle?local=true", "query", "SELECT", "--json"]

def view? {σ α β : Type} (attempt : Attempt σ α) (state : σ) (view : α → σ → Option β) : Option β :=
  match attempt state with
  | (.error _, _) => none
  | (.ok value, after) => view value after

theorem exists_of_view? {σ α β : Type} {attempt : Attempt σ α} {state : σ}
    {view : α → σ → Option β} {seen : β} (viewed : view? attempt state view = some seen) :
    ∃ value after, attempt state = (.ok value, after) ∧ view value after = some seen := by
  unfold view? at viewed
  split at viewed
  · cases viewed
  · next value after ran => exact ⟨value, after, ran, viewed⟩

theorem exists_printsRows (layout : Layout) (rows : List Row)
    (viewed : view? (Session.connect "jdbc:pdi://h:1/kettle?local=true" ⟨none, none⟩ .default
        Replay.network) (answering layout rows)
        (fun session between => view? (session.execute (.ofStatement "SELECT" 0)) between
          fun cursor _ => some (cursor.layout, cursor.drain.1)) = some (layout, rows, none)) :
    ∃ cursor, PrintsRows bare Replay.network jsonArguments (answering layout rows) cursor ∧
      cursor.layout = layout ∧ cursor.drain.1 = (rows, none) := by
  obtain ⟨session, between, connected, viewed⟩ := exists_of_view? viewed
  obtain ⟨cursor, after, executed, seen⟩ := exists_of_view? viewed
  obtain ⟨sameLayout, sameRows⟩ := Prod.mk.inj (Option.some.inj seen)
  have read : Invocation.ofArguments jsonArguments = .ok ⟨"jdbc:pdi://h:1/kettle?local=true", none,
      none, none, .query "SELECT" 0 true⟩ := by decide +kernel
  have configured : settingsOf bare none = .ok (.default, []) := by decide +kernel
  exact ⟨cursor, .query read rfl configured connected executed, sameLayout, sameRows⟩

theorem run_query_json_distinct :
    let layout : Layout := ⟨[⟨"n", .integer⟩, ⟨"m", .string⟩]⟩
    let rows : List Row := [⟨[.integer 1, .string "x"]⟩, ⟨[.null, .string ""]⟩]
    ∃ cursor, PrintsRows bare Replay.network jsonArguments (answering layout rows) cursor ∧
      List.Forall₂ (fun row line => ∃ members, line = objectText members ∧
          IsWhole layout row members)
        rows (run bare Replay.network jsonArguments (answering layout rows)).1.output := by
  intro layout rows
  obtain ⟨cursor, prints, sameLayout, drained⟩ :=
    exists_printsRows layout rows (by decide +kernel)
  obtain ⟨handedOut, fault?, last, after, handsOut, ended, -, lines⟩ := run_query_json prints
  have distinct : layout.names.Nodup := by decide
  have same := handsOut.drain_eq
  rw [Cursor.drain_of_ending ended, List.append_nil] at same
  obtain rfl : handedOut = rows := by
    rw [same] at drained
    exact (Prod.mk.inj drained).1
  refine ⟨cursor, prints, lines.imp ?_⟩
  rintro row line ⟨members, text, -, whole⟩
  rw [sameLayout] at whole
  exact ⟨members, text, whole.mpr distinct⟩

/-- Of two cells under one name only the second is printed. -/
theorem run_query_json_twice :
    let layout : Layout := ⟨[⟨"a", .integer⟩, ⟨"a", .integer⟩]⟩
    let row : Row := ⟨[.integer 1, .integer 2]⟩
    let line := objectText [("a", .integer 2)]
    (∃ cursor, PrintsRows bare Replay.network jsonArguments (answering layout [row]) cursor ∧
      cursor.layout = layout ∧ cursor.drain.1 = ([row], none)) ∧
    (run bare Replay.network jsonArguments (answering layout [row])).1.output = [line] ∧
    ∀ members, line = objectText members → ¬ IsWhole layout row members := by
  intro layout row line
  refine ⟨exists_printsRows layout [row] (by decide +kernel), by decide +kernel, ?_⟩
  intro members text whole
  obtain ⟨first, second, rfl⟩ := List.length_eq_two.mp whole.length
  obtain ⟨one, isOne, oneShown⟩ := whole.shown 0 "a" rfl
  obtain ⟨two, isTwo, twoShown⟩ := whole.shown 1 "a" rfl
  cases isOne
  cases isTwo
  simp only [List.mem_cons, List.not_mem_nil, or_false] at oneShown twoShown
  rcases oneShown with rfl | rfl
  · rcases twoShown with same | rfl
    · cases same
    · exact absurd text (by decide +kernel)
  · rcases twoShown with rfl | same
    · exact absurd text (by decide +kernel)
    · cases same

end Instances

end Command

end VirtualTables
