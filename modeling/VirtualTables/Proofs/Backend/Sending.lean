import VirtualTables.Proofs.Backend.Redirection
import VirtualTables.Proofs.Backend.Registration
import VirtualTables.Proofs.Text.Utf8

/-!
What is sent for a query.

An address fills a query in by three rules, one for the file, one for the log and one for the
parameters (`Query.IsFilled`). They leave a query that is filled in as it is, and there is one way
to follow them; so a service of this process and a server, which are both asked under the same
address, are asked the same query.
-/

namespace VirtualTables

/-- The entries of a dictionary, each once, in ascending order of the bytes of their names. -/
structure Dictionary.InByteOrder {α : Type} (dictionary : Dictionary α)
    (entries : List (String × α)) : Prop where
  exact : ∀ name value, (name, value) ∈ entries ↔ dictionary.get? name = some value
  ascending : entries.Pairwise fun left right =>
    Text.Utf8.encode left.1.toList < Text.Utf8.encode right.1.toList

theorem Dictionary.inByteOrder_entries {α : Type} (dictionary : Dictionary α) :
    dictionary.InByteOrder dictionary.entries where
  exact _ _ := get?_eq_some_iff.symm
  ascending := dictionary.sorted.imp fun less =>
    Text.Utf8.encode_lt_encode (String.lt_iff.mp less)

namespace Query

/-- A query with what an address adds to it. Under names that both have a value for, and for the
file, the query comes first. -/
structure IsFilled (query : Query) (address : Address) (filled : Query) : Prop where
  sql : filled.sql = query.sql
  maxRows : filled.maxRows = query.maxRows
  debugFile : filled.debugFile = query.debugFile.or address.debugFile
  debugLog : filled.debugLog = true ↔ query.debugLog = true ∨ address.debugLog = true
  parameters : ∀ name, filled.parameters.get? name =
    (query.parameters.get? name).or (address.parameters.get? name)

variable {query filled : Query} {address : Address}

theorem isFilled_withDefaults (query : Query) (address : Address) :
    query.IsFilled address (query.withDefaults address) where
  sql := rfl
  maxRows := rfl
  debugFile := Option.orElse_eq_or
  debugLog := by rw [withDefaults, Bool.or_eq_true]
  parameters := Dictionary.get?_withDefaults query.parameters address.parameters

theorem IsFilled.eq_withDefaults (isFilled : query.IsFilled address filled) :
    filled = query.withDefaults address := by
  have same := query.isFilled_withDefaults address
  have parameters : filled.parameters = (query.withDefaults address).parameters :=
    Dictionary.ext_get? fun name => (isFilled.parameters name).trans (same.parameters name).symm
  have debugLog : filled.debugLog = (query.withDefaults address).debugLog :=
    Bool.eq_iff_iff.mpr (isFilled.debugLog.trans same.debugLog.symm)
  have debugFile := isFilled.debugFile.trans same.debugFile.symm
  cases filled
  cases isFilled.sql
  cases isFilled.maxRows
  cases parameters
  cases debugLog
  cases debugFile
  rfl

theorem IsFilled.again (isFilled : query.IsFilled address filled) :
    filled.IsFilled address filled where
  sql := rfl
  maxRows := rfl
  debugFile := by rw [isFilled.debugFile, Option.or_assoc, Option.or_self]
  debugLog := by rw [isFilled.debugLog, or_assoc, or_self]
  parameters name := by rw [isFilled.parameters, Option.or_assoc, Option.or_self]

/-- The request that a query is sent to a place as. -/
structure IsSentAs (query : Query) (url : String) (request : Http.Request) : Prop where
  method : request.method = .post
  url : request.url = url
  headers : request.headers =
    [("SQL", query.sentSql), ("MaxRows", .ofList (Nat.toDigits 10 query.maxRows))]
  form : ∃ parameters, query.parameters.InByteOrder parameters ∧
    request.form = (query.debugFile.map fun file => ("debugtrans", file)).toList ++
      (if query.debugLog then [("debuglog", "true")] else []) ++ parameters

theorem isSentAs_requestOf (query : Query) (address : Address) :
    (query.withDefaults address).IsSentAs (address.endpoint "/kettle/sql")
      (Remote.requestOf address query) where
  method := rfl
  url := rfl
  headers := rfl
  form := ⟨_, Dictionary.inByteOrder_entries _, rfl⟩

end Query

theorem Remote.run_query {σ : Type} (remote : Remote σ) (query : Query) (state : σ) :
    (remote.backend.query query).run state =
      Prod.map (Except.map Http.Response.body) id
        (remote.response (requestOf remote.address query) state) := by
  change (remote.response _ >>= fun response => pure response.body) state = _
  rw [Attempt.run_bind]
  rcases remote.response (requestOf remote.address query) state with ⟨outcome, after⟩
  cases outcome with
  | error fault => rfl
  | ok response => rfl

theorem Remote.exists_sent {σ : Type} (remote : Remote σ) (query : Query) (state : σ) :
    ∃ result after first others,
      (remote.backend.query query).run state = (result, after) ∧
      (remote.noted.backend.query query).run (state, []) = (result, after, first :: others) ∧
      (query.withDefaults remote.address).IsSentAs (remote.address.endpoint "/kettle/sql")
        first.request ∧
      ∀ other ∈ others, first.request.AsksSame other.request := by
  obtain ⟨course, -, noted⟩ := remote.course_visits (requestOf remote.address query) state
  obtain ⟨first, others, visits⟩ : ∃ first others,
      remote.visits (requestOf remote.address query) state = first :: others := by
    cases visits : remote.visits (requestOf remote.address query) state with
    | nil => simpa [visits] using course.head
    | cons first others => exact ⟨first, others, rfl⟩
  rw [visits] at course noted
  have initial : first.request = requestOf remote.address query := Option.some.inj course.head
  refine ⟨_, _, first, others, remote.run_query query state, ?_, ?_, ?_⟩
  · rw [run_query]
    exact congrArg (Prod.map (Except.map Http.Response.body) id) noted
  · rw [initial]
    exact query.isSentAs_requestOf remote.address
  · intro other inside
    rw [initial]
    exact course.asksSame other (List.mem_cons_of_mem first inside)

/-- A query is filled in by the rules of its address, once and for all, and asked as it is then: of
the service that is registered in this process, or with the one request that is sent to the server
and that redirects repeat. -/
theorem Query.asked_alike {σ τ : Type} [HasRegistry τ] (query : Query) (remote : Remote σ) :
    let address := remote.address
    let filled := query.withDefaults address
    query.IsFilled address filled ∧ filled.withDefaults address = filled ∧
    (∀ world : τ, ((localBackend address).query query).run world =
      match (HasRegistry.registry world).service? with
      | none => (.error .noLocalService,
          HasRegistry.withRegistry world (HasRegistry.registry world))
      | some service => (service.query filled,
          HasRegistry.withRegistry world ((HasRegistry.registry world).recorded (.query filled)))) ∧
    ∀ state, ∃ result after first others,
      (remote.backend.query query).run state = (result, after) ∧
      (remote.noted.backend.query query).run (state, []) = (result, after, first :: others) ∧
      filled.IsSentAs (address.endpoint "/kettle/sql") first.request ∧
      ∀ other ∈ others, first.request.AsksSame other.request := by
  intro address filled
  have isFilled := query.isFilled_withDefaults address
  refine ⟨isFilled, isFilled.again.eq_withDefaults.symm, ?_, remote.exists_sent query⟩
  intro world
  have ran := run_askRegistered (.query filled) (·.query filled) world
  rw [show ((localBackend address).query query).run world = _ from ran, Registry.ask_eq]
  cases (HasRegistry.registry world).service? with
  | none => rfl
  | some service => rfl

end VirtualTables
