import VirtualTables.Proofs.Address.RoundTrip
import VirtualTables.Proofs.Text.Strip

/-!
Locators of the server that an address names.

Slashes around the name of the web application do not show in a locator: it depends on the core of
the name alone (`endpoint_core`), unless the name is nothing but slashes. Such a name leaves a slash
of its own behind the server (`baseUrl_of_slashes`).
-/

namespace VirtualTables.Address

/-- What is left of a name without the slashes around it. -/
structure IsCore (name core : List Char) : Prop where
  surrounded : ∃ front behind : Nat,
    name = List.replicate front '/' ++ core ++ List.replicate behind '/'
  first : core.head? ≠ some '/'
  last : core.getLast? ≠ some '/'

theorem isCore_iff {name core : List Char} :
    IsCore name core ↔ Text.stripBoth (· == '/') name = core := by
  have slashes (text : List Char) :
      (∀ character ∈ text, (character == '/') = true) ↔ ∃ count, text = List.replicate count '/' := by
    simp [List.eq_replicate_iff]
  rw [Text.stripBoth_eq_iff]
  constructor
  · rintro ⟨⟨front, behind, parts⟩, first, last⟩
    refine ⟨⟨?_, ?_⟩, _, _, parts, (slashes _).mpr ⟨front, rfl⟩, (slashes _).mpr ⟨behind, rfl⟩⟩
    · rintro character isFirst
      rw [beq_eq_false_iff_ne]
      rintro rfl
      exact first isFirst
    · rintro character isLast
      rw [beq_eq_false_iff_ne]
      rintro rfl
      exact last isLast
  · rintro ⟨stripped, lead, trail, parts, onlyLead, onlyTrail⟩
    obtain ⟨front, rfl⟩ := (slashes lead).mp onlyLead
    obtain ⟨behind, rfl⟩ := (slashes trail).mp onlyTrail
    refine ⟨⟨front, behind, parts⟩, ?_, ?_⟩
    · intro isFirst
      exact absurd (stripped.first '/' isFirst) (by decide)
    · intro isLast
      exact absurd (stripped.last '/' isLast) (by decide)

/-- The server, with how it is reached. -/
def server (address : Address) : String :=
  (if address.secure then "https" else "http") ++ "://" ++ address.host ++ ":" ++ address.port

/-- What a name without slashes around it adds to the server. -/
def segment (core : List Char) : String :=
  if core = [] then "" else "/" ++ .ofList core

/-- The name of the web application, if there is one, is not just slashes. -/
def IsNamed (address : Address) : Prop :=
  ∀ name ∈ address.webAppName, ∃ character ∈ name.toList, character ≠ '/'

variable {address : Address} {core : List Char}

theorem isNamed_of_mem {name : String} (given : address.webAppName = some name) (character : Char)
    (inside : character ∈ name.toList) (noSlash : character ≠ '/') : address.IsNamed := by
  rintro other givenToo
  obtain rfl := Option.some.inj (given.symm.trans givenToo)
  exact ⟨character, inside, noSlash⟩

theorem baseUrl_of_unnamed (unnamed : address.webAppName = none) :
    address.baseUrl = address.server := by
  rw [baseUrl, unnamed]
  rfl

theorem baseUrl_of_name {name : String} (given : address.webAppName = some name)
    (nonempty : name ≠ "") (isCore : IsCore name.toList core) :
    address.baseUrl = address.server ++ "/" ++ .ofList core := by
  obtain rfl := isCore_iff.mp isCore
  simp [baseUrl, given, nonempty, server, scheme]

theorem baseUrl_of_slashes {name : String} (given : address.webAppName = some name)
    (nonempty : name ≠ "") (slashes : ∀ character ∈ name.toList, character = '/') :
    address.baseUrl = address.server ++ "/" := by
  have isCore : IsCore name.toList [] := by
    rw [isCore_iff, Text.stripBoth_eq_nil_iff]
    simpa using slashes
  rw [baseUrl_of_name given nonempty isCore]
  exact String.append_empty

theorem IsNamed.baseUrl_eq (named : address.IsNamed)
    (isCore : IsCore (address.webAppName.getD "").toList core) :
    address.baseUrl = address.server ++ segment core := by
  cases given : address.webAppName with
  | none =>
      rw [given, isCore_iff] at isCore
      rw [baseUrl_of_unnamed given, ← isCore]
      exact String.append_empty.symm
  | some name =>
      obtain ⟨character, inside, noSlash⟩ := named name given
      have nonempty : name ≠ "" := by
        rintro rfl
        cases inside
      rw [given, Option.getD_some] at isCore
      have remains : core ≠ [] := by
        rintro rfl
        rw [isCore_iff, Text.stripBoth_eq_nil_iff] at isCore
        exact noSlash (by simpa using isCore character inside)
      rw [baseUrl_of_name given nonempty isCore, segment, if_neg remains, String.append_assoc]

theorem IsReadable.counts_name (readable : address.IsReadable) :
    ∀ name ∈ address.webAppName, Counts ("webappname", name) := by
  intro name given
  have arguments := readable.arguments
  simp only [writtenArguments, List.append_assoc, List.forall_mem_append] at arguments
  exact arguments.1 _ (by simp [optionalArgument, Option.mem_def.mp given])

theorem IsReadable.renamed (readable : address.IsReadable) {name? : Option String}
    (counts : ∀ name ∈ name?, Counts ("webappname", name)) :
    { address with webAppName := name? }.IsReadable := by
  refine { readable with arguments := ?_ }
  have arguments := readable.arguments
  simp only [writtenArguments, List.append_assoc, List.forall_mem_append] at arguments ⊢
  refine ⟨?_, arguments.2⟩
  intro argument inside
  simp only [optionalArgument, Option.mem_toList, Option.map_eq_some_iff] at inside
  obtain ⟨name, given, rfl⟩ := inside
  exact counts name given

theorem IsCore.subset {name : List Char} (isCore : IsCore name core) : core ⊆ name := by
  obtain rfl := isCore_iff.mp isCore
  exact fun _ => Text.mem_of_mem_stripBoth

/-- An address with the core of its name, or without a name where nothing is left of it. -/
def withCore (address : Address) (core : List Char) : Address :=
  { address with webAppName := if core = [] then none else some (.ofList core) }

theorem IsReadable.withCore (readable : address.IsReadable)
    (isCore : IsCore (address.webAppName.getD "").toList core) :
    (address.withCore core).IsReadable := by
  apply readable.renamed
  intro name given
  by_cases nothing : core = []
  · rw [if_pos nothing] at given
    cases given
  · rw [if_neg nothing] at given
    obtain rfl := Option.some.inj given
    cases named : address.webAppName with
    | none =>
        rw [named] at isCore
        exact absurd (List.subset_nil.mp isCore.subset) nothing
    | some name =>
        rw [named, Option.getD_some] at isCore
        have counts := readable.counts_name name named
        refine ⟨counts.key, ?_, ?_⟩
        · intro character inside
          rw [String.toList_ofList] at inside
          exact counts.value character (isCore.subset inside)
        · rwa [String.toList_ofList]

theorem IsCore.self {name : List Char} (isCore : IsCore name core) : IsCore core core :=
  ⟨⟨0, 0, (List.append_nil core).symm⟩, isCore.first, isCore.last⟩

theorem isCore_withCore (isCore : IsCore (address.webAppName.getD "").toList core) :
    IsCore ((address.withCore core).webAppName.getD "").toList core := by
  have kept : ((address.withCore core).webAppName.getD "").toList = core := by
    by_cases nothing : core = []
    · simp [withCore, nothing]
    · simp [withCore, nothing]
  rw [kept]
  exact isCore.self

theorem isNamed_withCore (isCore : IsCore (address.webAppName.getD "").toList core) :
    (address.withCore core).IsNamed := by
  cases core with
  | nil =>
      intro name given
      cases given
  | cons character core =>
      refine isNamed_of_mem rfl character ?_ fun slash => isCore.first (congrArg some slash)
      simp

/-- What stands at a path of the server depends on the name of the web application up to the slashes
around it. The name can be given without them, or left out where nothing else is in it. -/
theorem endpoint_core {text : String} {credentials : Credentials}
    (read : ofText? text credentials = .ok address)
    (isCore : IsCore (address.webAppName.getD "").toList core) (named : address.IsNamed) :
    (∀ path, address.endpoint path = address.server ++ segment core ++ path) ∧
    (∃ bareText, ofText? bareText credentials =
        .ok { address.withCore core with given := bareText } ∧
      (address.withCore core).baseUrl = address.baseUrl) ∧
    ∀ otherText otherCredentials other, ofText? otherText otherCredentials = .ok other →
      other.server = address.server → IsCore (other.webAppName.getD "").toList core →
      other.IsNamed →
      other.baseUrl = address.baseUrl ∧ ∀ path, other.endpoint path = address.endpoint path := by
  have located := named.baseUrl_eq isCore
  obtain ⟨readable, rfl⟩ := isReadable_of_ofText? read
  refine ⟨fun path => ?_, ⟨(address.withCore core).text, ?_, ?_⟩, ?_⟩
  · rw [endpoint, located]
  · exact ofText?_text (readable.withCore isCore)
  · rw [(isNamed_withCore isCore).baseUrl_eq (isCore_withCore isCore), located]
    rfl
  · intro otherText otherCredentials other _ sameServer isCoreToo namedToo
    have same : other.baseUrl = address.baseUrl := by
      rw [namedToo.baseUrl_eq isCoreToo, sameServer, located]
    exact ⟨same, fun path => by rw [endpoint, endpoint, same]⟩

theorem exists_of_map {α : Type} {text : String} {credentials : Credentials} {view : Address → α}
    {seen : α} (viewed : (ofText? text credentials).toOption.map view = some seen) :
    ∃ address, ofText? text credentials = .ok address ∧ view address = seen := by
  obtain ⟨address, read, same⟩ := Option.map_eq_some_iff.mp viewed
  cases found : ofText? text credentials with
  | error fault =>
      rw [found] at read
      cases read
  | ok other =>
      rw [found] at read
      obtain rfl := Option.some.inj read
      exact ⟨other, rfl, same⟩

theorem endpoint_core_nested : ∃ address bare,
    ofText? "jdbc:pdi://h:1/kettle?webappname=//a/b/&secure=true&x=1" ⟨none, none⟩ = .ok address ∧
    ofText? "jdbc:pdi://h:1/kettle?x=2&secure=TRUE&webappname=a/b" ⟨none, none⟩ = .ok bare ∧
    address.endpoint "/kettle/sql" = "https://h:1/a/b/kettle/sql" ∧
    bare.baseUrl = address.baseUrl := by
  let view (address : Address) := (address.webAppName, address.server)
  obtain ⟨address, read, seen⟩ : ∃ address, ofText?
      "jdbc:pdi://h:1/kettle?webappname=//a/b/&secure=true&x=1" ⟨none, none⟩ = .ok address ∧
      view address = (some "//a/b/", "https://h:1") :=
    exists_of_map (by decide +kernel)
  obtain ⟨bare, readBare, seenBare⟩ : ∃ address, ofText?
      "jdbc:pdi://h:1/kettle?x=2&secure=TRUE&webappname=a/b" ⟨none, none⟩ = .ok address ∧
      view address = (some "a/b", "https://h:1") :=
    exists_of_map (by decide +kernel)
  obtain ⟨name, server⟩ := Prod.mk.inj seen
  obtain ⟨nameBare, serverBare⟩ := Prod.mk.inj seenBare
  have isCore : IsCore (address.webAppName.getD "").toList "a/b".toList := by
    rw [name, isCore_iff]
    decide
  have isCoreBare : IsCore (bare.webAppName.getD "").toList "a/b".toList := by
    rw [nameBare, isCore_iff]
    decide
  have named : address.IsNamed := isNamed_of_mem name 'a' (by decide) (by decide)
  have namedBare : bare.IsNamed := isNamed_of_mem nameBare 'a' (by decide) (by decide)
  obtain ⟨endpoint, -, others⟩ := endpoint_core read isCore named
  refine ⟨address, bare, read, readBare, ?_, ?_⟩
  · rw [endpoint, server]
    decide
  · exact (others _ _ bare readBare (serverBare.trans server.symm) isCoreBare namedBare).1

/-- A name that is just a slash is not left out. -/
theorem endpoint_of_slash : ∃ address bare,
    ofText? "jdbc:pdi://h:1/kettle?webappname=/" ⟨none, none⟩ = .ok address ∧
    ofText? "jdbc:pdi://h:1/kettle" ⟨none, none⟩ = .ok bare ∧
    address.webAppName = some "/" ∧ IsCore ['/'] [] ∧ bare.webAppName = none ∧
    address.endpoint "/kettle/sql" = "http://h:1//kettle/sql" ∧
    bare.endpoint "/kettle/sql" = "http://h:1/kettle/sql" := by
  let view (address : Address) := (address.webAppName, address.server)
  obtain ⟨address, read, seen⟩ : ∃ address, ofText?
      "jdbc:pdi://h:1/kettle?webappname=/" ⟨none, none⟩ = .ok address ∧
      view address = (some "/", "http://h:1") :=
    exists_of_map (by decide +kernel)
  obtain ⟨bare, readBare, seenBare⟩ : ∃ address, ofText?
      "jdbc:pdi://h:1/kettle" ⟨none, none⟩ = .ok address ∧ view address = (none, "http://h:1") :=
    exists_of_map (by decide +kernel)
  obtain ⟨name, server⟩ := Prod.mk.inj seen
  obtain ⟨nameBare, serverBare⟩ := Prod.mk.inj seenBare
  refine ⟨address, bare, read, readBare, name, isCore_iff.mpr (by decide), nameBare, ?_, ?_⟩
  · rw [endpoint, baseUrl_of_slashes name (by decide) (by simp), server]
    decide
  · rw [endpoint, baseUrl_of_unnamed nameBare, serverBare]
    decide

end VirtualTables.Address
