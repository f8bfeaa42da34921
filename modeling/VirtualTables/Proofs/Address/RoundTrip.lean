import VirtualTables.Proofs.Address.Arguments

/-!
Addresses that are written are read back.

An address that was read from some text, however that text orders, repeats or spoils its arguments,
is `IsReadable`: its parts hold nothing that would end them early. Written in the one order of
`Address.text`, such an address is read with the same parts.
-/

namespace VirtualTables.Address

theorem parts?_eq_ok_iff {text host port rest : List Char} :
    parts? text = .ok (host, port, rest) ↔
      text = start.toList ++ (host ++ [':'] ++ (port ++ servicePath.toList ++ rest)) ∧
        (Text.IsFirst [':'] host ∧ host ≠ []) ∧
          Text.IsFirst servicePath.toList port ∧ port ≠ [] := by
  have colon : [':'] ≠ [] := List.cons_ne_nil ':' []
  have path : servicePath.toList ≠ [] := by decide
  constructor
  · intro found
    rcases started : Text.afterStart? start.toList text with _ | behind
    · simp [parts?, started] at found
    rcases ended : Text.upTo? [':'] behind with _ | ⟨before, after⟩
    · simp [parts?, started, ended] at found
    rcases endedToo : Text.upTo? servicePath.toList after with _ | ⟨between, last⟩
    · simp [parts?, started, ended, endedToo] at found
    by_cases noHost : before = []
    · simp [parts?, started, ended, endedToo, noHost] at found
    by_cases noPort : between = []
    · simp [parts?, started, ended, endedToo, noHost, noPort] at found
    simp [parts?, started, ended, endedToo, noHost, noPort] at found
    obtain ⟨rfl, rfl, rfl⟩ := found
    obtain ⟨rfl, hostFirst⟩ := (Text.upTo?_eq_some_iff colon).mp ended
    obtain ⟨rfl, portFirst⟩ := (Text.upTo?_eq_some_iff path).mp endedToo
    exact ⟨Text.afterStart?_eq_some_iff.mp started, ⟨hostFirst, noHost⟩, portFirst, noPort⟩
  · rintro ⟨rfl, ⟨hostFirst, noHost⟩, portFirst, noPort⟩
    have started := Text.afterStart?_eq_some_iff.mpr (Eq.refl (start.toList ++
      (host ++ [':'] ++ (port ++ servicePath.toList ++ rest))))
    have ended := (Text.upTo?_eq_some_iff colon).mpr
      ⟨Eq.refl (host ++ [':'] ++ (port ++ servicePath.toList ++ rest)), hostFirst⟩
    have endedToo := (Text.upTo?_eq_some_iff path).mpr
      ⟨Eq.refl (port ++ servicePath.toList ++ rest), portFirst⟩
    simp only [parts?, started, ended, endedToo]
    simp [noHost, noPort]

/-- The address of some parts, from the arguments found. -/
def assembled (given : String) (host port : List Char) (found : Dictionary String)
    (credentials : Credentials) : Address where
  given := given
  host := String.ofList host
  port := String.ofList port
  webAppName := found.get? "webappname"
  proxyHost := found.get? "proxyhostname"
  proxyPort := found.get? "proxyport"
  nonProxyHosts := found.get? "nonproxyhosts"
  secure := isOn (found.get? "secure")
  isLocal := isOn (found.get? "local")
  debugFile := found.get? "debugtrans"
  debugLog := isOn (found.get? "debuglog")
  parameters := recognizedArguments.foldl Dictionary.erase found
  credentials := credentials

def foundArguments (rest : List Char) : Dictionary String :=
  ((query? rest).map arguments).getD .empty

theorem ofText?_eq_ok_iff {text : String} {credentials : Credentials} {address : Address} :
    ofText? text credentials = .ok address ↔
      ∃ host port rest, parts? text.toList = .ok (host, port, rest) ∧
        address = assembled text host port (foundArguments rest) credentials := by
  unfold ofText?
  cases parts? text.toList with
  | error fault => simp
  | ok parts =>
      obtain ⟨host, port, rest⟩ := parts
      simp only [Except.ok.injEq, Prod.mk.injEq]
      constructor
      · rintro rfl
        exact ⟨host, port, rest, ⟨rfl, rfl, rfl⟩, rfl⟩
      · rintro ⟨_, _, _, ⟨rfl, rfl, rfl⟩, rfl⟩
        rfl

def writtenQuery (written : List (String × String)) : List Char :=
  if written.isEmpty then [] else '?' :: ['&'].intercalate (written.map writtenArgument)

theorem toList_text (address : Address) :
    address.text.toList = start.toList ++ (address.host.toList ++ [':'] ++
      (address.port.toList ++ servicePath.toList ++ writtenQuery address.writtenArguments)) := by
  unfold text writtenQuery
  by_cases nothing : address.writtenArguments = []
  · simp [nothing]
  · simp [nothing, String.toList_intercalate, Function.comp_def]
    rfl

theorem foundArguments_written {written : List (String × String)}
    (counts : ∀ argument ∈ written, Counts argument) :
    foundArguments (writtenQuery written) = .ofList written := by
  unfold foundArguments writtenQuery
  by_cases nothing : written = []
  · subst nothing
    rfl
  · have given : written.isEmpty = false := by simpa using nothing
    rw [given]
    change ((query? ('?' :: _)).map arguments).getD .empty = _
    have query (text : List Char) : query? ('?' :: text) = some text := rfl
    rw [query, Option.map_some, Option.getD_some, arguments_written nothing counts]

/-- The parts of an address hold nothing that would end them early, so that it can be read from what
writing makes of it. -/
structure IsReadable (address : Address) : Prop where
  hostFirst : Text.IsFirst [':'] address.host.toList
  host : address.host.toList ≠ []
  portFirst : Text.IsFirst servicePath.toList address.port.toList
  port : address.port.toList ≠ []
  arguments : ∀ argument ∈ address.writtenArguments, Counts argument
  parameters : ∀ name ∈ recognizedArguments, address.parameters.get? name = none

section Found

variable (key name : String)

theorem get?_optionalArgument (value : Option String) :
    (Dictionary.ofList (optionalArgument name value)).get? key =
      if key = name then value else none := by
  cases value with
  | none => simp [optionalArgument, Dictionary.get?_ofList]
  | some value =>
      by_cases same : key = name
      · simp [optionalArgument, Dictionary.get?_ofList, same]
      · simp [optionalArgument, Dictionary.get?_ofList, same, Ne.symm same]

theorem get?_switchArgument (isSet : Bool) :
    (Dictionary.ofList (switchArgument name isSet)).get? key =
      if key = name ∧ isSet = true then some "true" else none := by
  cases isSet with
  | false => simp [switchArgument, Dictionary.get?_ofList]
  | true =>
      by_cases same : key = name
      · simp [switchArgument, Dictionary.get?_ofList, same]
      · simp [switchArgument, Dictionary.get?_ofList, same, Ne.symm same]

end Found

theorem get?_written_of_parameter (address : Address) {key : String}
    (unrecognized : key ∉ recognizedArguments) :
    (Dictionary.ofList address.writtenArguments).get? key = address.parameters.get? key := by
  simp only [recognizedArguments, List.mem_cons, List.not_mem_nil, or_false, not_or] at unrecognized
  simp [writtenArguments, Dictionary.get?_ofList_append, Dictionary.ofList_entries,
    get?_optionalArgument, get?_switchArgument, unrecognized]

theorem isOn_switch (isSet : Bool) : isOn (if isSet then some "true" else none) = isSet := by
  cases isSet with
  | false => rfl
  | true => decide

theorem assembled_written {address : Address} (readable : address.IsReadable) (given : String) :
    assembled given address.host.toList address.port.toList (.ofList address.writtenArguments)
      address.credentials = { address with given } := by
  have recognized := readable.parameters
  simp only [recognizedArguments, List.forall_mem_cons] at recognized
  obtain ⟨app, proxyHost, proxyPort, noProxy, debugFile, debugLog, secure, isLocal, -⟩ := recognized
  have parameters : recognizedArguments.foldl Dictionary.erase
      (.ofList address.writtenArguments) = address.parameters := by
    apply Dictionary.ext_get?
    intro key
    rw [Dictionary.get?_foldl_erase]
    by_cases inside : key ∈ recognizedArguments
    · rw [if_pos inside, readable.parameters key inside]
    · rw [if_neg inside, get?_written_of_parameter address inside]
  rw [assembled, parameters]
  simp [writtenArguments, Dictionary.get?_ofList_append, Dictionary.ofList_entries,
    get?_optionalArgument, get?_switchArgument, app, proxyHost, proxyPort, noProxy, debugFile,
    debugLog, secure, isLocal, isOn_switch]

theorem ofText?_text {address : Address} (readable : address.IsReadable) :
    ofText? address.text address.credentials = .ok { address with given := address.text } := by
  rw [ofText?_eq_ok_iff]
  refine ⟨address.host.toList, address.port.toList, writtenQuery address.writtenArguments, ?_, ?_⟩
  · rw [parts?_eq_ok_iff]
    exact ⟨toList_text address, ⟨readable.hostFirst, readable.host⟩, readable.portFirst,
      readable.port⟩
  · rw [foundArguments_written readable.arguments, assembled_written readable]

theorem counts_of_foundArguments (rest : List Char) (key value : String)
    (found : (foundArguments rest).get? key = some value) : Counts (key, value) := by
  unfold foundArguments at found
  cases asked : query? rest with
  | none =>
      rw [asked] at found
      cases found
  | some query =>
      rw [asked] at found
      exact counts_of_get?_arguments found

theorem counts_optionalArgument {found : Dictionary String}
    (counts : ∀ key value, found.get? key = some value → Counts (key, value)) (key : String) :
    ∀ argument ∈ optionalArgument key (found.get? key), Counts argument := by
  intro argument inside
  simp only [optionalArgument, Option.mem_toList, Option.map_eq_some_iff] at inside
  obtain ⟨value, given, rfl⟩ := inside
  exact counts key value given

theorem counts_switchArgument {key : String} (recognized : key ∈ recognizedArguments)
    (isSet : Bool) : ∀ argument ∈ switchArgument key isSet, Counts argument := by
  have plain : ∀ name ∈ "true" :: recognizedArguments, ∀ character ∈ name.toList,
      character ≠ '&' ∧ character ≠ '=' := by
    simp [recognizedArguments]
  intro argument inside
  cases isSet with
  | false => cases inside
  | true =>
      obtain rfl := List.mem_singleton.mp inside
      refine ⟨plain key (List.mem_cons_of_mem _ recognized), plain "true" List.mem_cons_self, ?_⟩
      change "true".toList ≠ []
      decide

theorem isReadable_of_ofText? {text : String} {credentials : Credentials} {address : Address}
    (read : ofText? text credentials = .ok address) :
    address.IsReadable ∧ address.credentials = credentials := by
  rcases ofText?_eq_ok_iff.mp read with ⟨host, port, rest, parts, rfl⟩
  obtain ⟨-, ⟨hostFirst, noHost⟩, portFirst, noPort⟩ := parts?_eq_ok_iff.mp parts
  have erased (key : String) := Dictionary.get?_foldl_erase (foundArguments rest) key
    recognizedArguments
  refine ⟨⟨?_, ?_, ?_, ?_, ?_, ?_⟩, rfl⟩
  · simpa [assembled] using hostFirst
  · simpa [assembled] using noHost
  · simpa [assembled] using portFirst
  · simpa [assembled] using noPort
  · have optional := counts_optionalArgument (counts_of_foundArguments rest)
    simp only [writtenArguments, List.forall_mem_append]
    refine ⟨⟨⟨⟨⟨⟨⟨⟨optional _, optional _⟩, optional _⟩, optional _⟩, optional _⟩,
      ?_⟩, ?_⟩, ?_⟩, ?_⟩
    · exact counts_switchArgument (by decide) _
    · exact counts_switchArgument (by decide) _
    · exact counts_switchArgument (by decide) _
    · intro argument inside
      have kept := (erased argument.1).symm.trans (Dictionary.get?_eq_some_iff.mpr inside)
      by_cases recognized : argument.1 ∈ recognizedArguments
      · rw [if_pos recognized] at kept
        cases kept
      · rw [if_neg recognized] at kept
        exact counts_of_foundArguments rest _ _ kept
  · intro name inside
    exact (erased name).trans (if_pos inside)

/-- What is written for an address that was read leads back to it: reading it gives the same parts,
the same locator and the same written form again. -/
theorem ofText?_again {text : String} {credentials : Credentials} {address : Address}
    (read : ofText? text credentials = .ok address) :
    ∃ again, ofText? address.text credentials = .ok again ∧
      again = { address with given := address.text } ∧
      again.baseUrl = address.baseUrl ∧ again.text = address.text := by
  obtain ⟨readable, rfl⟩ := isReadable_of_ofText? read
  exact ⟨_, ofText?_text readable, rfl, rfl, rfl⟩

/-- Marks of the format stand in host, port, key and value; arguments are repeated, out of order,
without value and without key. -/
theorem ofText?_again_reordered :
    let text := "jdbc:pdi://h/kettle?a:1?&:2/kettle/x?secure=TRUE&=é/kettle?&b=&local=no" ++
      "&webappname=x&webappname=/pdi/&debugtrans=a:b"
    let written := "jdbc:pdi://h/kettle?a:1?&:2/kettle" ++
      "?webappname=/pdi/&debugtrans=a:b&secure=true&=é/kettle?"
    let credentials : Credentials := ⟨some "joe", none⟩
    ∃ address, ofText? text credentials = .ok address ∧ address.text = written ∧
      ofText? written credentials = .ok { address with given := written } := by
  intro text written credentials
  have writes : (ofText? text credentials).toOption.map Address.text = some written := by
    decide +kernel
  cases read : ofText? text credentials with
  | error fault =>
      rw [read] at writes
      cases writes
  | ok address =>
      rw [read] at writes
      have same : address.text = written := Option.some.inj writes
      rcases ofText?_again read with ⟨again, reads, rfl, -⟩
      rw [same] at reads
      exact ⟨address, rfl, same, reads⟩

end VirtualTables.Address
