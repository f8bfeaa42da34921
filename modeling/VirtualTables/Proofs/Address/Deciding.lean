import Mathlib.Logic.Relation
import VirtualTables.Proofs.Address.Grammar

/-!
What the arguments of an address decide.

Each part of an address is decided by the last argument that counts with its key (`Decides`). All
that is found is therefore what the pieces of the text give one by one (`gathered`), and it stays
the same however these are rearranged, as long as no key gets another last argument.
-/

namespace VirtualTables.Address

/-- Of some arguments the last that counts with a key gives it a value. -/
def Decides (pieces : List (List Char)) (key value : String) : Prop :=
  ∃ before piece after, pieces = before ++ piece :: after ∧ Gives piece key value ∧
    ∀ other ∈ after, ∀ value, ¬ Gives other key value

def gathered (pieces : List (List Char)) : Dictionary String :=
  .ofList (pieces.filterMap argument?)

section Gathered

variable {pieces : List (List Char)} {key value : String}

theorem get?_gathered_append (front back : List (List Char)) (key : String) :
    (gathered (front ++ back)).get? key =
      ((gathered back).get? key).or ((gathered front).get? key) := by
  rw [gathered, List.filterMap_append, Dictionary.get?_ofList_append]
  rfl

theorem get?_gathered_singleton {piece : List Char} :
    (gathered [piece]).get? key = some value ↔ Gives piece key value := by
  rw [← argument?_eq_some_iff]
  cases found : argument? piece with
  | none => simp [gathered, found, Dictionary.get?_ofList]
  | some argument =>
      obtain ⟨name, content⟩ := argument
      by_cases same : name = key
      · simp [gathered, found, Dictionary.get?_ofList, same]
      · simp [gathered, found, Dictionary.get?_ofList, same]

theorem get?_gathered_eq_none_iff :
    (gathered pieces).get? key = none ↔ ∀ piece ∈ pieces, ∀ value, ¬ Gives piece key value := by
  induction pieces with
  | nil => simp [gathered, Dictionary.get?_ofList]
  | cons piece pieces inductionHypothesis =>
      have single : (gathered [piece]).get? key = none ↔ ∀ value, ¬ Gives piece key value := by
        simp only [Option.eq_none_iff_forall_ne_some, ne_eq, get?_gathered_singleton]
      rw [← List.singleton_append, get?_gathered_append, Option.or_eq_none_iff, inductionHypothesis,
        single, List.singleton_append, List.forall_mem_cons, and_comm]

theorem get?_gathered_iff : (gathered pieces).get? key = some value ↔ Decides pieces key value := by
  constructor
  · intro found
    induction pieces with
    | nil => simp [gathered, Dictionary.get?_ofList] at found
    | cons piece pieces inductionHypothesis =>
        rw [← List.singleton_append, get?_gathered_append, Option.or_eq_some_iff] at found
        rcases found with later | ⟨missing, first⟩
        · obtain ⟨before, last, after, rfl, gives, none⟩ := inductionHypothesis later
          exact ⟨piece :: before, last, after, rfl, gives, none⟩
        · exact ⟨[], piece, pieces, rfl, get?_gathered_singleton.mp first,
            get?_gathered_eq_none_iff.mp missing⟩
  · rintro ⟨before, piece, after, rfl, gives, none⟩
    rw [get?_gathered_append, ← List.singleton_append, get?_gathered_append,
      get?_gathered_eq_none_iff.mpr none, Option.none_or, get?_gathered_singleton.mpr gives,
      Option.some_or]

instance (pieces : List (List Char)) (key value : String) : Decidable (Decides pieces key value) :=
  decidable_of_iff ((gathered pieces).get? key = some value) get?_gathered_iff

end Gathered

/-- No key is given by both of two arguments. -/
def Apart (left right : List Char) : Prop :=
  ∀ key value other, Gives left key value → ¬ Gives right key other

/-- Arguments that do not count come or go, or some with different keys are put in another order. -/
inductive Rearranges : List (List Char) → List (List Char) → Prop where
  | inserted {piece : List Char} (before after : List (List Char)) (whole : '&' ∉ piece)
      (idle : ∀ key value, ¬ Gives piece key value) :
      Rearranges (before ++ after) (before ++ piece :: after)
  | removed {piece : List Char} (before after : List (List Char))
      (idle : ∀ key value, ¬ Gives piece key value) :
      Rearranges (before ++ piece :: after) (before ++ after)
  | reordered {pieces order : List (List Char)} (before after : List (List Char))
      (same : pieces.Perm order) (distinct : pieces.Pairwise Apart) :
      Rearranges (before ++ pieces ++ after) (before ++ order ++ after)

section Rearranges

variable {pieces others : List (List Char)}

/-- Where each key is given once, the order of the arguments does not matter. -/
theorem get?_gathered_of_distinct (distinct : pieces.Pairwise Apart) {key value : String} :
    (gathered pieces).get? key = some value ↔ ∃ piece ∈ pieces, Gives piece key value := by
  rw [get?_gathered_iff]
  constructor
  · rintro ⟨before, piece, after, rfl, gives, -⟩
    exact ⟨piece, List.mem_append_right _ List.mem_cons_self, gives⟩
  · rintro ⟨piece, inside, gives⟩
    obtain ⟨before, after, rfl⟩ := List.append_of_mem inside
    refine ⟨before, piece, after, rfl, gives, fun other behind content => ?_⟩
    have later := (List.pairwise_cons.mp (List.pairwise_append.mp distinct).2.1).1
    exact later other behind key value content gives

theorem Rearranges.gathered_eq (step : Rearranges pieces others) :
    gathered others = gathered pieces := by
  cases step with
  | inserted before after whole idle =>
      simp [gathered, argument?_eq_none_iff.mpr idle]
  | removed before after idle =>
      simp [gathered, argument?_eq_none_iff.mpr idle]
  | @reordered pieces order before after same distinct =>
      have stillDistinct : order.Pairwise Apart :=
        same.pairwise distinct fun apart key value other gives givesToo =>
          apart key other value givesToo gives
      have inner : gathered order = gathered pieces := by
        refine Dictionary.ext_get? fun key => Option.ext fun value => ?_
        rw [get?_gathered_of_distinct distinct, get?_gathered_of_distinct stillDistinct]
        simp only [same.mem_iff]
      refine Dictionary.ext_get? fun key => ?_
      simp only [get?_gathered_append, inner]

theorem Rearranges.whole (step : Rearranges pieces others)
    (whole : ∀ piece ∈ pieces, '&' ∉ piece) : ∀ piece ∈ others, '&' ∉ piece := by
  cases step with
  | inserted before after plain idle =>
      simp only [List.forall_mem_append, List.forall_mem_cons] at whole ⊢
      exact ⟨whole.1, plain, whole.2⟩
  | removed before after idle =>
      simp only [List.forall_mem_append, List.forall_mem_cons] at whole ⊢
      exact ⟨whole.1, whole.2.2⟩
  | reordered before after same distinct =>
      intro piece inside
      refine whole piece ?_
      simpa only [List.mem_append, same.mem_iff] using inside

open Relation in
theorem gathered_of_rearranged (rearranged : ReflTransGen Rearranges pieces others) :
    gathered others = gathered pieces := by
  induction rearranged with
  | refl => rfl
  | tail _ step inductionHypothesis => exact step.gathered_eq.trans inductionHypothesis

open Relation in
theorem whole_of_rearranged (rearranged : ReflTransGen Rearranges pieces others)
    (whole : ∀ piece ∈ pieces, '&' ∉ piece) : ∀ piece ∈ others, '&' ∉ piece := by
  induction rearranged with
  | refl => exact whole
  | tail _ step inductionHypothesis => exact step.whole inductionHypothesis

end Rearranges

def queryOf (pieces : List (List Char)) : List Char :=
  if pieces.isEmpty then [] else '?' :: ['&'].intercalate pieces

def textOf (host port path : List Char) (pieces : List (List Char)) : String :=
  .ofList (start.toList ++ host ++ ':' :: (port ++ servicePath.toList ++ (path ++ queryOf pieces)))

/-- An address has these parts, and these are its arguments. -/
structure IsMadeOf (text : String) (host port path : List Char) (pieces : List (List Char)) :
    Prop where
  divides : Divides text.toList host port (path ++ queryOf pieces)
  pathPlain : '?' ∉ path
  whole : ∀ piece ∈ pieces, '&' ∉ piece

section IsMadeOf

variable {host port path rest : List Char} {pieces : List (List Char)} {text : String}

theorem exists_pieces (rest : List Char) : ∃ path pieces, rest = path ++ queryOf pieces ∧
    '?' ∉ path ∧ ∀ piece ∈ pieces, '&' ∉ piece := by
  have separates (character : Char) : (character == '&') = true ↔ character = '&' := beq_iff_eq
  by_cases asked : '?' ∈ rest
  · obtain ⟨path, query, rfl, pathPlain⟩ := List.eq_append_cons_of_mem asked
    have nonempty := Text.splitAt_ne_nil (· == '&') query
    refine ⟨path, Text.splitAt (· == '&') query, ?_, pathPlain, ?_⟩
    · rw [queryOf, List.isEmpty_eq_false_iff.mpr nonempty, Text.intercalate_splitAt separates]
      rfl
    · intro piece isPiece inside
      exact absurd (Text.mem_splitAt isPiece '&' inside) (by decide)
  · exact ⟨rest, [], (List.append_nil rest).symm, asked, by simp⟩

theorem foundArguments_queryOf (pathPlain : '?' ∉ path) (whole : ∀ piece ∈ pieces, '&' ∉ piece) :
    foundArguments (path ++ queryOf pieces) = gathered pieces := by
  rw [foundArguments, query?_append pathPlain, queryOf]
  cases pieces with
  | nil => rfl
  | cons piece pieces =>
      have clean : ∀ one ∈ piece :: pieces, ∀ character ∈ one, (character == '&') = false :=
        fun one isPiece => beq_eq_false_of_not_mem (whole one isPiece)
      have split : Text.splitAt (· == '&') (['&'].intercalate (piece :: pieces)) =
          piece :: pieces :=
        Text.splitAt_intercalate (by decide) (List.cons_ne_nil piece pieces) clean
      change arguments (['&'].intercalate (piece :: pieces)) = _
      rw [arguments, split, gathered]

theorem ofText?_of_isMadeOf (made : IsMadeOf text host port path pieces)
    (credentials : Credentials) :
    ofText? text credentials = .ok (assembled text host port (gathered pieces) credentials) := by
  rw [ofText?_eq_ok_iff, ← foundArguments_queryOf made.pathPlain made.whole]
  exact ⟨host, port, path ++ queryOf pieces, divides_iff.mp made.divides, rfl⟩

theorem exists_isMadeOf {credentials : Credentials} {address : Address}
    (read : ofText? text credentials = .ok address) :
    ∃ host port path pieces, IsMadeOf text host port path pieces := by
  obtain ⟨host, port, rest, parts, -⟩ := ofText?_eq_ok_iff.mp read
  obtain ⟨path, pieces, rfl, pathPlain, whole⟩ := exists_pieces rest
  exact ⟨host, port, path, pieces, divides_iff.mpr parts, pathPlain, whole⟩

theorem IsMadeOf.replaced (made : IsMadeOf text host port path pieces)
    {others : List (List Char)} (whole : ∀ piece ∈ others, '&' ∉ piece) :
    IsMadeOf (textOf host port path others) host port path others where
  divides := { made.divides with split := String.toList_ofList }
  pathPlain := made.pathPlain
  whole := whole

end IsMadeOf

/-- A switch is on if the last argument that counts says so, in letters of any case. -/
def SwitchesOn (pieces : List (List Char)) (key : String) : Prop :=
  ∃ value, Decides pieces key value ∧ Text.sameName value "true" = true

/-- Each part of an address is set by the arguments with its key, and whatever else they give is
kept as a parameter. -/
structure IsSetBy (pieces : List (List Char)) (address : Address) : Prop where
  webAppName : ∀ value, address.webAppName = some value ↔ Decides pieces "webappname" value
  proxyHost : ∀ value, address.proxyHost = some value ↔ Decides pieces "proxyhostname" value
  proxyPort : ∀ value, address.proxyPort = some value ↔ Decides pieces "proxyport" value
  nonProxyHosts : ∀ value, address.nonProxyHosts = some value ↔ Decides pieces "nonproxyhosts" value
  secure : address.secure = true ↔ SwitchesOn pieces "secure"
  isLocal : address.isLocal = true ↔ SwitchesOn pieces "local"
  debugFile : ∀ value, address.debugFile = some value ↔ Decides pieces "debugtrans" value
  debugLog : address.debugLog = true ↔ SwitchesOn pieces "debuglog"
  parameters : ∀ key value, address.parameters.get? key = some value ↔
    key ∉ recognizedArguments ∧ Decides pieces key value

section IsSetBy

variable (pieces : List (List Char)) (key value : String)

theorem isOn_gathered_iff : isOn ((gathered pieces).get? key) = true ↔ SwitchesOn pieces key := by
  rw [isOn, Option.any_eq_true]
  simp only [get?_gathered_iff]
  rfl

theorem isSetBy_assembled (text : String) (host port : List Char) (credentials : Credentials) :
    IsSetBy pieces (assembled text host port (gathered pieces) credentials) where
  webAppName _ := get?_gathered_iff
  proxyHost _ := get?_gathered_iff
  proxyPort _ := get?_gathered_iff
  nonProxyHosts _ := get?_gathered_iff
  secure := isOn_gathered_iff pieces "secure"
  isLocal := isOn_gathered_iff pieces "local"
  debugFile _ := get?_gathered_iff
  debugLog := isOn_gathered_iff pieces "debuglog"
  parameters key value := by
    rw [← get?_gathered_iff, assembled, Dictionary.get?_foldl_erase]
    by_cases recognized : key ∈ recognizedArguments
    · simp [recognized]
    · simp [recognized]

end IsSetBy

/-- Each argument of an address counts or not by itself, and of those with one key the last decides
the part that the key stands for. Nothing else has a say: arguments that do not count can come and
go, and those with different keys change places, and the address stays the same. -/
theorem ofText?_decided {text : String} {credentials : Credentials} {address : Address}
    (read : ofText? text credentials = .ok address) :
    (∃ host port path pieces, IsMadeOf text host port path pieces) ∧
    ∀ host port path pieces, IsMadeOf text host port path pieces →
      (address.given = text ∧ address.host = .ofList host ∧ address.port = .ofList port ∧
        address.credentials = credentials) ∧
      (∀ piece ∈ pieces, ((∃ key value, Gives piece key value) ↔ (bare piece).count '=' = 1) ∧
        ∀ key value, Gives piece key value → value ≠ "" ∧
          ∀ key' value', Gives piece key' value' → key' = key ∧ value' = value) ∧
      IsSetBy pieces address ∧
      ∀ others, Relation.ReflTransGen Rearranges pieces others →
        ofText? (textOf host port path others) credentials =
          .ok { address with given := textOf host port path others } := by
  refine ⟨exists_isMadeOf read, fun host port path pieces made => ?_⟩
  have same := Except.ok.inj (read.symm.trans (ofText?_of_isMadeOf made credentials))
  subst same
  refine ⟨⟨rfl, rfl, rfl, rfl⟩, ?_, isSetBy_assembled pieces text host port credentials, ?_⟩
  · intro piece _
    refine ⟨exists_gives_iff piece, fun key value gives => ⟨?_, fun _ _ => gives.unique⟩⟩
    rintro rfl
    exact gives.valueGiven rfl
  · intro others rearranged
    rw [ofText?_of_isMadeOf (made.replaced (whole_of_rearranged rearranged made.whole)),
      gathered_of_rearranged rearranged]
    rfl

theorem ofText?_decided_repeated : ∃ address,
    ofText? "jdbc:pdi://h:1/kettle/é?a=1&key=b==&=v&secure=no&b==c&secure=TRUE&a=2" ⟨none, none⟩ =
      .ok address ∧
    address.secure = true ∧ address.parameters.get? "secure" = none ∧
    address.parameters.get? "a" = some "2" ∧ address.parameters.get? "" = some "v" ∧
    address.parameters.get? "key" = some "b" ∧
    ofText? "jdbc:pdi://h:1/kettle/é?a=1&=v&key=b==&secure=no&secure=TRUE&a=2" ⟨none, none⟩ =
      .ok { address with
        given := "jdbc:pdi://h:1/kettle/é?a=1&=v&key=b==&secure=no&secure=TRUE&a=2" } := by
  have made : IsMadeOf "jdbc:pdi://h:1/kettle/é?a=1&key=b==&=v&secure=no&b==c&secure=TRUE&a=2"
      "h".toList "1".toList "/é".toList (["a=1", "key=b==", "=v", "secure=no", "b==c",
        "secure=TRUE", "a=2"].map String.toList) :=
    ⟨⟨by decide +kernel, by decide, by decide, by decide, by decide⟩, by decide, by decide⟩
  have read := ofText?_of_isMadeOf made ⟨none, none⟩
  obtain ⟨-, -, set, rearranged⟩ := (ofText?_decided read).2 _ _ _ _ made
  have idle (key value : String) : ¬ Gives "b==c".toList key value := by
    intro gives
    exact absurd gives.once (by decide)
  have apart : ["key=b==".toList, "=v".toList].Pairwise Apart := by
    rw [List.pairwise_pair]
    intro key value other gives givesToo
    have first : Gives "key=b==".toList "key" "b" := by decide +kernel
    have second : Gives "=v".toList "" "v" := by decide +kernel
    exact absurd ((first.unique gives).1.symm.trans (second.unique givesToo).1) (by decide)
  refine ⟨_, read, set.secure.mpr ⟨"TRUE", by decide +kernel, by decide +kernel⟩, ?_,
    (set.parameters "a" "2").mpr (by decide +kernel),
    (set.parameters "" "v").mpr (by decide +kernel),
    (set.parameters "key" "b").mpr (by decide +kernel), ?_⟩
  · rw [Option.eq_none_iff_forall_ne_some]
    intro value kept
    exact ((set.parameters "secure" value).mp kept).1 (by decide)
  · refine rearranged (["a=1", "=v", "key=b==", "secure=no", "secure=TRUE", "a=2"].map String.toList)
      ?_
    refine .tail (.single (.removed (["a=1", "key=b==", "=v", "secure=no"].map String.toList)
      (["secure=TRUE", "a=2"].map String.toList) idle)) ?_
    exact .reordered ["a=1".toList] (["secure=no", "secure=TRUE", "a=2"].map String.toList)
      (.swap "=v".toList "key=b==".toList []) apart

end VirtualTables.Address
