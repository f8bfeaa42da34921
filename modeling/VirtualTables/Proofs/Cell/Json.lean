import VirtualTables.Cell.Json
import VirtualTables.Proofs.Calendar.Reading
import VirtualTables.Proofs.Json.Reading

/-!
Cells are read back from their JSON texts, numbers aside.

The type in front of a value decides how the value is read (`ofJson?_typed`), so what is read from
a text has the type of the cell that was written, for numbers too (`ofJson?_toJson`).
-/

namespace VirtualTables.Cell

open Json

section Tokens

variable {token : Char} {text rest : List Char}

theorem skipBlanks_cons (solid : isJsonBlank token = false) (rest : List Char) :
    skipBlanks (token :: rest) = token :: rest := by
  rw [skipBlanks, List.dropWhile_cons, solid]
  rfl

theorem token?_cons (solid : isJsonBlank token = false) (rest : List Char) :
    token? token (token :: rest) = some rest := by
  rw [token?, skipBlanks_cons solid]
  exact if_pos rfl

theorem token?_other {other : Char} (solid : isJsonBlank other = false) (different : other ≠ token)
    (rest : List Char) : token? token (other :: rest) = none := by
  rw [token?, skipBlanks_cons solid]
  exact if_neg different

theorem stringToken?_quoted (text rest : List Char) :
    stringToken? (Json.quoted text ++ rest) = some (text, rest) := by
  have parts : Json.quoted text ++ rest = '"' :: (text.flatMap quotedChar ++ '"' :: rest) := by
    simp only [Json.quoted, List.cons_append, List.append_assoc, List.nil_append]
  rw [parts, stringToken?, token?_cons (by decide), Option.bind_eq_bind, Option.bind_some,
    string?_quoted]

theorem instantToken?_quoted (instant : Instant) (rest : List Char) :
    instantToken? (Json.quoted instant.isoText.toList ++ rest) = some (instant, rest) := by
  simp only [instantToken?, stringToken?_quoted, instant.ofText?_isoText, Option.bind_eq_bind,
    Option.bind_some, Option.pure_def]

theorem isJsonBlank_of_isDigit {character : Char} (digit : Text.isDigit character = true) :
    isJsonBlank character = false := by
  cases blank : isJsonBlank character with
  | false => rfl
  | true =>
      simp only [isJsonBlank, Bool.or_eq_true, beq_iff_eq] at blank
      rcases blank with ((rfl | rfl) | rfl) | rfl
      all_goals exact absurd digit (by decide)

theorem skipBlanks_toDigits (number : Nat) (rest : List Char) :
    skipBlanks (Nat.toDigits 10 number ++ rest) = Nat.toDigits 10 number ++ rest := by
  obtain ⟨first, others, digits, digit⟩ := Text.exists_toDigits number
  rw [digits, List.cons_append, skipBlanks_cons (isJsonBlank_of_isDigit digit)]

theorem token?_toDigits (noDigit : Text.isDigit token = false) (number : Nat) (rest : List Char) :
    token? token (Nat.toDigits 10 number ++ rest) = none := by
  obtain ⟨first, others, digits, digit⟩ := Text.exists_toDigits number
  have different : first ≠ token := by
    rintro rfl
    exact Bool.false_ne_true (noDigit.symm.trans digit)
  rw [digits]
  exact token?_other (isJsonBlank_of_isDigit digit) different _

end Tokens

section Bytes

variable {rest : List Char}

theorem toList_toString (number : Nat) : (toString number).toList = Nat.toDigits 10 number := by
  rw [Nat.toString_eq_ofList_toDigits, String.toList_ofList]

theorem byteToken?_toString (byte : UInt8) (ends : EndsNumber rest) :
    byteToken? ((toString byte.toNat).toList ++ rest) = some (byte, rest) := by
  have small : byte.toNat < 256 := byte.toNat_lt
  have fits : byte.toNat < UInt64.size := Nat.lt_trans small (by decide)
  rw [toList_toString, byteToken?, skipBlanks_toDigits, number?_toDigits fits ends]
  exact (if_pos small).trans (by rw [UInt8.ofNat_toNat])

def moreBytes (bytes : List UInt8) : List Char :=
  bytes.flatMap fun byte => ',' :: (toString byte.toNat).toList

theorem length_le_moreBytes (bytes : List UInt8) : bytes.length ≤ (moreBytes bytes).length := by
  induction bytes with
  | nil => exact Nat.zero_le _
  | cons byte bytes inductionHypothesis =>
      have parts : moreBytes (byte :: bytes) =
          ',' :: (toString byte.toNat).toList ++ moreBytes bytes := List.flatMap_cons
      rw [parts, List.length_append, List.length_cons, List.length_cons]
      omega

theorem endsNumber_moreBytes (bytes : List UInt8) (rest : List Char) :
    EndsNumber (moreBytes bytes ++ ']' :: rest) := by
  cases bytes with
  | nil =>
      rintro _ ⟨⟩
      decide
  | cons byte bytes =>
      rintro _ ⟨⟩
      decide

theorem moreBytes?_moreBytes {bytes : List UInt8} {most : Nat} (enough : bytes.length < most)
    (rest : List Char) :
    moreBytes? most (moreBytes bytes ++ ']' :: rest) = some (bytes, rest) := by
  obtain ⟨most, rfl⟩ := Nat.exists_eq_add_one_of_ne_zero (Nat.ne_zero_of_lt enough)
  induction bytes generalizing most with
  | nil =>
      have closed : token? ']' (moreBytes [] ++ ']' :: rest) = some rest :=
        token?_cons (by decide) rest
      rw [moreBytes?, closed]
  | cons byte bytes inductionHypothesis =>
      have shorter : bytes.length < most := Nat.lt_of_succ_lt_succ enough
      obtain ⟨most, rfl⟩ := Nat.exists_eq_add_one_of_ne_zero (Nat.ne_zero_of_lt shorter)
      have parts : moreBytes (byte :: bytes) ++ ']' :: rest =
          ',' :: ((toString byte.toNat).toList ++ (moreBytes bytes ++ ']' :: rest)) := by
        rw [moreBytes, List.flatMap_cons, List.cons_append, List.cons_append, List.append_assoc]
        rfl
      rw [parts, moreBytes?, token?_other (by decide) (by decide)]
      simp only [token?_cons (show isJsonBlank ',' = false by decide),
        byteToken?_toString byte (endsNumber_moreBytes bytes rest),
        inductionHypothesis most shorter, Option.bind_eq_bind, Option.bind_some, Option.pure_def]

theorem intercalate_bytes (byte : UInt8) (bytes : List UInt8) :
    [','].intercalate ((byte :: bytes).map fun byte => (toString byte.toNat).toList) =
      (toString byte.toNat).toList ++ moreBytes bytes := by
  induction bytes generalizing byte with
  | nil => exact List.intercalate_singleton.trans (List.append_nil _).symm
  | cons next bytes inductionHypothesis =>
      have behind := inductionHypothesis next
      rw [List.map_cons] at behind
      rw [List.map_cons, List.map_cons, List.intercalate_cons_cons, behind]
      simp only [moreBytes, List.flatMap_cons, List.append_assoc, List.cons_append,
        List.nil_append]

theorem bytesToken?_jsonValue (bytes : List UInt8) (rest : List Char) :
    bytesToken? ((Cell.binary bytes).jsonValue ++ rest) = some (bytes, rest) := by
  have parts : (Cell.binary bytes).jsonValue ++ rest =
      '[' :: ([','].intercalate (bytes.map fun byte => (toString byte.toNat).toList) ++
        ']' :: rest) := by
    rw [jsonValue, List.append_assoc]
    rfl
  rw [parts, bytesToken?, token?_cons (by decide), Option.bind_eq_bind, Option.bind_some]
  cases bytes with
  | nil =>
      have closed : token? ']' ([','].intercalate [] ++ ']' :: rest) = some rest :=
        token?_cons (by decide) rest
      rw [List.map_nil, closed]
      rfl
  | cons byte bytes =>
      have enough : bytes.length < (moreBytes bytes ++ ']' :: rest).length := by
        have atLeast := length_le_moreBytes bytes
        rw [List.length_append, List.length_cons]
        omega
      have opened : token? ']' ((toString byte.toNat).toList ++ (moreBytes bytes ++ ']' :: rest)) =
          none := by
        rw [toList_toString]
        exact token?_toDigits (by decide) _ _
      rw [intercalate_bytes, List.append_assoc, opened]
      simp only [byteToken?_toString byte (endsNumber_moreBytes bytes rest),
        moreBytes?_moreBytes enough, Option.bind_eq_bind, Option.bind_some, Option.pure_def]

end Bytes

section Values

variable {rest : List Char}

theorem integer?_jsonValue (value : Int64) (ends : EndsNumber rest) :
    ofJsonValue? .integer ((Cell.integer value).jsonValue ++ rest) =
      some (.integer value, rest) := by
  have low : -(0x8000000000000000 : Int) ≤ value.toInt := value.le_toInt
  have high : value.toInt < (0x8000000000000000 : Int) := value.toInt_lt
  have same : Int64.ofInt value.toInt = value := Int64.ofInt_toInt value
  rw [jsonValue]
  cases sign : value.toInt with
  | ofNat size =>
      have small : size < 0x8000000000000000 := by
        rw [sign] at high
        exact Int.ofNat_lt.mp high
      have fits : size < UInt64.size := Nat.lt_trans small (by decide)
      have written : (toString (Int.ofNat size)).toList = Nat.toDigits 10 size :=
        toList_toString size
      rw [written, ofJsonValue?, skipBlanks_toDigits, number?_toDigits fits ends]
      rw [sign] at same
      exact (if_pos small).trans (congrArg (fun value => some (Cell.integer value, rest)) same)
  | negSucc size =>
      have fits : size + 1 ≤ 0x8000000000000000 := by
        rw [sign] at low
        omega
      have written : (toString (Int.negSucc size)).toList = '-' :: Nat.toDigits 10 (size + 1) := by
        change ("-" ++ toString (size + 1)).toList = _
        rw [String.toList_append, toList_toString]
        rfl
      rw [written, List.cons_append, ofJsonValue?, skipBlanks_cons (by decide),
        number?_minus (Nat.succ_pos size) fits ends]
      rw [sign] at same
      exact congrArg (fun value => some (Cell.integer value, rest)) same

theorem ofJsonValue?_jsonValue {cell : Cell} {type : CellType} (typed : cell.type? = some type)
    (noNumber : type ≠ .number) :
    ofJsonValue? type (cell.jsonValue ++ ['\x7d']) = some (cell, ['\x7d']) := by
  have ends : EndsNumber ['\x7d'] := by
    rintro _ ⟨⟩
    decide
  cases cell with
  | null => cases typed
  | number value =>
      cases typed
      exact absurd rfl noNumber
  | string value =>
      cases typed
      rw [ofJsonValue?, jsonValue, stringToken?_quoted, Option.map_some]
      exact congrArg (fun text => some (Cell.string text, _)) String.ofList_toList
  | date value =>
      cases typed
      rw [ofJsonValue?, jsonValue, instantToken?_quoted, Option.map_some]
  | boolean value =>
      cases typed
      cases value <;> rfl
  | integer value =>
      cases typed
      exact integer?_jsonValue value ends
  | bigNumber value =>
      cases typed
      rw [ofJsonValue?, jsonValue, stringToken?_quoted, Option.map_some]
      exact congrArg (fun text => some (Cell.bigNumber text, _)) String.ofList_toList
  | binary value =>
      cases typed
      rw [ofJsonValue?, bytesToken?_jsonValue, Option.map_some]
  | timestamp value =>
      cases typed
      rw [ofJsonValue?, jsonValue, instantToken?_quoted, Option.map_some]

theorem type?_of_map {α : Type} {found? : Option α} {view : α → Cell × List Char}
    {type : CellType} {cell : Cell} (read : found?.map view = some (cell, rest))
    (typed : ∀ found, (view found).1.type? = some type) : cell.type? = some type := by
  obtain ⟨found, _, same⟩ := Option.map_eq_some_iff.mp read
  rw [← typed found, same]

theorem type?_of_ofJsonValue? {type : CellType} {text : List Char} {cell : Cell}
    (read : ofJsonValue? type text = some (cell, rest)) : cell.type? = some type := by
  cases type with
  | number => exact type?_of_map read fun _ => rfl
  | string => exact type?_of_map read fun _ => rfl
  | date => exact type?_of_map read fun _ => rfl
  | boolean =>
      rw [ofJsonValue?] at read
      split at read
      · cases read
        rfl
      · exact type?_of_map read fun _ => rfl
  | integer =>
      rw [ofJsonValue?] at read
      split at read
      · split at read
        · cases read
          rfl
        · cases read
      · cases read
        rfl
      · cases read
  | bigNumber => exact type?_of_map read fun _ => rfl
  | binary => exact type?_of_map read fun _ => rfl
  | timestamp => exact type?_of_map read fun _ => rfl

end Values

theorem toJson_typed {cell : Cell} {type : CellType} (typed : cell.type? = some type) :
    cell.toJson.toList = '\x7b' ::
      (Json.quoted type.name.toList ++ ':' :: (cell.jsonValue ++ ['\x7d'])) := by
  rw [toJson, typed]
  simp only [String.toList_ofList, List.cons_append, List.append_assoc]

theorem ofJson?_typed {cell : Cell} {type : CellType} (typed : cell.type? = some type) :
    ofJson? cell.toJson =
      (ofJsonValue? type (cell.jsonValue ++ ['\x7d'])).bind fun found =>
        (token? '\x7d' found.2).bind fun rest =>
          if (skipBlanks rest).isEmpty then some found.1 else none := by
  have named : typeNamed? type.name.toList = some type := by
    cases type <;> rfl
  have noNull : type.name.toList ≠ "Null".toList := by
    cases type <;> decide
  have brace (text : List Char) : skipBlanks ('\x7b' :: text) = '\x7b' :: text :=
    skipBlanks_cons (by decide) text
  have colon (text : List Char) : token? ':' (':' :: text) = some text :=
    token?_cons (by decide) text
  rw [ofJson?, toJson_typed typed, brace]
  simp only [keyed?, stringToken?_quoted, colon, named, if_neg noNull, Option.bind_eq_bind,
    Option.bind_some, Option.bind_assoc, Option.pure_def]

theorem ofJson?_null : ofJson? Cell.null.toJson = some .null := by
  have quote : skipBlanks Cell.null.toJson.toList =
      '"' :: ("Null".toList.flatMap quotedChar ++ ['"']) := rfl
  rw [ofJson?, quote]
  simp only [named?, string?_quoted, if_true, Option.bind_eq_bind, Option.bind_some]
  rfl

/-- A cell that is no number is read back from its JSON text, and what is read from the text of any
cell has the type of that cell. -/
theorem ofJson?_toJson (cell : Cell) :
    (cell.type? ≠ some .number → ofJson? cell.toJson = some cell) ∧
      ∀ other, ofJson? cell.toJson = some other → other.type? = cell.type? := by
  cases typed : cell.type? with
  | none =>
      have null : cell = .null := by
        cases cell with
        | null => rfl
        | _ => cases typed
      rw [null, ofJson?_null]
      refine ⟨fun _ => rfl, ?_⟩
      rintro _ ⟨⟩
      rfl
  | some type =>
      rw [ofJson?_typed typed]
      refine ⟨fun noNumber => ?_, fun other read => ?_⟩
      · have different : type ≠ .number := fun same => noNumber (congrArg some same)
        rw [ofJsonValue?_jsonValue typed different]
        rfl
      · obtain ⟨found, value, read⟩ := Option.bind_eq_some_iff.mp read
        obtain ⟨_, _, read⟩ := Option.bind_eq_some_iff.mp read
        split at read
        · cases read
          exact type?_of_ofJsonValue? value
        · cases read

/-- Five milliseconds past a second of the year -1199, as a timestamp: read back, and as nothing
else. -/
theorem ofJson?_toJson_ancient :
    let cell := timestamp ⟨-100000000000, 5000000, by decide, by decide⟩
    cell.type? ≠ some .number ∧ ofJson? cell.toJson = some cell ∧
      cell.type? = some .timestamp := by
  intro cell
  have noNumber : cell.type? ≠ some .number := by decide
  have read : ofJson? cell.toJson = some cell := (ofJson?_toJson cell).1 noNumber
  exact ⟨noNumber, read, (ofJson?_toJson cell).2 cell read⟩

end VirtualTables.Cell
