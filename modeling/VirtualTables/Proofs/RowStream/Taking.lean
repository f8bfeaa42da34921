import VirtualTables.Proofs.RowStream.Reading
import VirtualTables.Proofs.RowStream.Tolerance
import VirtualTables.Proofs.RowStream.Transcript

/-!
What readers accept is written form.

`Takes reader Form` says of every source, with whatever bytes, that the bytes a reader takes from it
and the value it gives are in a relation. For all items but cells the relation is that the bytes are
the written form of the value; for cells and records they stand for it place by place.
-/

namespace VirtualTables.RowStream

theorem toInt_of_lt {number : Nat} (small : number < 0x100000000)
    (nonnegative : 0 ≤ (UInt32.ofNat number).toInt32.toInt) :
    (UInt32.ofNat number).toInt32.toInt = number ∧ number ≤ 0x7FFFFFFF := by
  have value : (UInt32.ofNat number).toInt32.toInt = (number : Int).bmod 0x100000000 :=
    Int32.toInt_ofNat'
  rw [value, Int.bmod_def] at nonnegative
  rw [value, Int.bmod_def]
  omega

theorem bne_zero_toNat (byte : UInt8) : (byte.toNat != 0) = (byte != 0) := by
  rw [Bool.eq_iff_iff, bne_iff_ne, bne_iff_ne, ne_eq, ne_eq, ← UInt8.toNat_inj]
  exact Iff.rfl

namespace Reader

/-- The bytes that a reader takes and the value that it gives are in a relation. -/
def Takes {α : Type} (reader : Reader α) (Form : α → List UInt8 → Prop) : Prop :=
  ∀ ⦃source value rest⦄, reader source = .ok (value, rest) →
    ∃ bytes, source = ⟨bytes ++ rest.bytes, rest.ending⟩ ∧ Form value bytes

namespace Takes

variable {α β : Type} {reader : Reader α} {next : α → Reader β}
  {Form Other : α → List UInt8 → Prop} {Whole : β → List UInt8 → Prop}

theorem mono (takes : Takes reader Form) (weaker : ∀ value bytes, Form value bytes →
    Other value bytes) : Takes reader Other := by
  intro source value rest ran
  obtain ⟨bytes, split, form⟩ := takes ran
  exact ⟨bytes, split, weaker value bytes form⟩

theorem pure {value : α} (form : Form value []) : Takes (pure value) Form := by
  intro source result rest ran
  cases ran
  exact ⟨[], rfl, form⟩

theorem throw {fault : StreamFault} : Takes (throw fault) Form := by
  intro source value rest ran
  cases ran

theorem throw_bind {fault : StreamFault} : Takes (MonadExcept.throw fault >>= next) Whole := by
  intro source value rest ran
  cases ran

theorem bind (takes : Takes reader Form) (takesNext : ∀ value bytes, Form value bytes →
    Takes (next value) fun result more => Whole result (bytes ++ more)) :
    Takes (reader >>= next) Whole := by
  intro source result rest ran
  rcases run_bind ran with ⟨value, between, ranFirst, ranNext⟩
  rcases takes ranFirst with ⟨bytes, rfl, form⟩
  rcases takesNext value bytes form ranNext with ⟨more, rfl, whole⟩
  exact ⟨bytes ++ more, by rw [List.append_assoc], whole⟩

theorem map {convert : α → β}
    (takes : Takes reader fun value bytes => Whole (convert value) bytes) :
    Takes (do return convert (← reader)) Whole := by
  refine takes.bind fun value bytes whole => .pure ?_
  rw [List.append_nil]
  exact whole

theorem take (item : String) (count : Nat) (short : Nat → StreamFault) :
    Takes (take item count short) fun value bytes => value = bytes ∧ bytes.length = count := by
  intro source value rest ran
  unfold Reader.take at ran
  split at ran
  · next enough =>
      cases ran
      exact ⟨source.bytes.take count, by rw [List.take_append_drop], rfl, enough⟩
  · cases ran

theorem byte (item : String) :
    Takes (byte item) fun value bytes => ∃ byte : UInt8, value = byte.toNat ∧ bytes = [byte] := by
  apply map
  apply (take item 1 _).mono
  rintro value bytes ⟨rfl, size⟩
  obtain ⟨byte, rfl⟩ := List.length_eq_one_iff.mp size
  exact ⟨byte, Nat.zero_add _, rfl⟩

theorem int32 (item : String) :
    Takes (int32 item) fun value bytes => 0 ≤ value →
      ∃ number : Nat, value = number ∧ number ≤ 0x7FFFFFFF ∧ bytes = bytesOfNat 4 number := by
  apply map
  apply (take item 4 _).mono
  rintro value bytes ⟨rfl, size⟩ nonnegative
  have bound : natOfBytes value < Nat.pow 256 4 := size ▸ natOfBytes_lt value
  obtain ⟨same, small⟩ := toInt_of_lt bound nonnegative
  exact ⟨natOfBytes value, same, small, by rw [← size, bytesOfNat_natOfBytes]⟩

theorem word64 (item : String) :
    Takes (word64 item) fun value bytes => bytes = Format.word64 value := by
  apply map
  apply (take item 8 _).mono
  rintro value bytes ⟨rfl, size⟩
  have bound : natOfBytes value < Nat.pow 256 8 := size ▸ natOfBytes_lt value
  have number : (UInt64.ofNat (natOfBytes value)).toNat = natOfBytes value :=
    UInt64.toNat_ofNat_of_lt bound
  rw [Format.word64, number, ← size, bytesOfNat_natOfBytes]

theorem text (item : String) (given : List UInt8) :
    Takes (text item given) fun value bytes =>
      bytes = [] ∧ Text.Utf8.encode value.toList = given := by
  unfold Reader.text
  split
  · next characters decoded =>
      refine .pure ⟨rfl, ?_⟩
      rw [String.toList_ofList]
      exact Text.Utf8.encode_of_decode decoded
  · exact .throw

theorem announced (item : String) (count : Nat) :
    Takes (announced item count) fun value bytes => value = bytes ∧ bytes.length = count :=
  take item count _

theorem shortText (item : String) :
    Takes (shortText item) fun value bytes =>
      Format.IsShort value ∧ bytes = Format.shortText value := by
  apply (take item 2 _).bind
  rintro size sizeBytes ⟨rfl, two⟩
  apply (announced item _).bind
  rintro given givenBytes ⟨rfl, length⟩
  apply (text item given).mono
  rintro value bytes ⟨rfl, rfl⟩
  have bound : natOfBytes size < Nat.pow 256 2 := two ▸ natOfBytes_lt size
  rw [Format.IsShort, Format.shortText, length, List.append_nil, ← two, bytesOfNat_natOfBytes]
  exact ⟨Nat.le_of_lt_succ bound, rfl⟩

theorem longBytes (item : String) :
    Takes (longBytes item) fun value bytes =>
      Format.IsCountable value ∧ bytes = Format.longBytes value := by
  apply (int32 item).bind
  intro length sizeBytes small
  by_cases negative : length < 0
  · simp only [if_pos negative]
    exact .throw_bind
  · simp only [if_neg negative]
    obtain ⟨number, rfl, countable, rfl⟩ := small (Int.not_lt.mp negative)
    apply (announced item _).mono
    rintro value bytes ⟨rfl, size⟩
    obtain rfl : value.length = number := size
    exact ⟨countable, rfl⟩

theorem longText (item : String) :
    Takes (longText item) fun value bytes =>
      Format.IsCountable (Text.Utf8.encode value.toList) ∧ bytes = Format.longText value := by
  apply (longBytes item).bind
  rintro given givenBytes ⟨countable, rfl⟩
  apply (text item given).mono
  rintro value bytes ⟨rfl, rfl⟩
  exact ⟨countable, List.append_nil _⟩

theorem instant (item : String) :
    Takes (instant item) fun value bytes =>
      bytes = Format.word64 (Int64.ofInt value.millis).toUInt64 := by
  apply (word64 item).bind
  rintro word bytes rfl
  cases found : Instant.ofMillis? word.toInt64.toInt with
  | none => exact .throw
  | some value =>
      refine .pure ?_
      rw [Instant.millis_of_ofMillis? found, Int64.ofInt_toInt, UInt64.toUInt64_toInt64,
        List.append_nil]

theorem value (item : String) (type : CellType) :
    Takes (value item type) fun cell bytes => cell.type? = some type ∧ Format.CellFits cell ∧
      Tolerated (Format.valuePlaces cell) bytes (Format.value cell) := by
  cases type with
  | number =>
      apply map
      apply (word64 item).mono
      rintro word bytes rfl
      exact ⟨rfl, trivial, .exact _⟩
  | string =>
      apply map
      apply (longText item).mono
      rintro text bytes ⟨countable, rfl⟩
      exact ⟨rfl, countable, .exact _⟩
  | date =>
      apply map
      apply (instant item).mono
      rintro instant bytes rfl
      exact ⟨rfl, trivial, .exact _⟩
  | boolean =>
      apply map
      apply (byte item).mono
      rintro number bytes ⟨byte, rfl, rfl⟩
      refine ⟨rfl, trivial, ?_⟩
      rw [bne_zero_toNat]
      exact .cons rfl .nil
  | integer =>
      apply map
      apply (word64 item).mono
      rintro word bytes rfl
      refine ⟨rfl, trivial, ?_⟩
      have same : Format.value (.integer word.toInt64) = Format.word64 word := by
        rw [Format.value, UInt64.toUInt64_toInt64]
      rw [← same]
      exact .exact _
  | bigNumber =>
      apply map
      apply (longText item).mono
      rintro text bytes ⟨countable, rfl⟩
      exact ⟨rfl, countable, .exact _⟩
  | binary =>
      apply map
      apply (longBytes item).mono
      rintro given bytes ⟨countable, rfl⟩
      exact ⟨rfl, countable, .exact _⟩
  | timestamp =>
      apply map
      apply (instant item).mono
      rintro instant bytes rfl
      exact ⟨rfl, trivial, .exact _⟩

theorem cell (column : Column) :
    Takes (cell column) fun cell bytes => column.type.fits cell = true ∧ Format.CellFits cell ∧
      Tolerated (Format.cellPlaces cell) bytes (Format.cell cell) := by
  apply (byte column.name).bind
  rintro flag bytes ⟨byte, rfl, rfl⟩
  rw [bne_zero_toNat]
  by_cases null : (byte != 0) = true
  · rw [if_pos null]
    exact .pure ⟨rfl, trivial, .cons ⟨null, rfl⟩ .nil⟩
  · rw [if_neg null]
    apply (value column.name column.type).mono
    rintro cell bytes ⟨typed, fits, tolerated⟩
    refine ⟨CellType.fits_iff.mpr (.inr typed), fits, .cons ?_ tolerated⟩
    rw [Cell.isNull_of_type? typed]
    exact ⟨Bool.not_eq_true _ ▸ null, rfl⟩

theorem cells (columns : List Column) (before : List Cell) :
    Takes (cells columns before) fun cells bytes => ∃ others, cells = before.reverse ++ others ∧
      others.length = columns.length ∧
      (∀ pair ∈ columns.zip others, pair.1.type.fits pair.2 = true) ∧
      (∀ cell ∈ others, Format.CellFits cell) ∧
      Tolerated (others.flatMap Format.cellPlaces) bytes (others.flatMap Format.cell) := by
  induction columns generalizing before with
  | nil =>
      refine .pure ⟨[], (List.append_nil _).symm, rfl, ?_, ?_, .nil⟩
      · intro pair inside
        cases inside
      · intro cell inside
        cases inside
  | cons column columns inductionHypothesis =>
      apply (cell column).bind
      rintro cell bytes ⟨typed, fits, tolerated⟩
      apply (inductionHypothesis (cell :: before)).mono
      rintro cells more ⟨others, rfl, arity, typedOthers, fitOthers, toleratedOthers⟩
      refine ⟨cell :: others, ?_, congrArg Nat.succ arity, ?_, ?_, tolerated.append toleratedOthers⟩
      · rw [List.reverse_cons, List.append_assoc]
        rfl
      · rw [List.zip_cons_cons, List.forall_mem_cons]
        exact ⟨typed, typedOthers⟩
      · rw [List.forall_mem_cons]
        exact ⟨fits, fitOthers⟩

/-- A record that gives a row stands for the written one; only the end marker ends the rows. -/
theorem record (layout : Layout) :
    Takes (record layout) fun row? bytes =>
      match row? with
      | some row => Format.RowFits layout row ∧
          Tolerated (Format.recordPlaces row) bytes (Format.record row)
      | none => bytes = [endMarker] := by
  apply (byte "row marker").bind
  rintro marker bytes ⟨byte, rfl, rfl⟩
  unfold Reader.marked
  split
  · next row =>
      obtain rfl : byte = rowMarker := UInt8.toNat_inj.mp row
      apply map
      apply (cells layout.columns []).mono
      rintro cells bytes ⟨others, rfl, arity, typed, fits, tolerated⟩
      refine ⟨⟨?_, fits⟩, .cons rfl tolerated⟩
      simp only [Layout.accepts, Bool.and_eq_true, beq_iff_eq, List.all_eq_true]
      exact ⟨arity, typed⟩
  · split
    · next ends =>
        obtain rfl : byte = endMarker := UInt8.toNat_inj.mp ends
        exact .pure rfl
    · exact .throw

theorem column :
    Takes column fun column bytes =>
      Format.IsShort column.name ∧ bytes = Format.column column := by
  apply (int32 "field type").bind
  intro number bytes small
  cases found : CellType.ofWireId? number with
  | none => exact .throw
  | some type =>
      have wireId := CellType.wireId_of_ofWireId? found
      obtain ⟨natural, rfl, _, rfl⟩ := small (wireId ▸ Int.natCast_nonneg _)
      apply map
      apply (shortText "field name").mono
      rintro name bytes ⟨short, rfl⟩
      refine ⟨short, ?_⟩
      rw [Format.column, Int.ofNat.inj wireId]

theorem columns (count : Nat) (before : List Column) :
    Takes (columns count before) fun columns bytes => ∃ others,
      columns = before.reverse ++ others ∧ others.length = count ∧
      (∀ column ∈ others, Format.IsShort column.name) ∧ bytes = others.flatMap Format.column := by
  induction count generalizing before with
  | zero =>
      refine .pure ⟨[], (List.append_nil _).symm, rfl, ?_, rfl⟩
      intro column inside
      cases inside
  | succ count inductionHypothesis =>
      apply column.bind
      rintro column bytes ⟨short, rfl⟩
      apply (inductionHypothesis (column :: before)).mono
      rintro columns more ⟨others, rfl, size, shortOthers, rfl⟩
      refine ⟨column :: others, ?_, congrArg Nat.succ size, ?_, rfl⟩
      · rw [List.reverse_cons, List.append_assoc]
        rfl
      · rw [List.forall_mem_cons]
        exact ⟨short, shortOthers⟩

theorem layout :
    Takes layout fun layout bytes =>
      Format.LayoutFits layout ∧ bytes = Format.layout layout := by
  apply (int32 "field count").bind
  intro count bytes small
  by_cases negative : count < 0
  · simp only [if_pos negative]
    exact .throw_bind
  · simp only [if_neg negative]
    obtain ⟨number, rfl, countable, rfl⟩ := small (Int.not_lt.mp negative)
    apply map
    apply (columns _ []).mono
    rintro columns bytes ⟨others, rfl, rfl, short, rfl⟩
    exact ⟨⟨countable, short⟩, rfl⟩

theorem banner :
    Takes banner fun banner bytes =>
      Format.BannerFits banner ∧ bytes = Format.banner banner := by
  apply (shortText "service name").bind
  rintro serviceName _ ⟨shortServiceName, rfl⟩
  apply (shortText "service transformation").bind
  rintro serviceTransformation _ ⟨shortServiceTransformation, rfl⟩
  apply (shortText "service object id").bind
  rintro serviceObjectId _ ⟨shortServiceObjectId, rfl⟩
  apply (shortText "sql transformation").bind
  rintro sqlTransformation _ ⟨shortSqlTransformation, rfl⟩
  apply map
  apply (shortText "sql object id").mono
  rintro sqlObjectId _ ⟨shortSqlObjectId, rfl⟩
  refine ⟨⟨shortServiceName, shortServiceTransformation, shortServiceObjectId,
    shortSqlTransformation, shortSqlObjectId⟩, ?_⟩
  simp only [Format.banner, List.append_assoc]

theorem head :
    Takes head fun head bytes => Format.BannerFits head.1 ∧ Format.LayoutFits head.2 ∧
      bytes = Format.head head.1 head.2 := by
  apply banner.bind
  rintro banner bytes ⟨bannerFits, rfl⟩
  apply map
  apply layout.mono
  rintro layout more ⟨layoutFits, rfl⟩
  exact ⟨bannerFits, layoutFits, rfl⟩

end Takes

end Reader

end VirtualTables.RowStream
