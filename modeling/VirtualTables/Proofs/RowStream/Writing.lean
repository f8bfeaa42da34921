import Mathlib.Control.Monad.Basic
import VirtualTables.Proofs.RowStream.Format

/-!
The recorder writes the format.

Under the conditions of `Format` each step of the recorder equals a single `write` of the bytes
that `Format` lists, on every sink; without them it fails. `Writes.andThen` carries this through
sequences of steps, since writing is compatible with putting bytes behind each other.
-/

namespace VirtualTables.RowStream

namespace Recording

theorem run_bind {α β : Type} (first : Recording α) (next : α → Recording β) (sink : Sink) :
    (first >>= next).run sink =
      match (first.run sink).1 with
      | .ok value => (next value).run (first.run sink).2
      | .error fault => (.error fault, (first.run sink).2) := by
  change (ExceptT.bindCont next (first.run sink).1) (first.run sink).2 = _
  cases (first.run sink).1 with
  | error fault => rfl
  | ok value => rfl

theorem run_write_unlimited (bytes written : List UInt8) :
    (write bytes).run ⟨written, none⟩ = (.ok (), ⟨written ++ bytes, none⟩) :=
  rfl

theorem run_write_limited (bytes written : List UInt8) (room : Nat) :
    (write bytes).run ⟨written, some room⟩ =
      (if room < bytes.length then .error .noRoom else .ok (),
        ⟨written ++ bytes.take room, some (room - bytes.length)⟩) := by
  change (if room < bytes.length then (throw .noRoom : Recording Unit) else pure ()).run
    ⟨written ++ bytes.take room, some (room - bytes.length)⟩ = _
  by_cases full : room < bytes.length
  · rw [if_pos full, if_pos full]
    rfl
  · rw [if_neg full, if_neg full]
    rfl

theorem write_nil : write [] = pure () := by
  apply ExceptT.ext
  funext sink
  rcases sink with ⟨written, _ | room⟩
  · rw [run_write_unlimited, List.append_nil]
    rfl
  · have fits : ¬ room < ([] : List UInt8).length := Nat.not_lt_zero room
    rw [run_write_limited, List.take_nil, List.append_nil, if_neg fits]
    rfl

/-- Writing twice is writing once what was written, also where the room ends between. -/
theorem write_append (front back : List UInt8) :
    write (front ++ back) = (do write front; write back) := by
  apply ExceptT.ext
  funext sink
  rw [run_bind]
  rcases sink with ⟨written, _ | room⟩
  · simp only [run_write_unlimited, List.append_assoc]
  · by_cases full : room < front.length
    · have whole : room < (front ++ back).length := by
        rw [List.length_append]
        omega
      have nothing : room - (front ++ back).length = room - front.length := by
        rw [List.length_append]
        omega
      simp only [run_write_limited, if_pos full, if_pos whole, nothing,
        List.take_append_of_le_length (Nat.le_of_lt full)]
    · have all : front.take room = front := List.take_of_length_le (by omega)
      have same : room < front.length + back.length ↔ room - front.length < back.length := by
        omega
      simp only [run_write_limited, if_neg full, List.take_append, all, List.append_assoc,
        List.length_append, same, Nat.sub_sub]

/-- A step that writes some bytes under a condition and fails without it. -/
structure Writes (action : Recording Unit) (condition : Prop) (bytes : List UInt8) : Prop where
  eq_write : condition → action = write bytes
  of_ok : ∀ {sink after : Sink}, action.run sink = (.ok (), after) → condition

namespace Writes

variable {action next : Recording Unit} {condition other : Prop} {bytes more : List UInt8}

theorem pure : Writes (pure ()) True [] :=
  ⟨fun _ => write_nil.symm, fun _ => trivial⟩

theorem write (bytes : List UInt8) : Writes (write bytes) True bytes :=
  ⟨fun _ => rfl, fun _ => trivial⟩

theorem andThen (first : Writes action condition bytes) (second : Writes next other more) :
    Writes (do action; next) (condition ∧ other) (bytes ++ more) := by
  constructor
  · rintro ⟨holds, holdsNext⟩
    rw [first.eq_write holds, second.eq_write holdsNext, write_append]
  · intro sink after ran
    rw [run_bind] at ran
    cases ranFirst : action.run sink with
    | mk result between =>
        rw [ranFirst] at ran
        cases result with
        | error fault => cases ran
        | ok value => exact ⟨first.of_ok ranFirst, second.of_ok ran⟩

theorem guarded {refused : Prop} [Decidable refused] {fault : WriteFault}
    {after : PUnit → Recording Unit} (writes : Writes action condition bytes) :
    Writes (if refused then do after (← throw fault) else action) (¬ refused ∧ condition)
      bytes := by
  by_cases refuses : refused
  · rw [if_pos refuses]
    refine ⟨fun holds => absurd refuses holds.1, fun ran => ?_⟩
    cases ran
  · rw [if_neg refuses]
    exact ⟨fun holds => writes.eq_write holds.2, fun ran => ⟨refuses, writes.of_ok ran⟩⟩

theorem congr (writes : Writes action condition bytes) (same : other ↔ condition) :
    Writes action other bytes :=
  ⟨fun holds => writes.eq_write (same.mp holds), fun ran => same.mpr (writes.of_ok ran)⟩

theorem forM {α : Type} {step : α → Recording Unit} {fits : α → Prop} {written : α → List UInt8}
    (writes : ∀ item, Writes (step item) (fits item) (written item)) (items : List α) :
    Writes (items.forM step) (∀ item ∈ items, fits item) (items.flatMap written) := by
  induction items with
  | nil => exact Writes.pure.congr (by simp)
  | cons item items inductionHypothesis =>
      rw [List.flatMap_cons]
      exact ((writes item).andThen inductionHypothesis).congr List.forall_mem_cons

theorem run_unlimited_iff (writes : Writes action condition bytes) {after : Sink} :
    action.run .unlimited = (.ok (), after) ↔ condition ∧ after = ⟨bytes, none⟩ := by
  constructor
  · intro ran
    have holds := writes.of_ok ran
    rw [writes.eq_write holds] at ran
    cases ran
    exact ⟨holds, rfl⟩
  · rintro ⟨holds, rfl⟩
    rw [writes.eq_write holds]
    rfl

end Writes

open Format

theorem Writes.shortText (text : String) :
    Writes (shortText text) (IsShort text) (Format.shortText text) :=
  ((Writes.write _).andThen (.write _)).guarded.congr (by simp [IsShort, and_comm])

theorem Writes.longBytes (bytes : List UInt8) :
    Writes (longBytes bytes) (IsCountable bytes) (Format.longBytes bytes) :=
  ((Writes.write _).andThen (.write _)).guarded.congr (by simp [IsCountable, and_comm])

theorem Writes.longText (text : String) :
    Writes (longText text) (IsCountable (Text.Utf8.encode text.toList)) (Format.longText text) :=
  .longBytes _

theorem Writes.word64 (value : UInt64) : Writes (word64 value) True (Format.word64 value) :=
  .write _

theorem Writes.flagged {action : Recording Unit} {condition : Prop} {bytes : List UInt8}
    (writes : Writes action condition bytes) :
    Writes (do Recording.write [0]; action) condition (0 :: bytes) :=
  ((Writes.write [0]).andThen writes).congr (by simp)

theorem Writes.cell (cell : Cell) :
    Writes (Recording.cell cell) (CellFits cell) (Format.cell cell) := by
  cases cell with
  | null => exact .write _
  | number value => exact (Writes.word64 _).flagged
  | string value => exact (Writes.longText _).flagged
  | date value => exact (Writes.word64 _).flagged
  | boolean value => exact (Writes.write _).flagged
  | integer value => exact (Writes.word64 _).flagged
  | bigNumber value => exact (Writes.longText _).flagged
  | binary value => exact (Writes.longBytes _).flagged
  | timestamp value => exact (Writes.word64 _).flagged

theorem Writes.banner (banner : Banner) :
    Writes (Recording.banner banner) (BannerFits banner) (Format.banner banner) := by
  have writes := (Writes.shortText banner.serviceName).andThen
    ((Writes.shortText banner.serviceTransformation).andThen
      ((Writes.shortText banner.serviceObjectId).andThen
        ((Writes.shortText banner.sqlTransformation).andThen
          (Writes.shortText banner.sqlObjectId))))
  simp only [← List.append_assoc] at writes
  refine writes.congr ⟨?_, ?_⟩
  · rintro ⟨name, transformation, objectId, sqlTransformation, sqlObjectId⟩
    exact ⟨name, transformation, objectId, sqlTransformation, sqlObjectId⟩
  · rintro ⟨name, transformation, objectId, sqlTransformation, sqlObjectId⟩
    exact ⟨name, transformation, objectId, sqlTransformation, sqlObjectId⟩

theorem Writes.column (column : Column) :
    Writes (Recording.column column) (IsShort column.name) (Format.column column) :=
  ((Writes.write _).andThen (.shortText _)).congr (by simp)

theorem Writes.layout (layout : Layout) :
    Writes (Recording.layout layout) (LayoutFits layout) (Format.layout layout) := by
  have writes : Writes (Recording.layout layout)
      (¬ 0x7FFFFFFF < layout.size ∧ True ∧ ∀ column ∈ layout.columns, IsShort column.name)
      (Format.layout layout) :=
    ((Writes.write _).andThen (.forM Writes.column _)).guarded
  refine writes.congr ⟨?_, ?_⟩
  · rintro ⟨size, names⟩
    exact ⟨Nat.not_lt.mpr size, trivial, names⟩
  · rintro ⟨size, -, names⟩
    exact ⟨Nat.not_lt.mp size, names⟩

theorem check_eq_ok_iff (layout : Layout) (row : Row) :
    check layout row = .ok () ↔ layout.accepts row = true := by
  unfold Layout.accepts check
  by_cases arity : row.cells.length = layout.size
  · rw [if_neg (not_not_intro arity), beq_iff_eq.mpr arity, Bool.true_and]
    dsimp only
    split
    · next column cell found =>
        have refused : column.type.fits cell = false := by
          simpa using List.find?_some found
        constructor
        · intro passed
          cases passed
        · intro fits
          have fitsHere := List.all_eq_true.mp fits _ (List.mem_of_find?_eq_some found)
          rw [refused] at fitsHere
          cases fitsHere
    · next found =>
        rw [List.find?_eq_none] at found
        refine ⟨fun _ => ?_, fun _ => rfl⟩
        simpa using found
  · rw [if_pos arity, beq_eq_false_iff_ne.mpr arity, Bool.false_and]
    constructor
    · intro passed
      cases passed
    · intro accepted
      cases accepted

theorem Writes.row (layout : Layout) (row : Row) :
    Writes (Recording.row layout row) (RowFits layout row) (Format.record row) := by
  have fits_iff : RowFits layout row ↔
      layout.accepts row = true ∧ True ∧ ∀ cell ∈ row.cells, CellFits cell := by
    constructor
    · rintro ⟨accepted, cells⟩
      exact ⟨accepted, trivial, cells⟩
    · rintro ⟨accepted, -, cells⟩
      exact ⟨accepted, cells⟩
  refine .congr ?_ fits_iff
  unfold Recording.row
  rw [← check_eq_ok_iff]
  cases check layout row with
  | error fault =>
      refine ⟨fun holds => ?_, fun ran => ?_⟩
      · cases holds.1
      · cases ran
  | ok value =>
      have writes := (Writes.write [rowMarker]).andThen (.forM Writes.cell row.cells)
      exact ⟨fun holds => writes.eq_write holds.2, fun ran => ⟨rfl, writes.of_ok ran⟩⟩

theorem Writes.stream (banner : Banner) (layout : Layout) (rows : List Row) :
    Writes
      (do
        Recording.banner banner
        Recording.layout layout
        rows.forM (Recording.row layout)
        Recording.finish)
      (Writable banner layout rows) (Format.stream banner layout rows) := by
  have writes := (Writes.banner banner).andThen
    ((Writes.layout layout).andThen
      ((Writes.forM (Writes.row layout) rows).andThen (.write [endMarker])))
  rw [← List.append_assoc] at writes
  refine writes.congr ⟨?_, ?_⟩
  · rintro ⟨bannerFits, layoutFits, rowsFit⟩
    exact ⟨bannerFits, layoutFits, rowsFit, trivial⟩
  · rintro ⟨bannerFits, layoutFits, rowsFit, -⟩
    exact ⟨bannerFits, layoutFits, rowsFit⟩

end Recording

/-- The encoder hands out the written form of what has one, and refuses everything else. -/
theorem encode_eq_ok_iff {banner : Banner} {layout : Layout} {rows : List Row}
    {bytes : List UInt8} :
    encode banner layout rows = .ok bytes ↔
      Format.Writable banner layout rows ∧ bytes = Format.stream banner layout rows := by
  have writes := Recording.Writes.stream banner layout rows
  constructor
  · intro encoded
    simp only [encode] at encoded
    split at encoded
    · cases encoded
    · next sink ran =>
        obtain ⟨writable, rfl⟩ := writes.run_unlimited_iff.mp ran
        cases encoded
        exact ⟨writable, rfl⟩
  · rintro ⟨writable, rfl⟩
    have ran := writes.run_unlimited_iff.mpr ⟨writable, rfl⟩
    simp only [encode, ran]

end VirtualTables.RowStream
