import VirtualTables.Proofs.RowStream.Transcript

/-!
Sources that go on behind their end.

A reader decides by the bytes that it has taken. `Extends` says so of one reader, and it holds of
all that are composed of items; `extends_drain` carries it through the rows that a cursor hands out.
Only a reader that misses bytes can be changed by more of them.
-/

namespace VirtualTables

open RowStream

namespace RowStream.Reader

theorem take_of_le {item : String} {count : Nat} {short : Nat → StreamFault} {source : ByteSource}
    (enough : count ≤ source.bytes.length) :
    take item count short source =
      .ok (source.bytes.take count, { source with bytes := source.bytes.drop count }) := by
  unfold take
  rw [if_pos (List.length_take_of_le enough)]

theorem take_of_lt {item : String} {count : Nat} {short : Nat → StreamFault} {source : ByteSource}
    (missing : source.bytes.length < count) :
    take item count short source =
      .error (failure source item (short source.bytes.length)) := by
  unfold take
  have all : source.bytes.take count = source.bytes := List.take_of_length_le (by omega)
  rw [all, if_neg (by omega)]

/-- What a reader makes of bytes that then end holds also if more bytes follow, unless it misses
bytes at the end. -/
structure Extends {α : Type} (reader : Reader α) : Prop where
  of_ok : ∀ {bytes : List UInt8} {value : α} {rest : ByteSource},
    reader (.ofBytes bytes) = .ok (value, rest) →
      ∃ left, rest = .ofBytes left ∧ ∀ (more : List UInt8) (ending : ByteSource.Ending),
        reader ⟨bytes ++ more, ending⟩ = .ok (value, ⟨left ++ more, ending⟩)
  of_error : ∀ {bytes : List UInt8} {fault : StreamFault},
    reader (.ofBytes bytes) = .error fault → fault.isTruncation = false →
      ∀ (more : List UInt8) (ending : ByteSource.Ending),
        reader ⟨bytes ++ more, ending⟩ = .error fault

theorem Extends.take {item : String} {count : Nat} {short : Nat → StreamFault}
    (truncates : ∀ found, (short found).isTruncation = true) :
    Extends (take item count short) := by
  constructor
  · intro bytes value rest ran
    by_cases enough : count ≤ bytes.length
    · rw [take_of_le enough] at ran
      cases ran
      refine ⟨bytes.drop count, rfl, ?_⟩
      intro more ending
      have within : count ≤ (bytes ++ more).length := by
        rw [List.length_append]
        omega
      rw [take_of_le within, List.take_append_of_le_length enough,
        List.drop_append_of_le_length enough]
      rfl
    · rw [take_of_lt (Nat.lt_of_not_le enough)] at ran
      cases ran
  · intro bytes fault ran decided
    by_cases enough : count ≤ bytes.length
    · rw [take_of_le enough] at ran
      cases ran
    · rw [take_of_lt (Nat.lt_of_not_le enough)] at ran
      cases ran
      have missed := truncates bytes.length
      rw [show (short bytes.length).isTruncation = false from decided] at missed
      cases missed

theorem Composed.extends {α : Type} {reader : Reader α} (composed : Composed reader) :
    Extends reader := by
  induction composed with
  | pure value =>
      constructor
      · intro bytes result rest ran
        cases ran
        exact ⟨bytes, rfl, fun _ _ => rfl⟩
      · intro bytes fault ran
        cases ran
  | throw =>
      constructor
      · intro bytes value rest ran
        cases ran
      · intro bytes fault ran _ more ending
        cases ran
        rfl
  | fixed item count => exact .take fun _ => rfl
  | announced item count => exact .take fun _ => rfl
  | @bind _ _ first next _ _ law lawNext =>
      constructor
      · intro bytes result rest ran
        rcases run_bind ran with ⟨value, between, ranFirst, ranNext⟩
        rcases law.of_ok ranFirst with ⟨middle, rfl, moreFirst⟩
        rcases (lawNext value).of_ok ranNext with ⟨left, rfl, moreNext⟩
        refine ⟨left, rfl, ?_⟩
        intro more ending
        rw [bind_of_ok next (moreFirst more ending)]
        exact moreNext more ending
      · intro bytes fault ran decided more ending
        cases ranFirst : first (.ofBytes bytes) with
        | error other =>
            rw [bind_of_error next ranFirst] at ran
            cases ran
            exact bind_of_error next (law.of_error ranFirst decided more ending)
        | ok pair =>
            obtain ⟨value, between⟩ := pair
            obtain ⟨middle, rfl, moreFirst⟩ := law.of_ok ranFirst
            rw [bind_of_ok next ranFirst] at ran
            rw [bind_of_ok next (moreFirst more ending)]
            exact (lawNext value).of_error ran decided more ending

theorem Composed.head : Composed head :=
  .bind .banner fun _ => .bind .layout fun _ => .pure _

end RowStream.Reader

namespace Cursor

def extended (cursor : Cursor) (more : List UInt8) (ending : ByteSource.Ending) : Cursor :=
  { cursor with source? := cursor.source?.map fun source => ⟨source.bytes ++ more, ending⟩ }

def Ends (cursor : Cursor) : Prop :=
  ∀ source, cursor.source? = some source → source.ending = .ends

variable {cursor after : Cursor} {source : ByteSource}

theorem Ends.source_eq (ends : cursor.Ends) (opened : cursor.source? = some source) :
    source = .ofBytes source.bytes := by
  rw [ByteSource.ofBytes, ← ends source opened]

theorem extended_source? (opened : cursor.source? = some source) (more : List UInt8)
    (ending : ByteSource.Ending) :
    (cursor.extended more ending).source? = some ⟨source.bytes ++ more, ending⟩ := by
  simp [extended, opened]

theorem Step.extended_end (step : Step cursor (.ok none, after)) (ends : cursor.Ends)
    (more : List UInt8) (ending : ByteSource.Ending) :
    ∃ other, Step (cursor.extended more ending) (.ok none, other) := by
  cases step with
  | limited atLimit => exact ⟨_, .limited atLimit⟩
  | closed below closed => exact ⟨_, .closed below (by simp [extended, closed])⟩
  | ended below opened ran =>
      rw [ends.source_eq opened] at ran
      obtain ⟨left, rfl, law⟩ := (Reader.Composed.record cursor.layout).extends.of_ok ran
      exact ⟨_, .ended below (extended_source? opened more ending) (law more ending)⟩

theorem Step.extended_error {fault : StreamFault} (step : Step cursor (.error fault, after))
    (ends : cursor.Ends) (decided : fault.isTruncation = false) (more : List UInt8)
    (ending : ByteSource.Ending) :
    ∃ other, Step (cursor.extended more ending) (.error fault, other) := by
  cases step with
  | failed below opened ran =>
      rw [ends.source_eq opened] at ran
      have law := (Reader.Composed.record cursor.layout).extends.of_error ran decided more ending
      exact ⟨_, .failed below (extended_source? opened more ending) law⟩

theorem Step.extended_row {row : Row} (step : Step cursor (.ok (some row), after))
    (ends : cursor.Ends) (more : List UInt8) (ending : ByteSource.Ending) :
    after.Ends ∧
      Step (cursor.extended more ending) (.ok (some row), after.extended more ending) := by
  cases step with
  | row below opened ran =>
      rw [ends.source_eq opened] at ran
      obtain ⟨left, rfl, law⟩ := (Reader.Composed.record cursor.layout).extends.of_ok ran
      refine ⟨?_, .row below (extended_source? opened more ending) (law more ending)⟩
      intro source found
      cases found
      rfl

/-- More bytes behind a source leave the rows that were handed out, and the end as well unless
bytes were missing there. -/
theorem extends_drain (ends : cursor.Ends) (more : List UInt8) (ending : ByteSource.Ending) :
    cursor.drain.1.1 <+: (cursor.extended more ending).drain.1.1 ∧
      ((∀ fault, cursor.drain.1.2 = some fault → fault.isTruncation = false) →
        (cursor.extended more ending).drain.1 = cursor.drain.1) := by
  induction cursor using drain.induct with
  | case1 cursor fault after stepped =>
      have step := step_iff.mpr stepped
      rw [drain_of_error step]
      refine ⟨List.nil_prefix, ?_⟩
      intro decided
      obtain ⟨other, stepMore⟩ := step.extended_error ends (decided fault rfl) more ending
      rw [drain_of_error stepMore]
  | case2 cursor after stepped =>
      have step := step_iff.mpr stepped
      obtain ⟨other, stepMore⟩ := step.extended_end ends more ending
      rw [drain_of_end step, drain_of_end stepMore]
      exact ⟨List.prefix_rfl, fun _ => rfl⟩
  | case3 cursor row after stepped _ _ _ _ inductionHypothesis =>
      have step := step_iff.mpr stepped
      obtain ⟨endsAfter, stepMore⟩ := step.extended_row ends more ending
      rcases inductionHypothesis endsAfter with ⟨rows, finish⟩
      rw [drain_of_row step, drain_of_row stepMore]
      refine ⟨List.cons_prefix_cons.mpr ⟨rfl, rows⟩, ?_⟩
      intro decided
      rw [finish decided]

end Cursor

namespace Transcript

/-- The end is not that bytes are missing. -/
def IsDecided (transcript : Transcript) : Prop :=
  ∀ fault, transcript.fault? = some fault → fault.isTruncation = false

theorem extends_ofSource (bytes more : List UInt8) (ending : ByteSource.Ending) (maxRows : Nat) :
    (ofSource (.ofBytes bytes) maxRows).rows <+: (ofSource ⟨bytes ++ more, ending⟩ maxRows).rows ∧
      ((ofSource (.ofBytes bytes) maxRows).IsDecided →
        ofSource ⟨bytes ++ more, ending⟩ maxRows = ofSource (.ofBytes bytes) maxRows) := by
  cases ran : Reader.head (.ofBytes bytes) with
  | error fault =>
      rw [ofSource_of_error maxRows ran]
      refine ⟨List.nil_prefix, ?_⟩
      intro decided
      exact ofSource_of_error maxRows
        (Reader.Composed.head.extends.of_error ran (decided fault rfl) more ending)
  | ok pair =>
      obtain ⟨head, rest⟩ := pair
      obtain ⟨left, rfl, law⟩ := Reader.Composed.head.extends.of_ok ran
      have ends : (Cursor.start head maxRows (.ofBytes left)).Ends := by
        intro source found
        cases found
        rfl
      obtain ⟨rows, finish⟩ := Cursor.extends_drain ends more ending
      rw [ofSource_of_ok maxRows ran, ofSource_of_ok maxRows (law more ending)]
      exact ⟨rows, fun decided => congrArg (opened head) (finish decided)⟩

end Transcript

end VirtualTables
