import Mathlib.Control.Monad.Basic
import VirtualTables.Proofs.RowStream.Extension
import VirtualTables.Proofs.RowStream.Handing
import VirtualTables.Proofs.RowStream.Taking

/-!
Cursors with a limit on the number of rows.

A limit only ever stops the rows early: up to it the same records are read, and behind the last row
that it lets through nothing is looked at. The rows of an uncapped drain are therefore cut at the
limit, and what ends that drain shows only if it is met before.
-/

namespace VirtualTables

open RowStream

namespace RowStream.Reader

theorem Composed.takes_reads {α : Type} {reader : Reader α} (composed : Composed reader) :
    Takes reader fun value bytes => Reads reader bytes value := by
  induction composed with
  | pure value => exact .pure (.pure value)
  | throw => exact .throw
  | fixed item count =>
      apply (Takes.take item count _).mono
      rintro value bytes ⟨rfl, size⟩
      exact .take item _ size
  | announced item count =>
      apply (Takes.take item count _).mono
      rintro value bytes ⟨rfl, size⟩
      exact .take item _ size
  | bind _ _ takes takesNext =>
      apply takes.bind
      intro value bytes reads
      apply (takesNext value).mono
      intro result more readsNext
      exact reads.bind readsNext

theorem record_nil (layout : Layout) :
    record layout ⟨[], .ends⟩ = .error (.truncated "row marker") :=
  rfl

end RowStream.Reader

namespace Cursor

def capped (cursor : Cursor) (limit : Nat) : Cursor :=
  { cursor with maxRows := limit }

def reading (cursor : Cursor) (source : ByteSource) : Cursor :=
  { cursor with source? := some source }

theorem start_eq_capped (head : Banner × Layout) (limit : Nat) (source : ByteSource) :
    start head limit source = (start head 0 source).capped limit :=
  rfl

variable {cursor after : Cursor} {rows : List Row} {limit : Nat} {fault? : Option StreamFault}
  {source : ByteSource}

theorem capped_below (positive : cursor.rowsRead < limit) :
    (cursor.capped limit).atLimit = false :=
  atLimit_eq_false_iff.mpr fun _ => positive

theorem Step.capped_row {row : Row} (step : Step cursor (.ok (some row), after))
    (below : cursor.rowsRead < limit) :
    Step (cursor.capped limit) (.ok (some row), after.capped limit) := by
  cases step with
  | row _ opened ran => exact .row (capped_below below) opened ran

theorem Step.capped_ending (step : Step cursor (ending fault?, after))
    (uncapped : cursor.maxRows = 0) (below : cursor.rowsRead < limit) :
    Step (cursor.capped limit) (ending fault?, after.capped limit) := by
  have unlimited := atLimit_of_uncapped uncapped
  cases fault? with
  | some fault =>
      cases step with
      | failed _ opened ran => exact .failed (capped_below below) opened ran
  | none =>
      cases step with
      | limited limited =>
          rw [unlimited] at limited
          cases limited
      | closed _ closed => exact .closed (capped_below below) closed
      | ended _ opened ran => exact .ended (capped_below below) opened ran

theorem HandsOut.capped (handsOut : HandsOut cursor rows after)
    (within : cursor.rowsRead + rows.length ≤ limit) :
    HandsOut (cursor.capped limit) rows (after.capped limit) := by
  induction handsOut with
  | nothing => exact .nothing
  | @row cursor _ _ _ _ step _ inductionHypothesis =>
      rw [List.length_cons] at within
      have below : cursor.rowsRead < limit := by omega
      have capped := step.capped_row below
      cases step
      refine .row capped (inductionHypothesis ?_)
      dsimp only
      omega

theorem drain_of_full (positive : 0 < limit) (full : cursor.rowsRead = limit) :
    (cursor.capped limit).drain.1 = ([], none) := by
  have limited : (cursor.capped limit).atLimit = true := by
    simp [atLimit, capped, positive, full]
  rw [drain_of_end (.limited limited)]

/-- The rows that are handed out rest on the bytes of their records alone. -/
theorem HandsOut.whatever_follows (handsOut : HandsOut cursor rows after)
    (opened : cursor.source? = some source) :
    ∃ bytes behind, source.bytes = bytes ++ behind ∧
      ∀ (other : List UInt8) (otherEnding : ByteSource.Ending),
        HandsOut (cursor.reading ⟨bytes ++ other, otherEnding⟩) rows
          (after.reading ⟨other, otherEnding⟩) := by
  induction handsOut generalizing source with
  | nothing => exact ⟨[], source.bytes, rfl, fun _ _ => .nothing⟩
  | @row cursor _ _ row rows step _ inductionHypothesis =>
      cases step with
      | row below openedToo ran =>
          obtain rfl := Option.some.inj (opened.symm.trans openedToo)
          rcases inductionHypothesis rfl with ⟨more, behind, split, handsOut⟩
          obtain ⟨bytes, rfl, reads⟩ := (Reader.Composed.record cursor.layout).takes_reads ran
          refine ⟨bytes ++ more, behind, by rw [split, List.append_assoc], ?_⟩
          intro other otherEnding
          rw [List.append_assoc]
          exact .row (.row below rfl (reads (more ++ other) otherEnding))
            (handsOut other otherEnding)

theorem drain_of_behind (uncapped : cursor.maxRows = 0)
    (behind : cursor.rowsRead + cursor.drain.1.1.length < limit) :
    (cursor.capped limit).drain.1 = cursor.drain.1 := by
  rcases cursor.handsOut_drain with ⟨last, handsOut, ended⟩
  have below : last.rowsRead < limit := handsOut.rowsRead_eq ▸ behind
  have endedToo := ended.capped_ending (handsOut.maxRows_eq.trans uncapped) below
  have handsOutToo := handsOut.capped (Nat.le_of_lt behind)
  rw [handsOutToo.drain_eq, drain_of_ending endedToo, List.append_nil]

/-- A limit that is met cuts the rows. They end there whatever follows, also where nothing does,
which without the limit is at fault. -/
theorem drain_of_within (cursor : Cursor) (uncapped : cursor.maxRows = 0)
    (fresh : cursor.rowsRead = 0) (opened : cursor.source? = some source) (positive : 0 < limit)
    (within : limit ≤ cursor.drain.1.1.length) :
    ∃ bytes behind, source.bytes = bytes ++ behind ∧
      (cursor.reading (.ofBytes bytes)).drain.1 =
        (cursor.drain.1.1.take limit, some (.truncated "row marker")) ∧
      ∀ (other : List UInt8) (otherEnding : ByteSource.Ending),
        ((cursor.reading ⟨bytes ++ other, otherEnding⟩).capped limit).drain.1 =
          (cursor.drain.1.1.take limit, none) := by
  rcases cursor.handsOut_drain with ⟨last, handsOut, -⟩
  generalize cursor.drain.1.1 = rows at handsOut within ⊢
  rw [← List.take_append_drop limit rows] at handsOut
  obtain ⟨between, front, -⟩ := handsOut.split
  have reached : cursor.rowsRead + (rows.take limit).length = limit := by
    rw [fresh, Nat.zero_add, List.length_take_of_le within]
  rcases front.whatever_follows opened with ⟨bytes, behind, split, follows⟩
  refine ⟨bytes, behind, split, ?_, ?_⟩
  -- On the bytes of their records alone the rows are followed by a marker that is missing.
  · have handsOutAlone := follows [] .ends
    rw [List.append_nil] at handsOutAlone
    have unlimited := atLimit_of_uncapped (handsOutAlone.maxRows_eq.trans uncapped)
    have missed := Step.failed unlimited rfl (Reader.record_nil between.layout)
    rw [ByteSource.ofBytes, handsOutAlone.drain_eq, drain_of_error missed, List.append_nil]
  -- With the limit the last of them fills the count before another marker is asked for.
  · intro other otherEnding
    have handsOutOther := follows other otherEnding
    have handsOutCapped := handsOutOther.capped (Nat.le_of_eq reached)
    have full := handsOutOther.rowsRead_eq.trans reached
    rw [handsOutCapped.drain_eq, drain_of_full positive full, List.append_nil]

end Cursor

namespace Transcript

variable {source : ByteSource} {limit : Nat}

theorem ofSource_behind (behind : (ofSource source 0).rows.length < limit) :
    ofSource source limit = ofSource source 0 := by
  cases ran : Reader.head source with
  | error fault => rw [ofSource_of_error limit ran, ofSource_of_error 0 ran]
  | ok pair =>
      obtain ⟨head, rest⟩ := pair
      rw [ofSource_of_ok 0 ran] at behind ⊢
      have missed : (Cursor.start head 0 rest).drain.1.1.length < limit := behind
      rw [ofSource_of_ok limit ran, Cursor.start_eq_capped,
        Cursor.drain_of_behind rfl ((Nat.zero_add _).symm ▸ missed)]

theorem ofSource_within (positive : 0 < limit)
    (within : limit ≤ (ofSource source 0).rows.length) :
    ∃ front behind, source.bytes = front ++ behind ∧
      ofSource (.ofBytes front) 0 = ⟨(ofSource source 0).opening,
        (ofSource source 0).rows.take limit, some (.truncated "row marker")⟩ ∧
      ∀ (other : List UInt8) (ending : ByteSource.Ending),
        ofSource ⟨front ++ other, ending⟩ limit =
          ⟨(ofSource source 0).opening, (ofSource source 0).rows.take limit, none⟩ := by
  cases ran : Reader.head source with
  | error fault =>
      rw [ofSource_of_error 0 ran] at within
      exact absurd within (Nat.not_le_of_lt positive)
  | ok pair =>
      obtain ⟨head, rest⟩ := pair
      rw [ofSource_of_ok 0 ran] at within ⊢
      obtain ⟨headBytes, whole, reads⟩ := Reader.Composed.head.takes_reads ran
      rcases (Cursor.start head 0 rest).drain_of_within rfl rfl rfl positive within with
        ⟨bytes, behind, split, alone, follows⟩
      refine ⟨headBytes ++ bytes, behind, ?_, ?_, ?_⟩
      · rw [whole, split, List.append_assoc]
      · exact (ofSource_of_ok 0 (reads bytes .ends)).trans (congrArg (opened head) alone)
      · intro other ending
        rw [List.append_assoc, ofSource_of_ok limit (reads (bytes ++ other) ending)]
        exact congrArg (opened head) (follows other ending)

/-- A limit cuts the rows. If there are enough of them, those let through end without a failure and
whatever stands behind their records; otherwise nothing changes. -/
theorem ofSource_capped (source : ByteSource) (positive : 0 < limit) :
    let whole := ofSource source 0
    let capped := ofSource source limit
    capped.opening = whole.opening ∧ capped.rows = whole.rows.take limit ∧
      (limit ≤ whole.rows.length → capped.fault? = none ∧
        ∃ front behind, source.bytes = front ++ behind ∧
          ofSource (.ofBytes front) 0 =
            ⟨whole.opening, whole.rows.take limit, some (.truncated "row marker")⟩ ∧
          ∀ (other : List UInt8) (ending : ByteSource.Ending),
            ofSource ⟨front ++ other, ending⟩ limit = capped) ∧
      (whole.rows.length < limit → capped.fault? = whole.fault?) := by
  intro whole capped
  rcases Nat.lt_or_ge whole.rows.length limit with behind | within
  · have same : capped = whole := ofSource_behind behind
    rw [same]
    refine ⟨rfl, (List.take_of_length_le (Nat.le_of_lt behind)).symm, ?_, fun _ => rfl⟩
    intro within
    exact absurd within (Nat.not_le_of_lt behind)
  · rcases ofSource_within positive within with ⟨front, behind, split, alone, follows⟩
    have cut : capped = ⟨whole.opening, whole.rows.take limit, none⟩ := by
      have here := follows behind source.ending
      rw [← split] at here
      exact here
    rw [cut]
    refine ⟨rfl, rfl, fun _ => ⟨rfl, front, behind, split, alone, follows⟩, ?_⟩
    intro missed
    exact absurd within (Nat.not_le_of_lt missed)

/-- The first two of three rows of no columns are let through, and the source that fails behind the
third is not asked. -/
theorem ofSource_capped_without_columns :
    let source : ByteSource := ⟨List.replicate 14 0 ++ [1, 1, 1], .breaks⟩
    0 < 2 ∧ (ofSource source 0).rows.length = 3 ∧
      (ofSource source 0).fault? = some (.broken "row marker") ∧
      (ofSource source 2).rows = [⟨[]⟩, ⟨[]⟩] ∧ (ofSource source 2).fault? = none ∧
      (ofSource source 4).fault? = some (.broken "row marker") := by
  intro source
  have whole : ofSource source 0 =
      ⟨some (⟨"", "", "", "", ""⟩, ⟨[]⟩), [⟨[]⟩, ⟨[]⟩, ⟨[]⟩], some (.broken "row marker")⟩ := by
    decide +kernel
  obtain ⟨_, rows, enough, _⟩ := ofSource_capped source (by decide : 0 < 2)
  obtain ⟨_, _, _, missed⟩ := ofSource_capped source (by decide : 0 < 4)
  rw [whole] at rows enough missed ⊢
  exact ⟨by decide, rfl, rfl, rows, (enough (by decide)).1, missed (by decide)⟩

end Transcript

end VirtualTables
