import VirtualTables.Proofs.RowStream.Transcript

/-!
Rows that a cursor hands out one after another.

`HandsOut cursor rows after` says that steps from one cursor to another give some rows, and neither
an end nor a failure. Whatever is done with a cursor is such a piece of the way, perhaps with an end
behind it; `handsOut_drain` says so of draining.
-/

namespace VirtualTables

open RowStream

namespace Cursor

/-- Steps from a cursor give some rows, one after another, and lead to another cursor. -/
inductive HandsOut : Cursor → List Row → Cursor → Prop where
  | nothing {cursor} : HandsOut cursor [] cursor
  | row {cursor between after row rows} (step : Step cursor (.ok (some row), between))
      (handsOut : HandsOut between rows after) : HandsOut cursor (row :: rows) after

/-- The outcome of a step behind the last row, which may be a failure. -/
def ending : Option StreamFault → Except StreamFault (Option Row)
  | none => .ok none
  | some fault => .error fault

variable {cursor between after : Cursor} {rows more : List Row} {fault? : Option StreamFault}

/-- A step that gives no row closes the cursor and changes nothing else. -/
theorem Step.closes (step : Step cursor (ending fault?, after)) : after = cursor.close := by
  cases fault? with
  | some fault =>
      cases step with
      | failed => rfl
  | none =>
      cases step with
      | limited => rfl
      | closed _ closed => rw [close, ← closed]
      | ended => rfl

theorem drain_of_ending (step : Step cursor (ending fault?, after)) :
    cursor.drain = (([], fault?), after) := by
  cases fault? with
  | some fault => exact drain_of_error step
  | none => exact drain_of_end step

theorem atLimit_eq_false_iff :
    cursor.atLimit = false ↔ (0 < cursor.maxRows → cursor.rowsRead < cursor.maxRows) := by
  simp [atLimit]

namespace HandsOut

theorem append (handsOut : HandsOut cursor rows between) (others : HandsOut between more after) :
    HandsOut cursor (rows ++ more) after := by
  induction handsOut with
  | nothing => exact others
  | row step _ inductionHypothesis => exact .row step (inductionHypothesis others)

theorem split (handsOut : HandsOut cursor (rows ++ more) after) :
    ∃ between, HandsOut cursor rows between ∧ HandsOut between more after := by
  induction rows generalizing cursor with
  | nil => exact ⟨cursor, .nothing, handsOut⟩
  | cons row rows inductionHypothesis =>
      cases handsOut with
      | row step handsOut =>
          rcases inductionHypothesis handsOut with ⟨between, front, back⟩
          exact ⟨between, .row step front, back⟩

theorem drain_eq (handsOut : HandsOut cursor rows after) :
    cursor.drain = ((rows ++ after.drain.1.1, after.drain.1.2), after.drain.2) := by
  induction handsOut with
  | nothing => rfl
  | row step _ inductionHypothesis =>
      rw [drain_of_row step, inductionHypothesis]
      rfl

theorem maxRows_eq (handsOut : HandsOut cursor rows after) : after.maxRows = cursor.maxRows := by
  induction handsOut with
  | nothing => rfl
  | row step _ inductionHypothesis =>
      cases step
      exact inductionHypothesis

theorem rowsRead_eq (handsOut : HandsOut cursor rows after) :
    after.rowsRead = cursor.rowsRead + rows.length := by
  induction handsOut with
  | nothing => rfl
  | row step _ inductionHypothesis =>
      cases step
      rw [inductionHypothesis, List.length_cons]
      dsimp only
      omega

theorem rowsRead_le (handsOut : HandsOut cursor rows after) (limited : 0 < cursor.maxRows)
    (within : cursor.rowsRead ≤ cursor.maxRows) : after.rowsRead ≤ after.maxRows := by
  induction handsOut with
  | nothing => exact within
  | row step _ inductionHypothesis =>
      cases step with
      | row below => exact inductionHypothesis limited (atLimit_eq_false_iff.mp below limited)

theorem isClosed_eq_false (handsOut : HandsOut cursor rows after)
    (opened : cursor.isClosed = false) : after.isClosed = false := by
  induction handsOut with
  | nothing => exact opened
  | row step _ inductionHypothesis =>
      cases step
      exact inductionHypothesis rfl

theorem remaining_le (handsOut : HandsOut cursor rows after) :
    rows.length + after.remaining ≤ cursor.remaining := by
  induction handsOut with
  | nothing => exact Nat.le_of_eq (Nat.zero_add _)
  | row step _ inductionHypothesis =>
      have shorter := remaining_next (step_iff.mp step)
      rw [List.length_cons]
      omega

end HandsOut

/-- Draining hands out all of its rows, and then a step gives the end or a failure. -/
theorem handsOut_drain (cursor : Cursor) :
    ∃ last, HandsOut cursor cursor.drain.1.1 last ∧
      Step last (ending cursor.drain.1.2, cursor.drain.2) := by
  induction cursor using drain.induct with
  | case1 cursor fault after stepped =>
      have step := step_iff.mpr stepped
      rw [drain_of_error step]
      exact ⟨cursor, .nothing, step⟩
  | case2 cursor after stepped =>
      have step := step_iff.mpr stepped
      rw [drain_of_end step]
      exact ⟨cursor, .nothing, step⟩
  | case3 cursor row after stepped _ _ _ _ inductionHypothesis =>
      have step := step_iff.mpr stepped
      rw [drain_of_row step]
      rcases inductionHypothesis with ⟨last, handsOut, ended⟩
      exact ⟨last, .row step handsOut, ended⟩

end Cursor

end VirtualTables
