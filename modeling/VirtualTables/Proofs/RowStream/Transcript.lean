import VirtualTables.RowStream.Cursor

/-!
What a stream hands out when it is opened and drained, and how each step adds to it.
-/

namespace VirtualTables

namespace RowStream.Reader

def head : Reader (Banner × Layout) := do
  let banner ← banner
  let layout ← layout
  return (banner, layout)

end RowStream.Reader

open RowStream

namespace Cursor

def start (head : Banner × Layout) (maxRows : Nat) (source : ByteSource) : Cursor :=
  ⟨head.1, head.2, maxRows, 0, some source⟩

theorem ofSource_eq (source : ByteSource) (maxRows : Nat) :
    ofSource source maxRows =
      (Reader.head source).map fun pair => start pair.1 maxRows pair.2 := by
  unfold ofSource
  cases ran : Reader.banner source with
  | error fault =>
      unfold Reader.head
      rw [Reader.bind_of_error _ ran]
      rfl
  | ok pair =>
      rcases pair with ⟨banner, between⟩
      unfold Reader.head
      rw [Reader.bind_of_ok _ ran]
      change (Reader.layout between >>= _) = _
      cases ranLayout : Reader.layout between with
      | error fault =>
          rw [Reader.bind_of_error _ ranLayout]
          rfl
      | ok pair =>
          rw [Reader.bind_of_ok _ ranLayout]
          rfl

/-- What a cursor can do next: stop at its limit, stay closed, or take a record, which fails, ends
the rows or gives one. -/
inductive Step (cursor : Cursor) : Except StreamFault (Option Row) × Cursor → Prop where
  | limited : cursor.atLimit = true → Step cursor (.ok none, cursor.close)
  | closed : cursor.atLimit = false → cursor.source? = none → Step cursor (.ok none, cursor)
  | failed {source fault} : cursor.atLimit = false → cursor.source? = some source →
      Reader.record cursor.layout source = .error fault → Step cursor (.error fault, cursor.close)
  | ended {source rest} : cursor.atLimit = false → cursor.source? = some source →
      Reader.record cursor.layout source = .ok (none, rest) → Step cursor (.ok none, cursor.close)
  | row {source row rest} : cursor.atLimit = false → cursor.source? = some source →
      Reader.record cursor.layout source = .ok (some row, rest) →
      Step cursor (.ok (some row),
        { cursor with rowsRead := cursor.rowsRead + 1, source? := some rest })

theorem step_iff {cursor : Cursor} {outcome : Except StreamFault (Option Row) × Cursor} :
    Step cursor outcome ↔ cursor.next = outcome := by
  constructor
  · intro step
    cases step with
    | limited atLimit => simp [next, atLimit]
    | closed below closed => simp [next, below, closed]
    | failed below opened ran => simp [next, below, opened, ran]
    | ended below opened ran => simp [next, below, opened, ran]
    | row below opened ran => simp [next, below, opened, ran]
  · rintro rfl
    unfold next
    split
    · next atLimit => exact .limited atLimit
    · next below =>
        rw [Bool.not_eq_true] at below
        split
        · next closed => exact .closed below closed
        · next opened =>
            split
            · next ran => exact .failed below opened ran
            · next ran => exact .ended below opened ran
            · next ran => exact .row below opened ran

section Drain

variable {cursor after : Cursor}

theorem drain_of_error {fault : StreamFault} (step : Step cursor (.error fault, after)) :
    cursor.drain = (([], some fault), after) := by
  have stepped := step_iff.mp step
  rw [drain]
  split <;> simp_all

theorem drain_of_end (step : Step cursor (.ok none, after)) :
    cursor.drain = (([], none), after) := by
  have stepped := step_iff.mp step
  rw [drain]
  split <;> simp_all

theorem drain_of_row {row : Row} (step : Step cursor (.ok (some row), after)) :
    cursor.drain = ((row :: after.drain.1.1, after.drain.1.2), after.drain.2) := by
  have stepped := step_iff.mp step
  rw [drain]
  split <;> simp_all

theorem atLimit_of_uncapped (uncapped : cursor.maxRows = 0) : cursor.atLimit = false := by
  simp [atLimit, uncapped]

end Drain

end Cursor

/-- What is handed out when a source is opened and drained. -/
structure Transcript where
  opening : Option (Banner × Layout)
  rows : List Row
  /-- The failure at the end, unless the rows end without one. -/
  fault? : Option StreamFault
deriving DecidableEq

namespace Transcript

/-- The transcript of a stream that was opened, from what draining it hands out. -/
def opened (head : Banner × Layout) (drained : List Row × Option StreamFault) : Transcript :=
  ⟨some head, drained.1, drained.2⟩

def ofSource (source : ByteSource) (maxRows : Nat) : Transcript :=
  match Cursor.ofSource source maxRows with
  | .error fault => ⟨none, [], some fault⟩
  | .ok cursor => opened (cursor.banner, cursor.layout) cursor.drain.1

theorem ofSource_of_error {source : ByteSource} {fault : StreamFault} (maxRows : Nat)
    (ran : Reader.head source = .error fault) :
    ofSource source maxRows = ⟨none, [], some fault⟩ := by
  unfold ofSource
  rw [Cursor.ofSource_eq, ran]
  rfl

theorem ofSource_of_ok {source rest : ByteSource} {head : Banner × Layout} (maxRows : Nat)
    (ran : Reader.head source = .ok (head, rest)) :
    ofSource source maxRows = opened head (Cursor.start head maxRows rest).drain.1 := by
  unfold ofSource
  rw [Cursor.ofSource_eq, ran]
  rfl

end Transcript

end VirtualTables
