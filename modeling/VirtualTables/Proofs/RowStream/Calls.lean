import Mathlib.Control.Monad.Basic
import VirtualTables.Proofs.RowStream.Extension
import VirtualTables.Proofs.RowStream.Handing

/-!
Cursors in use.

A cursor can be asked for its next row in two ways, be drained and be closed, any number of times
and in any order. `Use` says what any series of calls amounts to: some rows are handed out, and then
the cursor is still open, or it was closed behind them. It holds of one call, by cases on the call,
and of a series by induction.
-/

namespace VirtualTables

open RowStream

namespace Cursor

inductive Call where
  /-- The next row as an item of a sequence. -/
  | item
  /-- The next row as a result that may be missing. -/
  | row
  /-- All rows that are left. -/
  | rest
  | close

inductive Answer where
  | item (item? : Option (Except StreamFault Row))
  | row (outcome : Except StreamFault (Option Row))
  | rest (rows : List Row) (fault? : Option StreamFault)
  | closed

/-- The outcome of a step as an item of a sequence, which ends where there is none. -/
def item? : Except StreamFault (Option Row) → Option (Except StreamFault Row)
  | .ok none => none
  | .ok (some row) => some (.ok row)
  | .error fault => some (.error fault)

def call (cursor : Cursor) : Call → Answer × Cursor
  | .item => (.item (item? cursor.next.1), cursor.next.2)
  | .row => (.row cursor.next.1, cursor.next.2)
  | .rest => (.rest cursor.drain.1.1 cursor.drain.1.2, cursor.drain.2)
  | .close => (.closed, cursor.close)

def calls (cursor : Cursor) : List Call → List Answer × Cursor
  | [] => ([], cursor)
  | call :: others =>
      let answered := cursor.call call
      let behind := answered.2.calls others
      (answered.1 :: behind.1, behind.2)

def Call.idle : Call → Answer
  | .item => .item none
  | .row => .row (.ok none)
  | .rest => .rest [] none
  | .close => .closed

namespace Answer

def rows : Answer → List Row
  | .item (some (.ok given)) => [given]
  | .row (.ok (some given)) => [given]
  | .rest given _ => given
  | _ => []

def faults : Answer → List StreamFault
  | .item (some (.error fault)) => [fault]
  | .row (.error fault) => [fault]
  | .rest _ fault? => fault?.toList
  | _ => []

/-- Whether the end or a failure is returned, or the cursor has been told to close. -/
def isLast : Answer → Bool
  | .item (some (.ok _)) => false
  | .row (.ok (some _)) => false
  | _ => true

end Answer

def handed (answers : List Answer) : List Row :=
  answers.flatMap Answer.rows

def failed (answers : List Answer) : List StreamFault :=
  answers.flatMap Answer.faults

/-- A use of a cursor hands out rows; it leaves the cursor open, or closes it behind them and then
returns at most the failure that would follow. -/
inductive Use (cursor : Cursor) (rows : List Row) :
    List StreamFault → (isLast : Bool) → Cursor → Prop where
  | opened {after} (handsOut : HandsOut cursor rows after) : Use cursor rows [] false after
  | closed {last} {fault? : Option StreamFault} (handsOut : HandsOut cursor rows last)
      (failed : ∀ fault, fault? = some fault → last.drain.1 = ([], some fault)) :
      Use cursor rows fault?.toList true last.close

theorem calls_cons (cursor : Cursor) (call : Call) (others : List Call) :
    cursor.calls (call :: others) =
      ((cursor.call call).1 :: ((cursor.call call).2.calls others).1,
        ((cursor.call call).2.calls others).2) :=
  rfl

theorem calls_append (cursor : Cursor) (front back : List Call) :
    cursor.calls (front ++ back) =
      ((cursor.calls front).1 ++ ((cursor.calls front).2.calls back).1,
        ((cursor.calls front).2.calls back).2) := by
  induction front generalizing cursor with
  | nil => rfl
  | cons call front inductionHypothesis =>
      rw [List.cons_append, calls_cons, inductionHypothesis]
      rfl

variable {cursor between after : Cursor} {rows more : List Row} {faults : List StreamFault}
  {isLast : Bool}

theorem Use.andThen {otherFaults : List StreamFault} {otherLast : Bool}
    (use : Use cursor rows faults isLast between) (opened : cursor.isClosed = false)
    (useOn : between.isClosed = false → Use between more otherFaults otherLast after)
    (idle : between.isClosed = true → more = [] ∧ otherFaults = [] ∧ after = between) :
    Use cursor (rows ++ more) (faults ++ otherFaults) (isLast || otherLast) after := by
  cases use with
  | opened handsOut =>
      cases useOn (handsOut.isClosed_eq_false opened) with
      | opened others => exact .opened (handsOut.append others)
      | closed others failed => exact .closed (handsOut.append others) failed
  | closed handsOut failed =>
      obtain ⟨rfl, rfl, rfl⟩ := idle rfl
      rw [List.append_nil, List.append_nil]
      exact .closed handsOut failed

theorem Use.of_ending (fault? : Option StreamFault) {last : Cursor}
    (handsOut : HandsOut cursor rows last) (step : Step last (ending fault?, after)) :
    Use cursor rows fault?.toList true after := by
  rw [step.closes]
  refine .closed handsOut ?_
  rintro fault rfl
  rw [drain_of_ending step]

theorem next_of_closed (closed : cursor.isClosed = true) : cursor.next = (.ok none, cursor) := by
  have nothing : cursor.source? = none := Option.isNone_iff_eq_none.mp closed
  have same : cursor.close = cursor := by rw [close, ← nothing]
  cases limited : cursor.atLimit with
  | true => exact step_iff.mp (same ▸ .limited limited)
  | false => exact step_iff.mp (.closed limited nothing)

theorem collect_of_end (ends : cursor.drain.1.2 = none) :
    cursor.collect = .ok cursor.drain.1.1 := by
  unfold collect
  rw [Prod.ext (x := cursor.drain.1) (y := (cursor.drain.1.1, none)) rfl ends]

theorem collect_of_fault {fault : StreamFault} (fails : cursor.drain.1.2 = some fault) :
    cursor.collect = .error fault := by
  unfold collect
  rw [Prod.ext (x := cursor.drain.1) (y := (cursor.drain.1.1, some fault)) rfl fails]

theorem collect_of_closed (closed : cursor.isClosed = true) : cursor.collect = .ok [] := by
  rw [collect, drain_of_end (step_iff.mpr (next_of_closed closed))]

namespace Use

theorem isClosed_eq (use : Use cursor rows faults isLast after) (opened : cursor.isClosed = false) :
    after.isClosed = isLast := by
  cases use with
  | opened handsOut => exact handsOut.isClosed_eq_false opened
  | closed => rfl

theorem rowsRead_eq (use : Use cursor rows faults isLast after) :
    after.rowsRead = cursor.rowsRead + rows.length := by
  cases use with
  | opened handsOut => exact handsOut.rowsRead_eq
  | closed handsOut => exact handsOut.rowsRead_eq

theorem rowsRead_le (use : Use cursor rows faults isLast after) (limited : 0 < cursor.maxRows)
    (within : cursor.rowsRead ≤ cursor.maxRows) : after.rowsRead ≤ cursor.maxRows := by
  cases use with
  | opened handsOut => exact handsOut.maxRows_eq ▸ handsOut.rowsRead_le limited within
  | closed handsOut => exact handsOut.maxRows_eq ▸ handsOut.rowsRead_le limited within

theorem faults_length (use : Use cursor rows faults isLast after) : faults.length ≤ 1 := by
  cases use with
  | opened => exact Nat.zero_le 1
  | @closed _ fault? => cases fault? <;> simp

theorem drain_failed (use : Use cursor rows faults isLast after) :
    ∀ fault ∈ faults, cursor.drain.1.2 = some fault := by
  intro fault inside
  cases use with
  | opened => cases inside
  | closed handsOut failed =>
      rw [handsOut.drain_eq, failed fault (Option.mem_toList.mp inside)]

theorem rows_prefix (use : Use cursor rows faults isLast after) : rows <+: cursor.drain.1.1 := by
  cases use with
  | opened handsOut => exact ⟨_, (congrArg (·.1.1) handsOut.drain_eq).symm⟩
  | closed handsOut => exact ⟨_, (congrArg (·.1.1) handsOut.drain_eq).symm⟩

theorem drain_eq (use : Use cursor rows faults false after) :
    cursor.drain.1 = (rows ++ after.drain.1.1, after.drain.1.2) := by
  cases use with
  | opened handsOut => exact congrArg Prod.fst handsOut.drain_eq

end Use

theorem use_of_step {outcome : Except StreamFault (Option Row)}
    (step : Step cursor (outcome, after)) :
    Use cursor (Answer.row outcome).rows (Answer.row outcome).faults (Answer.row outcome).isLast
      after := by
  match outcome with
  | .error fault => exact .of_ending (some fault) .nothing step
  | .ok none => exact .of_ending none .nothing step
  | .ok (some row) => exact .opened (.row step .nothing)

theorem use_of_call (cursor : Cursor) (call : Call) :
    Use cursor (cursor.call call).1.rows (cursor.call call).1.faults (cursor.call call).1.isLast
      (cursor.call call).2 := by
  rcases stepped : cursor.next with ⟨outcome, after⟩
  have use := use_of_step (step_iff.mpr stepped)
  cases call with
  | item =>
      rw [Cursor.call, stepped]
      match outcome with
      | .error fault => exact use
      | .ok none => exact use
      | .ok (some row) => exact use
  | row =>
      rw [Cursor.call, stepped]
      exact use
  | rest =>
      rcases cursor.handsOut_drain with ⟨last, handsOut, step⟩
      exact .of_ending _ handsOut step
  | close => exact @Use.closed _ _ _ none .nothing nofun

theorem call_of_closed (closed : cursor.isClosed = true) (call : Call) :
    cursor.call call = (call.idle, cursor) := by
  have nextClosed := next_of_closed closed
  cases call with
  | item => rw [Cursor.call, nextClosed]; rfl
  | row => rw [Cursor.call, nextClosed]; rfl
  | rest => rw [Cursor.call, drain_of_end (step_iff.mpr nextClosed)]; rfl
  | close =>
      have nothing : cursor.source? = none := Option.isNone_iff_eq_none.mp closed
      rw [Cursor.call, close, ← nothing]
      rfl

theorem calls_of_closed (closed : cursor.isClosed = true) (series : List Call) :
    cursor.calls series = (series.map Call.idle, cursor) := by
  induction series with
  | nil => rfl
  | cons call series inductionHypothesis =>
      rw [calls_cons, call_of_closed closed, inductionHypothesis]
      rfl

theorem handed_idle (series : List Call) : handed (series.map Call.idle) = [] := by
  rw [handed, List.flatMap_eq_nil_iff, List.forall_mem_map]
  intro call _
  cases call <;> rfl

theorem failed_idle (series : List Call) : failed (series.map Call.idle) = [] := by
  rw [failed, List.flatMap_eq_nil_iff, List.forall_mem_map]
  intro call _
  cases call <;> rfl

/-- A series of calls amounts to one use of the cursor. -/
theorem use_of_calls (opened : cursor.isClosed = false) (series : List Call) :
    Use cursor (handed (cursor.calls series).1) (failed (cursor.calls series).1)
      ((cursor.calls series).1.any Answer.isLast) (cursor.calls series).2 := by
  -- The call in front is one use; the calls behind it find the cursor open, which is the
  -- induction hypothesis, or closed, and then they are idle.
  induction series generalizing cursor with
  | nil => exact .opened .nothing
  | cons call series inductionHypothesis =>
      refine (cursor.use_of_call call).andThen opened inductionHypothesis ?_
      intro closed
      have idle := calls_of_closed closed series
      rw [idle]
      exact ⟨handed_idle series, failed_idle series, congrArg Prod.snd idle⟩

theorem fresh_of_ofSource {source : ByteSource} {maxRows : Nat}
    (opened : ofSource source maxRows = .ok cursor) :
    cursor.isClosed = false ∧ cursor.rowsRead = 0 ∧ cursor.maxRows = maxRows ∧
      cursor.remaining ≤ source.bytes.length := by
  rw [ofSource_eq] at opened
  cases ran : Reader.head source with
  | error fault =>
      rw [ran] at opened
      cases opened
  | ok pair =>
      rw [ran] at opened
      cases opened
      exact ⟨rfl, rfl, rfl, (Reader.Composed.head.consumes ran).1.length_le⟩

/-- However an opened cursor is used, it counts the rows that it hands out, which are the first ones
of those that draining it at once would give, and it is closed from the first call on that gives no
row. -/
theorem calls_ofSource {source : ByteSource} {maxRows : Nat}
    (opened : ofSource source maxRows = .ok cursor) (series : List Call) :
    let answers := (cursor.calls series).1
    let after := (cursor.calls series).2
    (after.rowsRead = (handed answers).length ∧ (0 < maxRows → after.rowsRead ≤ maxRows)) ∧
      after.isClosed = answers.any Answer.isLast ∧
      ((failed answers).length ≤ 1 ∧ ∀ fault ∈ failed answers, cursor.drain.1.2 = some fault) ∧
      (after.isClosed = true → after.collect = .ok [] ∧ ∀ later,
        cursor.calls (series ++ later) = (answers ++ later.map Call.idle, after)) ∧
      handed answers <+: cursor.drain.1.1 ∧
      (after.isClosed = false →
        (cursor.drain.1.2 = none →
          ∃ rest, cursor.drain.1.1 = handed answers ++ rest ∧ after.collect = .ok rest) ∧
        ∀ fault, cursor.drain.1.2 = some fault → after.collect = .error fault) ∧
      cursor.drain.1.1.length ≤ source.bytes.length := by
  intro answers after
  obtain ⟨isOpen, nothing, sameLimit, within⟩ := fresh_of_ofSource opened
  have use := use_of_calls isOpen series
  have closes := use.isClosed_eq isOpen
  refine ⟨⟨?_, ?_⟩, closes, ⟨use.faults_length, use.drain_failed⟩, ?_, use.rows_prefix, ?_, ?_⟩
  · rw [use.rowsRead_eq, nothing, Nat.zero_add]
  · rw [← sameLimit]
    intro limited
    exact use.rowsRead_le limited (nothing ▸ Nat.zero_le _)
  · intro closed
    refine ⟨collect_of_closed closed, ?_⟩
    intro later
    rw [calls_append, calls_of_closed closed]
  · intro stillOpen
    rw [← closes, stillOpen] at use
    rw [use.drain_eq]
    exact ⟨fun ends => ⟨_, rfl, collect_of_end ends⟩, fun _ fails => collect_of_fault fails⟩
  · rcases cursor.handsOut_drain with ⟨last, handsOut, _⟩
    have bound := handsOut.remaining_le
    omega

/-- Two rows of no columns are handed out, then a byte that marks nothing is at fault, and from then
on nothing is left. -/
theorem calls_ofSource_without_columns :
    let source : ByteSource := ⟨List.replicate 14 0 ++ [1, 1, 7], .breaks⟩
    let cursor : Cursor := .start (⟨"", "", "", "", ""⟩, ⟨[]⟩) 0 ⟨[1, 1, 7], .breaks⟩
    let used := cursor.calls [.row, .item, .item]
    ofSource source 0 = .ok cursor ∧ used.2.rowsRead = 2 ∧ used.2.isClosed = true ∧
      (failed used.1).length = 1 ∧ used.2.collect = .ok [] ∧
      cursor.calls ([.row, .item, .item] ++ [.close, .rest]) =
        (used.1 ++ [.closed, .rest [] none], used.2) := by
  intro source cursor used
  have ran : Reader.head source =
      .ok ((⟨"", "", "", "", ""⟩, ⟨[]⟩), ⟨[1, 1, 7], .breaks⟩) := by
    decide +kernel
  have opened : ofSource source 0 = .ok cursor := by
    rw [ofSource_eq, ran]
    rfl
  obtain ⟨⟨counts, _⟩, closes, _, idle, _⟩ := calls_ofSource opened [.row, .item, .item]
  have two : (handed used.1).length = 2 := by decide +kernel
  have closed : used.2.isClosed = true := closes.trans (by decide +kernel)
  have one : (failed used.1).length = 1 := by decide +kernel
  exact ⟨opened, counts.trans two, closed, one, (idle closed).1, (idle closed).2 [.close, .rest]⟩

end Cursor

end VirtualTables
