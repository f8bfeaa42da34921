import VirtualTables.Proofs.RowStream.Calls
import VirtualTables.Proofs.RowStream.Truncation

/-!
Sources that break where others end.

A reader that has all the bytes it asks for does not learn what is behind them. So a source that
breaks is told from one that ends by an item that misses bytes, and by nothing else; the failure
there is one of the stream if the source ends, and one of the source if it breaks.
-/

namespace VirtualTables

open RowStream

namespace StreamFault

/-- What becomes of a failure over a source that ends if the source breaks there instead. -/
def atBreak : StreamFault → StreamFault
  | .truncated item => .broken item
  | .shortItem item _ _ => .broken item
  | fault => fault

theorem atBreak_of_decided {fault : StreamFault} (decided : fault.isTruncation = false) :
    fault.atBreak = fault := by
  cases fault with
  | truncated => cases decided
  | shortItem => cases decided
  | _ => rfl

/-- The failures over sources that end. Each is one of the protocol; where an item misses bytes, the
failure at a break names the same item and is one of the connection. -/
inductive AtEnd (fault : StreamFault) : Prop where
  | missing (item rest : String) :
      fault.message = truncationText ++ " " ++ item ++ rest →
      (Fault.rows fault).kind = .protocol →
      fault.atBreak.message = "Failed reading row stream (" ++ item ++ ")" →
      (Fault.rows fault.atBreak).kind = .connectivity → AtEnd fault
  | decided : (¬ ∃ rest, fault.message = truncationText ++ rest) →
      (Fault.rows fault).kind = .protocol → fault.atBreak = fault → AtEnd fault

theorem atEnd {fault : StreamFault} (delivered : fault.isSourceFailure = false) : fault.AtEnd := by
  have ofProtocol : (Fault.rows fault).kind = .protocol := by simp [Fault.kind, delivered]
  cases truncates : fault.isTruncation with
  | false =>
      refine .decided ?_ ofProtocol (atBreak_of_decided truncates)
      rw [← isTruncation_iff, truncates]
      exact Bool.false_ne_true
  | true =>
      cases fault with
      | truncated item =>
          refine .missing item "" ?_ ofProtocol rfl rfl
          rw [String.append_empty]
          rfl
      | shortItem item announced found =>
          refine .missing item (": expected " ++ toString announced ++ " bytes, got " ++
            toString found) ?_ ofProtocol rfl rfl
          simp only [← String.append_assoc]
          rfl
      | _ => cases truncates

end StreamFault

theorem RowStream.Reader.Composed.breaks {α : Type} {reader : Reader α}
    (composed : Reader.Composed reader) {bytes : List UInt8} {fault : StreamFault}
    (ran : reader (.ofBytes bytes) = .error fault) :
    reader ⟨bytes, .breaks⟩ = .error fault.atBreak ∧ fault.isSourceFailure = false := by
  induction composed generalizing bytes with
  | pure => cases ran
  | throw decided delivered =>
      cases ran
      rw [StreamFault.atBreak_of_decided decided]
      exact ⟨rfl, delivered⟩
  | fixed item count =>
      rcases Nat.lt_or_ge bytes.length count with missing | enough
      · rw [Reader.fixed, Reader.take_of_lt missing] at ran
        cases ran
        rw [Reader.fixed, Reader.take_of_lt missing]
        exact ⟨rfl, rfl⟩
      · rw [Reader.fixed, Reader.take_of_le enough] at ran
        cases ran
  | announced item count =>
      rcases Nat.lt_or_ge bytes.length count with missing | enough
      · rw [Reader.announced, Reader.take_of_lt missing] at ran
        cases ran
        rw [Reader.announced, Reader.take_of_lt missing]
        exact ⟨rfl, rfl⟩
      · rw [Reader.announced, Reader.take_of_le enough] at ran
        cases ran
  | @bind _ _ first next composed _ law lawNext =>
      cases ranFirst : first (.ofBytes bytes) with
      | error other =>
          rw [Reader.bind_of_error next ranFirst] at ran
          cases ran
          obtain ⟨broken, delivered⟩ := law ranFirst
          exact ⟨Reader.bind_of_error next broken, delivered⟩
      | ok pair =>
          obtain ⟨value, between⟩ := pair
          rcases composed.extends.of_ok ranFirst with ⟨left, rfl, follows⟩
          have same := follows [] .breaks
          rw [List.append_nil, List.append_nil] at same
          rw [Reader.bind_of_ok next ranFirst] at ran
          rw [Reader.bind_of_ok next same]
          exact lawNext value ran

namespace Cursor

def Answer.mapFault (translate : StreamFault → StreamFault) : Answer → Answer
  | .item item? => .item (item?.map (·.mapError translate))
  | .row outcome => .row (outcome.mapError translate)
  | .rest rows fault? => .rest rows (fault?.map translate)
  | .closed => .closed

theorem Answer.mapFault_id : mapFault id = id := by
  funext answer
  match answer with
  | .item none => rfl
  | .item (some (.ok given)) => rfl
  | .item (some (.error fault)) => rfl
  | .row (.ok given?) => rfl
  | .row (.error fault) => rfl
  | .rest rows none => rfl
  | .rest rows (some fault) => rfl
  | .closed => rfl

theorem item?_mapError (translate : StreamFault → StreamFault)
    (outcome : Except StreamFault (Option Row)) :
    item? (outcome.mapError translate) = (item? outcome).map (·.mapError translate) := by
  match outcome with
  | .error fault => rfl
  | .ok none => rfl
  | .ok (some row) => rfl

theorem faults_item? (outcome : Except StreamFault (Option Row)) :
    (Answer.item (item? outcome)).faults = (Answer.row outcome).faults := by
  match outcome with
  | .error fault => rfl
  | .ok none => rfl
  | .ok (some row) => rfl

/-- A record that fails at the end of a source fails in another way if the source goes on. -/
def Translates (more : List UInt8) (ending : ByteSource.Ending)
    (translate : StreamFault → StreamFault) (allowed : StreamFault → Prop) : Prop :=
  ∀ ⦃layout bytes fault⦄, Reader.record layout (.ofBytes bytes) = .error fault → allowed fault →
    Reader.record layout ⟨bytes ++ more, ending⟩ = .error (translate fault)

theorem translates_decided (more : List UInt8) (ending : ByteSource.Ending) :
    Translates more ending id fun fault => fault.isTruncation = false := by
  intro layout bytes fault ran decided
  exact (Reader.Composed.record layout).extends.of_error ran decided more ending

theorem translates_break : Translates [] .breaks StreamFault.atBreak fun _ => True := by
  intro layout bytes fault ran _
  rw [List.append_nil]
  exact ((Reader.Composed.record layout).breaks ran).1

variable {cursor after : Cursor} {outcome : Except StreamFault (Option Row)}

theorem Step.ends (step : Step cursor (outcome, after)) (ends : cursor.Ends) : after.Ends := by
  cases step with
  | limited => exact nofun
  | closed => exact ends
  | failed => exact nofun
  | ended => exact nofun
  | row below opened ran => exact ((Step.row below opened ran).extended_row ends [] .ends).1

theorem HandsOut.ends {rows : List Row} (handsOut : HandsOut cursor rows after)
    (ends : cursor.Ends) : after.Ends := by
  induction handsOut with
  | nothing => exact ends
  | row step _ inductionHypothesis => exact inductionHypothesis (step.ends ends)

theorem Ends.drain_fault (ends : cursor.Ends) {fault : StreamFault}
    (failed : cursor.drain.1.2 = some fault) : fault.isSourceFailure = false := by
  rcases cursor.handsOut_drain with ⟨last, handsOut, step⟩
  rw [failed] at step
  generalize cursor.drain.2 = behind at step
  cases step with
  | failed below opened ran =>
      rw [(handsOut.ends ends).source_eq opened] at ran
      exact ((Reader.Composed.record last.layout).breaks ran).2

theorem Use.ends {rows : List Row} {faults : List StreamFault} {isLast : Bool}
    (use : Use cursor rows faults isLast after) (ends : cursor.Ends) : after.Ends := by
  cases use with
  | opened handsOut => exact handsOut.ends ends
  | closed => exact nofun

namespace Translates

variable {more : List UInt8} {ending : ByteSource.Ending} {translate : StreamFault → StreamFault}
  {allowed : StreamFault → Prop}

theorem step (translates : Translates more ending translate allowed)
    (step : Step cursor (outcome, after)) (ends : cursor.Ends)
    (allows : ∀ fault ∈ (Answer.row outcome).faults, allowed fault) :
    Step (cursor.extended more ending)
      (outcome.mapError translate, after.extended more ending) := by
  cases step with
  | limited limited => exact .limited limited
  | closed below closed => exact .closed below (by simp [extended, closed])
  | failed below opened ran =>
      rw [ends.source_eq opened] at ran
      have fails := translates ran (allows _ (List.mem_singleton.mpr rfl))
      exact .failed below (extended_source? opened more ending) fails
  | ended below opened ran =>
      rw [ends.source_eq opened] at ran
      obtain ⟨left, rfl, law⟩ := (Reader.Composed.record cursor.layout).extends.of_ok ran
      exact .ended below (extended_source? opened more ending) (law more ending)
  | row below opened ran => exact ((Step.row below opened ran).extended_row ends more ending).2

theorem drain (translates : Translates more ending translate allowed) (ends : cursor.Ends)
    (allows : ∀ fault, cursor.drain.1.2 = some fault → allowed fault) :
    (cursor.extended more ending).drain =
      ((cursor.drain.1.1, cursor.drain.1.2.map translate),
        cursor.drain.2.extended more ending) := by
  induction cursor using Cursor.drain.induct with
  | case1 cursor fault after stepped =>
      have step := step_iff.mpr stepped
      rw [drain_of_error step] at allows ⊢
      have other := translates.step step ends (List.forall_mem_singleton.mpr (allows fault rfl))
      rw [drain_of_error other]
      rfl
  | case2 cursor after stepped =>
      have step := step_iff.mpr stepped
      have other := translates.step step ends (List.forall_mem_nil _)
      rw [drain_of_end step, drain_of_end other]
      rfl
  | case3 cursor row after stepped _ _ _ _ inductionHypothesis =>
      have step := step_iff.mpr stepped
      have other := translates.step step ends (List.forall_mem_nil _)
      rw [drain_of_row step] at allows ⊢
      rw [drain_of_row other, inductionHypothesis (step.ends ends) allows]

theorem next (translates : Translates more ending translate allowed) (ends : cursor.Ends)
    (allows : ∀ fault ∈ (Answer.row cursor.next.1).faults, allowed fault) :
    (cursor.extended more ending).next =
      (cursor.next.1.mapError translate, cursor.next.2.extended more ending) := by
  have step : Step cursor (cursor.next.1, cursor.next.2) := step_iff.mpr rfl
  exact step_iff.mp (translates.step step ends allows)

theorem call (translates : Translates more ending translate allowed) (ends : cursor.Ends)
    (call : Call) (allows : ∀ fault ∈ (cursor.call call).1.faults, allowed fault) :
    (cursor.extended more ending).call call =
      ((cursor.call call).1.mapFault translate, (cursor.call call).2.extended more ending) := by
  cases call with
  | item =>
      rw [Cursor.call, translates.next ends (faults_item? cursor.next.1 ▸ allows), item?_mapError]
      rfl
  | row =>
      rw [Cursor.call, translates.next ends allows]
      rfl
  | rest =>
      rw [Cursor.call, translates.drain ends fun fault failed =>
        allows fault (Option.mem_toList.mpr failed)]
      rfl
  | close => rfl

theorem calls (translates : Translates more ending translate allowed) (ends : cursor.Ends)
    (series : List Call) (allows : ∀ fault ∈ failed (cursor.calls series).1, allowed fault) :
    (cursor.extended more ending).calls series =
      ((cursor.calls series).1.map (Answer.mapFault translate),
        (cursor.calls series).2.extended more ending) := by
  induction series generalizing cursor with
  | nil => rfl
  | cons call series inductionHypothesis =>
      rw [calls_cons] at allows
      have allowsFirst := fun fault inside => allows fault (List.mem_append_left _ inside)
      have allowsOthers := fun fault inside => allows fault (List.mem_append_right _ inside)
      rw [calls_cons, translates.call ends call allowsFirst,
        inductionHypothesis ((cursor.use_of_call call).ends ends) allowsOthers]
      rfl

theorem collect (translates : Translates more ending translate allowed) (ends : cursor.Ends)
    (allows : ∀ fault, cursor.drain.1.2 = some fault → allowed fault) :
    (cursor.extended more ending).collect = cursor.collect.mapError translate := by
  rw [Cursor.collect, Cursor.collect, translates.drain ends allows]
  rcases cursor.drain.1 with ⟨rows, _ | fault⟩
  · rfl
  · rfl

end Translates

theorem Use.isClosed_of_fault {rows : List Row} {faults : List StreamFault} {isLast : Bool}
    {fault : StreamFault} (use : Use cursor rows faults isLast after) (failed : fault ∈ faults) :
    after.isClosed = true := by
  cases use with
  | opened => cases failed
  | closed => rfl

theorem drain_of_collect {fault : StreamFault} (failed : cursor.collect = .error fault) :
    cursor.drain.1.2 = some fault := by
  rw [collect] at failed
  rcases ran : cursor.drain.1 with ⟨rows, _ | other⟩
  · rw [ran] at failed
    cases failed
  · rw [ran] at failed
    cases failed
    rfl

section Opening

variable {bytes : List UInt8} {maxRows : Nat}

theorem ofSource_extended (opened : ofSource (.ofBytes bytes) maxRows = .ok cursor) :
    cursor.Ends ∧ ∀ (more : List UInt8) (ending : ByteSource.Ending),
      ofSource ⟨bytes ++ more, ending⟩ maxRows = .ok (cursor.extended more ending) := by
  rw [ofSource_eq] at opened
  cases ran : Reader.head (.ofBytes bytes) with
  | error fault =>
      rw [ran] at opened
      cases opened
  | ok pair =>
      obtain ⟨head, rest⟩ := pair
      rcases Reader.Composed.head.extends.of_ok ran with ⟨left, rfl, follows⟩
      rw [ran] at opened
      cases opened
      constructor
      · intro source found
        cases found
        rfl
      · intro more ending
        rw [ofSource_eq, follows more ending]
        rfl

theorem ofSource_refused {fault : StreamFault}
    (refused : ofSource (.ofBytes bytes) maxRows = .error fault) :
    fault.isSourceFailure = false ∧ ofSource ⟨bytes, .breaks⟩ maxRows = .error fault.atBreak ∧
      (fault.isTruncation = false → ∀ (more : List UInt8) (ending : ByteSource.Ending),
        ofSource ⟨bytes ++ more, ending⟩ maxRows = .error fault) := by
  rw [ofSource_eq] at refused
  cases ran : Reader.head (.ofBytes bytes) with
  | error other =>
      rw [ran] at refused
      cases refused
      obtain ⟨broken, delivered⟩ := Reader.Composed.head.breaks ran
      refine ⟨delivered, ?_, ?_⟩
      · rw [ofSource_eq, broken]
        rfl
      · intro decided more ending
        rw [ofSource_eq, Reader.Composed.head.extends.of_error ran decided more ending]
        rfl
  | ok pair =>
      rw [ran] at refused
      cases refused

end Opening

/-- A source that breaks where another ends gives the same, up to the first item that misses bytes.

There the one that ends is truncated and the one that breaks is at fault itself, while reading the
same item, and both cursors are closed. Where no item misses bytes it makes no difference what
follows them. Over a source that ends all failures are of the protocol. -/
theorem calls_atBreak (bytes : List UInt8) (maxRows : Nat) :
    (∀ fault, ofSource (.ofBytes bytes) maxRows = .error fault →
      fault.AtEnd ∧ ofSource ⟨bytes, .breaks⟩ maxRows = .error fault.atBreak ∧
      (fault.isTruncation = false → ∀ (more : List UInt8) (ending : ByteSource.Ending),
        ofSource ⟨bytes ++ more, ending⟩ maxRows = .error fault)) ∧
    ∀ cursor, ofSource (.ofBytes bytes) maxRows = .ok cursor →
      ∃ other, ofSource ⟨bytes, .breaks⟩ maxRows = .ok other ∧
        other.banner = cursor.banner ∧ other.layout = cursor.layout ∧
        ∀ series,
          let ended := cursor.calls series
          let broken := other.calls series
          broken.1 = ended.1.map (Answer.mapFault StreamFault.atBreak) ∧
          broken.2.rowsRead = ended.2.rowsRead ∧ broken.2.isClosed = ended.2.isClosed ∧
          broken.2.collect = ended.2.collect.mapError StreamFault.atBreak ∧
          (∀ fault ∈ failed ended.1, fault.AtEnd ∧ ended.2.isClosed = true) ∧
          (∀ fault, ended.2.collect = .error fault → fault.AtEnd) ∧
          ((∀ fault ∈ failed ended.1, fault.isTruncation = false) →
            ∀ (more : List UInt8) (ending : ByteSource.Ending), ∃ longer,
              ofSource ⟨bytes ++ more, ending⟩ maxRows = .ok longer ∧
              (longer.calls series).1 = ended.1) := by
  constructor
  · intro fault refused
    obtain ⟨delivered, others⟩ := ofSource_refused refused
    exact ⟨StreamFault.atEnd delivered, others⟩
  · intro cursor opened
    obtain ⟨ends, follows⟩ := ofSource_extended opened
    have openedToo := follows [] .breaks
    rw [List.append_nil] at openedToo
    refine ⟨cursor.extended [] .breaks, openedToo, rfl, rfl, ?_⟩
    intro series ended broken
    have use := use_of_calls (fresh_of_ofSource opened).1 series
    have endsToo := use.ends ends
    have same : broken = _ := translates_break.calls ends series fun _ _ => trivial
    rw [same]
    refine ⟨rfl, rfl, Option.isNone_map .., ?_, ?_, ?_, ?_⟩
    · exact translates_break.collect endsToo fun _ _ => trivial
    · intro fault inside
      have delivered := ends.drain_fault (use.drain_failed fault inside)
      exact ⟨StreamFault.atEnd delivered, use.isClosed_of_fault inside⟩
    · intro fault failed
      exact StreamFault.atEnd (endsToo.drain_fault (drain_of_collect failed))
    · intro decided more ending
      refine ⟨_, follows more ending, ?_⟩
      rw [(translates_decided more ending).calls ends series decided]
      rw [Answer.mapFault_id, List.map_id]

/-- An empty text at the end of the bytes is read from both sources. Behind it the marker of the
next row is missing over the one and fails over the other. -/
theorem calls_atBreak_behind_empty_text :
    let layout : Layout := ⟨[⟨"a", .string⟩]⟩
    let head : List UInt8 := [0, 0, 0, 0, 0, 0, 0, 0, 0, 0, 0, 0, 0, 1, 0, 0, 0, 2, 0, 1, 0x61]
    let bytes := head ++ [1, 0, 0, 0, 0, 0]
    let cursor : Cursor := .start (⟨"", "", "", "", ""⟩, layout) 0 (.ofBytes [1, 0, 0, 0, 0, 0])
    let series : List Call := [.row, .item, .rest]
    ofSource (.ofBytes bytes) 0 = .ok cursor ∧
      failed (cursor.calls series).1 = [.truncated "row marker"] ∧
      ∃ other, ofSource ⟨bytes, .breaks⟩ 0 = .ok other ∧
        handed (other.calls series).1 = [⟨[.string ""]⟩] ∧
        failed (other.calls series).1 = [.broken "row marker"] ∧
        (other.calls series).2.isClosed = true ∧ (other.calls [.row]).1 = (cursor.calls [.row]).1 := by
  intro layout head bytes cursor series
  have ran : Reader.head (.ofBytes bytes) =
      .ok ((⟨"", "", "", "", ""⟩, layout), .ofBytes [1, 0, 0, 0, 0, 0]) := by
    decide +kernel
  have opened : ofSource (.ofBytes bytes) 0 = .ok cursor := by
    rw [ofSource_eq, ran]
    rfl
  have missed : failed (cursor.calls series).1 = [.truncated "row marker"] := by decide +kernel
  have unharmed : failed (cursor.calls [.row]).1 = [] := by decide +kernel
  rcases (calls_atBreak bytes 0).2 cursor opened with ⟨other, openedToo, -, -, alike⟩
  obtain ⟨answers, -, closes, -, faults, -⟩ := alike series
  obtain ⟨-, -, -, -, -, -, decided⟩ := alike [.row]
  rw [unharmed] at decided
  refine ⟨opened, missed, other, openedToo, ?_, ?_, ?_, ?_⟩
  · rw [answers]
    decide +kernel
  · rw [answers]
    decide +kernel
  · rw [closes]
    exact (faults (.truncated "row marker") (by rw [missed]; decide)).2
  · obtain ⟨longer, openedLonger, same⟩ := decided nofun [] .breaks
    rw [List.append_nil, openedToo] at openedLonger
    rw [Except.ok.inj openedLonger, same]

end Cursor

end VirtualTables
