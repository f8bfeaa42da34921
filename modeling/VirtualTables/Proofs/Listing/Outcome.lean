import VirtualTables.Fault
import VirtualTables.Proofs.Markup.Pieces

/-!
What reading a listing comes to, and how it depends on the pieces of the document.

Two things are known at every event from the events before it alone: which elements are open
(`openedBehind`), and which text has been gathered since the last tag (`textBehind`). The progress
of reading agrees with them (`run_eq_ok`). Documents with the same front are read on from the same
state behind it (`same_front`).
-/

namespace VirtualTables

namespace Markup

/-- The elements open behind some events, the innermost first, with those open in front of them. -/
def openedBehind (opened : List (List Char)) : List Event → List (List Char)
  | [] => opened
  | .opening name :: events => openedBehind (name :: opened) events
  | .closing _ :: events => openedBehind opened.tail events
  | _ :: events => openedBehind opened events

/-- The text behind the last start or end tag of some events, with the text in front of them. -/
def textBehind (text : List Char) : List Event → List Char
  | [] => text
  | .opening _ :: events => textBehind [] events
  | .closing _ :: events => textBehind [] events
  | .empty _ :: events => textBehind text events
  | .text content :: events => textBehind (text ++ content) events
  | .verbatim content :: events => textBehind (text ++ content) events

/-- No tags are among some events. -/
def AreTexts (found : List Event) : Prop :=
  ∀ event ∈ found, ∃ content, event = .text content ∨ event = .verbatim content

theorem areTexts_textEvents (text : List Char) : AreTexts (textEvents text) := by
  intro event inside
  unfold textEvents at inside
  split at inside
  · cases inside
  · exact ⟨text, .inl (List.mem_singleton.mp inside)⟩

theorem AreTexts.append {found more : List Event} (first : AreTexts found)
    (second : AreTexts more) : AreTexts (found ++ more) :=
  List.forall_mem_append.mpr ⟨first, second⟩

section Opened

variable {opened inner : List (List Char)} {found : List Event}

theorem openedBehind_append (opened : List (List Char)) (found more : List Event) :
    openedBehind opened (found ++ more) = openedBehind (openedBehind opened found) more := by
  induction found generalizing opened with
  | nil => rfl
  | cons event found inductionHypothesis =>
      cases event with
      | opening name => exact inductionHypothesis (name :: opened)
      | empty name => exact inductionHypothesis opened
      | closing name => exact inductionHypothesis opened.tail
      | text content => exact inductionHypothesis opened
      | verbatim content => exact inductionHypothesis opened

theorem openedBehind_of_texts (texts : AreTexts found) (opened : List (List Char)) :
    openedBehind opened found = opened := by
  induction found with
  | nil => rfl
  | cons event found inductionHypothesis =>
      rw [AreTexts, List.forall_mem_cons] at texts
      obtain ⟨content, rfl | rfl⟩ := texts.1
      · exact inductionHypothesis texts.2
      · exact inductionHypothesis texts.2

theorem Piece.opened_of_read {piece : Piece} (read : piece.read opened = .ok (found, inner)) :
    inner = openedBehind opened found := by
  cases Piece.advances read with
  | _ => rfl

theorem opened_of_readAll {pieces : List Piece}
    (read : readAll opened pieces = (found, .ok inner)) : inner = openedBehind opened found := by
  induction pieces generalizing opened found with
  | nil =>
      cases read
      rfl
  | cons piece pieces inductionHypothesis =>
      obtain ⟨first, inside, others, firstRead, othersRead, rfl⟩ := readAll_cons_eq_ok read
      rw [openedBehind_append, ← Piece.opened_of_read firstRead]
      exact inductionHypothesis othersRead

end Opened

end Markup

namespace Listing

open Markup (AreTexts Event openedBehind textBehind)

/-- A document is not accepted, and the fault is one of the protocol. -/
def IsRejected (document : String) : Prop :=
  ∃ fault, services document = .error fault ∧ (Fault.listing fault).kind = .protocol

/-- What becomes of the rest of a document, of its events and the failure that ends them. -/
def outcome (before : Progress) (scanned : List Event × Option Markup.Fault) :
    Except ListingFault (List Service) :=
  match before.run scanned.1, scanned.2 with
  | .error fault, _ => .error fault
  | .ok _, some fault => .error (.malformed fault)
  | .ok after, none => after.finish

theorem services_eq (document : String) :
    services document = outcome .start (Markup.scan document.toList) := rfl

theorem isRejected_of_error {document : String} {fault : ListingFault}
    (failed : services document = .error fault) : IsRejected document :=
  ⟨fault, failed, rfl⟩

section Outcome

variable {before after : Progress} {scanned : List Event × Option Markup.Fault}
  {services : List Service}

theorem exists_outcome_of_fault (before : Progress) (found : List Event) (fault : Markup.Fault) :
    ∃ given, outcome before (found, some fault) = .error given := by
  unfold outcome
  dsimp only
  cases before.run found with
  | error given => exact ⟨given, rfl⟩
  | ok after => exact ⟨.malformed fault, rfl⟩

/-- What is accepted has been read to its end without failure. -/
theorem outcome_eq_ok_iff :
    outcome before scanned = .ok services ↔ scanned.2 = none ∧
      ∃ after, before.run scanned.1 = .ok after ∧ after.finish = .ok services := by
  obtain ⟨found, fault?⟩ := scanned
  cases fault? with
  | none =>
      unfold outcome
      dsimp only
      cases before.run found with
      | error fault => simp
      | ok after => simp
  | some fault =>
      obtain ⟨given, failed⟩ := exists_outcome_of_fault before found fault
      simp [failed]

theorem outcome_followedBy (found : List Event) :
    outcome before (Markup.followedBy found scanned) =
      match before.run found with
      | .error fault => .error fault
      | .ok inside => outcome inside scanned := by
  unfold outcome Markup.followedBy
  dsimp only
  rw [Progress.run_append_eq]
  cases before.run found with
  | error fault => rfl
  | ok inside => rfl

theorem outcome_continued {found : List Event} {inside : Progress}
    (ran : before.run found = .ok inside) (opened : List (List Char)) (rest : List Char) :
    outcome before (Markup.continued (found, .ok opened) rest) =
      outcome inside (Markup.events opened rest) := by
  rw [Markup.continued, outcome_followedBy, ran]

theorem outcome_continued_error {found : List Event} {fault : ListingFault}
    (failed : before.run found = .error fault) (opened : List (List Char)) (rest : List Char) :
    outcome before (Markup.continued (found, .ok opened) rest) = .error fault := by
  rw [Markup.continued, outcome_followedBy, failed]

end Outcome

namespace Progress

theorem run_singleton (progress : Progress) (event : Event) :
    progress.run [event] = progress.step event := by
  rw [run]
  cases progress.step event with
  | error fault => rfl
  | ok after => rfl

variable {before after : Progress}

/-- What an end tag does depends neither on the elements open behind it nor on the gathered text,
and leaves both as they are. -/
theorem closed_with (progress : Progress) (path : List String) (text : List Char) (tag : String)
    (parent : Option String) (value : List Char) :
    Progress.closed { progress with path, text } tag parent value =
      (progress.closed tag parent value).map ({ · with path, text }) := by
  unfold closed
  split
  · rfl
  · rfl
  · rfl
  · rfl
  · rfl
  · unfold endField
    dsimp only
    split
    · split
      · rfl
      · rfl
    · rfl
  · unfold endService
    dsimp only
    split
    · rfl
    · split
      · rfl
      · rfl
  · rfl

theorem closed_eq_ok {tag : String} {parent : Option String} {text : List Char}
    (closes : before.closed tag parent text = .ok after) :
    after.path = before.path ∧ after.text = before.text := by
  have same := closed_with before before.path before.text tag parent text
  rw [closes] at same
  have isAfter : after = { after with path := before.path, text := before.text } :=
    Except.ok.inj same
  rw [isAfter]
  exact ⟨rfl, rfl⟩

@[simp]
theorem opening_path (progress : Progress) (tag : String) :
    (progress.opening tag).path = tag :: progress.path := rfl

theorem empty_eq_ok {tag : String} (passes : before.empty tag = .ok after) :
    after.path = before.path ∧ after.text = before.text := by
  unfold empty at passes
  split at passes
  · cases passes
    exact ⟨rfl, rfl⟩
  · split at passes
    · cases passes
    · split at passes
      · cases passes
      · cases passes
        exact ⟨rfl, rfl⟩

theorem step_eq_ok {event : Event} {opened : List (List Char)}
    (stepped : before.step event = .ok after) (path : before.path = opened.map String.ofList) :
    after.path = (openedBehind opened [event]).map String.ofList ∧
      after.text = textBehind before.text [event] := by
  cases event with
  | opening name =>
      cases stepped
      exact ⟨by rw [opening_path, path]; rfl, rfl⟩
  | empty name =>
      obtain ⟨samePath, sameText⟩ := empty_eq_ok stepped
      exact ⟨by rw [samePath, path]; rfl, sameText⟩
  | closing name =>
      simp only [step] at stepped
      split at stepped
      · cases stepped
      · next tag path' isPath =>
          obtain ⟨samePath, sameText⟩ := closed_eq_ok stepped
          refine ⟨?_, sameText⟩
          rw [samePath, openedBehind, openedBehind, List.map_tail, ← path, isPath]
          rfl
  | text content =>
      cases stepped
      exact ⟨path, rfl⟩
  | verbatim content =>
      cases stepped
      exact ⟨path, rfl⟩

theorem run_eq_ok {events : List Event} {opened : List (List Char)}
    (ran : before.run events = .ok after) (path : before.path = opened.map String.ofList) :
    after.path = (openedBehind opened events).map String.ofList ∧
      after.text = textBehind before.text events := by
  induction events generalizing before opened with
  | nil =>
      cases ran
      exact ⟨path, rfl⟩
  | cons event events inductionHypothesis =>
      rw [run] at ran
      cases stepped : before.step event with
      | error fault =>
          rw [stepped] at ran
          cases ran
      | ok inside =>
          rw [stepped] at ran
          obtain ⟨insidePath, insideText⟩ := step_eq_ok stepped path
          have behind := inductionHypothesis ran insidePath
          rw [insideText] at behind
          cases event with
          | _ => exact behind

theorem run_start_eq_ok {events : List Event} (ran : Progress.start.run events = .ok after) :
    after.path = (openedBehind [] events).map String.ofList ∧
      after.text = textBehind [] events :=
  run_eq_ok ran rfl

theorem run_of_texts {events : List Event} (texts : AreTexts events) (before : Progress) :
    before.run events = .ok { before with text := textBehind before.text events } := by
  induction events generalizing before with
  | nil => rfl
  | cons event events inductionHypothesis =>
      rw [AreTexts, List.forall_mem_cons] at texts
      obtain ⟨content, rfl | rfl⟩ := texts.1
      · exact inductionHypothesis texts.2 { before with text := before.text ++ content }
      · exact inductionHypothesis texts.2 { before with text := before.text ++ content }

end Progress

def openPath (pieces : List Markup.Piece) : List String :=
  (openedBehind [] (Markup.readAll [] pieces).1).map String.ofList

def gathered (pieces : List Markup.Piece) : List Char :=
  textBehind [] (Markup.readAll [] pieces).1

theorem path_of_run {pieces : List Markup.Piece} {progress : Progress}
    (ran : Progress.start.run (Markup.readAll [] pieces).1 = .ok progress) :
    progress.path = openPath pieces ∧ progress.text = gathered pieces :=
  Progress.run_start_eq_ok ran

section Front

open Markup (Begins Piece continued readAll)

variable {front first second : List Piece} {rest : List Char} {document other : String}

theorem services_of_begins (begins : Begins (front ++ first) rest document.toList) :
    (∃ fault, (readAll [] front).2 = .error fault ∧ ∃ given, services document = .error given) ∨
      ∃ opened, (readAll [] front).2 = .ok opened ∧
        services document = match Progress.start.run (readAll [] front).1 with
          | .error fault => .error fault
          | .ok inside => outcome inside (continued (readAll opened first) rest) := by
  rw [services_eq, begins.scan, Markup.readAll_append]
  cases read : (readAll [] front).2 with
  | error fault => exact .inl ⟨fault, rfl, exists_outcome_of_fault _ _ fault⟩
  | ok opened =>
      refine .inr ⟨opened, rfl, ?_⟩
      rw [← outcome_followedBy, ← Markup.continued_append]

/-- Two documents with the same front are both rejected for it, or what follows it is read from the
same state on. -/
theorem same_front (begins : Begins (front ++ first) rest document.toList)
    (begins' : Begins (front ++ second) rest other.toList) :
    (IsRejected document ∧ IsRejected other) ∨
      ∃ opened inside, Progress.start.run (readAll [] front).1 = .ok inside ∧
        services document = outcome inside (continued (readAll opened first) rest) ∧
          services other = outcome inside (continued (readAll opened second) rest) := by
  rcases services_of_begins begins with ⟨fault, failed, given, isError⟩ | ⟨opened, read, behind⟩
  · rcases services_of_begins begins' with ⟨_, _, given', isError'⟩ | ⟨opened, read, -⟩
    · exact .inl ⟨isRejected_of_error isError, isRejected_of_error isError'⟩
    · rw [failed] at read
      cases read
  · rcases services_of_begins begins' with ⟨_, failed, -⟩ | ⟨opened', read', behind'⟩
    · rw [failed] at read
      cases read
    · obtain rfl : opened = opened' := Except.ok.inj (read.symm.trans read')
      cases ran : Progress.start.run (readAll [] front).1 with
      | error fault =>
          rw [ran] at behind behind'
          exact .inl ⟨isRejected_of_error behind, isRejected_of_error behind'⟩
      | ok inside =>
          rw [ran] at behind behind'
          exact .inr ⟨opened, inside, rfl, behind, behind'⟩

end Front

end Listing

end VirtualTables
