import VirtualTables.Proofs.Listing.Outcome
import VirtualTables.Proofs.Markup.Forest

/-!
The elements that are open at each event of a listing.

Two stacks are kept while a listing is read: the reader of the document has one to check end tags,
and the progress of the listing has one to know the element around a text. They hold the same names
at every event, and those are the elements that the events so far leave open (`LeavesOpen`). So no
end tag comes when no element is open, and `ListingFault.unbalanced` is never the outcome.
-/

namespace VirtualTables

namespace Markup

/-- What a reader that checks end tags gives behind some open elements: every end tag names the
innermost element that is open in front of it. -/
def EndsMatch (opened : List (List Char)) : List Event → Prop
  | [] => True
  | .opening name :: events => EndsMatch (name :: opened) events
  | .closing name :: events => opened.head? = some name ∧ EndsMatch opened.tail events
  | _ :: events => EndsMatch opened events

/-- Some events are those of whole elements and texts, but for the start tags of some elements,
of which the innermost comes first. -/
inductive LeavesOpen : List Event → List String → Prop where
  | whole (content : Forest) : LeavesOpen content.events []
  | inside {front : List Event} {outer : List String} (tag : String) (content : Forest)
      (others : LeavesOpen front outer) :
      LeavesOpen (front ++ .opening tag.toList :: content.events) (tag :: outer)

/-- The element of a start tag is closed among the events behind the tag: its end tag comes, and
whole elements and texts in front of that. -/
def IsClosed (name : List Char) (behind : List Event) : Prop :=
  ∃ (content : Forest) (rest : List Event), behind = content.events ++ .closing name :: rest

section EndsMatch

variable {opened inner : List (List Char)} {found more : List Event}

theorem endsMatch_append :
    EndsMatch opened (found ++ more) ↔
      EndsMatch opened found ∧ EndsMatch (openedBehind opened found) more := by
  induction found generalizing opened with
  | nil => exact (and_iff_right trivial).symm
  | cons event found inductionHypothesis =>
      cases event with
      | opening name => exact inductionHypothesis
      | empty name => exact inductionHypothesis
      | closing name => exact (and_congr_right' inductionHypothesis).trans and_assoc.symm
      | text content => exact inductionHypothesis
      | verbatim content => exact inductionHypothesis

theorem endsMatch_closing {name : List Char}
    (ends : EndsMatch opened (.closing name :: more)) : ∃ outer, opened = name :: outer := by
  obtain ⟨outer, rfl⟩ := List.head?_eq_some_iff.mp ends.1
  exact ⟨outer, rfl⟩

theorem Advances.endsMatch (advances : Advances opened found inner) : EndsMatch opened found := by
  cases advances with
  | closing name => exact ⟨rfl, trivial⟩
  | _ => trivial

theorem endsMatch_of_readAll {pieces : List Piece}
    (read : readAll opened pieces = (found, .ok inner)) : EndsMatch opened found := by
  induction pieces generalizing opened found with
  | nil =>
      cases read
      trivial
  | cons piece pieces inductionHypothesis =>
      obtain ⟨first, inside, others, readFirst, readOthers, rfl⟩ := readAll_cons_eq_ok read
      have isInside : inside = openedBehind opened first := Piece.opened_of_read readFirst
      exact endsMatch_append.mpr
        ⟨(Piece.advances readFirst).endsMatch, isInside ▸ inductionHypothesis readOthers⟩

/-- The end tags of every document match, up to its end or its first failure. -/
theorem endsMatch_scan (document : List Char) : EndsMatch [] (scan document).1 := by
  have given : scan document = ((scan document).1 ++ [], (scan document).2) := by
    rw [List.append_nil]
  obtain ⟨pieces, rest, opened, -, read, -⟩ := exists_begins_of_given given
  exact endsMatch_of_readAll read

end EndsMatch

section Forest

variable {found front behind : List Event} {names : List String} {name : List Char}

@[simp]
theorem openedBehind_forest (opened : List (List Char)) (content : Forest) :
    openedBehind opened content.events = opened := by
  induction content generalizing opened with
  | nil => rfl
  | element tag content rest insideHypothesis restHypothesis =>
      simp only [Forest.events, openedBehind, openedBehind_append, insideHypothesis, List.tail_cons,
        restHypothesis]
  | selfClosed tag rest inductionHypothesis => exact inductionHypothesis opened
  | text content rest inductionHypothesis => exact inductionHypothesis opened
  | verbatim content rest inductionHypothesis => exact inductionHypothesis opened

theorem endsMatch_forest (opened : List (List Char)) (content : Forest) :
    EndsMatch opened content.events := by
  induction content generalizing opened with
  | nil => trivial
  | element tag content rest insideHypothesis restHypothesis =>
      refine endsMatch_append.mpr ⟨insideHypothesis _, ?_⟩
      rw [openedBehind_forest]
      exact ⟨rfl, restHypothesis opened⟩
  | selfClosed tag rest inductionHypothesis => exact inductionHypothesis opened
  | text content rest inductionHypothesis => exact inductionHypothesis opened
  | verbatim content rest inductionHypothesis => exact inductionHypothesis opened

theorem not_isClosed_forest (name : List Char) (content : Forest) :
    ¬ IsClosed name content.events := by
  rintro ⟨inside, rest, split⟩
  have ends := endsMatch_forest [] content
  rw [split, endsMatch_append, openedBehind_forest] at ends
  obtain ⟨outer, nothing⟩ := endsMatch_closing ends.2
  cases nothing

theorem IsClosed.append (closed : IsClosed name behind) (more : List Event) :
    IsClosed name (behind ++ more) := by
  obtain ⟨content, rest, rfl⟩ := closed
  exact ⟨content, rest ++ more, by rw [List.append_assoc, List.cons_append]⟩

theorem isClosed_of_forest {content : Forest}
    (split : content.events = front ++ .opening name :: behind) : IsClosed name behind := by
  induction content generalizing front behind with
  | nil => simp [Forest.events] at split
  | element tag content rest insideHypothesis restHypothesis =>
      rw [Forest.events] at split
      cases front with
      | nil =>
          obtain ⟨isName, rfl⟩ := List.cons.inj split
          cases isName
          exact ⟨content, rest.events, rfl⟩
      | cons event front =>
          have parts := (List.cons.inj split).2
          rcases List.append_eq_append_iff.mp parts with
            ⟨between, rfl, ends⟩ | ⟨within, isInside, begins⟩
          · -- The start tag stands behind the end tag of the first element.
            cases between with
            | nil => cases ends
            | cons event between => exact restHypothesis (List.cons.inj ends).2
          · cases within with
            | nil => cases begins
            | cons event within =>
                obtain ⟨rfl, rfl⟩ := List.cons.inj begins
                exact (insideHypothesis isInside).append _
  | selfClosed _ rest inductionHypothesis | text _ rest inductionHypothesis
  | verbatim _ rest inductionHypothesis =>
      cases front with
      | nil => cases split
      | cons event front => exact inductionHypothesis (List.cons.inj split).2

end Forest

namespace LeavesOpen

variable {found : List Event} {names : List String}

theorem behind (leaves : LeavesOpen found names) (more : Forest) :
    LeavesOpen (found ++ more.events) names := by
  cases leaves with
  | whole content =>
      rw [← Forest.events_append]
      exact .whole _
  | inside tag content others =>
      rw [List.append_assoc, List.cons_append, ← Forest.events_append]
      exact .inside tag _ others

theorem openedBehind_eq (leaves : LeavesOpen found names) :
    openedBehind [] found = names.map String.toList := by
  induction leaves with
  | whole content => exact openedBehind_forest [] content
  | inside tag content others inductionHypothesis =>
      rw [openedBehind_append, openedBehind, openedBehind_forest, inductionHypothesis]
      rfl

theorem unique {others : List String} (leaves : LeavesOpen found names)
    (leavesOthers : LeavesOpen found others) : others = names := by
  have injective : Function.Injective String.toList := fun _ _ => String.toList_injective
  exact List.map_injective_iff.mpr injective
    (leavesOthers.openedBehind_eq.symm.trans leaves.openedBehind_eq)

/-- No element is left open if and only if every element is closed behind its start tag. -/
theorem eq_nil_iff (leaves : LeavesOpen found names) :
    names = [] ↔
      ∀ front name behind, found = front ++ .opening name :: behind → IsClosed name behind := by
  cases leaves with
  | whole content => exact iff_of_true rfl fun front name behind => isClosed_of_forest
  | @inside front outer tag content others =>
      refine iff_of_false (List.cons_ne_nil tag outer) fun closed => ?_
      exact not_isClosed_forest tag.toList content (closed front _ _ rfl)

end LeavesOpen

/-- Events with matching end tags are those of elements and texts, and they leave those elements
open whose names a stack of names holds behind them. -/
theorem leavesOpen_of_endsMatch {found : List Event} (ends : EndsMatch [] found) :
    LeavesOpen found ((openedBehind [] found).map String.ofList) := by
  induction found using List.reverseRecOn with
  | nil => exact .whole .nil
  | append_singleton found event inductionHypothesis =>
      obtain ⟨matched, last⟩ := endsMatch_append.mp ends
      have leaves := inductionHypothesis matched
      rw [openedBehind_append]
      cases event with
      | opening name =>
          have opens := leaves.inside (String.ofList name) .nil
          rwa [String.toList_ofList] at opens
      | empty name =>
          have passes := leaves.behind (.selfClosed (String.ofList name) .nil)
          rwa [Forest.events, String.toList_ofList] at passes
      | closing name =>
          obtain ⟨outer, isOpen⟩ := endsMatch_closing last
          rw [isOpen] at leaves ⊢
          -- The innermost element becomes a whole one.
          cases leaves with
          | @inside front _ _ content others =>
              have closes := others.behind (.element (String.ofList name) content .nil)
              rw [Forest.events, String.toList_ofList] at closes
              rwa [List.append_assoc, List.cons_append, String.toList_ofList]
      | text content => exact leaves.behind (.text content .nil)
      | verbatim content => exact leaves.behind (.verbatim content .nil)

end Markup

namespace ListingFault

theorem head?_toList_append {front behind : String} {first : Char}
    (begins : front.toList.head? = some first) :
    (front ++ behind).toList.head? = some first := by
  rw [String.toList_append, List.head?_append, begins]
  rfl

theorem head?_message {fault : ListingFault} (other : fault ≠ .unbalanced) :
    ∃ first, fault.message.toList.head? = some first ∧ first ≠ 'U' := by
  cases fault with
  | unbalanced => exact absurd rfl other
  | malformed fault => exact ⟨'M', head?_toList_append (by decide), by decide⟩
  | namelessService => exact ⟨'S', by decide, by decide⟩
  | emptyField => exact ⟨'S', by decide, by decide⟩
  | noListing => exact ⟨'S', by decide, by decide⟩
  | unfinished path =>
      refine ⟨'S', ?_, by decide⟩
      repeat apply head?_toList_append
      decide
  | namelessField | typelessField | unknownType =>
      refine ⟨'F', ?_, by decide⟩
      repeat apply head?_toList_append
      decide

theorem message_eq_unbalanced_iff {fault : ListingFault} :
    fault.message = "Unbalanced service listing" ↔ fault = .unbalanced := by
  refine ⟨fun same => ?_, fun same => congrArg message same⟩
  by_contra other
  obtain ⟨first, begins, differs⟩ := head?_message other
  rw [same] at begins
  exact differs (Option.some.inj begins).symm

end ListingFault

namespace Listing

open Markup (Begins EndsMatch Event Forest IsClosed LeavesOpen openedBehind readAll)

theorem PendingField.finish_ne_unbalanced (field : PendingField) (service : Option String) :
    field.finish service ≠ .error .unbalanced := by
  unfold PendingField.finish
  split
  · nofun
  · nofun
  · split
    · nofun
    · nofun

theorem PendingService.finish_ne_unbalanced (service : PendingService) :
    service.finish ≠ .error .unbalanced := by
  unfold PendingService.finish
  split
  · nofun
  · split
    · nofun
    · nofun

namespace Progress

variable {before after : Progress}

theorem closed_ne_unbalanced (progress : Progress) (tag : String) (parent : Option String)
    (text : List Char) : progress.closed tag parent text ≠ .error .unbalanced := by
  unfold closed
  split
  · nofun
  · nofun
  · nofun
  · nofun
  · nofun
  · unfold endField
    split
    · split
      · next failed =>
          intro same
          cases same
          exact PendingField.finish_ne_unbalanced _ _ failed
      · nofun
    · nofun
  · unfold endService
    split
    · nofun
    · split
      · next failed =>
          intro same
          cases same
          exact PendingService.finish_ne_unbalanced _ failed
      · nofun
  · nofun

theorem step_eq_unbalanced {event : Event} (failed : before.step event = .error .unbalanced) :
    (∃ name, event = .closing name) ∧ before.path = [] := by
  cases event with
  | opening name => cases failed
  | empty name =>
      simp only [step, empty] at failed
      split at failed
      · cases failed
      · split at failed
        · cases failed
        · split at failed
          · cases failed
          · cases failed
  | closing name =>
      refine ⟨⟨name, rfl⟩, ?_⟩
      simp only [step] at failed
      split at failed
      · next isEmpty => exact isEmpty
      · exact absurd failed (closed_ne_unbalanced _ _ _ _)
  | text content => cases failed
  | verbatim content => cases failed

theorem run_ne_unbalanced {found : List Event} {opened : List (List Char)}
    (ends : EndsMatch opened found) (path : before.path = opened.map String.ofList) :
    before.run found ≠ .error .unbalanced := by
  induction found generalizing before opened with
  | nil => nofun
  | cons event found inductionHypothesis =>
      rw [← List.singleton_append, Markup.endsMatch_append] at ends
      obtain ⟨first, others⟩ := ends
      rw [run]
      cases stepped : before.step event with
      | error fault =>
          intro same
          cases same
          obtain ⟨⟨name, rfl⟩, isEmpty⟩ := step_eq_unbalanced stepped
          obtain ⟨outer, rfl⟩ := Markup.endsMatch_closing first
          rw [path] at isEmpty
          cases isEmpty
      | ok inside => exact inductionHypothesis others (step_eq_ok stepped path).1

theorem finish_ne_unbalanced (progress : Progress) : progress.finish ≠ .error .unbalanced := by
  unfold finish
  split
  · nofun
  · split
    · nofun
    · nofun

end Progress

/-- Behind every front of the events of a document, the names that the progress holds are those that
the reader holds, and the elements with these names are open. -/
theorem path_of_scan {document : List Char} {found later : List Event}
    {fault? : Option Markup.Fault} {progress : Progress}
    (scanned : Markup.scan document = (found ++ later, fault?))
    (ran : Progress.start.run found = .ok progress) :
    progress.path = (openedBehind [] found).map String.ofList ∧ EndsMatch [] (found ++ later) ∧
      LeavesOpen found progress.path := by
  have ends := Markup.endsMatch_scan document
  rw [scanned] at ends
  have path := (Progress.run_start_eq_ok ran).1
  have leaves := Markup.leavesOpen_of_endsMatch (Markup.endsMatch_append.mp ends).1
  exact ⟨path, ends, path ▸ leaves⟩

theorem services_ne_unbalanced (document : String) : services document ≠ .error .unbalanced := by
  rw [services_eq, outcome]
  have atTop : Progress.start.path = ([] : List (List Char)).map String.ofList := rfl
  have runs := Progress.run_ne_unbalanced (Markup.endsMatch_scan document.toList) atTop
  split
  · next failed =>
      intro same
      cases same
      exact runs failed
  · nofun
  · exact Progress.finish_ne_unbalanced _

/-- The reading of a listing never fails for want of balance. At every event, the progress and the
reader hold the names of the same open elements, and those are the elements that the events so far
leave open; an end tag closes the innermost of them, and none is held if and only if every element
has been closed. -/
theorem services_balanced (document : String) :
    (∀ fault, services document = .error fault → fault.message ≠ "Unbalanced service listing") ∧
      ∀ found later fault? progress, Markup.scan document.toList = (found ++ later, fault?) →
        Progress.start.run found = .ok progress →
          (∃ pieces rest opened, Begins pieces rest document.toList ∧
            readAll [] pieces = (found, .ok opened) ∧
              Markup.events opened rest = (later, fault?) ∧
                progress.path = opened.map String.ofList) ∧
          (∀ names, LeavesOpen found names ↔ names = progress.path) ∧
          (∀ name behind, later = .closing name :: behind →
            ∃ (front : List Event) (content : Forest) (outer : List String),
              found = front ++ .opening name :: content.events ∧
                progress.path = String.ofList name :: outer ∧ LeavesOpen front outer) ∧
          (progress.path = [] ↔
            ∀ front name behind, found = front ++ .opening name :: behind →
              IsClosed name behind) := by
  refine ⟨fun fault failed message => ?_, fun found later fault? progress scanned ran => ?_⟩
  · rw [ListingFault.message_eq_unbalanced_iff.mp message] at failed
    exact services_ne_unbalanced document failed
  obtain ⟨path, ends, leaves⟩ := path_of_scan scanned ran
  refine ⟨?_, fun names => ⟨leaves.unique, ?_⟩, ?_, leaves.eq_nil_iff⟩
  · obtain ⟨pieces, rest, opened, begins, read, isLater⟩ := Markup.exists_begins_of_given scanned
    exact ⟨pieces, rest, opened, begins, read, isLater, by rw [path, Markup.opened_of_readAll read]⟩
  · rintro rfl
    exact leaves
  · rintro name behind rfl
    obtain ⟨outer, isOpen⟩ := Markup.endsMatch_closing (Markup.endsMatch_append.mp ends).2
    rw [path, isOpen] at leaves ⊢
    cases leaves with
    | @inside front _ _ content others =>
        exact ⟨front, content, _, by rw [String.toList_ofList], rfl, others⟩

/-- An element within another of the same name, and an end tag that names no open element. -/
theorem services_balanced_mismatched :
    let document := "<services><a/><b><b>x</b><!--</b>--></b></c>"
    let found : List Event :=
      [.opening "services".toList, .empty ['a'], .opening ['b'], .opening ['b'], .text ['x'],
        .closing ['b']]
    let fault : Markup.Fault := .mismatchedEnd "services" "c"
    let progress : Progress := ⟨["b", "services"], [], true, [], none, none⟩
    services document = .error (.malformed fault) ∧
      Markup.scan document.toList = (found ++ [.closing ['b']], some fault) ∧
      Progress.start.run found = .ok progress ∧
      (ListingFault.malformed fault).message ≠ "Unbalanced service listing" ∧
      (∀ names, LeavesOpen found names ↔ names = ["b", "services"]) ∧
      (∃ (front : List Event) (content : Forest),
        found = front ++ .opening ['b'] :: content.events ∧ LeavesOpen front ["services"]) ∧
      ¬ ∀ front name behind, found = front ++ .opening name :: behind → IsClosed name behind := by
  intro document found fault progress
  have failed : services document = .error (.malformed fault) := by decide +kernel
  have scanned : Markup.scan document.toList = (found ++ [.closing ['b']], some fault) := by
    decide +kernel
  have ran : Progress.start.run found = .ok progress := rfl
  obtain ⟨noFault, atEvent⟩ := services_balanced document
  obtain ⟨-, leaves, closes, isEmpty⟩ := atEvent found _ _ progress scanned ran
  obtain ⟨front, content, outer, split, path, others⟩ := closes ['b'] [] rfl
  obtain rfl : outer = ["services"] := (List.cons.inj path).2.symm
  exact ⟨failed, scanned, ran, noFault _ failed, leaves, ⟨front, content, split, others⟩,
    fun closed => absurd (isEmpty.mpr closed) (List.cons_ne_nil _ _)⟩

end Listing

end VirtualTables
