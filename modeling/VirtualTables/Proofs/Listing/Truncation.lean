import VirtualTables.Proofs.Listing.Outcome

/-!
Listings that are cut short.

Behind a cut, reading fails within a bracket, or it comes to an end with all pieces in front of the
cut read and perhaps a part of a text (`breaksOff_of_cut`). In the second case the cut lies in front
of the root, so that no listing has begun, or within it, so that the root is still open
(`texts_or_open`).
-/

namespace VirtualTables

namespace Markup

/-- The tag of an element, at its beginning, at its end or for the whole of it. -/
def Piece.IsTag : Piece → Prop
  | .bracketed (.start _) => True
  | .bracketed (.empty _) => True
  | .bracketed (.finish _) => True
  | _ => False

/-- Pieces close every element that they open, and some that are open in front of them. -/
inductive IsBalanced : Nat → List Piece → Prop where
  | nil : IsBalanced 0 []
  | start {depth : Nat} {content : List Char} {pieces : List Piece}
      (others : IsBalanced (depth + 1) pieces) :
      IsBalanced depth (.bracketed (.start content) :: pieces)
  | finish {depth : Nat} {content : List Char} {pieces : List Piece}
      (others : IsBalanced depth pieces) :
      IsBalanced (depth + 1) (.bracketed (.finish content) :: pieces)
  | empty {depth : Nat} {content : List Char} {pieces : List Piece}
      (others : IsBalanced depth pieces) : IsBalanced depth (.bracketed (.empty content) :: pieces)
  | bare {depth : Nat} {piece : Piece} {pieces : List Piece} (bare : ¬ piece.IsTag)
      (others : IsBalanced depth pieces) : IsBalanced depth (piece :: pieces)

/-- One element with a tag and all that stands inside it. -/
inductive IsElement (tag : String) : List Piece → Prop where
  | selfClosed {content : List Char} (named : tagName content = tag.toList) :
      IsElement tag [.bracketed (.empty content)]
  | element {content ending : List Char} {inside : List Piece}
      (named : tagName content = tag.toList) (balanced : IsBalanced 0 inside) :
      IsElement tag (.bracketed (.start content) :: (inside ++ [.bracketed (.finish ending)]))

/-- Reading the front of some pieces fails, or it ends in front of one of them or within a text. -/
inductive BreaksOff (opened : List (List Char)) (pieces : List Piece) :
    List Event × Option Fault → Prop where
  | failed {found : List Event} {fault : Fault} : BreaksOff opened pieces (found, some fault)
  | ended {done left : List Piece} {found : List Event} {inner : List (List Char)}
      {text : List Char} (split : pieces = done ++ left) (nonempty : left ≠ [])
      (read : readAll opened done = (found, .ok inner)) :
      BreaksOff opened pieces (found ++ textEvents text, none)

section Cut

variable {pieces done left : List Piece} {opened inner : List (List Char)} {found : List Event}
  {rest cut more : List Char}

theorem breaksOff_here (nonempty : pieces ≠ []) (text : List Char) :
    BreaksOff opened pieces (textEvents text, none) := by
  have nothing : readAll opened [] = ([], .ok opened) := rfl
  exact .ended (List.nil_append pieces).symm nonempty nothing

theorem BreaksOff.behind {piece : Piece} {scanned : List Event × Option Fault}
    (read : piece.read opened = .ok (found, inner)) (breaks : BreaksOff inner pieces scanned) :
    BreaksOff opened (piece :: pieces) (followedBy found scanned) := by
  cases breaks with
  | failed => exact .failed
  | @ended done left others deeper text split nonempty readDone =>
      have readAll : readAll opened (piece :: done) = (found ++ others, .ok deeper) := by
        rw [Markup.readAll, read]
        simp only [readDone]
      rw [followedBy, ← List.append_assoc]
      exact .ended (by rw [split]; rfl) nonempty readAll

/-- A cut within some pieces leaves a bracket open, or some pieces in front of the cut and perhaps a
part of a text. -/
theorem breaksOff_of_cut (stands : Stands pieces rest) (parts : cut ++ more = written pieces)
    (proper : more ≠ []) (opened : List (List Char)) :
    BreaksOff opened pieces (events opened cut) := by
  induction stands generalizing opened cut with
  | nil => exact absurd (List.append_eq_nil_iff.mp parts).2 proper
  | @bracketed piece pieces rest sound _ inductionHypothesis =>
      have whole : written (.bracketed piece :: pieces) =
          '<' :: (piece.inside ++ '>' :: written pieces) := by
        simp [written_cons, Piece.written]
      rw [whole] at parts
      cases cut with
      | nil =>
          rw [events_nil]
          exact breaksOff_here (List.cons_ne_nil _ _) []
      | cons bracket cut =>
          rw [List.cons_append] at parts
          obtain ⟨rfl, inside⟩ := List.cons.inj parts
          rw [events_bracket]
          cases constructed : construct opened cut with
          | error fault => exact .failed
          | ok result =>
              -- More behind the cut does not change what is read in front of it.
              have extended := construct_append constructed more
              rw [inside, construct_inside sound] at extended
              cases read : piece.read opened with
              | error fault =>
                  rw [read] at extended
                  cases extended
              | ok given =>
                  rw [read] at extended
                  obtain ⟨same, sameOpened, behind⟩ := Construct.mk.inj (Except.ok.inj extended)
                  have readPiece : Piece.read opened (.bracketed piece) =
                      .ok (result.event?.toList, result.opened) := by
                    rw [Piece.read, read, ← same, ← sameOpened]
                    rfl
                  exact .behind readPiece (inductionHypothesis behind.symm _)
  | @text content rest pieces nonempty noTag ends others inductionHypothesis =>
      rw [written_cons] at parts
      change cut ++ more = content ++ written pieces at parts
      rcases List.append_eq_append_iff.mp parts with ⟨behind, rfl, -⟩ | ⟨within, rfl, others⟩
      · have noTag : '<' ∉ cut := fun inside => noTag (List.mem_append_left behind inside)
        have read : events opened (cut ++ []) = _ :=
          events_run noTag fun other isFirst => absurd isFirst (Option.not_mem_none other)
        rw [List.append_nil] at read
        rw [read]
        cases resolve 0 (Text.stripBoth isBlank cut) with
        | error fault => exact .failed
        | ok resolved =>
            rw [events_nil]
            simp only [followedBy, List.append_nil]
            exact breaksOff_here (List.cons_ne_nil _ _) resolved
      · have ends : ∀ other ∈ within.head?, other = '<' := by
          intro other isFirst
          refine ends other ?_
          rw [others, List.append_assoc, List.head?_append, Option.mem_def.mp isFirst]
          rfl
        rw [events_text noTag ends]
        cases readPiece : Piece.read opened (.text content) with
        | error fault => exact .failed
        | ok read => exact .behind readPiece (inductionHypothesis others.symm _)

theorem opened_of_finish {content : List Char}
    (read : Piece.read opened (.bracketed (.finish content)) = .ok (found, inner)) :
    opened.length ≤ inner.length + 1 := by
  cases opened with
  | nil => cases read
  | cons name outer =>
      simp only [Piece.read, Bracketed.read] at read
      split at read
      · cases read
        exact Nat.le_refl _
      · cases read

theorem texts_of_bare {piece : Piece} (bare : ¬ piece.IsTag)
    (read : piece.read opened = .ok (found, inner)) : AreTexts found := by
  cases piece with
  | bracketed piece =>
      cases piece with
      | start content => exact absurd trivial bare
      | empty content => exact absurd trivial bare
      | finish content => exact absurd trivial bare
      | verbatim content =>
          cases read
          exact List.forall_mem_singleton.mpr ⟨content, .inr rfl⟩
      | comment content =>
          cases read
          exact List.forall_mem_nil _
      | instruction content =>
          cases read
          exact List.forall_mem_nil _
      | doctype initial content =>
          cases read
          exact List.forall_mem_nil _
  | text content =>
      simp only [Piece.read] at read
      split at read
      · cases read
      · cases read
        exact areTexts_textEvents _

theorem texts_of_all_bare (bare : ∀ piece ∈ pieces, ¬ piece.IsTag)
    (read : readAll opened pieces = (found, .ok inner)) : AreTexts found := by
  induction pieces generalizing opened found with
  | nil =>
      cases read
      exact List.forall_mem_nil _
  | cons piece pieces inductionHypothesis =>
      rw [List.forall_mem_cons] at bare
      obtain ⟨first, inside, others, readFirst, readOthers, rfl⟩ := readAll_cons_eq_ok read
      exact (texts_of_bare bare.1 readFirst).append (inductionHypothesis bare.2 readOthers)

/-- Of the elements open in front of pieces, only those that they close can have been closed within
them. -/
theorem balanced_length {depth : Nat} (balanced : IsBalanced depth (done ++ left))
    (read : readAll opened done = (found, .ok inner)) : opened.length ≤ inner.length + depth := by
  induction done generalizing depth opened found with
  | nil =>
      cases read
      exact Nat.le_add_right _ _
  | cons piece done inductionHypothesis =>
      obtain ⟨first, inside, others, readFirst, readOthers, -⟩ := readAll_cons_eq_ok read
      have isInside : inside = openedBehind opened first := Piece.opened_of_read readFirst
      cases balanced with
      | start balanced =>
          cases readFirst
          have behind := inductionHypothesis balanced readOthers
          rw [List.length_cons] at behind
          omega
      | finish balanced =>
          have behind := inductionHypothesis balanced readOthers
          have closes : opened.length ≤ inside.length + 1 := opened_of_finish readFirst
          omega
      | empty balanced =>
          cases readFirst
          exact inductionHypothesis balanced readOthers
      | bare bare balanced =>
          have behind := inductionHypothesis balanced readOthers
          rwa [isInside, openedBehind_of_texts (texts_of_bare bare readFirst)] at behind

/-- Within pieces that come to an element with nothing but texts in front of it, that element is
open unless it is not yet reached. -/
theorem texts_or_open {prolog root : List Piece} {tag : String}
    (bare : ∀ piece ∈ prolog, ¬ piece.IsTag) (element : IsElement tag root)
    (split : prolog ++ root = done ++ left) (nonempty : left ≠ [])
    (read : readAll [] done = (found, .ok inner)) : AreTexts found ∨ inner ≠ [] := by
  rcases List.append_eq_append_iff.mp split with ⟨begun, rfl, parts⟩ | ⟨others, rfl, -⟩
  · cases begun with
    | nil =>
        rw [List.append_nil] at read
        exact .inl (texts_of_all_bare bare read)
    | cons first begun =>
        cases element with
        | selfClosed =>
            obtain ⟨-, parts⟩ := List.cons.inj parts
            exact absurd (List.append_eq_nil_iff.mp parts.symm).2 nonempty
        | @element content ending inside named balanced =>
            obtain ⟨rfl, -⟩ := List.cons.inj parts
            obtain ⟨left, last, rfl⟩ := (List.eq_nil_or_concat' left).resolve_left nonempty
            rw [← List.cons_append, ← List.append_assoc] at parts
            obtain ⟨same, -⟩ := List.append_inj' parts rfl
            obtain ⟨-, rfl⟩ := List.cons.inj same
            obtain ⟨front, outer, behind, readFront, readBehind, -⟩ := readAll_append_eq_ok read
            obtain ⟨_, inside, _, readFirst, readOthers, -⟩ := readAll_cons_eq_ok readBehind
            cases readFirst
            -- The start tag of the root has been read, and none of the end tags that follow is
            -- its own.
            have deep := balanced_length balanced readOthers
            refine .inr fun closed => ?_
            rw [closed, List.length_cons] at deep
            exact absurd deep (Nat.not_succ_le_zero _)
  · exact .inl (texts_of_all_bare
      (fun piece inside => bare piece (List.mem_append_left others inside)) read)

end Cut

/-- A document is one element with a tag, and there are no other tags around it. -/
structure IsRooted (tag : String) (prolog root epilog : List Piece) (document : List Char) :
    Prop where
  begins : Begins (prolog ++ root ++ epilog) [] document
  prolog : ∀ piece ∈ prolog, ¬ piece.IsTag
  element : IsElement tag root
  epilog : ∀ piece ∈ epilog, ¬ piece.IsTag

section Rooted

variable {tag : String} {prolog root epilog : List Piece} {document cut : List Char}

theorem IsElement.written_ne_nil (element : IsElement tag root) : written root ≠ [] := by
  cases element with
  | selfClosed => exact List.cons_ne_nil _ _
  | element => exact List.cons_ne_nil _ _

theorem IsRooted.exists_behind (rooted : IsRooted tag prolog root epilog document)
    (isPrefix : cut <+: document)
    (short : cut.length + (written epilog).length < document.length) :
    ∃ behind, behind ≠ [] ∧ unmarked cut ++ behind = written (prolog ++ root) := by
  obtain ⟨behind, rfl⟩ := isPrefix
  by_cases empty : cut = []
  · subst empty
    refine ⟨written (prolog ++ root), fun nothing => ?_, rfl⟩
    rw [written_append, List.append_eq_nil_iff] at nothing
    exact rooted.element.written_ne_nil nothing.2
  · have whole := rooted.begins.written
    rw [unmarked_append empty, written_append, List.append_nil] at whole
    rw [List.length_append] at short
    rcases List.append_eq_append_iff.mp whole with ⟨within, isWritten, rfl⟩ | ⟨beyond, _, isWritten⟩
    · refine ⟨within, ?_, isWritten.symm⟩
      rintro rfl
      exact absurd short (Nat.lt_irrefl _)
    · have := congrArg List.length isWritten
      rw [List.length_append] at this
      omega

end Rooted

end Markup

namespace Listing

open Markup

variable {tag : String} {prolog root : List Piece} {scanned : List Event × Option Markup.Fault}

theorem exists_fault_of_breaksOff (bare : ∀ piece ∈ prolog, ¬ piece.IsTag)
    (element : IsElement tag root) (breaks : BreaksOff [] (prolog ++ root) scanned) :
    ∃ fault, outcome .start scanned = .error fault := by
  cases breaks with
  | failed => exact exists_outcome_of_fault _ _ _
  | @ended done left found inner text split nonempty read =>
      unfold outcome
      dsimp only
      cases ran : Progress.start.run (found ++ textEvents text) with
      | error fault => exact ⟨fault, rfl⟩
      | ok progress =>
          rcases texts_or_open bare element split nonempty read with texts | isOpen
          · rw [Progress.run_of_texts (texts.append (areTexts_textEvents text))] at ran
            cases ran
            exact ⟨.noListing, rfl⟩
          · obtain ⟨path, -⟩ := Progress.run_start_eq_ok ran
            rw [openedBehind_append, ← opened_of_readAll read,
              openedBehind_of_texts (areTexts_textEvents text)] at path
            have isOpen : (!progress.path.isEmpty) = true := by simpa [path] using isOpen
            exact ⟨.unfinished progress.path.reverse, if_pos isOpen⟩

/-- A document that is accepted consists of pieces. If its root is one element `services`, then
nothing that ends before this element does is accepted. -/
theorem services_cut {document : String} {found : List Service}
    (accepted : services document = .ok found) :
    (∃ pieces, Begins pieces [] document.toList) ∧
      ∀ prolog root epilog, IsRooted "services" prolog root epilog document.toList →
        ∀ cut : String, cut.toList <+: document.toList →
          cut.toList.length + (written epilog).length < document.toList.length →
            IsRejected cut := by
  refine ⟨exists_begins (outcome_eq_ok_iff.mp accepted).1, ?_⟩
  intro prolog root epilog rooted cut isPrefix short
  obtain ⟨behind, proper, parts⟩ := rooted.exists_behind isPrefix short
  have stands := (stands_append_iff.mp rooted.begins.stands).1
  have breaks := breaksOff_of_cut stands parts proper []
  rw [← scan_eq] at breaks
  obtain ⟨fault, failed⟩ := exists_fault_of_breaksOff rooted.prolog rooted.element breaks
  exact isRejected_of_error failed

theorem services_cut_behind_service :
    let document := "<!--x--><services a='>'><service><name>b</name></service>\n</services>\n"
    services document = .ok [⟨"b", []⟩] ∧
      IsRejected "<!--x--><services a='>'><service><name>b</name></service>" := by
  intro document
  have accepted : services document = .ok [⟨"b", []⟩] := by decide +kernel
  refine ⟨accepted, ?_⟩
  let prolog : List Piece := [.bracketed (.comment ['x'])]
  let inside : List Piece :=
    [.bracketed (.start "service".toList), .bracketed (.start "name".toList), .text ['b'],
      .bracketed (.finish "name".toList), .bracketed (.finish "service".toList), .text ['\n']]
  let root : List Piece :=
    .bracketed (.start "services a='>'".toList) ::
      (inside ++ [.bracketed (.finish "services".toList)])
  have bare (content : List Char) : ¬ Piece.IsTag (.text content) := id
  have balanced : IsBalanced 0 inside :=
    .start (.start (.bare (bare _) (.finish (.finish (.bare (bare _) .nil)))))
  have rooted : IsRooted "services" prolog root [.text ['\n']] document.toList :=
    ⟨by decide +kernel, List.forall_mem_singleton.mpr id, .element (by decide) balanced,
      List.forall_mem_singleton.mpr (bare _)⟩
  exact (services_cut accepted).2 prolog root _ rooted _ (by decide) (by decide)

end Listing

end VirtualTables
