import VirtualTables.Proofs.Listing.Likeness
import VirtualTables.Proofs.Markup.Division

/-!
Comments within texts.

A comment divides a text, and each part is delivered without the blanks at its ends. So the gathered
texts are the same, or they differ by a gap that stood between words (`Markup.read_divided`). A gap
in a name or a dimension makes another one of it. It never makes a name empty, and it never stood in
the name of a type (`trim_of_solid`); that is why a listing stays one with a comment anywhere.
-/

namespace VirtualTables.Listing

open Markup (Begins Event Piece CutsReference continued readAll textEvents)
open Text (HasGap exists_gap stripBoth_eq_iff stripBoth_eq_nil_iff trim)

section Gap

variable {front gap behind : List Char}

theorem trim_ne_nil_of_gap (blank : ∀ character ∈ gap, Text.isBlank character = true)
    (nonempty : trim (front ++ gap ++ behind) ≠ []) : trim (front ++ behind) ≠ [] := by
  refine fun nothing => nonempty ?_
  rw [trim, stripBoth_eq_nil_iff, List.forall_mem_append] at nothing ⊢
  exact ⟨List.forall_mem_append.mpr ⟨nothing.1, blank⟩, nothing.2⟩

theorem trim_of_solid (blank : ∀ character ∈ gap, Text.isBlank character = true)
    (solid : ∀ character ∈ trim (front ++ gap ++ behind), Text.isBlank character = false) :
    trim (front ++ behind) = trim (front ++ gap ++ behind) := by
  cases gap with
  | nil => rw [List.append_nil]
  | cons first gap =>
      have same : trim (first :: gap ++ behind) = trim behind := by
        rw [trim, Text.stripBoth, List.dropWhile_append_of_pos blank]
        rfl
      obtain ⟨lost, isWhole, blankLost, lost_iff⟩ :=
        exists_gap Text.isBlank front (first :: gap ++ behind)
      obtain ⟨kept, isDivided, -, kept_iff⟩ := exists_gap Text.isBlank front behind
      rw [← List.append_assoc] at isWhole
      have nothing : lost = [] := by
        refine List.eq_nil_iff_forall_not_mem.mpr fun character inside => ?_
        have isSolid := solid character (by rw [trim, isWhole]; simp [inside])
        rw [blankLost character inside] at isSolid
        cases isSolid
      -- White space is lost between words only, and none was there.
      have noGap : ¬ HasGap Text.isBlank front behind := by
        rintro ⟨left, right, -⟩
        refine lost_iff.mp nothing ⟨left, ?_, .inr ⟨first, rfl, blank first List.mem_cons_self⟩⟩
        intro empty
        exact right (same.symm.trans empty)
      rw [trim, trim, isWhole, isDivided, nothing, kept_iff.mpr noGap]
      exact congrArg _ same.symm

theorem solid_of_ofName? {name : String} {type : CellType}
    (isType : CellType.ofName? name = some type) :
    ∀ character ∈ trim name.toList, Text.isBlank character = false := by
  have same : Text.sameLetters type.name.toList (trim name.toList) = true :=
    List.find?_some
      (p := fun type : CellType => Text.sameLetters type.name.toList (trim name.toList)) isType
  have letters : type.name.toList.map Text.lower = (trim name.toList).map Text.lower :=
    eq_of_beq same
  have solid : ∀ other ∈ type.name.toList.map Text.lower, Text.isBlank other = false := by
    have all : (type.name.toList.map Text.lower).all (!Text.isBlank ·) = true := by
      cases type <;> decide
    simpa [List.all_eq_true] using all
  intro character inside
  by_contra blank
  rw [Bool.not_eq_false] at blank
  have kept : Text.lower character = character := by
    refine if_neg ?_
    rintro ⟨low, high⟩
    have low : 65 ≤ character.toNat := low
    have high : character.toNat ≤ 90 := high
    simp [Text.isBlank] at blank
    omega
  have among : character ∈ (trim name.toList).map Text.lower :=
    List.mem_map.mpr ⟨character, inside, kept⟩
  rw [solid character (letters ▸ among)] at blank
  cases blank

end Gap

/-- Texts of which the second lacks white space that the first has at one place. -/
def Likeness.gap : Likeness where
  texts first second := ∃ front gap behind, first = front ++ gap ++ behind ∧
    second = front ++ behind ∧ ∀ character ∈ gap, Text.isBlank character = true
  values first second := (first ≠ "" → second ≠ "") ∧
    ∀ type, CellType.ofName? first = some type → CellType.ofName? second = some type
  sizes _ _ := True
  sameText text := ⟨text, [], [], by simp, by simp, List.forall_mem_nil _⟩
  sameValue _ := ⟨id, fun _ => id⟩
  sameSize _ := trivial
  append := by
    rintro _ _ ⟨front, gap, behind, rfl, rfl, blank⟩ more
    exact ⟨front, gap, behind ++ more, by simp, by simp, blank⟩
  value := by
    rintro _ _ ⟨front, gap, behind, rfl, rfl, blank⟩
    refine ⟨fun nonempty => ?_, fun type isType => ?_⟩
    · rw [Ne, String.ofList_eq_empty_iff] at nonempty ⊢
      exact trim_ne_nil_of_gap blank nonempty
    · have stripped := (stripBoth_eq_iff.mp (rfl : trim (front ++ gap ++ behind) = _)).1
      have solid := solid_of_ofName? isType
      rw [String.toList_ofList, trim, Text.stripBoth_eq_self stripped] at solid
      rwa [trim_of_solid blank solid]
  size _ := trivial
  named alike := alike.1
  typed alike := alike.2 _

theorem run_textEvents (progress : Progress) (content : List Char) :
    progress.run (textEvents content) =
      .ok { progress with text := progress.text ++ content } := by
  unfold textEvents
  split
  · next empty =>
      rw [empty, List.append_nil]
      rfl
  · rfl

/-- With a comment in a text, reading goes on with the gathered text less a gap. -/
theorem exists_divided {opened : List (List Char)} {left right : List Char}
    {result : List Event × List (List Char)} (uncut : ¬ CutsReference left)
    (read : Piece.read opened (.text (left ++ right)) = .ok result) (inside : Progress)
    (content rest : List Char) :
    ∃ front gap behind, (∀ character ∈ gap, Text.isBlank character = true) ∧
      (gap = [] ↔ ¬ HasGap Markup.isBlank left right) ∧
      outcome inside (continued (readAll opened [.text (left ++ right)]) rest) =
        outcome { inside with text := front ++ gap ++ behind } (Markup.events opened rest) ∧
      outcome inside (continued
          (readAll opened [.text left, .bracketed (.comment content), .text right]) rest) =
        outcome { inside with text := front ++ behind } (Markup.events opened rest) := by
  obtain ⟨first, gap, second, isResult, sameOpened, blank, gap_iff, readLeft, readRight⟩ :=
    Markup.read_divided uncut read
  have readWhole : readAll opened [.text (left ++ right)] =
      (textEvents (first ++ gap ++ second), .ok opened) := by
    simp [readAll, read, isResult, sameOpened]
  have readComment : Piece.read opened (.bracketed (.comment content)) = .ok ([], opened) := rfl
  have readBoth : readAll opened [.text left, .bracketed (.comment content), .text right] =
      (textEvents first ++ textEvents second, .ok opened) := by
    simp [readAll, readLeft, readComment, readRight]
  have ran := run_textEvents inside (first ++ gap ++ second)
  rw [← List.append_assoc, ← List.append_assoc] at ran
  have ranBoth := (Progress.run_append (run_textEvents inside first) _).trans
    (run_textEvents _ second)
  exact ⟨inside.text ++ first, gap, second,
    fun character isInside => Markup.textBlank_of_isBlank (blank character isInside), gap_iff,
    by rw [readWhole, outcome_continued ran], by rw [readBoth, outcome_continued ranBoth]⟩

theorem types_eq_of_gap {services others : List Service}
    (alike : List.Forall₂ Likeness.gap.Services services others) :
    others.map (·.fields.map (·.type)) = services.map (·.fields.map (·.type)) := by
  have fields {first second : List Service.Field}
      (alike : List.Forall₂ Likeness.gap.Fields first second) :
      second.map (·.type) = first.map (·.type) := by
    induction alike with
    | nil => rfl
    | cons alike _ inductionHypothesis =>
        rw [List.map_cons, List.map_cons, alike.type, inductionHypothesis]
  induction alike with
  | nil => rfl
  | cons alike _ inductionHypothesis =>
      rw [List.map_cons, List.map_cons, fields alike.fields, inductionHypothesis]

/-- A comment between two characters of a text leaves the listing one, with the same numbers of
services and fields and the same types. The services are the same unless white space next to the
comment stands between words of a text that is read. -/
theorem services_commented {front : List Piece} {content left right rest : List Char}
    {document commented : String} {found : List Service}
    (plain : Begins (front ++ [.text (left ++ right)]) rest document.toList)
    (divided : Begins (front ++ [.text left, .bracketed (.comment content), .text right]) rest
      commented.toList)
    (uncut : ¬ CutsReference left) (accepted : services document = .ok found) :
    ∃ others, services commented = .ok others ∧
      others.map (·.fields.map (·.type)) = found.map (·.fields.map (·.type)) ∧
      ((IsRead (openPath front) → ¬ HasGap Markup.isBlank left right) → others = found) := by
  rcases same_front plain divided with
    ⟨⟨fault, failed, -⟩, -⟩ | ⟨opened, inside, ran, isWhole, isDivided⟩
  · rw [accepted] at failed
    cases failed
  rw [accepted] at isWhole
  cases read : Piece.read opened (.text (left ++ right)) with
  | error fault =>
      obtain ⟨given, failed⟩ := exists_outcome_of_fault inside [] fault
      rw [readAll, read, continued, failed] at isWhole
      cases isWhole
  | ok result =>
      obtain ⟨front, gap, behind, blank, gap_iff, whole, both⟩ :=
        exists_divided uncut read inside content rest
      rw [whole] at isWhole
      rw [both] at isDivided
      have alike : Alike .gap { inside with text := front ++ gap ++ behind }
          { inside with text := front ++ behind } :=
        .of_same inside (fun _ => ⟨front, gap, behind, rfl, rfl, blank⟩) (.inl rfl)
      obtain ⟨others, isOthers, all⟩ := alike.outcome isWhole.symm
      refine ⟨others, isDivided.trans isOthers, types_eq_of_gap all, fun noGap => ?_⟩
      have equal : Alike .equal { inside with text := front ++ gap ++ behind }
          { inside with text := front ++ behind } := by
        refine .of_same inside (fun isRead => ?_) (.inl rfl)
        have nothing : gap = [] := gap_iff.mpr (noGap ((path_of_run ran).1 ▸ isRead))
        rw [nothing, List.append_nil]
        exact Likeness.equal.sameText _
      exact Except.ok.inj (isOthers.symm.trans (equal.outcome_eq isWhole.symm))

theorem services_commented_word :
    let document := "<services><service><name>a&amp;b c</name></service></services>"
    services document = .ok [⟨"a&b c", []⟩] ∧
      services "<services><service><name>a&amp;<!-- > -->b c</name></service></services>" =
        .ok [⟨"a&b c", []⟩] := by
  intro document
  have accepted : services document = .ok [⟨"a&b c", []⟩] := by decide +kernel
  refine ⟨accepted, ?_⟩
  let front : List Piece :=
    [.bracketed (.start "services".toList), .bracketed (.start "service".toList),
      .bracketed (.start "name".toList)]
  let left := "a&amp;".toList
  let right := "b c".toList
  let rest := "</name></service></services>".toList
  let commented := "<services><service><name>a&amp;<!-- > -->b c</name></service></services>"
  have plain : Begins (front ++ [.text (left ++ right)]) rest document.toList := by
    decide +kernel
  have divided : Begins (front ++ [.text left, .bracketed (.comment " > ".toList), .text right])
      rest commented.toList := by
    decide +kernel
  have uncut : ¬ CutsReference left := by
    rintro ⟨front, name, parts, noEnd⟩
    have isLast : (front ++ '&' :: name).getLast? = some ';' := parts ▸ rfl
    rw [List.getLast?_append_of_ne_nil _ (List.cons_ne_nil '&' name)] at isLast
    rcases List.mem_cons.mp (List.mem_of_getLast? isLast) with same | inside
    · exact absurd same (by decide)
    · exact noEnd inside
  have noGap : ¬ HasGap Markup.isBlank left right := by decide +kernel
  obtain ⟨others, isOthers, -, same⟩ := services_commented plain divided uncut accepted
  rw [same fun _ => noGap] at isOthers
  exact isOthers

/-- White space next to a comment is lost. -/
theorem services_commented_gap :
    let front : List Piece :=
      [.bracketed (.start "services".toList), .bracketed (.start "service".toList),
        .bracketed (.start "name".toList)]
    let rest := "</name></service></services>".toList
    let document := "<services><service><name>a b</name></service></services>"
    let commented := "<services><service><name>a <!--c-->b</name></service></services>"
    Begins (front ++ [.text "a b".toList]) rest document.toList ∧
      Begins (front ++ [.text "a ".toList, .bracketed (.comment ['c']), .text ['b']]) rest
        commented.toList ∧
      services document = .ok [⟨"a b", []⟩] ∧ services commented = .ok [⟨"ab", []⟩] := by
  decide +kernel

end VirtualTables.Listing
