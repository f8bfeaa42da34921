import VirtualTables.Proofs.Listing.Likeness

/-!
Elements without content, written as one tag or as two.

The two tags discard the text gathered in front of them, and the end tag notes an empty text if the
text of its element is read; the one tag does neither. Where neither counts, the two ways to write
the element leave states that are alike (`selfClosed_or_paired`), and the documents come to the
same. A name without content is noted by the two tags alone (`services_selfClosed_name`).
-/

namespace VirtualTables.Listing

open Markup (Begins Piece readAll tagName)

/-- Behind the front of a document, an empty text of an element with a tag tells nothing new. -/
def IsNoted (tag : String) (front : List Piece) : Prop :=
  ∀ before, Progress.start.run (readAll [] front).1 = .ok before →
    before.closed tag (openPath front).head? [] = .ok before

section Step

variable {progress : Progress} {tag : String}

/-- The two tags of an element without a record of its own discard the text and change nothing
else. -/
theorem closed_noted (noService : tag ≠ "service") (noField : tag ≠ "value-meta")
    (noted : IsRead (tag :: progress.path) →
      progress.closed tag progress.path.head? [] = .ok progress) :
    Progress.closed { progress with text := [] } tag progress.path.head? [] =
      .ok { progress with text := [] } := by
  by_cases isRead : IsRead (tag :: progress.path)
  · have cleared := Progress.closed_with progress progress.path [] tag progress.path.head? []
    rwa [noted isRead] at cleared
  · exact closed_of_unread noService noField isRead

/-- An element without content fails in both ways to write it, or it leaves the same behind, but for
the text and a field without a service. -/
theorem selfClosed_or_paired {name : List Char}
    (noted : IsRead (String.ofList name :: progress.path) →
      progress.closed (String.ofList name) progress.path.head? [] = .ok progress) :
    (∃ fault other, progress.run [.empty name] = .error fault ∧
      progress.run [.opening name, .closing name] = .error other) ∨
    ∃ inside field, progress.run [.empty name] = .ok inside ∧
      progress.run [.opening name, .closing name] = .ok { inside with text := [], field } ∧
        inside.path = progress.path ∧ inside.text = progress.text ∧
          (field = inside.field ∨ inside.service = none) := by
  have selfClosed : progress.run [.empty name] = progress.empty (String.ofList name) :=
    Progress.run_singleton progress (.empty name)
  have paired : progress.run [.opening name, .closing name] =
      Progress.closed
        { progress.opening (String.ofList name) with path := progress.path, text := [] }
        (String.ofList name) progress.path.head? [] :=
    Progress.run_singleton (progress.opening (String.ofList name)) (.closing name)
  rw [selfClosed, paired]
  generalize String.ofList name = tag at noted
  unfold Progress.empty Progress.opening
  by_cases isListing : tag = "services" ∧ progress.atTop = true
  · simp only [if_pos isListing]
    obtain ⟨rfl, atTop⟩ := isListing
    have unread : ¬ IsRead ("services" :: progress.path) := by
      rw [List.isEmpty_iff.mp atTop]
      exact id
    exact .inr ⟨_, progress.field, rfl, closed_of_unread (by decide) (by decide) unread, rfl, rfl,
      .inl rfl⟩
  · simp only [if_neg isListing]
    by_cases isService : tag = "service"
    · subst isService
      exact .inl ⟨_, _, rfl, rfl⟩
    · simp only [if_neg isService]
      by_cases isField : tag = "value-meta"
      · subst isField
        obtain ⟨path, text, saw, found, service, field⟩ := progress
        cases service with
        | some pending => exact .inl ⟨_, _, rfl, rfl⟩
        | none =>
            exact .inr ⟨_, none, rfl, endField_of_none (.inr rfl), rfl, rfl, .inr rfl⟩
      · have outside : ¬ (tag = "value-meta" ∧ progress.service.isSome = true) :=
          fun both => isField both.1
        simp only [if_neg outside]
        exact .inr ⟨_, progress.field, rfl, closed_noted isService isField noted, rfl, rfl,
          .inl rfl⟩

end Step

theorem readAll_paired (opened : List (List Char)) (content : List Char) :
    readAll opened [.bracketed (.start content), .bracketed (.finish (tagName content))] =
      ([.opening (tagName content), .closing (tagName content)], .ok opened) := by
  simp [readAll, Piece.read, Markup.Bracketed.read, Markup.closingName_tagName, Except.map]

/-- An element without content may be written as one tag or as two, unless an empty text would tell
something new, or the text in front of it is read. -/
theorem services_selfClosed {front : List Piece} {content rest : List Char}
    {selfClosed paired : String}
    (short : Begins (front ++ [.bracketed (.empty content)]) rest selfClosed.toList)
    (long : Begins (front ++ [.bracketed (.start content), .bracketed (.finish (tagName content))])
      rest paired.toList)
    (noted : IsRead (String.ofList (tagName content) :: openPath front) →
      IsNoted (String.ofList (tagName content)) front)
    (nothing : IsRead (openPath front) →
      ∀ character ∈ gathered front, Text.isBlank character = true) :
    (∃ found, services selfClosed = .ok found ∧ services paired = .ok found) ∨
      IsRejected selfClosed ∧ IsRejected paired := by
  rcases same_front short long with rejected | ⟨opened, before, ran, isShort, isLong⟩
  · exact .inr rejected
  · have readShort : readAll opened [.bracketed (.empty content)] =
        ([.empty (tagName content)], .ok opened) := rfl
    rw [readShort] at isShort
    rw [readAll_paired] at isLong
    obtain ⟨path, text⟩ := path_of_run ran
    have noted := fun isRead => noted isRead before ran
    rw [← path] at noted nothing
    rw [← text] at nothing
    rcases selfClosed_or_paired noted with
      ⟨fault, other, fails, fails'⟩ | ⟨inside, field, passes, passes', samePath, sameText, fields⟩
    · rw [outcome_continued_error fails] at isShort
      rw [outcome_continued_error fails'] at isLong
      exact .inr ⟨isRejected_of_error isShort, isRejected_of_error isLong⟩
    · rw [outcome_continued passes] at isShort
      rw [outcome_continued passes'] at isLong
      have blank (isRead : IsRead inside.path) : inside.text.dropWhile Text.isBlank = [] := by
        rw [samePath] at isRead
        rw [sameText]
        exact List.dropWhile_eq_nil_iff.mpr (nothing isRead)
      have alike : Alike .equal inside { inside with text := [], field } :=
        .of_same inside blank fields
      have alike' : Alike .equal { inside with text := [], field } inside :=
        .of_same { inside with text := [], field } (fun isRead => (blank isRead).symm)
          (fields.imp_left Eq.symm)
      cases comes : services selfClosed with
      | ok found =>
          rw [isShort] at comes
          exact .inl ⟨found, rfl, isLong.trans (alike.outcome_eq comes)⟩
      | error fault =>
          refine .inr ⟨isRejected_of_error comes, ?_⟩
          cases comes' : services paired with
          | error other => exact isRejected_of_error comes'
          | ok found =>
              rw [isLong] at comes'
              rw [isShort, alike'.outcome_eq comes'] at comes
              cases comes

deriving instance DecidableEq for PendingField, PendingService, Progress

theorem services_selfClosed_length :
    let paired := "<services><service><name>s</name><value-meta><name>f</name>" ++
      "<type>Date</type><length a='/'></length></value-meta></service></services>"
    services paired = .ok [⟨"s", [⟨"f", .date, none, none⟩]⟩] ∧
      services ("<services><service><name>s</name><value-meta><name>f</name>" ++
        "<type>Date</type><length a='/'/></value-meta></service></services>") =
        services paired := by
  intro paired
  have accepted : services paired = .ok [⟨"s", [⟨"f", .date, none, none⟩]⟩] := by decide +kernel
  refine ⟨accepted, ?_⟩
  let front : List Piece :=
    [.bracketed (.start "services".toList), .bracketed (.start "service".toList),
      .bracketed (.start "name".toList), .text ['s'], .bracketed (.finish "name".toList),
      .bracketed (.start "value-meta".toList), .bracketed (.start "name".toList), .text ['f'],
      .bracketed (.finish "name".toList), .bracketed (.start "type".toList),
      .text "Date".toList, .bracketed (.finish "type".toList)]
  let content := "length a='/'".toList
  let rest := "</value-meta></service></services>".toList
  let selfClosed := "<services><service><name>s</name><value-meta><name>f</name>" ++
    "<type>Date</type><length a='/'/></value-meta></service></services>"
  have short : Begins (front ++ [.bracketed (.empty content)]) rest selfClosed.toList := by
    decide +kernel
  have long : Begins (front ++ [.bracketed (.start content),
      .bracketed (.finish (tagName content))]) rest paired.toList := by
    decide +kernel
  have noted : IsNoted (String.ofList (tagName content)) front := by
    intro before ran
    have reached : Progress.start.run (readAll [] front).1 =
        .ok ⟨["value-meta", "service", "services"], [], true, [], some ⟨some "s", []⟩,
          some ⟨some "f", some "Date", none, none⟩⟩ := by
      decide +kernel
    have parent : (openPath front).head? = some "value-meta" := by decide +kernel
    obtain rfl := Except.ok.inj (reached.symm.trans ran)
    rw [parent]
    rfl
  have outside : ¬ IsRead (openPath front) := by decide +kernel
  rcases services_selfClosed short long (fun _ => noted) fun isRead => absurd isRead outside with
    ⟨found, isShort, isLong⟩ | ⟨-, fault, isLong, -⟩
  · rw [isShort, isLong]
  · rw [accepted] at isLong
    cases isLong

/-- A name without content is missed if it is written as one tag. -/
theorem services_selfClosed_name :
    let front : List Piece :=
      [.bracketed (.start "services".toList), .bracketed (.start "service".toList),
        .bracketed (.start "name".toList), .text ['s'], .bracketed (.finish "name".toList),
        .bracketed (.start "value-meta".toList), .bracketed (.start "type".toList),
        .text "String".toList, .bracketed (.finish "type".toList)]
    let rest := "</value-meta></service></services>".toList
    let selfClosed := "<services><service><name>s</name><value-meta><type>String</type>" ++
      "<name/></value-meta></service></services>"
    let paired := "<services><service><name>s</name><value-meta><type>String</type>" ++
      "<name></name></value-meta></service></services>"
    Begins (front ++ [.bracketed (.empty "name".toList)]) rest selfClosed.toList ∧
      Begins (front ++ [.bracketed (.start "name".toList), .bracketed (.finish "name".toList)])
        rest paired.toList ∧
      services selfClosed = .error (.namelessField (some "s")) ∧
      services paired = .ok [⟨"s", [⟨"", .string, none, none⟩]⟩] := by
  decide +kernel

end VirtualTables.Listing
