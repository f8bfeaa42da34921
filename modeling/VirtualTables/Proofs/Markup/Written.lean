import VirtualTables.Proofs.Markup.Pieces

/-!
Written documents and the events they give.

A written text has entities for the characters of markup, and between the elements stand any blanks.
`Reads` says which events a part of a document gives wherever it stands, so that the events of a
document are put together from those of its parts: `reads_blanks`, `readsUpToTag_escaped` and
`reads_element`.
-/

namespace VirtualTables.Markup

open Text (IsStripped IsFirst)

def escapedCharacter (character : Char) : List Char :=
  if character = '&' then "&amp;".toList
  else if character = '<' then "&lt;".toList
  else if character = '>' then "&gt;".toList
  else [character]

/-- A text as it is written, with entities for the characters of markup. -/
def escaped (text : List Char) : List Char :=
  text.flatMap escapedCharacter

def element (tag : String) (content : List Char) : List Char :=
  '<' :: tag.toList ++ '>' :: content ++ '<' :: '/' :: tag.toList ++ ['>']

def leaf (tag : String) (text : List Char) : List Char :=
  element tag (escaped text)

/-- What may stand in front of the root of a document: nothing, or an XML declaration. -/
inductive IsProlog : List Char → Prop where
  | nothing : IsProlog []
  | declaration {content : List Char} (declares : "xml".toList <+: content)
      (first : IsFirst "?>".toList content) : IsProlog ("<?".toList ++ content ++ "?>".toList)

/-- Parts of a document one after another, with blanks before, between and behind them. -/
inductive Spaced : List (List Char) → List Char → Prop where
  | nil {blanks : List Char} (blank : ∀ character ∈ blanks, isBlank character = true) :
      Spaced [] blanks
  | cons {blanks part rest : List Char} {parts : List (List Char)}
      (blank : ∀ character ∈ blanks, isBlank character = true) (others : Spaced parts rest) :
      Spaced (part :: parts) (blanks ++ part ++ rest)

theorem exists_spaced (parts : List (List Char)) : ∃ text, Spaced parts text := by
  induction parts with
  | nil => exact ⟨[], .nil (List.forall_mem_nil _)⟩
  | cons part parts inductionHypothesis =>
      obtain ⟨rest, others⟩ := inductionHypothesis
      exact ⟨[] ++ part ++ rest, .cons (List.forall_mem_nil _) others⟩

section Escaped

variable {text rest : List Char} {character : Char}

theorem escapedCharacter_cases (character : Char) :
    (∃ name, escapedCharacter character = '&' :: (name ++ [';']) ∧
      (∀ other ∈ name, endsName other = false ∧ other ≠ '<') ∧
      ∀ position, reference? position name = .ok character) ∨
    escapedCharacter character = [character] ∧ character ≠ '&' ∧ character ≠ '<' := by
  unfold escapedCharacter
  by_cases ampersand : character = '&'
  · subst ampersand
    exact Or.inl ⟨"amp".toList, rfl, by simp [endsName], fun _ => rfl⟩
  by_cases less : character = '<'
  · subst less
    exact Or.inl ⟨"lt".toList, rfl, by simp [endsName], fun _ => rfl⟩
  by_cases greater : character = '>'
  · subst greater
    exact Or.inl ⟨"gt".toList, rfl, by simp [endsName], fun _ => rfl⟩
  · rw [if_neg ampersand, if_neg less, if_neg greater]
    exact Or.inr ⟨rfl, ampersand, less⟩

theorem resolve_escaped (position : Nat) (text : List Char) :
    resolve position (escaped text) = .ok text := by
  induction text generalizing position with
  | nil => rw [escaped, List.flatMap_nil, resolve]
  | cons character text inductionHypothesis =>
      rw [escaped, List.flatMap_cons, ← escaped]
      rcases escapedCharacter_cases character with ⟨name, isWritten, plain, known⟩ |
        ⟨isWritten, plain, -⟩
      · rw [isWritten, List.cons_append, List.append_assoc, List.singleton_append,
          resolve_reference position (fun other inside => (plain other inside).1) known,
          inductionHypothesis]
        rfl
      · rw [isWritten, List.singleton_append, resolve_cons position plain, inductionHypothesis]
        rfl

theorem mem_escaped {other : Char} (inside : other ∈ escaped text) : other ≠ '<' := by
  obtain ⟨character, -, inCharacter⟩ := List.mem_flatMap.mp inside
  rcases escapedCharacter_cases character with ⟨name, isWritten, plain, -⟩ | ⟨isWritten, -, plain⟩
  · rw [isWritten, List.mem_cons, List.mem_append, List.mem_singleton] at inCharacter
    rcases inCharacter with rfl | inName | rfl
    · decide
    · exact (plain other inName).2
    · decide
  · rw [isWritten, List.mem_singleton] at inCharacter
    rw [inCharacter]
    exact plain

theorem isStripped_escaped (stripped : IsStripped isBlank text) :
    IsStripped isBlank (escaped text) := by
  constructor
  · intro other isFirst
    cases text with
    | nil => cases isFirst
    | cons character text =>
        rw [escaped, List.flatMap_cons] at isFirst
        rcases escapedCharacter_cases character with ⟨name, isWritten, -⟩ | ⟨isWritten, -⟩
        · rw [isWritten] at isFirst
          cases isFirst
          decide
        · rw [isWritten] at isFirst
          cases isFirst
          exact stripped.first other rfl
  · intro other isLast
    rcases text.eq_nil_or_concat' with rfl | ⟨front, character, rfl⟩
    · cases isLast
    · rw [escaped, List.flatMap_append, List.flatMap_singleton] at isLast
      rcases escapedCharacter_cases character with ⟨name, isWritten, -⟩ | ⟨isWritten, -⟩
      · rw [isWritten, ← List.cons_append, ← List.append_assoc, List.getLast?_concat] at isLast
        cases isLast
        decide
      · rw [isWritten, List.getLast?_concat] at isLast
        cases isLast
        exact stripped.last other List.getLast?_concat

theorem isStripped_of_textBlank (stripped : IsStripped Text.isBlank text) :
    IsStripped isBlank text := by
  have solid {character : Char} (solid : Text.isBlank character = false) :
      isBlank character = false :=
    Bool.eq_false_iff.mpr fun blank => Bool.eq_false_iff.mp solid (textBlank_of_isBlank blank)
  exact ⟨fun character isFirst => solid (stripped.first character isFirst),
    fun character isLast => solid (stripped.last character isLast)⟩

end Escaped

def marks : List Char :=
  ['>', '/', '!', '?', '\'', '"']

structure IsPlainName (name : List Char) : Prop where
  nonempty : name ≠ []
  plain : ∀ character ∈ name, isBlank character = false ∧ character ∉ marks

section Tags

variable {name content rest : List Char} {opened : List (List Char)}

theorem IsPlainName.isQuoted (isName : IsPlainName name) : IsQuoted none name := by
  obtain ⟨-, plain⟩ := isName
  induction name with
  | nil => exact .nil
  | cons character name inductionHypothesis =>
      rw [List.forall_mem_cons] at plain
      have noMark := plain.1.2
      simp only [marks, List.mem_cons, not_or] at noMark
      exact .plain (by simp [noMark]) (inductionHypothesis plain.2)

theorem IsPlainName.tagName (isName : IsPlainName name) : tagName name = name := by
  refine List.takeWhile_eq_self_iff.mpr fun character inside => ?_
  rw [(isName.plain character inside).1]
  rfl

theorem IsPlainName.start (isName : IsPlainName name) : (Bracketed.start name).IsSound := by
  refine ⟨isName.isQuoted, fun lead isLead => ?_, fun isLast => ?_⟩
  · have noMark := (isName.plain lead (List.mem_of_head? isLead)).2
    simp only [marks, List.mem_cons, not_or] at noMark
    simp [Bracketed.leads, noMark]
  · exact (isName.plain '/' (List.mem_of_getLast? isLast)).2 (by decide)

theorem events_start (isName : IsPlainName name) :
    events opened ('<' :: (name ++ '>' :: rest)) =
      followedBy [.opening name] (events (name :: opened) rest) := by
  have read : Bracketed.read opened (.start name) = .ok (some (.opening name), name :: opened) := by
    rw [Bracketed.read, isName.tagName]
  exact events_construct ((construct_inside isName.start).trans (by rw [read]; rfl))

theorem events_end (isName : IsPlainName name) :
    events (name :: opened) ('<' :: '/' :: (name ++ '>' :: rest)) =
      followedBy [.closing name] (events opened rest) := by
  have sound : (Bracketed.finish name).IsSound := isName.isQuoted
  have closes : closingName name = name := isName.tagName ▸ closingName_tagName name
  have read : Bracketed.read (name :: opened) (.finish name) =
      .ok (some (.closing name), opened) := by
    rw [Bracketed.read, if_pos closes]
  exact events_construct ((construct_inside sound).trans (by rw [read]; rfl))

theorem events_declaration (declares : "xml".toList <+: content)
    (first : IsFirst "?>".toList content) :
    events opened ('<' :: '?' :: (content ++ '?' :: '>' :: rest)) = events opened rest := by
  have sound : (Bracketed.instruction content).IsSound := by
    obtain ⟨more, rfl⟩ := declares
    exact ⟨first, by simp⟩
  have parts : '?' :: (content ++ '?' :: '>' :: rest) =
      Bracketed.inside (.instruction content) ++ '>' :: rest := by
    simp [Bracketed.inside_instruction]
  rw [parts]
  exact events_construct (construct_inside sound)

end Tags

/-- A part of a document gives some events, whatever elements are open and whatever follows. -/
def Reads (text : List Char) (found : List Event) : Prop :=
  ∀ opened rest, events opened (text ++ rest) = followedBy found (events opened rest)

/-- The same where a tag follows, which alone ends a text. -/
def ReadsUpToTag (text : List Char) (found : List Event) : Prop :=
  ∀ opened rest,
    events opened (text ++ '<' :: rest) = followedBy found (events opened ('<' :: rest))

section Reads

variable {text content : List Char} {tag : String} {found : List Event}

theorem Reads.append {other : List Char} {more : List Event} (first : Reads text found)
    (second : Reads other more) : Reads (text ++ other) (found ++ more) := by
  intro opened rest
  rw [List.append_assoc, first, second, append_followedBy]

theorem Reads.upToTag (reads : Reads text found) : ReadsUpToTag text found :=
  fun opened rest => reads opened ('<' :: rest)

theorem reads_blanks {blanks : List Char}
    (blank : ∀ character ∈ blanks, isBlank character = true) : Reads blanks [] :=
  fun _ _ => events_blanks blank

theorem reads_prolog (isProlog : IsProlog text) : Reads text [] := by
  intro opened rest
  cases isProlog with
  | nothing => rfl
  | declaration declares first =>
      rw [List.append_assoc, List.append_assoc]
      exact events_declaration declares first

theorem readsUpToTag_escaped (stripped : IsStripped isBlank text) :
    ReadsUpToTag (escaped text) (textEvents text) := by
  intro opened rest
  have noTag : '<' ∉ escaped text := fun inside => mem_escaped inside rfl
  have ends : ∀ other ∈ ('<' :: rest).head?, other = '<' :=
    fun other isFirst => (Option.some.inj isFirst).symm
  rw [events_run noTag ends, Text.stripBoth_eq_self (isStripped_escaped stripped), resolve_escaped]

theorem reads_element (isName : IsPlainName tag.toList) (inside : ReadsUpToTag content found) :
    Reads (element tag content) (.opening tag.toList :: (found ++ [.closing tag.toList])) := by
  intro opened rest
  have parts : element tag content ++ rest =
      '<' :: (tag.toList ++ '>' :: (content ++ '<' :: '/' :: (tag.toList ++ '>' :: rest))) := by
    simp [element]
  rw [parts, events_start isName, inside, events_end isName, ← append_followedBy,
    ← append_followedBy, List.append_assoc, List.singleton_append]

theorem head?_ne_mark {prolog root : List Char} (isProlog : IsProlog prolog)
    (isRoot : Spaced [element tag content] root) : (prolog ++ root).head? ≠ some '\uFEFF' := by
  cases isProlog with
  | declaration declares first => simp
  | nothing =>
      cases isRoot with
      | @cons blanks _ rest _ blank others =>
          cases blanks with
          | nil => simp [element]
          | cons character blanks =>
              intro isMark
              cases isMark
              exact absurd (blank _ List.mem_cons_self) (by decide)

theorem scan_of_reads (reads : Reads text found) (unmarked : text.head? ≠ some '\uFEFF') :
    scan text = (found, none) := by
  have whole := reads [] []
  rw [List.append_nil, events_nil] at whole
  unfold scan
  split
  · exact absurd rfl unmarked
  · rw [whole, followedBy, List.append_nil]

end Reads

end VirtualTables.Markup
