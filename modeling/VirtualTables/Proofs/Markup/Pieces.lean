import Mathlib.Data.List.Chain
import VirtualTables.Proofs.Markup.Reading

/-!
Documents as sequences of pieces: tags, texts, and markup that is passed over.

A piece is known by how it is written, and what it gives is known by itself and the elements open in
front of it. What a reader takes for one construct is exactly a sound piece in brackets
(`construct_inside`, `exists_inside`). So the events of sound pieces are those of each of them
(`events_written`), and every document that is read without failure is such a sequence
(`exists_written`). A reader that fails later has read such a sequence at every event it gives
(`exists_front`), and each piece changes the open elements in one of a few ways (`Advances`).
-/

namespace VirtualTables.Markup

open Text (IsFirst between_eq_some_iff upTo? upTo?_eq_some_iff stripBoth)

/-- The content of a tag: every quotation in it is closed, and no closing bracket stands outside
them. A quotation may be open in front of it. -/
inductive IsQuoted : Option Char → List Char → Prop where
  | nil : IsQuoted none []
  | opening {mark : Char} {rest : List Char} (isMark : mark ∈ ['\'', '"'])
      (others : IsQuoted (some mark) rest) : IsQuoted none (mark :: rest)
  | closing {mark : Char} {rest : List Char} (others : IsQuoted none rest) :
      IsQuoted (some mark) (mark :: rest)
  | quoted {mark character : Char} {rest : List Char} (other : character ≠ mark)
      (others : IsQuoted (some mark) rest) : IsQuoted (some mark) (character :: rest)
  | plain {character : Char} {rest : List Char} (plain : character ∉ ['>', '\'', '"'])
      (others : IsQuoted none rest) : IsQuoted none (character :: rest)

/-- The content of a document type: every angle bracket that is opened in it is closed, and so are
some that are open in front of it. -/
inductive IsNested : Nat → List Char → Prop where
  | nil : IsNested 0 []
  | opening {depth : Nat} {rest : List Char} (others : IsNested (depth + 1) rest) :
      IsNested depth ('<' :: rest)
  | closing {depth : Nat} {rest : List Char} (others : IsNested depth rest) :
      IsNested (depth + 1) ('>' :: rest)
  | plain {depth : Nat} {character : Char} {rest : List Char} (plain : character ∉ ['<', '>'])
      (others : IsNested depth rest) : IsNested depth (character :: rest)

section Brackets

variable {text content rest : List Char}

theorem tag?_of_isQuoted {quote : Option Char} (quoted : IsQuoted quote content) :
    tag? quote (content ++ '>' :: rest) = some (content, rest) := by
  induction quoted with
  | nil => simp [tag?]
  | @opening mark others isMark _ inductionHypothesis =>
      have noBracket : mark ≠ '>' := by
        rintro rfl
        exact absurd isMark (by decide)
      simp only [List.mem_cons, List.not_mem_nil, or_false] at isMark
      simp [tag?, noBracket, isMark, inductionHypothesis]
  | closing _ inductionHypothesis => simp [tag?, inductionHypothesis]
  | quoted other _ inductionHypothesis => simp [tag?, other, inductionHypothesis]
  | plain plain _ inductionHypothesis =>
      simp only [List.mem_cons, List.not_mem_nil, or_false, not_or] at plain
      simp [tag?, plain, inductionHypothesis]

theorem tag?_eq_some_iff {quote : Option Char} :
    tag? quote text = some (content, rest) ↔
      text = content ++ '>' :: rest ∧ IsQuoted quote content := by
  constructor
  · intro found
    induction text generalizing quote content with
    | nil => simp [tag?] at found
    | cons character text inductionHypothesis =>
        simp only [tag?] at found
        split at found
        · next ends =>
            obtain ⟨rfl, rfl⟩ := ends
            cases found
            exact ⟨rfl, .nil⟩
        · next goesOn =>
            simp only [Option.map_eq_some_iff, Prod.mk.injEq] at found
            obtain ⟨⟨content, behind⟩, found, rfl, rfl⟩ := found
            obtain ⟨rfl, quoted⟩ := inductionHypothesis found
            refine ⟨rfl, ?_⟩
            cases quote with
            | some mark =>
                by_cases same : character = mark
                · subst same
                  simp only [if_true] at quoted
                  exact .closing quoted
                · simp only [if_neg same] at quoted
                  exact .quoted same quoted
            | none =>
                have noBracket : character ≠ '>' := by simpa using goesOn
                by_cases isMark : character = '\'' ∨ character = '"'
                · simp only [if_pos isMark] at quoted
                  exact .opening (by simpa using isMark) quoted
                · simp only [if_neg isMark] at quoted
                  exact .plain (by simpa [noBracket] using isMark) quoted
  · rintro ⟨rfl, quoted⟩
    exact tag?_of_isQuoted quoted

theorem doctype?_cons_plain {depth : Nat} {character : Char}
    (plain : character ∉ ['<', '>']) :
    doctype? depth (character :: text) =
      (doctype? depth text).map fun found => (character :: found.1, found.2) := by
  simp only [List.mem_cons, List.not_mem_nil, or_false, not_or] at plain
  rw [doctype?]
  · rw [if_neg plain.1]
  · exact plain.2

theorem doctype?_cons_opening {depth : Nat} :
    doctype? depth ('<' :: text) =
      (doctype? (depth + 1) text).map fun found => ('<' :: found.1, found.2) := by
  rw [doctype?]
  · rw [if_pos rfl]
  · decide

theorem doctype?_eq_some_iff {depth : Nat} :
    doctype? depth text = some (content, rest) ↔
      text = content ++ '>' :: rest ∧ IsNested depth content := by
  constructor
  · intro found
    induction text generalizing depth content with
    | nil => simp [doctype?] at found
    | cons character text inductionHypothesis =>
        by_cases closes : character = '>'
        · subst closes
          cases depth with
          | zero =>
              simp only [doctype?, Option.some.injEq, Prod.mk.injEq] at found
              obtain ⟨rfl, rfl⟩ := found
              exact ⟨rfl, .nil⟩
          | succ depth =>
              simp only [doctype?, Option.map_eq_some_iff, Prod.mk.injEq] at found
              obtain ⟨⟨content, behind⟩, found, rfl, rfl⟩ := found
              obtain ⟨rfl, nested⟩ := inductionHypothesis found
              exact ⟨rfl, .closing nested⟩
        · by_cases opens : character = '<'
          · subst opens
            simp only [doctype?_cons_opening, Option.map_eq_some_iff, Prod.mk.injEq] at found
            obtain ⟨⟨content, behind⟩, found, rfl, rfl⟩ := found
            obtain ⟨rfl, nested⟩ := inductionHypothesis found
            exact ⟨rfl, .opening nested⟩
          · have plain : character ∉ ['<', '>'] := by simp [opens, closes]
            simp only [doctype?_cons_plain plain, Option.map_eq_some_iff, Prod.mk.injEq] at found
            obtain ⟨⟨content, behind⟩, found, rfl, rfl⟩ := found
            obtain ⟨rfl, nested⟩ := inductionHypothesis found
            exact ⟨rfl, .plain plain nested⟩
  · rintro ⟨rfl, nested⟩
    induction nested with
    | nil => rfl
    | opening _ inductionHypothesis =>
        simp [doctype?_cons_opening, inductionHypothesis]
    | closing _ inductionHypothesis => simp [doctype?, inductionHypothesis]
    | plain plain _ inductionHypothesis =>
        simp [doctype?_cons_plain plain, inductionHypothesis]

end Brackets

def tagName (content : List Char) : List Char :=
  content.takeWhile (!isBlank ·)

theorem closingName_tagName (content : List Char) :
    closingName (tagName content) = tagName content := by
  have solid : ∀ character ∈ tagName content, isBlank character = false := by
    intro character inside
    simpa using List.mem_takeWhile_imp inside
  have stripped : Text.IsStripped isBlank (tagName content) := Text.isStripped_of_forall_mem solid
  rw [closingName, stripped.reverse.dropWhile, List.reverse_reverse, ite_self]

inductive Bracketed where
  | start (content : List Char)
  /-- The tag of an element without content; with what stands in front of its slash. -/
  | empty (content : List Char)
  | finish (content : List Char)
  | verbatim (content : List Char)
  | comment (content : List Char)
  | instruction (content : List Char)
  /-- A document type; with the first letter of its keyword and all that follows. -/
  | doctype (initial : Char) (content : List Char)

namespace Bracketed

/-- What stands between the brackets. -/
def inside : Bracketed → List Char
  | .start content => content
  | .empty content => content ++ ['/']
  | .finish content => '/' :: content
  | .verbatim content => "![CDATA[".toList ++ content ++ "]]".toList
  | .comment content => "!--".toList ++ content ++ "--".toList
  | .instruction content => '?' :: content ++ ['?']
  | .doctype initial content => '!' :: initial :: content

theorem inside_verbatim (content : List Char) :
    inside (.verbatim content) = "![CDATA[".toList ++ content ++ "]]".toList := rfl

theorem inside_comment (content : List Char) :
    inside (.comment content) = "!--".toList ++ content ++ "--".toList := rfl

theorem inside_instruction (content : List Char) :
    inside (.instruction content) = '?' :: content ++ ['?'] := rfl

def leads : List Char :=
  ['!', '/', '?']

/-- What is written can be read as the piece, and as no other. -/
def IsSound : Bracketed → Prop
  | .start content =>
      IsQuoted none content ∧ (∀ lead ∈ content.head?, lead ∉ leads) ∧ content.getLast? ≠ some '/'
  | .empty content =>
      IsQuoted none content ∧ content ≠ [] ∧ ∀ lead ∈ content.head?, lead ∉ leads
  | .finish content => IsQuoted none content
  | .verbatim content => IsFirst "]]>".toList content
  | .comment content => IsFirst "-->".toList content
  | .instruction content => IsFirst "?>".toList content ∧ content.head? ≠ some '>'
  | .doctype initial content =>
      (initial = 'D' ∨ initial = 'd') ∧ IsNested 0 content ∧
        Text.sameLetters (content.take 6) "OCTYPE".toList = true ∧
          (content.drop 6).all isBlank = false

/-- The event of a piece, if it gives one, and the elements open behind it; with those open in front
of it. -/
def read (opened : List (List Char)) : Bracketed → Except Fault (Option Event × List (List Char))
  | .start content => .ok (some (.opening (tagName content)), tagName content :: opened)
  | .empty content => .ok (some (.empty (tagName content)), opened)
  | .finish content =>
      match opened with
      | [] => .error (.unmatchedEnd (String.ofList (closingName content)))
      | name :: outer =>
          if closingName content = name then .ok (some (.closing name), outer)
          else .error (.mismatchedEnd (String.ofList name) (String.ofList (closingName content)))
  | .verbatim content => .ok (some (.verbatim content), opened)
  | .comment _ => .ok (none, opened)
  | .instruction _ => .ok (none, opened)
  | .doctype _ _ => .ok (none, opened)

end Bracketed

section Construct

variable {opened : List (List Char)} {content rest : List Char}

theorem isQuoted_append_slash_iff {quote : Option Char} (noSlash : quote ≠ some '/') :
    IsQuoted quote (content ++ ['/']) ↔ IsQuoted quote content := by
  constructor
  · intro quoted
    induction content generalizing quote with
    | nil =>
        cases quoted with
        | opening isMark _ => exact absurd isMark (by decide)
        | closing _ => exact absurd rfl noSlash
        | quoted _ others => cases others
        | plain _ others => exact others
    | cons character content inductionHypothesis =>
        cases quoted with
        | opening isMark others =>
            refine .opening isMark (inductionHypothesis ?_ others)
            rintro ⟨⟩
            exact absurd isMark (by decide)
        | closing others => exact .closing (inductionHypothesis nofun others)
        | quoted other others => exact .quoted other (inductionHypothesis noSlash others)
        | plain plain others => exact .plain plain (inductionHypothesis nofun others)
  · intro quoted
    clear noSlash
    induction quoted with
    | nil => exact .plain (by decide) .nil
    | opening isMark _ inductionHypothesis => exact .opening isMark inductionHypothesis
    | closing _ inductionHypothesis => exact .closing inductionHypothesis
    | quoted other _ inductionHypothesis => exact .quoted other inductionHypothesis
    | plain plain _ inductionHypothesis => exact .plain plain inductionHypothesis

theorem construct_tag (noLead : ∀ lead ∈ content.head?, lead ∉ Bracketed.leads) :
    construct opened (content ++ '>' :: rest) = startTag opened (content ++ '>' :: rest) := by
  cases content with
  | nil => rfl
  | cons lead content =>
      have plain := noLead lead rfl
      simp only [Bracketed.leads, List.mem_cons, List.not_mem_nil, or_false, not_or] at plain
      rw [List.cons_append, construct]
      · exact List.cons_ne_nil lead _
      · simp [plain]
      · simp [plain]
      · simp [plain]

theorem construct_doctype {initial : Char} (isInitial : initial = 'D' ∨ initial = 'd') :
    construct opened ('!' :: initial :: content) =
      match doctype? 0 content with
      | none => .error .openDoctype
      | some (content, rest) =>
          if !Text.sameLetters (content.take 6) "OCTYPE".toList then .error .openDoctype
          else if (content.drop 6).all isBlank then .error .namelessDoctype
          else .ok ⟨none, opened, rest⟩ := by
  rw [construct, declaration]
  · exact if_pos isInitial
  · rintro rfl
    simp at isInitial
  · rintro rfl
    simp at isInitial

theorem construct_inside {piece : Bracketed} (sound : piece.IsSound) :
    construct opened (piece.inside ++ '>' :: rest) =
      (piece.read opened).map fun read => ⟨read.1, read.2, rest⟩ := by
  cases piece with
  | start content =>
      obtain ⟨quoted, noLead, noSlash⟩ := sound
      change construct opened (content ++ '>' :: rest) = _
      rw [construct_tag noLead, startTag, tag?_of_isQuoted quoted]
      simp only [if_neg noSlash]
      rfl
  | empty content =>
      obtain ⟨quoted, nonempty, noLead⟩ := sound
      have noLead : ∀ lead ∈ (content ++ ['/']).head?, lead ∉ Bracketed.leads := by
        rwa [List.head?_append_of_ne_nil content nonempty]
      have quoted := (isQuoted_append_slash_iff (Option.some_ne_none '/').symm).mpr quoted
      change construct opened (content ++ ['/'] ++ '>' :: rest) = _
      rw [construct_tag noLead, startTag, tag?_of_isQuoted quoted]
      simp only [List.getLast?_concat, if_true, List.dropLast_concat]
      rfl
  | finish content =>
      change endTag opened (content ++ '>' :: rest) = _
      rw [endTag, tag?_of_isQuoted sound]
      cases opened with
      | nil => rfl
      | cons name outer =>
          simp only [Bracketed.read]
          split
          · rfl
          · rfl
  | verbatim content =>
      have nonempty : "]]>".toList ≠ [] := by decide
      have written : Bracketed.inside (.verbatim content) ++ '>' :: rest =
          '!' :: '[' :: ("CDATA[".toList ++ (content ++ "]]>".toList ++ rest)) := by
        simp [Bracketed.inside_verbatim]
      rw [written, construct, declaration, (between_eq_some_iff nonempty).mpr ⟨rfl, sound⟩]
      rfl
  | comment content =>
      have nonempty : "-->".toList ≠ [] := by decide
      have written : Bracketed.inside (.comment content) ++ '>' :: rest =
          '!' :: '-' :: (['-'] ++ (content ++ "-->".toList ++ rest)) := by
        simp [Bracketed.inside_comment]
      rw [written, construct, declaration, (between_eq_some_iff nonempty).mpr ⟨rfl, sound⟩]
      rfl
  | instruction content =>
      obtain ⟨first, noBracket⟩ := sound
      have nonempty : "?>".toList ≠ [] := by decide
      have ends : upTo? "?>".toList (content ++ "?>".toList ++ rest) = some (content, rest) :=
        (upTo?_eq_some_iff nonempty).mpr ⟨rfl, first⟩
      have written : Bracketed.inside (.instruction content) ++ '>' :: rest =
          '?' :: (content ++ "?>".toList ++ rest) := by
        simp [Bracketed.inside_instruction]
      rw [written, construct, instruction]
      · rw [ends]
        rfl
      · intro behind begins
        cases content with
        | nil => cases begins
        | cons lead content =>
            cases begins
            exact noBracket rfl
  | doctype initial content =>
      obtain ⟨isInitial, nested, keyword, named⟩ := sound
      have ends : doctype? 0 (content ++ '>' :: rest) = some (content, rest) :=
        doctype?_eq_some_iff.mpr ⟨rfl, nested⟩
      change construct opened ('!' :: initial :: (content ++ '>' :: rest)) = _
      rw [construct_doctype isInitial, ends]
      simp only [keyword, named, Bool.not_true, Bool.false_eq_true, if_false]
      rfl

theorem exists_inside_declaration {text : List Char} {found : Construct}
    (constructed : declaration opened text = .ok found) :
    ∃ piece : Bracketed, piece.IsSound ∧ '!' :: text = piece.inside ++ '>' :: found.rest ∧
      piece.read opened = .ok (found.event?, found.opened) := by
  unfold declaration at constructed
  split at constructed
  · split at constructed
    · cases constructed
    · next content rest found =>
        cases constructed
        have nonempty : "]]>".toList ≠ [] := by decide
        obtain ⟨rfl, first⟩ := (between_eq_some_iff nonempty).mp found
        exact ⟨.verbatim content, first, by simp [Bracketed.inside_verbatim], rfl⟩
  · split at constructed
    · cases constructed
    · next content rest found =>
        cases constructed
        have nonempty : "-->".toList ≠ [] := by decide
        obtain ⟨rfl, first⟩ := (between_eq_some_iff nonempty).mp found
        exact ⟨.comment content, first, by simp [Bracketed.inside_comment], rfl⟩
  · next initial text _ _ =>
      split at constructed
      · next isInitial =>
          split at constructed
          · cases constructed
          · next content rest found =>
              obtain ⟨rfl, nested⟩ := doctype?_eq_some_iff.mp found
              split at constructed
              · cases constructed
              · next keyword =>
                  split at constructed
                  · cases constructed
                  · next named =>
                      cases constructed
                      refine ⟨.doctype initial content, ⟨isInitial, nested, ?_, ?_⟩, rfl, rfl⟩
                      · simpa using keyword
                      · simpa using named
      · cases constructed
  · cases constructed

theorem exists_inside_tag {text : List Char} {found : Construct}
    (noLead : ∀ lead ∈ text.head?, lead ∉ Bracketed.leads)
    (constructed : startTag opened text = .ok found) :
    ∃ piece : Bracketed, piece.IsSound ∧ text = piece.inside ++ '>' :: found.rest ∧
      piece.read opened = .ok (found.event?, found.opened) := by
  unfold startTag at constructed
  split at constructed
  · cases constructed
  · next content rest found =>
      obtain ⟨rfl, quoted⟩ := tag?_eq_some_iff.mp found
      have noLead : ∀ lead ∈ content.head?, lead ∉ Bracketed.leads := by
        cases content with
        | nil => nofun
        | cons lead content => exact noLead
      split at constructed
      · next slash =>
          cases constructed
          obtain ⟨content, rfl⟩ := List.getLast?_eq_some_iff.mp slash
          have quoted := (isQuoted_append_slash_iff (Option.some_ne_none '/').symm).mp quoted
          have nonempty : content ≠ [] := by
            rintro rfl
            exact absurd (noLead '/' rfl) (by decide)
          rw [List.head?_append_of_ne_nil content nonempty] at noLead
          refine ⟨.empty content, ⟨quoted, nonempty, noLead⟩, rfl, ?_⟩
          simp only [List.dropLast_concat]
          rfl
      · next noSlash =>
          cases constructed
          exact ⟨.start content, ⟨quoted, noLead, noSlash⟩, rfl, rfl⟩

theorem exists_inside {text : List Char} {found : Construct}
    (constructed : construct opened text = .ok found) :
    ∃ piece : Bracketed, piece.IsSound ∧ text = piece.inside ++ '>' :: found.rest ∧
      piece.read opened = .ok (found.event?, found.opened) := by
  unfold construct at constructed
  split at constructed
  · cases constructed
  · exact exists_inside_declaration constructed
  · unfold endTag at constructed
    split at constructed
    · cases constructed
    · next content rest found =>
        obtain ⟨rfl, quoted⟩ := tag?_eq_some_iff.mp found
        split at constructed
        · cases constructed
        · next name outer =>
            split at constructed
            · next same =>
                cases constructed
                exact ⟨.finish content, quoted, rfl, if_pos same⟩
            · cases constructed
  · unfold instruction at constructed
    split at constructed
    · cases constructed
    · next text noBracket =>
        split at constructed
        · cases constructed
        · next content rest found =>
            cases constructed
            have nonempty : "?>".toList ≠ [] := by decide
            obtain ⟨rfl, first⟩ := (upTo?_eq_some_iff nonempty).mp found
            refine ⟨.instruction content, ⟨first, ?_⟩, by simp [Bracketed.inside_instruction], rfl⟩
            intro isBracket
            cases content with
            | nil => cases isBracket
            | cons lead content =>
                cases isBracket
                exact noBracket _ rfl
  · next _ noDeclaration noEnd noInstruction =>
      refine exists_inside_tag (fun lead isLead => ?_) constructed
      obtain ⟨text, rfl⟩ := List.head?_eq_some_iff.mp isLead
      simp only [Bracketed.leads, List.mem_cons, List.not_mem_nil, or_false, not_or]
      refine ⟨?_, ?_, ?_⟩
      · rintro rfl
        exact noDeclaration text rfl
      · rintro rfl
        exact noEnd text rfl
      · rintro rfl
        exact noInstruction text rfl

theorem construct_append {text : List Char} {found : Construct}
    (constructed : construct opened text = .ok found) (more : List Char) :
    construct opened (text ++ more) = .ok ⟨found.event?, found.opened, found.rest ++ more⟩ := by
  obtain ⟨piece, sound, rfl, read⟩ := exists_inside constructed
  rw [List.append_assoc, List.cons_append, construct_inside sound, read]
  rfl

end Construct

/-- A piece of a document: something in brackets, or a text between two such pieces. -/
inductive Piece where
  | bracketed (piece : Bracketed)
  | text (content : List Char)

def Piece.written : Piece → List Char
  | .bracketed piece => '<' :: (piece.inside ++ ['>'])
  | .text content => content

def Piece.read (opened : List (List Char)) : Piece → Except Fault (List Event × List (List Char))
  | .bracketed piece => (piece.read opened).map fun read => (read.1.toList, read.2)
  | .text content =>
      match resolve 0 (stripBoth isBlank content) with
      | .error fault => .error (.reference fault)
      | .ok resolved => .ok (textEvents resolved, opened)

/-- A reader gives at most one event: a tag opens or closes an element, and an end tag names the
innermost one that is open; nothing else changes the open elements. -/
inductive Advances : List (List Char) → List Event → List (List Char) → Prop where
  | nothing {opened : List (List Char)} : Advances opened [] opened
  | opening {opened : List (List Char)} (name : List Char) :
      Advances opened [.opening name] (name :: opened)
  | closing {outer : List (List Char)} (name : List Char) :
      Advances (name :: outer) [.closing name] outer
  | empty {opened : List (List Char)} (name : List Char) : Advances opened [.empty name] opened
  | text {opened : List (List Char)} (content : List Char) :
      Advances opened [.text content] opened
  | verbatim {opened : List (List Char)} (content : List Char) :
      Advances opened [.verbatim content] opened

theorem Bracketed.advances {piece : Bracketed} {opened inner : List (List Char)}
    {event? : Option Event} (read : piece.read opened = .ok (event?, inner)) :
    Advances opened event?.toList inner := by
  cases piece with
  | start content =>
      cases read
      exact .opening _
  | empty content =>
      cases read
      exact .empty _
  | finish content =>
      cases opened with
      | nil => cases read
      | cons name outer =>
          simp only [Bracketed.read] at read
          split at read
          · cases read
            exact .closing name
          · cases read
  | verbatim content =>
      cases read
      exact .verbatim content
  | comment content | instruction content | doctype initial content =>
      cases read
      exact .nothing

theorem Piece.advances {piece : Piece} {opened inner : List (List Char)} {found : List Event}
    (read : piece.read opened = .ok (found, inner)) : Advances opened found inner := by
  cases piece with
  | bracketed piece =>
      simp only [Piece.read] at read
      cases first : piece.read opened with
      | error fault =>
          rw [first] at read
          cases read
      | ok result =>
          rw [first] at read
          cases read
          exact Bracketed.advances first
  | text content =>
      simp only [Piece.read] at read
      split at read
      · cases read
      · cases read
        unfold textEvents
        split
        · exact .nothing
        · exact .text _

theorem Advances.length_le {opened inner : List (List Char)} {found : List Event}
    (advances : Advances opened found inner) : found.length ≤ 1 := by
  cases advances with
  | nothing => exact Nat.zero_le 1
  | _ => exact Nat.le_refl 1

/-- What pieces one after another look like. -/
def written (pieces : List Piece) : List Char :=
  pieces.flatMap Piece.written

/-- The events of pieces one after another, and the elements open behind them or the failure that
ends the reading. -/
def readAll (opened : List (List Char)) :
    List Piece → List Event × Except Fault (List (List Char))
  | [] => ([], .ok opened)
  | piece :: pieces =>
      match piece.read opened with
      | .error fault => ([], .error fault)
      | .ok read => (read.1 ++ (readAll read.2 pieces).1, (readAll read.2 pieces).2)

/-- Pieces stand in front of some text: what is in brackets is sound, and every text goes on up to
the next bracket or the end. -/
inductive Stands : List Piece → List Char → Prop where
  | nil {rest : List Char} : Stands [] rest
  | bracketed {piece : Bracketed} {pieces : List Piece} {rest : List Char} (sound : piece.IsSound)
      (others : Stands pieces rest) : Stands (.bracketed piece :: pieces) rest
  | text {content rest : List Char} {pieces : List Piece} (nonempty : content ≠ [])
      (noTag : '<' ∉ content) (ends : ∀ other ∈ (written pieces ++ rest).head?, other = '<')
      (others : Stands pieces rest) : Stands (.text content :: pieces) rest

def unmarked : List Char → List Char
  | '\uFEFF' :: rest => rest
  | document => document

/-- A document begins with some pieces and goes on with some text. -/
structure Begins (pieces : List Piece) (rest document : List Char) : Prop where
  stands : Stands pieces rest
  written : unmarked document = written pieces ++ rest

section Sequence

variable {pieces more : List Piece} {rest document : List Char} {opened : List (List Char)}

theorem written_cons (piece : Piece) (pieces : List Piece) :
    written (piece :: pieces) = piece.written ++ written pieces :=
  List.flatMap_cons

theorem written_append (pieces more : List Piece) :
    written (pieces ++ more) = written pieces ++ written more :=
  List.flatMap_append

theorem stands_append_iff :
    Stands (pieces ++ more) rest ↔ Stands pieces (written more ++ rest) ∧ Stands more rest := by
  constructor
  · intro stands
    induction pieces with
    | nil => exact ⟨.nil, stands⟩
    | cons piece pieces inductionHypothesis =>
        cases stands with
        | bracketed sound others =>
            exact ⟨.bracketed sound (inductionHypothesis others).1, (inductionHypothesis others).2⟩
        | text nonempty noTag ends others =>
            refine ⟨.text nonempty noTag ?_ (inductionHypothesis others).1,
              (inductionHypothesis others).2⟩
            rw [← List.append_assoc, ← written_append]
            exact ends
  · rintro ⟨first, second⟩
    induction pieces with
    | nil => exact second
    | cons piece pieces inductionHypothesis =>
        cases first with
        | bracketed sound others => exact .bracketed sound (inductionHypothesis others)
        | text nonempty noTag ends others =>
            have ends : ∀ other ∈ (written (pieces ++ more) ++ rest).head?, other = '<' := by
              rwa [written_append, List.append_assoc]
            exact .text nonempty noTag ends (inductionHypothesis others)

theorem readAll_append (opened : List (List Char)) (pieces more : List Piece) :
    readAll opened (pieces ++ more) =
      match (readAll opened pieces).2 with
      | .error fault => ((readAll opened pieces).1, .error fault)
      | .ok inner =>
          ((readAll opened pieces).1 ++ (readAll inner more).1, (readAll inner more).2) := by
  induction pieces generalizing opened with
  | nil => rfl
  | cons piece pieces inductionHypothesis =>
      simp only [List.cons_append, readAll]
      cases piece.read opened with
      | error fault => rfl
      | ok read =>
          simp only [inductionHypothesis]
          cases (readAll read.2 pieces).2 with
          | error fault => rfl
          | ok inner => simp only [List.append_assoc]

theorem readAll_cons_eq_ok {piece : Piece} {found : List Event} {inner : List (List Char)}
    (read : readAll opened (piece :: pieces) = (found, .ok inner)) :
    ∃ first inside others, piece.read opened = .ok (first, inside) ∧
      readAll inside pieces = (others, .ok inner) ∧ found = first ++ others := by
  rw [readAll] at read
  cases first : piece.read opened with
  | error fault =>
      rw [first] at read
      cases read
  | ok result =>
      rw [first] at read
      obtain ⟨rfl, others⟩ := Prod.mk.inj read
      exact ⟨result.1, result.2, _, rfl, Prod.ext rfl others, rfl⟩

theorem readAll_append_eq_ok {found : List Event} {inner : List (List Char)}
    (read : readAll opened (pieces ++ more) = (found, .ok inner)) :
    ∃ first inside others, readAll opened pieces = (first, .ok inside) ∧
      readAll inside more = (others, .ok inner) ∧ found = first ++ others := by
  rw [readAll_append] at read
  cases behind : (readAll opened pieces).2 with
  | error fault =>
      rw [behind] at read
      cases read
  | ok inside =>
      rw [behind] at read
      obtain ⟨rfl, others⟩ := Prod.mk.inj read
      exact ⟨_, inside, _, Prod.ext rfl behind, Prod.ext rfl others, rfl⟩

def continued (read : List Event × Except Fault (List (List Char))) (rest : List Char) :
    List Event × Option Fault :=
  match read.2 with
  | .error fault => (read.1, some fault)
  | .ok opened => followedBy read.1 (events opened rest)

theorem continued_append (found : List Event)
    (read : List Event × Except Fault (List (List Char))) (rest : List Char) :
    continued (found ++ read.1, read.2) rest = followedBy found (continued read rest) := by
  unfold continued
  cases read.2 with
  | error fault => rfl
  | ok opened => exact append_followedBy found read.1 _

theorem events_bracketed {piece : Bracketed} (sound : piece.IsSound) (opened : List (List Char))
    (rest : List Char) :
    events opened (Piece.written (.bracketed piece) ++ rest) =
      match Piece.read opened (.bracketed piece) with
      | .error fault => ([], some fault)
      | .ok read => followedBy read.1 (events read.2 rest) := by
  have parts : Piece.written (.bracketed piece) ++ rest =
      '<' :: (piece.inside ++ '>' :: rest) := by
    simp [Piece.written]
  rw [parts, events_bracket, construct_inside sound, Piece.read]
  cases piece.read opened with
  | error fault => rfl
  | ok read => rfl

theorem events_text {content : List Char} (noTag : '<' ∉ content)
    (ends : ∀ other ∈ rest.head?, other = '<') (opened : List (List Char)) :
    events opened (content ++ rest) =
      match Piece.read opened (.text content) with
      | .error fault => ([], some fault)
      | .ok read => followedBy read.1 (events read.2 rest) := by
  rw [events_run noTag ends, Piece.read]
  cases resolve 0 (stripBoth isBlank content) with
  | error fault => rfl
  | ok resolved => rfl

theorem events_piece {piece : Piece} (stands : Stands [piece] rest) (opened : List (List Char)) :
    events opened (piece.written ++ rest) =
      match piece.read opened with
      | .error fault => ([], some fault)
      | .ok read => followedBy read.1 (events read.2 rest) := by
  cases stands with
  | bracketed sound => exact events_bracketed sound opened rest
  | text _ noTag ends => exact events_text noTag ends opened

theorem stands_cons_iff {piece : Piece} :
    Stands (piece :: pieces) rest ↔
      Stands [piece] (written pieces ++ rest) ∧ Stands pieces rest := by
  rw [← List.singleton_append]
  exact stands_append_iff

theorem events_written (stands : Stands pieces rest) (opened : List (List Char)) :
    events opened (written pieces ++ rest) = continued (readAll opened pieces) rest := by
  induction pieces generalizing opened with
  | nil => rfl
  | cons piece pieces inductionHypothesis =>
      obtain ⟨first, others⟩ := stands_cons_iff.mp stands
      rw [written_cons, List.append_assoc, events_piece first, readAll]
      cases piece.read opened with
      | error fault => rfl
      | ok read =>
          simp only [inductionHypothesis others]
          exact (continued_append _ _ _).symm

theorem unmarked_append {front : List Char} (nonempty : front ≠ []) (behind : List Char) :
    unmarked (front ++ behind) = unmarked front ++ behind := by
  cases front with
  | nil => exact absurd rfl nonempty
  | cons character front =>
      by_cases mark : character = '\uFEFF'
      · subst mark
        rfl
      · have kept (text : List Char) : unmarked (character :: text) = character :: text := by
          rw [unmarked]
          rintro rest begins
          exact mark (List.cons.inj begins).1
        rw [List.cons_append, kept, kept]
        rfl

theorem scan_eq (document : List Char) : scan document = events [] (unmarked document) := by
  unfold scan
  split
  · rfl
  · next noMark =>
      rw [unmarked]
      exact noMark

theorem Begins.scan (begins : Begins pieces rest document) :
    scan document = continued (readAll [] pieces) rest := by
  rw [scan_eq, begins.written, events_written begins.stands]

theorem length_lt_of_stands {piece : Piece} (stands : Stands [piece] rest) :
    rest.length < (piece.written ++ rest).length := by
  have nonempty : piece.written ≠ [] := by
    cases stands with
    | bracketed => exact List.cons_ne_nil _ _
    | text nonempty => exact nonempty
  have := List.length_pos_of_ne_nil nonempty
  rw [List.length_append]
  omega

/-- A text fails at its beginning, or it begins with a piece. -/
theorem exists_piece {text : List Char} (nonempty : text ≠ []) (opened : List (List Char)) :
    (∃ fault, events opened text = ([], some fault)) ∨
      ∃ piece rest, Stands [piece] rest ∧ text = piece.written ++ rest := by
  cases text with
  | nil => exact absurd rfl nonempty
  | cons character text =>
      by_cases bracket : character = '<'
      · subst bracket
        rw [events_bracket]
        cases constructed : construct opened text with
        | error fault => exact .inl ⟨fault, rfl⟩
        | ok found =>
            obtain ⟨piece, sound, rfl, -⟩ := exists_inside constructed
            exact .inr ⟨.bracketed piece, found.rest, .bracketed sound .nil,
              by simp [Piece.written]⟩
      · have solid : (character :: text).takeWhile (· != '<') ≠ [] := by simp [bracket]
        have noTag : '<' ∉ (character :: text).takeWhile (· != '<') := fun inside =>
          absurd (List.mem_takeWhile_imp inside) (by decide)
        have ends : ∀ other ∈ ((character :: text).dropWhile (· != '<')).head?, other = '<' := by
          intro other isFirst
          have := List.head?_dropWhile_not (· != '<') (character :: text)
          simpa [Option.mem_def.mp isFirst] using this
        have parts : character :: text = (character :: text).takeWhile (· != '<') ++
            (character :: text).dropWhile (· != '<') := List.takeWhile_append_dropWhile.symm
        exact .inr ⟨.text _, _, .text solid noTag ends .nil, parts⟩

theorem exists_written {text : List Char} (sound : (events opened text).2 = none) :
    ∃ pieces, Stands pieces [] ∧ text = written pieces := by
  induction size : text.length using Nat.strong_induction_on generalizing opened text with
  | _ size inductionHypothesis =>
      subst size
      by_cases empty : text = []
      · exact ⟨[], .nil, empty⟩
      · rcases exists_piece empty opened with ⟨fault, failed⟩ | ⟨piece, rest, first, rfl⟩
        · rw [failed] at sound
          cases sound
        · rw [events_piece first] at sound
          cases read : piece.read opened with
          | error fault =>
              rw [read] at sound
              cases sound
          | ok result =>
              rw [read] at sound
              obtain ⟨pieces, others, rfl⟩ :=
                inductionHypothesis _ (length_lt_of_stands first) sound rfl
              rw [← List.append_nil (written pieces)] at first
              exact ⟨piece :: pieces, stands_cons_iff.mpr ⟨first, others⟩,
                written_cons piece pieces⟩

/-- A reader that has given some events stands behind pieces that give them, and goes on with the
elements that are open behind these. -/
theorem exists_front {text : List Char} {found later : List Event} {fault? : Option Fault}
    (given : events opened text = (found ++ later, fault?)) :
    ∃ pieces rest inner, Stands pieces rest ∧ text = written pieces ++ rest ∧
      readAll opened pieces = (found, .ok inner) ∧ events inner rest = (later, fault?) := by
  induction size : text.length using Nat.strong_induction_on generalizing opened text found with
  | _ size inductionHypothesis =>
      subst size
      by_cases nothing : found = []
      · subst nothing
        exact ⟨[], text, opened, .nil, rfl, rfl, given⟩
      have something : found ++ later ≠ [] := fun empty =>
        nothing (List.append_eq_nil_iff.mp empty).1
      have nonempty : text ≠ [] := by
        rintro rfl
        rw [events_nil] at given
        exact something (Prod.mk.inj given).1.symm
      rcases exists_piece nonempty opened with ⟨fault, failed⟩ | ⟨piece, rest, first, rfl⟩
      · rw [failed] at given
        exact absurd (Prod.mk.inj given).1.symm something
      · rw [events_piece first] at given
        cases read : piece.read opened with
        | error fault =>
            rw [read] at given
            exact absurd (Prod.mk.inj given).1.symm something
        | ok result =>
            rw [read] at given
            obtain ⟨isGiven, isFault⟩ := Prod.mk.inj given
            -- A piece gives one event at most, so it gives none behind the ones looked for.
            have few : result.1.length ≤ found.length :=
              (Piece.advances read).length_le.trans (List.length_pos_of_ne_nil nothing)
            obtain ⟨others, rfl⟩ := List.prefix_of_prefix_length_le
              ⟨_, isGiven⟩ (List.prefix_append found later) few
            rw [List.append_assoc] at isGiven
            have givenBehind : events result.2 rest = (others ++ later, fault?) :=
              Prod.ext (List.append_cancel_left isGiven) isFault
            obtain ⟨pieces, behind, inner, stands, rfl, readOthers, isLater⟩ :=
              inductionHypothesis _ (length_lt_of_stands first) givenBehind rfl
            refine ⟨piece :: pieces, behind, inner, stands_cons_iff.mpr ⟨first, stands⟩, ?_, ?_,
              isLater⟩
            · rw [written_cons, List.append_assoc]
            · rw [readAll, read]
              simp only [readOthers]

theorem exists_begins (sound : (Markup.scan document).2 = none) :
    ∃ pieces, Begins pieces [] document := by
  rw [scan_eq] at sound
  obtain ⟨pieces, stands, isWritten⟩ := exists_written sound
  exact ⟨pieces, stands, by rw [isWritten, List.append_nil]⟩

theorem exists_begins_of_given {found later : List Event} {fault? : Option Fault}
    (given : Markup.scan document = (found ++ later, fault?)) :
    ∃ pieces rest opened, Begins pieces rest document ∧
      readAll [] pieces = (found, .ok opened) ∧ events opened rest = (later, fault?) := by
  rw [scan_eq] at given
  obtain ⟨pieces, rest, opened, stands, isWritten, read, isLater⟩ := exists_front given
  exact ⟨pieces, rest, opened, ⟨stands, isWritten⟩, read, isLater⟩

end Sequence

section Decidable

instance (quote : Option Char) (content : List Char) : Decidable (IsQuoted quote content) :=
  have isTag : tag? quote (content ++ ['>']) = some (content, []) ↔ IsQuoted quote content :=
    tag?_eq_some_iff.trans (and_iff_right rfl)
  decidable_of_iff _ isTag

instance (depth : Nat) (content : List Char) : Decidable (IsNested depth content) :=
  have isDoctype :
      doctype? depth (content ++ ['>']) = some (content, []) ↔ IsNested depth content :=
    doctype?_eq_some_iff.trans (and_iff_right rfl)
  decidable_of_iff _ isDoctype

instance (mark content : List Char) : Decidable (IsFirst mark content) :=
  inferInstanceAs (Decidable (¬ _))

-- What is said of the first character is decided by looking at it, not by trying all characters.
instance : DecidablePred Bracketed.IsSound
  | .start content =>
      have : Decidable (∀ lead ∈ content.head?, lead ∉ Bracketed.leads) :=
        Option.decidableForallMem _
      inferInstanceAs (Decidable (_ ∧ _ ∧ _))
  | .empty content =>
      have : Decidable (∀ lead ∈ content.head?, lead ∉ Bracketed.leads) :=
        Option.decidableForallMem _
      inferInstanceAs (Decidable (_ ∧ _ ∧ _))
  | .finish content => inferInstanceAs (Decidable (IsQuoted none content))
  | .verbatim content => inferInstanceAs (Decidable (IsFirst _ content))
  | .comment content => inferInstanceAs (Decidable (IsFirst _ content))
  | .instruction _ => inferInstanceAs (Decidable (_ ∧ _))
  | .doctype _ _ => inferInstanceAs (Decidable (_ ∧ _ ∧ _ ∧ _))

theorem stands_bracketed_iff {piece : Bracketed} {pieces : List Piece} {rest : List Char} :
    Stands (.bracketed piece :: pieces) rest ↔ piece.IsSound ∧ Stands pieces rest := by
  constructor
  · rintro ⟨⟩
    exact ⟨‹_›, ‹_›⟩
  · exact fun both => .bracketed both.1 both.2

theorem stands_text_iff {content rest : List Char} {pieces : List Piece} :
    Stands (.text content :: pieces) rest ↔ content ≠ [] ∧ '<' ∉ content ∧
      (∀ other ∈ (written pieces ++ rest).head?, other = '<') ∧ Stands pieces rest := by
  constructor
  · rintro ⟨⟩
    exact ⟨‹_›, ‹_›, ‹_›, ‹_›⟩
  · exact fun all => .text all.1 all.2.1 all.2.2.1 all.2.2.2

instance decidableStands :
    (pieces : List Piece) → (rest : List Char) → Decidable (Stands pieces rest)
  | [], _ => .isTrue .nil
  | .bracketed _ :: pieces, rest =>
      have := decidableStands pieces rest
      decidable_of_iff _ stands_bracketed_iff.symm
  | .text _ :: pieces, rest =>
      have : Decidable (∀ other ∈ (written pieces ++ rest).head?, other = '<') :=
        Option.decidableForallMem _
      have := decidableStands pieces rest
      decidable_of_iff _ stands_text_iff.symm

instance (pieces : List Piece) (rest document : List Char) :
    Decidable (Begins pieces rest document) :=
  decidable_of_iff (Stands pieces rest ∧ unmarked document = written pieces ++ rest)
    ⟨fun both => ⟨both.1, both.2⟩, fun begins => ⟨begins.stands, begins.written⟩⟩

end Decidable

end VirtualTables.Markup
