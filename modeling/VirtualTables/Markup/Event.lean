import VirtualTables.Markup.Reference
import VirtualTables.Text.Split

/-!
Documents as sequences of events: the tags and texts in document order.

`scan` reads a document up to its end or its first failure. It checks that every end tag names the
element opened last and not yet closed; it does not check that a document has one root, that all
elements are closed, or that names and attributes are well formed. Comments, processing
instructions, the XML declaration and the document type are passed over. Texts lose the blanks at
both ends and vanish if nothing is left; sections of character data are delivered as they are.
-/

namespace VirtualTables.Markup

open Text

inductive Event where
  | opening (name : List Char)
  /-- The tag of an element without content. -/
  | empty (name : List Char)
  | closing (name : List Char)
  /-- A text, its references replaced. -/
  | text (content : List Char)
  /-- A section of character data. -/
  | verbatim (content : List Char)
deriving DecidableEq

inductive Fault where
  /-- An exclamation mark begins none of the known constructs. -/
  | unknownMarkup
  | openInstruction
  | openComment
  | openDoctype
  | openSection
  | openTag
  | namelessDoctype
  | unmatchedEnd (name : String)
  | mismatchedEnd (expected found : String)
  | reference (fault : ReferenceFault)
deriving DecidableEq

def Fault.message : Fault → String
  | .unknownMarkup => "syntax error: unknown or missed symbol in markup"
  | .openInstruction =>
      "syntax error: processing instruction or xml declaration not closed: " ++
        "`?>` not found before end of input"
  | .openComment => "syntax error: comment not closed: `-->` not found before end of input"
  | .openDoctype => "syntax error: DOCTYPE not closed: `>` not found before end of input"
  | .openSection => "syntax error: CDATA not closed: `]]>` not found before end of input"
  | .openTag => "syntax error: tag not closed: `>` not found before end of input"
  | .namelessDoctype =>
      "ill-formed document: `<!DOCTYPE>` declaration does not contain a name of a document type"
  | .unmatchedEnd name =>
      "ill-formed document: close tag `</" ++ name ++ ">` does not match any open tag"
  | .mismatchedEnd expected found =>
      "ill-formed document: expected `</" ++ expected ++ ">`, but `</" ++ found ++ ">` was found"
  | .reference fault => fault.message

/-- The blanks of documents: space, tab, carriage return and line feed. -/
def isBlank (character : Char) : Bool :=
  character == ' ' || character == '\t' || character == '\r' || character == '\n'

/-- What stands before the first `>` outside quotes, and what follows it; with the quote that is
open. -/
def tag? (quote : Option Char) : List Char → Option (List Char × List Char)
  | [] => none
  | character :: rest =>
      if quote = none ∧ character = '>' then some ([], rest)
      else
        let quote :=
          match quote with
          | some mark => if character = mark then none else quote
          | none => if character = '\'' ∨ character = '"' then some character else none
        (tag? quote rest).map fun (content, after) => (character :: content, after)

/-- What stands before the `>` that closes a document type, and what follows it; with the number of
angle brackets that are open. -/
def doctype? (depth : Nat) : List Char → Option (List Char × List Char)
  | [] => none
  | '>' :: rest =>
      match depth with
      | 0 => some ([], rest)
      | depth + 1 => (doctype? depth rest).map fun (content, after) => ('>' :: content, after)
  | character :: rest =>
      (doctype? (if character = '<' then depth + 1 else depth) rest).map fun (content, after) =>
        (character :: content, after)

/-- One construct behind a `<`: its event, if it is none to be passed over, the elements open after
it, and what follows it. -/
structure Construct where
  event? : Option Event
  /-- The names of the open elements, the innermost first. -/
  opened : List (List Char)
  rest : List Char

def declaration (opened : List (List Char)) : List Char → Except Fault Construct
  | '[' :: text =>
      match (afterStart? "CDATA[".toList text).bind (upTo? "]]>".toList) with
      | none => .error .openSection
      | some (content, rest) => .ok ⟨some (.verbatim content), opened, rest⟩
  | '-' :: text =>
      match (afterStart? ['-'] text).bind (upTo? "-->".toList) with
      | none => .error .openComment
      | some (_, rest) => .ok ⟨none, opened, rest⟩
  | initial :: text =>
      if initial = 'D' ∨ initial = 'd' then
        match doctype? 0 text with
        | none => .error .openDoctype
        | some (content, rest) =>
            if !sameLetters (content.take 6) "OCTYPE".toList then .error .openDoctype
            else if (content.drop 6).all isBlank then .error .namelessDoctype
            else .ok ⟨none, opened, rest⟩
      else .error .unknownMarkup
  | [] => .error .unknownMarkup

/-- The name in an end tag: blanks after it do not belong to it. -/
def closingName (content : List Char) : List Char :=
  if content.all isBlank then content
  else (content.reverse.dropWhile isBlank).reverse

def endTag (opened : List (List Char)) (text : List Char) : Except Fault Construct :=
  match tag? none text with
  | none => .error .openTag
  | some (content, rest) =>
      match opened with
      | [] => .error (.unmatchedEnd (String.ofList (closingName content)))
      | name :: outer =>
          if closingName content = name then .ok ⟨some (.closing name), outer, rest⟩
          else
            .error (.mismatchedEnd (String.ofList name) (String.ofList (closingName content)))

/-- A start tag, or the tag of an element without content, which a slash ends. -/
def startTag (opened : List (List Char)) (text : List Char) : Except Fault Construct :=
  match tag? none text with
  | none => .error .openTag
  | some (content, rest) =>
      let name := content.takeWhile (!isBlank ·)
      if content.getLast? = some '/' then
        .ok ⟨some (.empty (content.dropLast.takeWhile (!isBlank ·))), opened, rest⟩
      else .ok ⟨some (.opening name), name :: opened, rest⟩

def instruction (opened : List (List Char)) (text : List Char) : Except Fault Construct :=
  match text with
  | '>' :: _ => .error .openInstruction
  | _ =>
      match upTo? "?>".toList text with
      | none => .error .openInstruction
      | some (_, rest) => .ok ⟨none, opened, rest⟩

def construct (opened : List (List Char)) : List Char → Except Fault Construct
  | [] => .error .openTag
  | '!' :: text => declaration opened text
  | '/' :: text => endTag opened text
  | '?' :: text => instruction opened text
  | text => startTag opened text

theorem tag?_length {quote : Option Char} {text content rest : List Char}
    (found : tag? quote text = some (content, rest)) : rest.length < text.length := by
  induction text generalizing quote content with
  | nil => simp [tag?] at found
  | cons character text inductionHypothesis =>
      simp only [tag?] at found
      split at found
      · cases found
        simp
      · simp only [Option.map_eq_some_iff, Prod.mk.injEq] at found
        obtain ⟨_, ran, _, rfl⟩ := found
        have := inductionHypothesis ran
        simp only [List.length_cons]
        omega

theorem doctype?_length {depth : Nat} {text content rest : List Char}
    (found : doctype? depth text = some (content, rest)) : rest.length < text.length := by
  induction depth, text using doctype?.induct generalizing content with
  | case1 => simp [doctype?] at found
  | case2 text =>
      simp only [doctype?] at found
      cases found
      simp
  | case3 text depth inductionHypothesis =>
      simp only [doctype?, Option.map_eq_some_iff, Prod.mk.injEq] at found
      obtain ⟨_, ran, _, rfl⟩ := found
      have := inductionHypothesis ran
      simp only [List.length_cons]
      omega
  | case4 depth character text other inductionHypothesis =>
      rw [doctype?] at found
      · simp only [Option.map_eq_some_iff, Prod.mk.injEq] at found
        obtain ⟨_, ran, _, rfl⟩ := found
        have := inductionHypothesis ran
        simp only [List.length_cons]
        omega
      · exact other

theorem declaration_length {opened : List (List Char)} {text : List Char} {found : Construct}
    (run : declaration opened text = .ok found) : found.rest.length ≤ text.length := by
  unfold declaration at run
  split at run
  · split at run
    · cases run
    · next content rest ran =>
        cases run
        exact Nat.le_succ_of_le (between_length ran)
  · split at run
    · cases run
    · next content rest ran =>
        cases run
        exact Nat.le_succ_of_le (between_length ran)
  · split at run
    · split at run
      · cases run
      · next content rest ran =>
          have := doctype?_length ran
          split at run
          · cases run
          · split at run
            · cases run
            · cases run
              simp only [List.length_cons]
              omega
    · cases run
  · cases run

theorem endTag_length {opened : List (List Char)} {text : List Char} {found : Construct}
    (run : endTag opened text = .ok found) : found.rest.length ≤ text.length := by
  unfold endTag at run
  split at run
  · cases run
  · next content rest ran =>
      have := tag?_length ran
      split at run
      · cases run
      · split at run <;> cases run
        exact Nat.le_of_lt this

theorem startTag_length {opened : List (List Char)} {text : List Char} {found : Construct}
    (run : startTag opened text = .ok found) : found.rest.length ≤ text.length := by
  unfold startTag at run
  split at run
  · cases run
  · next content rest ran =>
      have := tag?_length ran
      split at run <;> cases run <;> simp only [] <;> omega

theorem instruction_length {opened : List (List Char)} {text : List Char} {found : Construct}
    (run : instruction opened text = .ok found) : found.rest.length ≤ text.length := by
  unfold instruction at run
  split at run
  · cases run
  · split at run
    · cases run
    · next content rest ran =>
        cases run
        exact upTo?_length ran

theorem construct_length {opened : List (List Char)} {text : List Char} {found : Construct}
    (run : construct opened text = .ok found) : found.rest.length ≤ text.length := by
  unfold construct at run
  split at run
  · cases run
  · exact Nat.le_succ_of_le (declaration_length run)
  · exact Nat.le_succ_of_le (endTag_length run)
  · exact Nat.le_succ_of_le (instruction_length run)
  · exact startTag_length run

def events (opened : List (List Char)) (text : List Char) : List Event × Option Fault :=
  match _ : text.dropWhile isBlank with
  | [] => ([], none)
  | '<' :: rest =>
      match _ : construct opened rest with
      | .error fault => ([], some fault)
      | .ok found =>
          let (others, fault?) := events found.opened found.rest
          (found.event?.toList ++ others, fault?)
  | character :: rest =>
      let content := character :: rest.takeWhile (· != '<')
      match resolve 0 (content.reverse.dropWhile isBlank).reverse with
      | .error fault => ([], some (.reference fault))
      | .ok resolved =>
          let (others, fault?) := events opened (rest.dropWhile (· != '<'))
          (.text resolved :: others, fault?)
termination_by text.length
decreasing_by
  · have suffix := (List.dropWhile_suffix isBlank : _ <:+ text).length_le
    have := construct_length ‹construct opened rest = _›
    simp only [‹text.dropWhile isBlank = _›, List.length_cons] at suffix
    omega
  · have suffix := (List.dropWhile_suffix isBlank : _ <:+ text).length_le
    have := (List.dropWhile_suffix (fun c => c != '<') : _ <:+ rest).length_le
    simp only [‹text.dropWhile isBlank = _›, List.length_cons] at suffix
    omega

/-- The events of a document, and the failure that ends them, if one does. A byte-order mark in
front is passed over. -/
def scan (document : List Char) : List Event × Option Fault :=
  match document with
  | '\uFEFF' :: rest => events [] rest
  | document => events [] document

end VirtualTables.Markup
