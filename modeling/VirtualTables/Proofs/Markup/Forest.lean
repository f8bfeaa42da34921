import VirtualTables.Markup.Event

/-!
Documents as forests: elements with what stands inside them.

A `Forest` is what stands at one level of a document, one node after another. Its `events` are the
tags and texts that a reader delivers for it, and every other function here looks at the nodes alone
and knows nothing of tags in sequence.
-/

namespace VirtualTables.Markup

inductive Forest where
  | nil
  | element (tag : String) (content rest : Forest)
  | selfClosed (tag : String) (rest : Forest)
  | text (content : List Char) (rest : Forest)
  | verbatim (content : List Char) (rest : Forest)

namespace Forest

def events : Forest → List Event
  | .nil => []
  | .element tag content rest =>
      .opening tag.toList :: (content.events ++ .closing tag.toList :: rest.events)
  | .selfClosed tag rest => .empty tag.toList :: rest.events
  | .text content rest => .text content :: rest.events
  | .verbatim content rest => .verbatim content :: rest.events

def append : Forest → Forest → Forest
  | .nil, more => more
  | .element tag content rest, more => .element tag content (rest.append more)
  | .selfClosed tag rest, more => .selfClosed tag (rest.append more)
  | .text content rest, more => .text content (rest.append more)
  | .verbatim content rest, more => .verbatim content (rest.append more)

theorem events_append (forest more : Forest) :
    (forest.append more).events = forest.events ++ more.events := by
  induction forest with
  | nil => rfl
  | element tag content rest _ inductionHypothesis =>
      simp only [append, events, inductionHypothesis, List.cons_append, List.append_assoc]
  | selfClosed tag rest inductionHypothesis =>
      simp only [append, events, inductionHypothesis, List.cons_append]
  | text content rest inductionHypothesis =>
      simp only [append, events, inductionHypothesis, List.cons_append]
  | verbatim content rest inductionHypothesis =>
      simp only [append, events, inductionHypothesis, List.cons_append]

/-- The contents of the elements with a tag at this level, in document order. -/
def children (tag : String) : Forest → List Forest
  | .nil => []
  | .element other content rest =>
      (if other = tag then [content] else []) ++ rest.children tag
  | .selfClosed _ rest => rest.children tag
  | .text _ rest => rest.children tag
  | .verbatim _ rest => rest.children tag

/-- The contents of the elements with a tag at any depth, in document order. -/
def descendants (tag : String) : Forest → List Forest
  | .nil => []
  | .element other content rest =>
      (if other = tag then [content] else []) ++ (content.descendants tag ++ rest.descendants tag)
  | .selfClosed _ rest => rest.descendants tag
  | .text _ rest => rest.descendants tag
  | .verbatim _ rest => rest.descendants tag

/-- The tags of the elements at this level, self-closed or not. -/
def tags : Forest → List String
  | .nil => []
  | .element tag _ rest => tag :: rest.tags
  | .selfClosed tag rest => tag :: rest.tags
  | .text _ rest => rest.tags
  | .verbatim _ rest => rest.tags

def selfClosedTags : Forest → List String
  | .nil => []
  | .element _ content rest => content.selfClosedTags ++ rest.selfClosedTags
  | .selfClosed tag rest => tag :: rest.selfClosedTags
  | .text _ rest => rest.selfClosedTags
  | .verbatim _ rest => rest.selfClosedTags

/-- The texts and sections of character data at this level, joined. -/
def ownText : Forest → List Char
  | .nil => []
  | .element _ _ rest => rest.ownText
  | .selfClosed _ rest => rest.ownText
  | .text content rest => content ++ rest.ownText
  | .verbatim content rest => content ++ rest.ownText

/-- The text behind the last tag that discards it, if there was some text before. -/
def textBehind (before : List Char) : Forest → List Char
  | .nil => before
  | .element _ _ rest => rest.textBehind []
  | .selfClosed _ rest => rest.textBehind before
  | .text content rest => rest.textBehind (before ++ content)
  | .verbatim content rest => rest.textBehind (before ++ content)

theorem textBehind_of_childless {forest : Forest} (childless : forest.tags = [])
    (before : List Char) : forest.textBehind before = before ++ forest.ownText := by
  induction forest generalizing before with
  | nil => exact (List.append_nil before).symm
  | element tag content rest => cases childless
  | selfClosed tag rest => cases childless
  | text content rest inductionHypothesis =>
      rw [textBehind, inductionHypothesis childless, ownText, List.append_assoc]
  | verbatim content rest inductionHypothesis =>
      rw [textBehind, inductionHypothesis childless, ownText, List.append_assoc]

section Element

variable {tag other : String} {content rest inside : Forest}

theorem mem_descendants_element :
    inside ∈ (element other content rest).descendants tag ↔
      (other = tag ∧ inside = content) ∨ inside ∈ content.descendants tag ∨
        inside ∈ rest.descendants tag := by
  by_cases same : other = tag
  · simp [descendants, same]
  · simp [descendants, same]

theorem descendants_element_eq_nil :
    (element other content rest).descendants tag = [] ↔
      other ≠ tag ∧ content.descendants tag = [] ∧ rest.descendants tag = [] := by
  by_cases same : other = tag
  · simp [descendants, same]
  · simp [descendants, same]

theorem getLast?_children_element :
    ((element other content rest).children tag).getLast? =
      (rest.children tag).getLast?.or (if other = tag then some content else none) := by
  rw [children, List.getLast?_append]
  by_cases same : other = tag
  · rw [if_pos same, if_pos same]
    rfl
  · rw [if_neg same, if_neg same]
    rfl

end Element

end Forest

end VirtualTables.Markup
