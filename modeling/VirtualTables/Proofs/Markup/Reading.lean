import Mathlib.Data.List.TakeWhile
import VirtualTables.Markup.Event
import VirtualTables.Text.Blank

/-!
Documents from their front: the first construct or text gives its events, and then those of the rest
follow (`events_bracket`, `events_run`).
-/

namespace VirtualTables.Markup

open Text (stripBoth)

theorem textBlank_of_isBlank {character : Char} (blank : isBlank character = true) :
    Text.isBlank character = true := by
  simp only [isBlank, Bool.or_eq_true, beq_iff_eq] at blank
  rcases blank with ((rfl | rfl) | rfl) | rfl <;> decide

section Resolve

variable {rest : List Char} {character : Char}

theorem resolve_cons (position : Nat) (plain : character ≠ '&') :
    resolve position (character :: rest) =
      (resolve (position + Text.Utf8.size [character]) rest).map (character :: ·) := by
  rw [resolve]
  · cases resolve (position + Text.Utf8.size [character]) rest <;> rfl
  · exact plain

theorem resolve_reference (position : Nat) {name : List Char}
    (plain : ∀ other ∈ name, endsName other = false)
    (known : ∀ position, reference? position name = .ok character) :
    resolve position ('&' :: (name ++ ';' :: rest)) =
      (resolve (position + Text.Utf8.size name + 2) rest).map (character :: ·) := by
  have inName : ∀ other ∈ name, (!endsName other) = true := by
    intro other inside
    rw [plain other inside]
    rfl
  have ends : endsName ';' = true := by decide
  have isName : (name ++ ';' :: rest).takeWhile (!endsName ·) = name := by
    rw [List.takeWhile_append_of_pos inName]
    simp [ends]
  have behind : (name ++ ';' :: rest).dropWhile (!endsName ·) = ';' :: rest := by
    rw [List.dropWhile_append_of_pos inName]
    simp [ends]
  rw [resolve]
  simp only [isName]
  split
  · next others found =>
      rw [behind] at found
      cases found
      rw [known]
      cases resolve (position + Text.Utf8.size name + 2) rest <;> rfl
  · next other => exact absurd behind (other rest)

end Resolve

def followedBy (found : List Event) (later : List Event × Option Fault) :
    List Event × Option Fault :=
  (found ++ later.1, later.2)

theorem append_followedBy (before after : List Event) (later : List Event × Option Fault) :
    followedBy (before ++ after) later = followedBy before (followedBy after later) := by
  simp [followedBy]

section Events

variable {text rest content : List Char} {opened : List (List Char)}

theorem events_nil (opened : List (List Char)) : events opened [] = ([], none) := by
  rw [events]
  rfl

theorem events_blanks {blanks : List Char}
    (blank : ∀ character ∈ blanks, isBlank character = true) :
    events opened (blanks ++ rest) = events opened rest := by
  have same : (blanks ++ rest).dropWhile isBlank = rest.dropWhile isBlank :=
    List.dropWhile_append_of_pos blank
  rw [events, events, same]

theorem events_bracket (opened : List (List Char)) (rest : List Char) :
    events opened ('<' :: rest) =
      match construct opened rest with
      | .error fault => ([], some fault)
      | .ok found => followedBy found.event?.toList (events found.opened found.rest) := by
  have atTag : ('<' :: rest).dropWhile isBlank = '<' :: rest :=
    List.dropWhile_cons_of_neg (by decide)
  rw [events]
  split
  · next empty =>
      rw [atTag] at empty
      cases empty
  · next others behind =>
      rw [atTag] at behind
      cases behind
      split
      · next failed => rw [failed]
      · next constructed =>
          rw [constructed]
          rfl
  · next noTag behind =>
      rw [atTag] at behind
      cases behind
      exact absurd rfl noTag

theorem events_construct {found : Construct} (constructed : construct opened rest = .ok found) :
    events opened ('<' :: rest) =
      followedBy found.event?.toList (events found.opened found.rest) := by
  rw [events_bracket, constructed]

def textEvents (text : List Char) : List Event :=
  if text = [] then [] else [.text text]

theorem resolve_ne_nil {position : Nat} (nonempty : text ≠ [])
    (resolved : resolve position text = .ok content) : content ≠ [] := by
  cases text with
  | nil => exact absurd rfl nonempty
  | cons character text =>
      rintro rfl
      by_cases ampersand : character = '&'
      · subst ampersand
        rw [resolve] at resolved
        split at resolved
        · split at resolved
          · cases resolved
          · split at resolved
            · cases resolved
            · cases resolved
        · cases resolved
      · rw [resolve_cons position ampersand] at resolved
        cases others : resolve (position + Text.Utf8.size [character]) text with
        | error fault => simp [others, Except.map] at resolved
        | ok found => simp [others, Except.map] at resolved

theorem events_solid {character : Char} (solid : isBlank character = false)
    (noTag : ∀ other ∈ character :: text, other ≠ '<') (ends : ∀ other ∈ rest.head?, other = '<') :
    events opened (character :: text ++ rest) =
      match resolve 0 ((character :: text).reverse.dropWhile isBlank).reverse with
      | .error fault => ([], some (.reference fault))
      | .ok resolved => followedBy [.text resolved] (events opened rest) := by
  have atText : (character :: (text ++ rest)).dropWhile isBlank = character :: (text ++ rest) :=
    List.dropWhile_cons_of_neg (Bool.not_eq_true _ ▸ solid)
  have inText : ∀ other ∈ text, (other != '<') = true := by
    intro other inside
    exact bne_iff_ne.mpr (noTag other (List.mem_cons_of_mem character inside))
  have upToTag : (text ++ rest).takeWhile (· != '<') = text := by
    rw [List.takeWhile_append_of_pos inText]
    cases rest with
    | nil => simp
    | cons other rest => simp [ends other rfl]
  have fromTag : (text ++ rest).dropWhile (· != '<') = rest := by
    rw [List.dropWhile_append_of_pos inText]
    cases rest with
    | nil => rfl
    | cons other rest => simp [ends other rfl]
  rw [List.cons_append, events]
  split
  · next empty =>
      rw [atText] at empty
      cases empty
  · next behind =>
      rw [atText] at behind
      cases behind
      exact absurd rfl (noTag '<' List.mem_cons_self)
  · next behind =>
      rw [atText] at behind
      cases behind
      simp only [upToTag, fromTag]
      rfl

/-- A text up to a tag or the end of the document is delivered without the blanks at its ends. -/
theorem events_run (noTag : '<' ∉ text) (ends : ∀ other ∈ rest.head?, other = '<') :
    events opened (text ++ rest) =
      match resolve 0 (stripBoth isBlank text) with
      | .error fault => ([], some (.reference fault))
      | .ok resolved => followedBy (textEvents resolved) (events opened rest) := by
  have whole : events opened (text.takeWhile isBlank ++ (text.dropWhile isBlank ++ rest)) =
      events opened (text.dropWhile isBlank ++ rest) :=
    events_blanks fun character inside => List.mem_takeWhile_imp inside
  rw [← List.append_assoc, List.takeWhile_append_dropWhile] at whole
  rw [whole, stripBoth]
  rcases behind : text.dropWhile isBlank with _ | ⟨character, others⟩
  · rw [List.reverse_nil, List.dropWhile_nil, List.reverse_nil, resolve]
    rfl
  · have solid : isBlank character = false := by
      have isFirst : (text.dropWhile isBlank).head? = some character := by rw [behind]; rfl
      simpa [isFirst] using List.head?_dropWhile_not isBlank text
    have noTag : ∀ other ∈ character :: others, other ≠ '<' := by
      rintro other inside rfl
      exact noTag ((List.dropWhile_suffix isBlank).subset (behind ▸ inside))
    have nonempty : ((character :: others).reverse.dropWhile isBlank).reverse ≠ [] := by
      simp only [ne_eq, List.reverse_eq_nil_iff, List.dropWhile_eq_nil_iff, List.mem_reverse,
        List.mem_cons, not_forall]
      exact ⟨character, Or.inl rfl, by simp [solid]⟩
    rw [events_solid solid noTag ends]
    cases resolved : resolve 0 ((character :: others).reverse.dropWhile isBlank).reverse with
    | error fault => rfl
    | ok found =>
        have given : textEvents found = [.text found] := if_neg (resolve_ne_nil nonempty resolved)
        dsimp only
        rw [given]

end Events

end VirtualTables.Markup
