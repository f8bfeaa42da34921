import Mathlib.Data.List.Infix
import Mathlib.Data.List.TakeWhile
import VirtualTables.Catalog.Pattern

/-!
What name patterns accept.

`Likes` gives the language of a written pattern, and `Spells` that of its pieces. Comparing by all
ways at once works because the texts that are left are always end pieces of the longest of them.
Which of the three forms a pattern has depends on its wildcards alone (`HasWildcard`).
-/

namespace VirtualTables

/-- A written pattern fits a name as a whole. -/
inductive Likes : List Char → List Char → Prop where
  | nil : Likes [] []
  | run {pattern name : List Char} (skipped : List Char) (others : Likes pattern name) :
      Likes ('%' :: pattern) (skipped ++ name)
  | one {pattern name : List Char} (character : Char) (others : Likes pattern name) :
      Likes ('_' :: pattern) (character :: name)
  | escaped {pattern name : List Char} (character : Char) (others : Likes pattern name) :
      Likes ('\\' :: character :: pattern) (character :: name)
  | backslash : Likes ['\\'] ['\\']
  | itself {pattern name : List Char} {character : Char} (plain : character ∉ ['%', '_', '\\'])
      (others : Likes pattern name) : Likes (character :: pattern) (character :: name)

namespace PatternPiece

/-- Pieces fit a name as a whole. -/
inductive Spells : List PatternPiece → List Char → Prop where
  | nil : Spells [] []
  | run {pieces : List PatternPiece} {name : List Char} (skipped : List Char)
      (others : Spells pieces name) : Spells (.run :: pieces) (skipped ++ name)
  | one {pieces : List PatternPiece} {name : List Char} (character : Char)
      (others : Spells pieces name) : Spells (.one :: pieces) (character :: name)
  | exactly {pieces : List PatternPiece} {name : List Char} (character : Char)
      (others : Spells pieces name) : Spells (.exactly character :: pieces) (character :: name)

section Pieces

variable {pieces : List PatternPiece} {name : List Char}

theorem spells_run_iff :
    Spells (.run :: pieces) name ↔ ∃ rest, rest <:+ name ∧ Spells pieces rest := by
  constructor
  · intro spells
    cases spells with
    | run skipped others => exact ⟨_, List.suffix_append _ _, others⟩
  · rintro ⟨rest, ⟨skipped, rfl⟩, others⟩
    exact .run skipped others

theorem exists_cons_of_leaves {piece : PatternPiece} {rest : List Char}
    (left : piece.leaves name = some rest) : ∃ character, name = character :: rest := by
  cases name with
  | nil => cases piece <;> cases left
  | cons character name =>
      cases piece with
      | run => cases left
      | one =>
          cases left
          exact ⟨character, rfl⟩
      | exactly expected =>
          simp only [leaves, Option.ite_none_right_eq_some, Option.some.injEq] at left
          exact ⟨character, left.2 ▸ rfl⟩

/-- A piece other than a run fits one character. -/
theorem spells_single_iff {piece : PatternPiece} (single : piece ≠ .run) :
    Spells (piece :: pieces) name ↔ ∃ rest, piece.leaves name = some rest ∧ Spells pieces rest := by
  constructor
  · intro spells
    cases spells with
    | run skipped others => exact absurd rfl single
    | one character others => exact ⟨_, rfl, others⟩
    | exactly character others => exact ⟨_, if_pos rfl, others⟩
  · rintro ⟨rest, left, others⟩
    obtain ⟨character, rfl⟩ := exists_cons_of_leaves left
    cases piece with
    | run => exact absurd rfl single
    | one => exact .one character others
    | exactly expected =>
        simp only [leaves, Option.ite_none_right_eq_some] at left
        obtain ⟨rfl, -⟩ := left
        exact .exactly character others

theorem parse_plain {character : Char} {rest : List Char} (plain : character ∉ ['%', '_', '\\']) :
    parse (character :: rest) = .exactly character :: parse rest := by
  simp only [List.mem_cons, List.not_mem_nil, or_false, not_or] at plain
  obtain ⟨noRun, noOne, noBackslash⟩ := plain
  rw [parse]
  · exact noRun
  · exact noOne
  · exact fun isBackslash => absurd isBackslash noBackslash
  · exact fun _ _ isBackslash => absurd isBackslash noBackslash

/-- What is left for the last clause of `parse` is a plain character. -/
theorem plain_of_unescaped {character : Char} {rest : List Char} (noRun : character ≠ '%')
    (noOne : character ≠ '_') (noBackslash : character = '\\' → rest ≠ [])
    (noEscape : ∀ other others, character = '\\' → rest ≠ other :: others) :
    character ∉ ['%', '_', '\\'] := by
  simp only [List.mem_cons, List.not_mem_nil, or_false, not_or]
  refine ⟨noRun, noOne, fun isBackslash => ?_⟩
  cases rest with
  | nil => exact noBackslash isBackslash rfl
  | cons other others => exact noEscape other others isBackslash rfl

theorem likes_iff_spells {pattern : List Char} :
    Likes pattern name ↔ Spells (parse pattern) name := by
  constructor
  · intro likes
    induction likes with
    | nil => exact .nil
    | run skipped _ inductionHypothesis => exact .run skipped inductionHypothesis
    | one character _ inductionHypothesis => exact .one character inductionHypothesis
    | escaped character _ inductionHypothesis => exact .exactly character inductionHypothesis
    | backslash => exact .exactly '\\' .nil
    | itself plain _ inductionHypothesis =>
        rw [parse_plain plain]
        exact .exactly _ inductionHypothesis
  · intro spells
    induction pattern using parse.induct generalizing name with
    | case1 =>
        cases spells
        exact .nil
    | case2 rest inductionHypothesis =>
        cases spells with
        | run skipped others => exact .run skipped (inductionHypothesis others)
    | case3 rest inductionHypothesis =>
        cases spells with
        | one character others => exact .one character (inductionHypothesis others)
    | case4 =>
        cases spells with
        | exactly character others =>
            cases others
            exact .backslash
    | case5 character rest inductionHypothesis =>
        cases spells with
        | exactly character others => exact .escaped character (inductionHypothesis others)
    | case6 character rest noRun noOne noBackslash noEscape inductionHypothesis =>
        have plain := plain_of_unescaped noRun noOne noBackslash noEscape
        rw [parse_plain plain] at spells
        cases spells with
        | exactly character others => exact .itself plain (inductionHypothesis others)

end Pieces

/-- Each text is an end piece of those before it. -/
def Narrowing (texts : List (List Char)) : Prop :=
  texts.Pairwise fun longer shorter => shorter <:+ longer

theorem mem_tails {text rest : List Char} : rest ∈ tails text ↔ rest <:+ text := by
  induction text with
  | nil => simp [tails]
  | cons character text inductionHypothesis =>
      rw [tails, List.mem_cons, inductionHypothesis, List.suffix_cons_iff]

theorem narrowing_tails (text : List Char) : Narrowing (tails text) := by
  induction text with
  | nil => exact List.pairwise_singleton _ _
  | cons character text inductionHypothesis =>
      refine List.pairwise_cons.mpr ⟨fun rest inside => ?_, inductionHypothesis⟩
      exact (mem_tails.mp inside).trans (List.suffix_cons character text)

theorem leaves_suffix {piece : PatternPiece} {longer shorter longerRest shorterRest : List Char}
    (suffix : shorter <:+ longer) (longerLeaves : piece.leaves longer = some longerRest)
    (shorterLeaves : piece.leaves shorter = some shorterRest) : shorterRest <:+ longerRest := by
  obtain ⟨first, rfl⟩ := exists_cons_of_leaves longerLeaves
  obtain ⟨second, rfl⟩ := exists_cons_of_leaves shorterLeaves
  rcases List.suffix_cons_iff.mp suffix with same | within
  · cases same
    exact List.suffix_rfl
  · exact (List.suffix_cons second shorterRest).trans within

theorem advance_single {piece : PatternPiece} (single : piece ≠ .run) (texts : List (List Char)) :
    piece.advance texts = texts.filterMap piece.leaves := by
  cases piece with
  | run => exact absurd rfl single
  | one => rfl
  | exactly character => rfl

theorem Narrowing.advance {texts : List (List Char)} (narrowing : Narrowing texts)
    (piece : PatternPiece) : Narrowing (piece.advance texts) := by
  by_cases single : piece = .run
  · subst single
    cases texts with
    | nil => exact .nil
    | cons longest texts => exact narrowing_tails longest
  · rw [advance_single single]
    refine List.pairwise_filterMap.mpr (narrowing.imp ?_)
    intro longer shorter suffix longerRest longerLeaves shorterRest shorterLeaves
    exact leaves_suffix suffix longerLeaves shorterLeaves

/-- A piece can be read on some of the texts exactly if what is left can be read on what it
leaves. -/
theorem exists_spells_cons_iff {texts : List (List Char)} (narrowing : Narrowing texts)
    (piece : PatternPiece) (pieces : List PatternPiece) :
    (∃ text ∈ texts, Spells (piece :: pieces) text) ↔
      ∃ text ∈ piece.advance texts, Spells pieces text := by
  by_cases single : piece = .run
  · subst single
    cases texts with
    | nil => simp [PatternPiece.advance]
    | cons longest texts =>
        have suffixes : ∀ text ∈ longest :: texts, text <:+ longest := by
          rw [List.forall_mem_cons]
          exact ⟨List.suffix_rfl, (List.pairwise_cons.mp narrowing).1⟩
        simp only [PatternPiece.advance, mem_tails, spells_run_iff]
        constructor
        · rintro ⟨text, inside, rest, suffix, spells⟩
          exact ⟨rest, suffix.trans (suffixes text inside), spells⟩
        · rintro ⟨rest, suffix, spells⟩
          exact ⟨longest, List.mem_cons_self, rest, suffix, spells⟩
  · simp only [advance_single single, List.mem_filterMap, spells_single_iff single]
    constructor
    · rintro ⟨text, inside, rest, left, spells⟩
      exact ⟨rest, ⟨text, inside, left⟩, spells⟩
    · rintro ⟨rest, ⟨text, inside, left⟩, spells⟩
      exact ⟨text, inside, rest, left, spells⟩

theorem match?_iff {texts : List (List Char)} (narrowing : Narrowing texts)
    (pieces : List PatternPiece) :
    match? pieces texts = true ↔ ∃ text ∈ texts, Spells pieces text := by
  induction pieces generalizing texts with
  | nil =>
      have spells (text : List Char) : Spells [] text ↔ text = [] := by
        constructor
        · intro spells
          cases spells
          rfl
        · rintro rfl
          exact .nil
      simp [match?, spells]
  | cons piece pieces inductionHypothesis =>
      rw [match?, inductionHypothesis (narrowing.advance piece),
        exists_spells_cons_iff narrowing piece pieces]

/-- With a piece that fixes no character there are fewer characters than pieces. -/
theorem length_fixed_cons_ne {piece : PatternPiece} (free : piece.fixed? = none)
    (pieces : List PatternPiece) :
    ((piece :: pieces).filterMap fixed?).length ≠ (piece :: pieces).length := by
  have short := List.length_filterMap_le fixed? pieces
  rw [List.filterMap_cons_none free, List.length_cons]
  omega

theorem spells_of_fixed {pieces : List PatternPiece} {name : List Char}
    (fixed : (pieces.filterMap fixed?).length = pieces.length) :
    Spells pieces name ↔ pieces.filterMap fixed? = name := by
  induction pieces generalizing name with
  | nil =>
      constructor
      · intro spells
        cases spells
        rfl
      · rintro rfl
        exact .nil
  | cons piece pieces inductionHypothesis =>
      cases piece with
      | run => exact absurd fixed (length_fixed_cons_ne rfl pieces)
      | one => exact absurd fixed (length_fixed_cons_ne rfl pieces)
      | exactly character =>
          have others : (pieces.filterMap fixed?).length = pieces.length :=
            Nat.succ.inj fixed
          have spelt : (exactly character :: pieces).filterMap fixed? =
              character :: pieces.filterMap fixed? := rfl
          rw [spelt]
          constructor
          · intro spells
            cases spells with
            | exactly character spells => rw [(inductionHypothesis others).mp spells]
          · rintro rfl
            exact .exactly character ((inductionHypothesis others).mpr rfl)

end PatternPiece

theorem NamePattern.accepts_ofText?_iff {pattern? : Option String} {name : String} :
    (ofText? pattern?).accepts name = true ↔
      ∀ pattern ∈ pattern?, Likes pattern.toList name.toList := by
  cases pattern? with
  | none => simp [ofText?, accepts]
  | some pattern =>
      have single : (∀ given ∈ some pattern, Likes given.toList name.toList) ↔
          PatternPiece.Spells (PatternPiece.parse pattern.toList) name.toList := by
        simp [PatternPiece.likes_iff_spells]
      rw [single, ofText?]
      split
      · next all =>
          have spells : PatternPiece.Spells [.run] name.toList := by
            have run := PatternPiece.Spells.run name.toList .nil
            rwa [List.append_nil] at run
          subst all
          exact iff_of_true rfl spells
      · dsimp only
        split
        · next fixed =>
            rw [PatternPiece.spells_of_fixed fixed, accepts, beq_iff_eq, ← String.toList_inj,
              String.toList_ofList]
        · rw [accepts, PatternPiece.match?_iff (List.pairwise_singleton _ _)]
          simp

/-- A percent sign or an underscore stands in a pattern and is not escaped: right in front of it
there is an even number of backslashes, which escape one another. -/
def HasWildcard (pattern : List Char) : Prop :=
  ∃ before wildcard after, pattern = before ++ wildcard :: after ∧ wildcard ∈ ['%', '_'] ∧
    (before.reverse.takeWhile (· == '\\')).length % 2 = 0

section HasWildcard

variable {pattern : List Char} {character : Char}

theorem length_backslashes_cons (plain : character ≠ '\\') (before : List Char) :
    ((character :: before).reverse.takeWhile (· == '\\')).length =
      (before.reverse.takeWhile (· == '\\')).length := by
  rw [List.reverse_cons, List.takeWhile_append]
  split
  · next all => simp [plain, all]
  · rfl

/-- A backslash with the character it escapes adds none of them, or two. -/
theorem length_backslashes_escaped (character : Char) (before : List Char) :
    (('\\' :: character :: before).reverse.takeWhile (· == '\\')).length % 2 =
      (before.reverse.takeWhile (· == '\\')).length % 2 := by
  rw [List.reverse_cons, List.reverse_cons, List.append_assoc, List.takeWhile_append]
  split
  · next all =>
      by_cases backslash : character = '\\'
      · simp [backslash, all]
      · simp [backslash, all]
  · rfl

theorem hasWildcard_cons_wildcard (isWildcard : character ∈ ['%', '_']) :
    HasWildcard (character :: pattern) :=
  ⟨[], character, pattern, rfl, isWildcard, rfl⟩

theorem hasWildcard_cons_plain (plain : character ∉ ['%', '_', '\\']) :
    HasWildcard (character :: pattern) ↔ HasWildcard pattern := by
  have noBackslash : character ≠ '\\' := by
    rintro rfl
    exact plain (by decide)
  constructor
  · rintro ⟨before, wildcard, after, split, isWildcard, even⟩
    cases before with
    | nil =>
        cases split
        exact absurd (List.mem_append_left ['\\'] isWildcard) plain
    | cons first before =>
        cases split
        rw [length_backslashes_cons noBackslash] at even
        exact ⟨before, wildcard, after, rfl, isWildcard, even⟩
  · rintro ⟨before, wildcard, after, rfl, isWildcard, even⟩
    refine ⟨character :: before, wildcard, after, rfl, isWildcard, ?_⟩
    rwa [length_backslashes_cons noBackslash]

theorem hasWildcard_cons_escaped :
    HasWildcard ('\\' :: character :: pattern) ↔ HasWildcard pattern := by
  constructor
  · rintro ⟨before, wildcard, after, split, isWildcard, even⟩
    rcases before with _ | ⟨first, _ | ⟨second, before⟩⟩
    · cases split
      exact absurd isWildcard (by decide)
    · cases split
      exact absurd even (by decide)
    · cases split
      rw [length_backslashes_escaped] at even
      exact ⟨before, wildcard, after, rfl, isWildcard, even⟩
  · rintro ⟨before, wildcard, after, rfl, isWildcard, even⟩
    refine ⟨'\\' :: character :: before, wildcard, after, rfl, isWildcard, ?_⟩
    rwa [length_backslashes_escaped]

theorem not_hasWildcard_nil : ¬ HasWildcard [] := by
  rintro ⟨before, wildcard, after, split, -⟩
  exact List.append_ne_nil_of_right_ne_nil before (List.cons_ne_nil wildcard after) split.symm

theorem not_hasWildcard_backslash : ¬ HasWildcard ['\\'] := by
  rintro ⟨before, wildcard, after, split, isWildcard, -⟩
  cases before with
  | nil =>
      cases split
      exact absurd isWildcard (by decide)
  | cons first before =>
      exact List.append_ne_nil_of_right_ne_nil before (List.cons_ne_nil wildcard after)
        (List.cons.inj split).2.symm

/-- The pieces of a pattern fix one character each exactly if it has no wildcard. -/
theorem length_fixed_parse_iff :
    ((PatternPiece.parse pattern).filterMap PatternPiece.fixed?).length =
      (PatternPiece.parse pattern).length ↔ ¬ HasWildcard pattern := by
  induction pattern using PatternPiece.parse.induct with
  | case1 => exact iff_of_true rfl not_hasWildcard_nil
  | case2 rest =>
      rw [PatternPiece.parse]
      exact iff_of_false (PatternPiece.length_fixed_cons_ne rfl _)
        (not_not_intro (hasWildcard_cons_wildcard (by decide)))
  | case3 rest =>
      rw [PatternPiece.parse]
      exact iff_of_false (PatternPiece.length_fixed_cons_ne rfl _)
        (not_not_intro (hasWildcard_cons_wildcard (by decide)))
  | case4 => exact iff_of_true rfl not_hasWildcard_backslash
  | case5 character rest inductionHypothesis =>
      rw [hasWildcard_cons_escaped, ← inductionHypothesis]
      exact Nat.succ_inj
  | case6 character rest noRun noOne noBackslash noEscape inductionHypothesis =>
      have plain := PatternPiece.plain_of_unescaped noRun noOne noBackslash noEscape
      rw [hasWildcard_cons_plain plain, ← inductionHypothesis, PatternPiece.parse_plain plain]
      exact Nat.succ_inj

end HasWildcard

/-- A name passes the filter of a pattern if it belongs to the language of the pattern, in whichever
of its three forms the filter is kept, and the form depends on the wildcards of the pattern. -/
theorem NamePattern.ofText?_represents (pattern? : Option String) :
    (∀ name : String, (ofText? pattern?).accepts name = true ↔
        ∀ pattern ∈ pattern?, Likes pattern.toList name.toList) ∧
      (ofText? pattern? = .any ↔ ∀ pattern ∈ pattern?, pattern = "%") ∧
      ((∃ literal, ofText? pattern? = .exact literal) ↔
        ∃ pattern ∈ pattern?, ¬ HasWildcard pattern.toList) ∧
      ((∃ pieces, ofText? pattern? = .like pieces) ↔
        ∃ pattern ∈ pattern?, HasWildcard pattern.toList ∧ pattern ≠ "%") := by
  refine ⟨fun name => accepts_ofText?_iff, ?_⟩
  cases pattern? with
  | none => simp [ofText?]
  | some pattern =>
      have fixed : ((PatternPiece.parse pattern.toList).filterMap PatternPiece.fixed?).length =
          (PatternPiece.parse pattern.toList).length ↔ ¬ HasWildcard pattern.toList :=
        length_fixed_parse_iff
      by_cases all : pattern = "%"
      · have wildcard : HasWildcard ['%'] := hasWildcard_cons_wildcard (by decide)
        simp [ofText?, all, wildcard]
      · by_cases wildcard : HasWildcard pattern.toList
        · simp [ofText?, all, wildcard, fixed]
        · simp [ofText?, all, wildcard, fixed]

end VirtualTables
