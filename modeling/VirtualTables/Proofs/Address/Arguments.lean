import Mathlib.Data.List.DropRight
import VirtualTables.Address.Reader

/-!
The arguments of addresses.

`Gives` says which arguments count, and with which key and value, `Counts` which keys and values
reading can give. Such arguments, written one after another, are read back, and of those with one
key the last counts.
-/

namespace VirtualTables

theorem rdropWhile_eq_iff {α : Type} {test : α → Bool} {list kept : List α} :
    list.rdropWhile test = kept ↔
      ∃ dropped, list = kept ++ dropped ∧ (∀ entry ∈ dropped, test entry = true) ∧
        ∀ nonempty : kept ≠ [], ¬ test (kept.getLast nonempty) = true := by
  constructor
  · rintro rfl
    exact ⟨_, List.rdropWhile_append_rtakeWhile.symm, fun _ => List.mem_rtakeWhile_imp,
      List.rdropWhile_last_not test list⟩
  · rintro ⟨dropped, rfl, passes, last⟩
    rw [List.rdropWhile, List.reverse_append,
      List.dropWhile_append_of_pos fun entry inside => passes entry (List.mem_reverse.mp inside)]
    exact List.rdropWhile_eq_self_iff.mpr last

theorem beq_eq_false_of_not_mem {mark : Char} {text : List Char} (missing : mark ∉ text) :
    ∀ character ∈ text, (character == mark) = false := by
  intro character inside
  rw [beq_eq_false_iff_ne]
  rintro rfl
  exact missing inside

namespace Address

/-- An argument without the equals signs at its end. -/
def bare (piece : List Char) : List Char :=
  piece.rdropWhile (· == '=')

/-- An argument counts, with a key and a value: the equals signs at its end aside it has one, and
that stands between them. -/
structure Gives (piece : List Char) (key value : String) : Prop where
  once : (bare piece).count '=' = 1
  split : bare piece = key.toList ++ '=' :: value.toList

instance (piece : List Char) (key value : String) : Decidable (Gives piece key value) :=
  decidable_of_iff ((bare piece).count '=' = 1 ∧ bare piece = key.toList ++ '=' :: value.toList)
    ⟨fun both => ⟨both.1, both.2⟩, fun gives => ⟨gives.once, gives.split⟩⟩

section Gives

variable {piece : List Char} {key value : String}

theorem Gives.plain (gives : Gives piece key value) :
    '=' ∉ key.toList ∧ '=' ∉ value.toList := by
  have once := gives.once
  rw [gives.split, List.count_append, List.count_cons_self] at once
  exact ⟨List.count_eq_zero.mp (by omega), List.count_eq_zero.mp (by omega)⟩

theorem Gives.valueGiven (gives : Gives piece key value) : value.toList ≠ [] := by
  intro empty
  obtain ⟨_, -, -, last⟩ := rdropWhile_eq_iff.mp gives.split
  simp [empty] at last

theorem gives_iff : Gives piece key value ↔
    ('=' ∉ key.toList ∧ '=' ∉ value.toList ∧ value.toList ≠ []) ∧
      ∃ more, piece = key.toList ++ '=' :: value.toList ++ List.replicate more '=' := by
  constructor
  · intro gives
    obtain ⟨dropped, split, passes, -⟩ := rdropWhile_eq_iff.mp gives.split
    refine ⟨⟨gives.plain.1, gives.plain.2, gives.valueGiven⟩, dropped.length, ?_⟩
    rw [split, ← List.eq_replicate_iff.mpr ⟨rfl, by simpa using passes⟩]
  · rintro ⟨⟨inKey, inValue, nonempty⟩, more, split⟩
    have kept : bare piece = key.toList ++ '=' :: value.toList := by
      rw [bare, rdropWhile_eq_iff]
      refine ⟨_, split, by simp, fun _ isLast => ?_⟩
      rw [beq_iff_eq, List.getLast_append_of_ne_nil _ (List.cons_ne_nil _ _),
        List.getLast_cons nonempty] at isLast
      exact inValue (isLast ▸ List.getLast_mem nonempty)
    refine ⟨?_, kept⟩
    rw [kept, List.count_append, List.count_cons_self, List.count_eq_zero.mpr inKey,
      List.count_eq_zero.mpr inValue]

theorem exists_gives_iff (piece : List Char) :
    (∃ key value, Gives piece key value) ↔ (bare piece).count '=' = 1 := by
  constructor
  · rintro ⟨key, value, gives⟩
    exact gives.once
  · intro once
    obtain ⟨key, value, split⟩ :=
      List.append_of_mem (List.count_pos_iff.mp (once.symm ▸ Nat.one_pos : 0 < _))
    exact ⟨.ofList key, .ofList value, once, by simp [split]⟩

theorem splitAt_append_replicate (text : List Char) (more : Nat) :
    Text.splitAt (· == '=') (text ++ List.replicate more '=') =
      Text.splitAt (· == '=') text ++ List.replicate more [] := by
  induction more generalizing text with
  | zero => simp
  | succ more inductionHypothesis =>
      have empty := inductionHypothesis []
      rw [List.nil_append] at empty
      rw [List.replicate_succ, Text.splitAt_append (by decide), empty]
      rfl

theorem splitAt_gives (keyPlain : '=' ∉ key.toList) (valuePlain : '=' ∉ value.toList) (more : Nat) :
    Text.splitAt (· == '=') (key.toList ++ '=' :: value.toList ++ List.replicate more '=') =
      [key.toList, value.toList] ++ List.replicate more [] := by
  have whole {text : List Char} (missing : '=' ∉ text) : Text.splitAt (· == '=') text = [text] :=
    Text.splitAt_eq_singleton (beq_eq_false_of_not_mem missing)
  rw [splitAt_append_replicate, Text.splitAt_append (by decide), whole keyPlain, whole valuePlain]
  rfl

theorem splitAt_inj {other : List Char}
    (same : Text.splitAt (· == '=') piece = Text.splitAt (· == '=') other) : piece = other := by
  have separates (character : Char) : (character == '=') = true ↔ character = '=' := beq_iff_eq
  rw [← Text.intercalate_splitAt separates piece, same, Text.intercalate_splitAt separates]

theorem argument?_eq_some_iff : argument? piece = some (key, value) ↔ Gives piece key value := by
  rw [gives_iff]
  constructor
  · intro found
    unfold argument? at found
    dsimp only at found
    split at found
    · next left right parts =>
        cases found
        obtain ⟨dropped, split, empty, last⟩ := rdropWhile_eq_iff.mp parts
        have plain {part : List Char} (inside : part ∈ [left, right]) : '=' ∉ part := by
          have isPart : part ∈ Text.splitAt (· == '=') piece :=
            split ▸ List.mem_append_left dropped inside
          intro within
          exact absurd (Text.mem_splitAt isPart '=' within) (by decide)
        have keyPlain : '=' ∉ (String.ofList left).toList := by
          rw [String.toList_ofList]
          exact plain List.mem_cons_self
        have valuePlain : '=' ∉ (String.ofList right).toList := by
          rw [String.toList_ofList]
          exact plain (List.mem_cons_of_mem _ List.mem_cons_self)
        refine ⟨⟨keyPlain, valuePlain, ?_⟩, dropped.length, ?_⟩
        · simpa using last
        · -- A piece is what its parts make, put together again.
          apply splitAt_inj
          rw [splitAt_gives keyPlain valuePlain, split, String.toList_ofList, String.toList_ofList,
            ← List.eq_replicate_iff.mpr ⟨rfl, by simpa using empty⟩]
    · cases found
  · rintro ⟨⟨keyPlain, valuePlain, valueGiven⟩, more, rfl⟩
    have kept : (Text.splitAt (· == '=')
        (key.toList ++ '=' :: value.toList ++ List.replicate more '=')).rdropWhile List.isEmpty =
        [key.toList, value.toList] := by
      rw [splitAt_gives keyPlain valuePlain, rdropWhile_eq_iff]
      exact ⟨_, rfl, by simp, fun _ => by simpa using valueGiven⟩
    rw [List.rdropWhile] at kept
    rw [argument?, kept]
    simp

theorem Gives.unique {key' value' : String} (gives : Gives piece key value)
    (others : Gives piece key' value') : key' = key ∧ value' = value := by
  have both := argument?_eq_some_iff.mpr others
  rw [argument?_eq_some_iff.mpr gives] at both
  cases both
  exact ⟨rfl, rfl⟩

theorem argument?_eq_none_iff :
    argument? piece = none ↔ ∀ key value, ¬ Gives piece key value := by
  rw [Option.eq_none_iff_forall_ne_some]
  simp only [ne_eq, Prod.forall, argument?_eq_some_iff]

end Gives

/-- A key and a value that stand in one argument: neither holds a mark that divides arguments, and
the value is not empty. -/
structure Counts (argument : String × String) : Prop where
  key : ∀ character ∈ argument.1.toList, character ≠ '&' ∧ character ≠ '='
  value : ∀ character ∈ argument.2.toList, character ≠ '&' ∧ character ≠ '='
  nonempty : argument.2.toList ≠ []

def writtenArgument (argument : String × String) : List Char :=
  argument.1.toList ++ '=' :: argument.2.toList

variable {argument : String × String} {piece : List Char}

theorem argument?_written (counts : Counts argument) :
    argument? (writtenArgument argument) = some argument := by
  refine argument?_eq_some_iff.mpr (gives_iff.mpr ⟨⟨?_, ?_, counts.nonempty⟩, 0, ?_⟩)
  · exact fun inside => (counts.key '=' inside).2 rfl
  · exact fun inside => (counts.value '=' inside).2 rfl
  · exact (List.append_nil _).symm

theorem counts_of_argument? (clean : ∀ character ∈ piece, (character == '&') = false)
    (found : argument? piece = some argument) : Counts argument := by
  have gives := argument?_eq_some_iff.mp found
  obtain ⟨-, more, split⟩ := gives_iff.mp gives
  refine ⟨fun character inside => ⟨?_, ?_⟩, fun character inside => ⟨?_, ?_⟩, gives.valueGiven⟩
  · simpa using clean character (by simp [split, inside])
  · rintro rfl
    exact gives.plain.1 inside
  · simpa using clean character (by simp [split, inside])
  · rintro rfl
    exact gives.plain.2 inside

/-- Written arguments are read back, and of several with one key the last counts. -/
theorem arguments_written {written : List (String × String)} (nonempty : written ≠ [])
    (counts : ∀ argument ∈ written, Counts argument) :
    arguments (['&'].intercalate (written.map writtenArgument)) = .ofList written := by
  have clean : ∀ piece ∈ written.map writtenArgument, ∀ character ∈ piece,
      (character == '&') = false := by
    rw [List.forall_mem_map]
    intro argument inside character within
    have counts := counts argument inside
    simp only [writtenArgument, List.mem_append, List.mem_cons] at within
    rw [beq_eq_false_iff_ne]
    rcases within with inKey | rfl | inValue
    · exact (counts.key character inKey).1
    · decide
    · exact (counts.value character inValue).1
  have all : written.filterMap (argument? ∘ writtenArgument) = written := by
    refine Eq.trans (List.filterMap_congr ?_) List.filterMap_some
    intro argument inside
    exact argument?_written (counts argument inside)
  rw [arguments, Text.splitAt_intercalate (by decide) (by simpa using nonempty) clean,
    List.filterMap_map, all]

theorem counts_of_get?_arguments {query : List Char} {key value : String}
    (found : (arguments query).get? key = some value) : Counts (key, value) := by
  rcases List.mem_filterMap.mp (Dictionary.mem_of_get?_ofList found) with ⟨piece, isPiece, counted⟩
  exact counts_of_argument? (Text.mem_splitAt isPiece) counted

end Address

end VirtualTables
