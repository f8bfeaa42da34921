import VirtualTables.Backend.Route
import VirtualTables.Proofs.Text.Strip

/-!
Hosts that are reached without a proxy.

An address lists them between bars and commas. Every entry that is not blank is handed on to the
client, without a star at its front (`bypassList_entries`). An entry that is a star and nothing else
becomes empty on the way and so gets lost (`filter_splitAt_bypassList`).
-/

namespace VirtualTables.Client

open Text

def endsEntry (character : Char) : Bool :=
  character == '|' || character == ','

def entries (hosts : String) : List (List Char) :=
  ((splitAt endsEntry hosts.toList).map trim).filter (!·.isEmpty)

/-- An entry without a star at its front, unless there is nothing behind it. -/
def unstarred : List Char → List Char
  | '*' :: character :: rest => character :: rest
  | entry => entry

/-- What is handed on for an entry. -/
def withoutStar : List Char → List Char
  | '*' :: rest => rest
  | entry => entry

theorem bypassList_eq (hosts : String) :
    bypassList hosts = .ofList ([','].intercalate ((entries hosts).map withoutStar)) :=
  rfl

variable {entry : List Char} {hosts : String}

theorem unstarred_ne_nil (nonempty : entry ≠ []) : unstarred entry ≠ [] := by
  unfold unstarred
  split
  · exact List.cons_ne_nil _ _
  · exact nonempty

theorem withoutStar_of_ne_star (other : entry ≠ ['*']) : withoutStar entry = unstarred entry := by
  unfold withoutStar
  split
  · next rest =>
      cases rest with
      | nil => exact absurd rfl other
      | cons character rest => rfl
  · next plain =>
      unfold unstarred
      split
      · next character rest => exact absurd rfl (plain (character :: rest))
      · rfl

theorem isEmpty_withoutStar (nonempty : entry ≠ []) :
    (!(withoutStar entry).isEmpty) = (entry != ['*']) := by
  by_cases star : entry = ['*']
  · subst star
    rfl
  · rw [withoutStar_of_ne_star star, List.isEmpty_eq_false_iff.mpr (unstarred_ne_nil nonempty)]
    simp [star]

theorem withoutStar_subset (entry : List Char) : withoutStar entry ⊆ entry := by
  unfold withoutStar
  split
  · exact List.subset_cons_self _ _
  · exact List.Subset.refl _

theorem mem_entries_iff : entry ∈ entries hosts ↔
    entry ≠ [] ∧ ∃ piece ∈ splitAt endsEntry hosts.toList, trim piece = entry := by
  simp [entries, and_comm]

theorem comma_not_mem_withoutStar (inside : entry ∈ entries hosts) :
    ∀ character ∈ withoutStar entry, (character == ',') = false := by
  obtain ⟨-, piece, isPiece, rfl⟩ := mem_entries_iff.mp inside
  intro character kept
  have within := mem_of_mem_stripBoth (withoutStar_subset _ kept)
  have ends := mem_splitAt isPiece character within
  rw [endsEntry, Bool.or_eq_false_iff] at ends
  exact ends.2

/-- The list is read back as what was handed on, an empty one as a single empty entry. -/
theorem splitAt_bypassList (given : entries hosts ≠ []) :
    splitAt (· == ',') (bypassList hosts).toList = (entries hosts).map withoutStar := by
  rw [bypassList_eq, String.toList_ofList]
  apply splitAt_intercalate (by decide) (by simpa using given)
  rw [List.forall_mem_map]
  exact fun _ => comma_not_mem_withoutStar

theorem filter_splitAt_bypassList (hosts : String) :
    (splitAt (· == ',') (bypassList hosts).toList).filter (!·.isEmpty) =
      ((entries hosts).filter (· != ['*'])).map unstarred := by
  by_cases given : entries hosts = []
  · rw [bypassList_eq, given]
    rfl
  · rw [splitAt_bypassList given, List.filter_map]
    have kept : (entries hosts).filter ((!·.isEmpty) ∘ withoutStar) =
        (entries hosts).filter (· != ['*']) :=
      List.filter_congr fun entry inside => isEmpty_withoutStar (mem_entries_iff.mp inside).1
    rw [kept]
    apply List.map_congr_left
    intro entry inside
    exact withoutStar_of_ne_star (by simpa using (List.mem_filter.mp inside).2)

theorem bypass_of_ofAddress {address : Address} {settings : Settings.Connection} {client : Client}
    (made : ofAddress address settings = .ok client) :
    client.bypass = (address.nonProxyHosts.map bypassList).getD "" := by
  unfold ofAddress at made
  dsimp only at made
  split at made
  · cases made
  · split at made
    · cases made
      rfl
    · cases made

theorem trim_ne_nil_iff {piece : List Char} :
    trim piece ≠ [] ↔ ∃ character ∈ piece, isBlank character = false := by
  rw [trim, ne_eq, stripBoth_eq_nil_iff]
  simp

theorem entries_ne_nil_iff : entries hosts ≠ [] ↔
    ∃ piece ∈ splitAt endsEntry hosts.toList, ∃ character ∈ piece, isBlank character = false := by
  simp only [← trim_ne_nil_iff]
  constructor
  · intro given
    obtain ⟨entry, inside⟩ := List.exists_mem_of_ne_nil _ given
    obtain ⟨nonempty, piece, isPiece, rfl⟩ := mem_entries_iff.mp inside
    exact ⟨piece, isPiece, nonempty⟩
  · rintro ⟨piece, isPiece, nonempty⟩
    exact List.ne_nil_of_mem (mem_entries_iff.mpr ⟨nonempty, piece, isPiece, rfl⟩)

/-- Unless an entry is a star and nothing else, every entry is handed on, in order, and a client has
a list of hosts exactly if the address has an entry that is not blank. -/
theorem bypassList_entries (clear : ['*'] ∉ entries hosts) :
    (splitAt (· == ',') (bypassList hosts).toList).filter (!·.isEmpty) =
      (entries hosts).map unstarred ∧
    (entries hosts ≠ [] →
      splitAt (· == ',') (bypassList hosts).toList = (entries hosts).map unstarred) ∧
    ∀ address settings client, address.nonProxyHosts = some hosts →
      ofAddress address settings = .ok client →
      client.bypass = bypassList hosts ∧
      (client.bypass ≠ "" ↔ ∃ piece ∈ splitAt endsEntry hosts.toList,
        ∃ character ∈ piece, isBlank character = false) := by
  have other {entry : List Char} (inside : entry ∈ entries hosts) : entry ≠ ['*'] := by
    rintro rfl
    exact clear inside
  have all : (splitAt (· == ',') (bypassList hosts).toList).filter (!·.isEmpty) =
      (entries hosts).map unstarred := by
    rw [filter_splitAt_bypassList, List.filter_eq_self.mpr]
    exact fun entry inside => by simpa using other inside
  have handed (given : entries hosts ≠ []) :
      splitAt (· == ',') (bypassList hosts).toList = (entries hosts).map unstarred := by
    rw [splitAt_bypassList given]
    exact List.map_congr_left fun entry inside => withoutStar_of_ne_star (other inside)
  refine ⟨all, handed, fun address settings client listed made => ?_⟩
  have bypass : client.bypass = bypassList hosts := by
    rw [bypass_of_ofAddress made, listed]
    rfl
  refine ⟨bypass, ?_⟩
  rw [bypass, ← entries_ne_nil_iff, not_iff_not]
  constructor
  · intro empty
    rw [empty] at all
    exact List.map_eq_nil_iff.mp all.symm
  · intro none
    rw [bypassList_eq, none]
    rfl

theorem bypassList_entries_spaced :
    let hosts := " *.example.com|localhost ,, |b*,**"
    ['*'] ∉ entries hosts ∧
    splitAt (· == ',') (bypassList hosts).toList =
      [".example.com", "localhost", "b*", "*"].map String.toList := by
  intro hosts
  have clear : ['*'] ∉ entries hosts := by decide +kernel
  have given : entries hosts ≠ [] := by decide +kernel
  refine ⟨clear, ?_⟩
  rw [(bypassList_entries clear).2.1 given]
  decide +kernel

/-- A star alone stands for every host, but it is not handed on. -/
theorem bypassList_star :
    entries "*" = [['*']] ∧
    (splitAt (· == ',') (bypassList "*").toList).filter (!·.isEmpty) = [] ∧
    bypassList "*" = "" ∧
    isBypassed "*" "localhost".toList = true ∧
    isBypassed (bypassList "*") "localhost".toList = false := by
  decide +kernel

end VirtualTables.Client
