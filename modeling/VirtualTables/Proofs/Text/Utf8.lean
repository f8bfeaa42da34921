import Mathlib.Data.List.Basic
import VirtualTables.Text.Split
import VirtualTables.Text.Utf8

/-!
UTF-8 seen from its bytes.

Whether a byte is the first one of a scalar value can be told from that byte alone
(`exists_encodeChar`), and the first byte weighs most. So texts are in the order of their bytes
(`encode_lt_encode`), a text is found among the bytes of another exactly where it stands in it
(`offset?_encode`), and what is cut out between scalar values is a text again (`slice?_encode`).
-/

namespace VirtualTables.Text.Utf8

/-- A byte stands within a scalar value and not at its front. -/
def continues (byte : UInt8) : Bool :=
  0x80 ≤ byte.toNat && byte.toNat < 0xC0

@[simp]
theorem encode_nil : encode [] = [] := rfl

@[simp]
theorem encode_append (left right : List Char) :
    encode (left ++ right) = encode left ++ encode right :=
  List.flatMap_append

@[simp]
theorem encode_cons (character : Char) (text : List Char) :
    encode (character :: text) = encodeChar character ++ encode text :=
  List.flatMap_cons

/-- A byte behind the first one carries one digit in base sixty-four. -/
def trailing (number : Nat) : UInt8 :=
  .ofNat (0x80 + number % 64)

theorem encodeChar_cases (character : Char) :
    let code := character.toNat
    (code < 0x80 ∧ encodeChar character = .ofNat code :: [].map trailing) ∨
    (0x80 ≤ code ∧ code < 0x800 ∧
      encodeChar character = .ofNat (0xC0 + code / 64) :: [code].map trailing) ∨
    (0x800 ≤ code ∧ code < 0x10000 ∧
      encodeChar character =
        .ofNat (0xE0 + code / 64 / 64) :: [code / 64, code].map trailing) ∨
    (0x10000 ≤ code ∧ code < 0x110000 ∧
      encodeChar character =
        .ofNat (0xF0 + code / 64 / 64 / 64) ::
          [code / 64 / 64, code / 64, code].map trailing) := by
  intro code
  have valid := toNat_valid character
  have twice : code / 64 / 64 = code / 4096 := by omega
  have thrice : code / 4096 / 64 = code / 262144 := by omega
  rw [twice, thrice]
  by_cases one : code < 0x80
  · exact .inl ⟨one, if_pos one⟩
  · by_cases two : code < 0x800
    · exact .inr (.inl ⟨by omega, two, (if_neg one).trans (if_pos two)⟩)
    · by_cases three : code < 0x10000
      · exact .inr (.inr (.inl ⟨by omega, three,
          (if_neg one).trans ((if_neg two).trans (if_pos three))⟩))
      · exact .inr (.inr (.inr ⟨by omega, by omega,
          (if_neg one).trans ((if_neg two).trans (if_neg three))⟩))

theorem continues_byte {code : Nat} (small : code < 256) :
    continues (UInt8.ofNat code) = true ↔ 0x80 ≤ code ∧ code < 0xC0 := by
  simp [continues, toNat_byte small]

theorem continues_trailing (number : Nat) : continues (trailing number) = true := by
  rw [trailing, continues_byte (by omega)]
  omega

theorem exists_encodeChar (character : Char) :
    ∃ first more, encodeChar character = first :: more ∧ ¬ continues first = true ∧
      ∀ byte ∈ more, continues byte = true := by
  rcases encodeChar_cases character with ⟨_, bytes⟩ | ⟨_, _, bytes⟩ | ⟨_, _, bytes⟩ | ⟨_, _, bytes⟩
  all_goals
    refine ⟨_, _, bytes, ?_, List.forall_mem_map.mpr fun number _ => continues_trailing number⟩
    rw [continues_byte (by omega)]
    omega

theorem isEmpty_encode (text : List Char) : (encode text).isEmpty = text.isEmpty := by
  cases text with
  | nil => rfl
  | cons character text =>
      obtain ⟨first, more, bytes, -⟩ := exists_encodeChar character
      rw [encode_cons, bytes]
      rfl

section Order

theorem cons_lt_cons_byte {smaller greater : Nat} (small : smaller < 256) (great : greater < 256)
    {front back : List UInt8} :
    UInt8.ofNat smaller :: front < UInt8.ofNat greater :: back ↔
      smaller < greater ∨ smaller = greater ∧ front < back := by
  rw [List.cons_lt_cons_iff, UInt8.lt_iff_toNat_lt, ← UInt8.toNat_inj, toNat_byte small,
    toNat_byte great]

/-- Fewer bytes have the smaller first byte, and as many bytes compare digit by digit. -/
theorem encodeChar_append_lt {left right : Char} (less : left < right) (front back : List UInt8) :
    encodeChar left ++ front < encodeChar right ++ back := by
  have less : left.toNat < right.toNat := less
  rcases encodeChar_cases left with ⟨_, bytes⟩ | ⟨_, _, bytes⟩ | ⟨_, _, bytes⟩ | ⟨_, _, bytes⟩ <;>
    rcases encodeChar_cases right with
      ⟨_, others⟩ | ⟨_, _, others⟩ | ⟨_, _, others⟩ | ⟨_, _, others⟩
  -- What is left in each case is a comparison of digits.
  all_goals
    rw [bytes, others]
    simp (disch := omega) only [List.map_cons, List.map_nil, List.cons_append, trailing,
      cons_lt_cons_byte]
    omega

theorem encode_lt_encode {left right : List Char} (less : left < right) :
    encode left < encode right := by
  induction left generalizing right with
  | nil =>
      cases right with
      | nil => exact absurd less (List.lt_irrefl [])
      | cons character right =>
          obtain ⟨first, more, bytes, -⟩ := exists_encodeChar character
          rw [encode_cons, bytes]
          exact List.nil_lt_cons first _
  | cons character left inductionHypothesis =>
      cases right with
      | nil => exact absurd less (List.not_lt_nil _)
      | cons other right =>
          rw [encode_cons, encode_cons]
          rcases List.cons_lt_cons_iff.mp less with smaller | ⟨rfl, behind⟩
          · exact encodeChar_append_lt smaller _ _
          · exact List.append_left_lt (inductionHypothesis behind)

end Order

section Slices

theorem encodeChar_append_inj {left right : Char} {front back : List UInt8}
    (same : encodeChar left ++ front = encodeChar right ++ back) : left = right ∧ front = back := by
  obtain ⟨first, more, bytes, read⟩ := front_encodeChar left front
  obtain ⟨other, others, otherBytes, otherRead⟩ := front_encodeChar right back
  rw [bytes, otherBytes, List.cons_append, List.cons_append] at same
  obtain ⟨rfl, rest⟩ := List.cons.inj same
  rw [rest, otherRead] at read
  cases read
  exact ⟨rfl, rfl⟩

theorem encode_prefix_iff {mark text : List Char} :
    encode mark <+: encode text ↔ mark <+: text := by
  constructor
  · rintro ⟨rest, same⟩
    induction mark generalizing text with
    | nil => exact List.nil_prefix
    | cons character mark inductionHypothesis =>
        cases text with
        | nil =>
            obtain ⟨first, more, bytes, -⟩ := exists_encodeChar character
            simp [bytes] at same
        | cons other text =>
            rw [encode_cons, encode_cons, List.append_assoc] at same
            obtain ⟨rfl, behind⟩ := encodeChar_append_inj same
            exact (List.prefix_cons_inj character).mpr (inductionHypothesis behind)
  · rintro ⟨rest, rfl⟩
    exact ⟨encode rest, (encode_append mark rest).symm⟩

/-- An offset does not fall within a scalar value, or behind the end. -/
def isBoundary (bytes : List UInt8) (offset : Nat) : Bool :=
  match bytes[offset]? with
  | none => offset == bytes.length
  | some byte => !continues byte

/-- The bytes between two offsets, if these are boundaries in order. -/
def slice? (bytes : List UInt8) (start stop : Nat) : Option (List UInt8) :=
  if start ≤ stop ∧ isBoundary bytes start = true ∧ isBoundary bytes stop = true then
    some ((bytes.take stop).drop start)
  else none

def offset? (mark : List UInt8) : List UInt8 → Option Nat
  | [] => if mark.isEmpty then some 0 else none
  | byte :: rest =>
      if mark.isPrefixOf (byte :: rest) then some 0 else (offset? mark rest).map (· + 1)

theorem isBoundary_encode (before after : List Char) :
    isBoundary (encode (before ++ after)) (encode before).length = true := by
  rw [isBoundary, encode_append, List.getElem?_append_right (Nat.le_refl _), Nat.sub_self]
  cases after with
  | nil => simp
  | cons character after =>
      obtain ⟨first, more, bytes, leads, -⟩ := exists_encodeChar character
      simp [bytes, leads]

theorem slice?_encode {text : List Char} (before inner after : List Char) {start stop : Nat}
    (split : text = before ++ (inner ++ after)) (starts : start = (encode before).length)
    (stops : stop = (encode before).length + (encode inner).length) :
    slice? (encode text) start stop = some (encode inner) := by
  subst split starts stops
  have start := isBoundary_encode before (inner ++ after)
  have stop := isBoundary_encode (before ++ inner) after
  rw [List.append_assoc, encode_append before inner, List.length_append] at stop
  rw [slice?, if_pos ⟨Nat.le_add_right _ _, start, stop⟩, encode_append, encode_append,
    List.take_length_add_append, List.take_left, List.drop_left]

/-- Nothing begins with a mark before the scalar value ends that has begun. -/
theorem offset?_append_of_continues {mark more : List UInt8} {first : UInt8}
    (leads : ¬ continues first = true) (continued : ∀ byte ∈ more, continues byte = true)
    (rest : List UInt8) :
    offset? (first :: mark) (more ++ rest) =
      (offset? (first :: mark) rest).map (· + more.length) := by
  induction more with
  | nil => simp
  | cons byte more inductionHypothesis =>
      rw [List.forall_mem_cons] at continued
      have different : first ≠ byte := by
        rintro rfl
        exact leads continued.1
      rw [List.cons_append, offset?, inductionHypothesis continued.2]
      simp [different, Function.comp_def, Nat.add_assoc]

/-- Where a mark occurs first among the characters, its bytes occur first among the bytes. -/
theorem offset?_encode {mark : List Char} (nonempty : mark ≠ []) (text : List Char) :
    offset? (encode mark) (encode text) =
      (upTo? mark text).map fun parts => (encode parts.1).length := by
  obtain ⟨character, marks, rfl⟩ := List.exists_cons_of_ne_nil nonempty
  obtain ⟨leading, following, markBytes, leads, -⟩ := exists_encodeChar character
  induction text with
  | nil => simp [offset?, upTo?, markBytes]
  | cons other text inductionHypothesis =>
      obtain ⟨first, more, bytes, -, continued⟩ := exists_encodeChar other
      have begins : (encode (character :: marks)).isPrefixOf (encode (other :: text)) = true ↔
          character :: marks <+: other :: text := by
        rw [List.isPrefixOf_iff_prefix, encode_prefix_iff]
      have whole : encode (other :: text) = first :: (more ++ encode text) := by
        rw [encode_cons, bytes, List.cons_append]
      have skipped : offset? (encode (character :: marks)) (more ++ encode text) =
          (offset? (encode (character :: marks)) (encode text)).map (· + more.length) := by
        rw [encode_cons, markBytes, List.cons_append]
        exact offset?_append_of_continues leads continued (encode text)
      rw [whole] at begins ⊢
      rw [offset?, upTo?]
      cases started : afterStart? (character :: marks) (other :: text) with
      | some after =>
          have isPrefix := afterStart?_eq_some_iff.mp started
          rw [if_pos (begins.mpr ⟨after, isPrefix.symm⟩)]
          rfl
      | none =>
          rw [if_neg (mt begins.mp (afterStart?_eq_none_iff.mp started)), skipped,
            inductionHypothesis]
          simp [Function.comp_def, bytes, Nat.add_comm]

end Slices

end VirtualTables.Text.Utf8
