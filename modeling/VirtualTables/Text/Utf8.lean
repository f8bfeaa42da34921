/-!
UTF-8. `encode` writes scalar values as bytes; `front` reads the scalar value at the front of a
byte sequence or passes over one malformed piece; `decode` accepts well-formed sequences only and
`decodeLossy` puts U+FFFD for each malformed piece.

A malformed piece is the longest beginning that could have started a well-formed sequence, or one
byte where no sequence can start. The second byte's range excludes overlong forms, surrogates and
numbers above U+10FFFF, so every sequence read is the one that `encode` writes: `decode_encode` and
`encode_of_decode` say that decoding and encoding undo each other.
-/

namespace VirtualTables.Text.Utf8

def encodeChar (character : Char) : List UInt8 :=
  let code := character.toNat
  if code < 0x80 then [UInt8.ofNat code]
  else if code < 0x800 then
    [UInt8.ofNat (0xC0 + code / 64), UInt8.ofNat (0x80 + code % 64)]
  else if code < 0x10000 then
    [UInt8.ofNat (0xE0 + code / 4096), UInt8.ofNat (0x80 + code / 64 % 64),
      UInt8.ofNat (0x80 + code % 64)]
  else
    [UInt8.ofNat (0xF0 + code / 262144), UInt8.ofNat (0x80 + code / 4096 % 64),
      UInt8.ofNat (0x80 + code / 64 % 64), UInt8.ofNat (0x80 + code % 64)]

def encode (text : List Char) : List UInt8 :=
  text.flatMap encodeChar

def size (text : List Char) : Nat :=
  (encode text).length

/-- What a first byte above 0x7F promises about the sequence that it starts. -/
structure Lead where
  /-- The bits of the scalar value that the first byte carries. -/
  payload : Nat
  /-- The least value of the second byte. -/
  low : Nat
  high : Nat
  /-- How many bytes follow the second one. -/
  more : Nat
deriving DecidableEq

/-- The promise of a first byte, if it can start a sequence of two to four bytes. -/
def lead? (byte : Nat) : Option Lead :=
  if byte < 0xC2 then none
  else if byte < 0xE0 then some ⟨byte - 0xC0, 0x80, 0xBF, 0⟩
  else if byte = 0xE0 then some ⟨0, 0xA0, 0xBF, 1⟩
  else if byte = 0xED then some ⟨0xD, 0x80, 0x9F, 1⟩
  else if byte < 0xF0 then some ⟨byte - 0xE0, 0x80, 0xBF, 1⟩
  else if byte = 0xF0 then some ⟨0, 0x90, 0xBF, 2⟩
  else if byte < 0xF4 then some ⟨byte - 0xF0, 0x80, 0xBF, 2⟩
  else if byte = 0xF4 then some ⟨4, 0x80, 0x8F, 2⟩
  else none

def following : (count code : Nat) → List UInt8 → Option Char × List UInt8
  | 0, code, rest => (some (Char.ofNat code), rest)
  | _ + 1, _, [] => (none, [])
  | count + 1, code, byte :: rest =>
      if 0x80 ≤ byte.toNat ∧ byte.toNat ≤ 0xBF then
        following count (code * 64 + (byte.toNat - 0x80)) rest
      else (none, byte :: rest)

/-- The scalar value that starts with a byte, or `none` after one malformed piece; and the rest. -/
def front (first : UInt8) (rest : List UInt8) : Option Char × List UInt8 :=
  if first.toNat < 0x80 then (some (Char.ofNat first.toNat), rest)
  else
    match lead? first.toNat, rest with
    | none, rest => (none, rest)
    | some _, [] => (none, [])
    | some lead, second :: rest =>
        if lead.low ≤ second.toNat ∧ second.toNat ≤ lead.high then
          following lead.more (lead.payload * 64 + (second.toNat - 0x80)) rest
        else (none, second :: rest)

theorem following_length (count code : Nat) (rest : List UInt8) :
    (following count code rest).2.length ≤ rest.length := by
  induction count, code, rest using following.induct with
  | case1 code rest => simp [following]
  | case2 count code => simp [following]
  | case3 count code byte rest inRange inductionHypothesis =>
      simp only [following, if_pos inRange, List.length_cons]
      omega
  | case4 count code byte rest outside => simp [following, if_neg outside]

theorem front_length (first : UInt8) (rest : List UInt8) :
    (front first rest).2.length ≤ rest.length := by
  unfold front
  split
  · simp
  · split
    · simp
    · simp
    · split
      · have bound := following_length
        exact Nat.le_succ_of_le (bound _ _ _)
      · simp

def decode (bytes : List UInt8) : Option (List Char) :=
  match bytes with
  | [] => some []
  | first :: rest =>
      match (front first rest).1 with
      | none => none
      | some character => (decode (front first rest).2).map (character :: ·)
termination_by bytes.length
decreasing_by
  have := front_length first rest
  simp only [List.length_cons]
  omega

/-- The text of any byte sequence, with U+FFFD for each malformed piece. -/
def decodeLossy (bytes : List UInt8) : List Char :=
  match bytes with
  | [] => []
  | first :: rest => (front first rest).1.getD '\uFFFD' :: decodeLossy (front first rest).2
termination_by bytes.length
decreasing_by
  have := front_length first rest
  simp only [List.length_cons]
  omega

theorem toNat_valid (character : Char) :
    character.toNat < 0xD800 ∨ (0xDFFF < character.toNat ∧ character.toNat < 0x110000) := by
  have valid := character.valid
  rw [UInt32.isValidChar, Nat.isValidChar] at valid
  exact valid

theorem toNat_byte {code : Nat} (small : code < 256) : (UInt8.ofNat code).toNat = code := by
  rw [UInt8.toNat_ofNat', Nat.mod_eq_of_lt small]

theorem lead?_two : ∀ payload < 32, 2 ≤ payload →
    lead? (0xC0 + payload) = some ⟨payload, 0x80, 0xBF, 0⟩ := by
  decide +kernel

theorem lead?_three : ∀ payload < 16, lead? (0xE0 + payload) =
    some ⟨payload, if payload = 0 then 0xA0 else 0x80, if payload = 13 then 0x9F else 0xBF, 1⟩ := by
  decide +kernel

theorem lead?_four : ∀ payload < 5, lead? (0xF0 + payload) =
    some ⟨payload, if payload = 0 then 0x90 else 0x80, if payload = 4 then 0x8F else 0xBF, 2⟩ := by
  decide +kernel

theorem following_succ {count code low : Nat} (small : low < 64) (rest : List UInt8) :
    following (count + 1) code (UInt8.ofNat (0x80 + low) :: rest) =
      following count (code * 64 + low) rest := by
  have byte := toNat_byte (show 0x80 + low < 256 by omega)
  rw [following, if_pos (by omega), byte, Nat.add_sub_cancel_left]

theorem front_lead {byte low : Nat} {lead : Lead} (small : byte < 256)
    (promised : lead? byte = some lead)
    (inRange : lead.low ≤ 0x80 + low ∧ 0x80 + low ≤ lead.high) (isLow : low < 64)
    (rest : List UInt8) :
    front (UInt8.ofNat byte) (UInt8.ofNat (0x80 + low) :: rest) =
      following lead.more (lead.payload * 64 + low) rest := by
  have second := toNat_byte (show 0x80 + low < 256 by omega)
  have large : ¬ byte < 0x80 := by
    intro tooSmall
    rw [lead?, if_pos (by omega)] at promised
    cases promised
  simp only [front, toNat_byte small, if_neg large, promised, second, if_pos inRange,
    Nat.add_sub_cancel_left]

/-- The bytes of a scalar value are read as that value, whatever follows them. -/
theorem front_encodeChar (character : Char) (rest : List UInt8) :
    ∃ first more, encodeChar character = first :: more ∧
      front first (more ++ rest) = (some character, rest) := by
  have valid := toNat_valid character
  have back : Char.ofNat character.toNat = character := character.ofNat_toNat
  simp only [encodeChar]
  generalize character.toNat = code at *
  subst back
  split
  · next small =>
      refine ⟨_, _, rfl, ?_⟩
      have byte := toNat_byte (show code < 256 by omega)
      simp only [front, byte, if_pos small, List.nil_append]
  · split
    · refine ⟨_, _, rfl, ?_⟩
      rw [List.cons_append, List.nil_append,
        front_lead (by omega) (lead?_two (code / 64) (by omega) (by omega)) (by simp only; omega)
          (by omega), following]
      simp only
      congr 3
      omega
    · split
      · refine ⟨_, _, rfl, ?_⟩
        rw [List.cons_append, List.cons_append, List.nil_append,
          front_lead (by omega) (lead?_three (code / 4096) (by omega))
            (by simp only; split <;> split <;> omega) (by omega),
          following_succ (by omega), following]
        simp only
        congr 3
        omega
      · refine ⟨_, _, rfl, ?_⟩
        rw [List.cons_append, List.cons_append, List.cons_append, List.nil_append,
          front_lead (by omega) (lead?_four (code / 262144) (by omega))
            (by simp only; split <;> split <;> omega) (by omega),
          following_succ (by omega), following_succ (by omega), following]
        simp only
        congr 3
        omega

theorem toNat_ofNat {code : Nat} (valid : code < 0xD800 ∨ (0xDFFF < code ∧ code < 0x110000)) :
    (Char.ofNat code).toNat = code := by
  rw [Char.ofNat, dif_pos (show code.isValidChar from valid)]
  rfl

theorem lead?_eq_some {byte : Nat} {lead : Lead} (promised : lead? byte = some lead) :
    (∃ payload, 2 ≤ payload ∧ payload < 32 ∧ byte = 0xC0 + payload ∧
      lead = ⟨payload, 0x80, 0xBF, 0⟩) ∨
    (∃ payload, payload < 16 ∧ byte = 0xE0 + payload ∧
      lead = ⟨payload, if payload = 0 then 0xA0 else 0x80, if payload = 13 then 0x9F else 0xBF,
        1⟩) ∨
    (∃ payload, payload < 5 ∧ byte = 0xF0 + payload ∧
      lead = ⟨payload, if payload = 0 then 0x90 else 0x80, if payload = 4 then 0x8F else 0xBF,
        2⟩) := by
  by_cases low : byte < 0xC2
  · rw [lead?, if_pos low] at promised
    cases promised
  · by_cases two : byte < 0xE0
    · refine .inl ⟨byte - 0xC0, by omega, by omega, by omega, ?_⟩
      have found := lead?_two (byte - 0xC0) (by omega) (by omega)
      rw [show 0xC0 + (byte - 0xC0) = byte by omega, promised] at found
      exact Option.some.inj found
    · by_cases three : byte < 0xF0
      · refine .inr (.inl ⟨byte - 0xE0, by omega, by omega, ?_⟩)
        have found := lead?_three (byte - 0xE0) (by omega)
        rw [show 0xE0 + (byte - 0xE0) = byte by omega, promised] at found
        exact Option.some.inj found
      · by_cases four : byte < 0xF5
        · refine .inr (.inr ⟨byte - 0xF0, by omega, by omega, ?_⟩)
          have found := lead?_four (byte - 0xF0) (by omega)
          rw [show 0xF0 + (byte - 0xF0) = byte by omega, promised] at found
          exact Option.some.inj found
        · rw [lead?, if_neg low, if_neg two, if_neg (by omega), if_neg (by omega),
            if_neg (by omega), if_neg (by omega), if_neg (by omega), if_neg (by omega)] at promised
          cases promised

theorem following_succ_eq_some {count code : Nat} {rest after : List UInt8} {character : Char}
    (run : following (count + 1) code rest = (some character, after)) :
    ∃ low others, low < 64 ∧ rest = UInt8.ofNat (0x80 + low) :: others ∧
      following count (code * 64 + low) others = (some character, after) := by
  cases rest with
  | nil => simp [following] at run
  | cons byte others =>
      rw [following] at run
      split at run
      · next inRange =>
          refine ⟨byte.toNat - 0x80, others, by omega, ?_, run⟩
          rw [show 0x80 + (byte.toNat - 0x80) = byte.toNat by omega, UInt8.ofNat_toNat]
      · simp at run

theorem front_lead_eq_some {first : UInt8} {rest after : List UInt8} {character : Char}
    (large : ¬ first.toNat < 0x80) (run : front first rest = (some character, after)) :
    ∃ lead low others, lead? first.toNat = some lead ∧ rest = UInt8.ofNat (0x80 + low) :: others ∧
      lead.low ≤ 0x80 + low ∧ 0x80 + low ≤ lead.high ∧
      following lead.more (lead.payload * 64 + low) others = (some character, after) := by
  cases promised : lead? first.toNat with
  | none => simp [front, large, promised] at run
  | some lead =>
      cases rest with
      | nil => simp [front, large, promised] at run
      | cons second others =>
          simp only [front, if_neg large, promised] at run
          split at run
          · next inRange =>
              have least : 0x80 ≤ lead.low := by
                rcases lead?_eq_some promised with ⟨_, _, _, _, rfl⟩ | ⟨_, _, _, rfl⟩ |
                  ⟨_, _, _, rfl⟩
                · exact Nat.le_refl _
                · simp only
                  split <;> omega
                · simp only
                  split <;> omega
              have whole : 0x80 + (second.toNat - 0x80) = second.toNat := by omega
              refine ⟨lead, second.toNat - 0x80, others, rfl, ?_, ?_, ?_, run⟩
              · rw [whole, UInt8.ofNat_toNat]
              · omega
              · omega
          · simp at run

theorem encodeChar_of_front {first : UInt8} {rest after : List UInt8} {character : Char}
    (run : front first rest = (some character, after)) :
    first :: rest = encodeChar character ++ after := by
  have same : first = UInt8.ofNat first.toNat := UInt8.ofNat_toNat.symm
  by_cases small : first.toNat < 0x80
  · simp only [front, if_pos small, Prod.mk.injEq, Option.some.injEq] at run
    obtain ⟨rfl, rfl⟩ := run
    rw [encodeChar, toNat_ofNat (by omega), if_pos small, UInt8.ofNat_toNat]
    rfl
  · obtain ⟨lead, low, others, promised, rfl, least, most, run⟩ := front_lead_eq_some small run
    rcases lead?_eq_some promised with ⟨payload, _, _, byte, rfl⟩ | ⟨payload, _, byte, rfl⟩ |
      ⟨payload, _, byte, rfl⟩
    · simp only [following, Prod.mk.injEq, Option.some.injEq] at run least most
      obtain ⟨rfl, rfl⟩ := run
      rw [encodeChar, toNat_ofNat (by omega), if_neg (by omega), if_pos (by omega), same, byte]
      simp only [List.cons_append, List.nil_append, List.cons.injEq, and_true]
      exact ⟨congrArg _ (by omega), congrArg _ (by omega)⟩
    · simp only at run least most
      obtain ⟨third, others, _, rfl, ran⟩ := following_succ_eq_some run
      simp only [following, Prod.mk.injEq, Option.some.injEq] at ran
      obtain ⟨rfl, rfl⟩ := ran
      split at least <;> split at most <;>
        rw [encodeChar, toNat_ofNat (by omega), if_neg (by omega), if_neg (by omega),
          if_pos (by omega), same, byte] <;>
        simp only [List.cons_append, List.nil_append, List.cons.injEq, and_true] <;>
        exact ⟨congrArg _ (by omega), congrArg _ (by omega), congrArg _ (by omega)⟩
    · simp only at run least most
      obtain ⟨third, others, _, rfl, runThird⟩ := following_succ_eq_some run
      obtain ⟨fourth, others, _, rfl, ran⟩ := following_succ_eq_some runThird
      simp only [following, Prod.mk.injEq, Option.some.injEq] at ran
      obtain ⟨rfl, rfl⟩ := ran
      split at least <;> split at most <;>
        rw [encodeChar, toNat_ofNat (by omega), if_neg (by omega), if_neg (by omega),
          if_neg (by omega), same, byte] <;>
        simp only [List.cons_append, List.nil_append, List.cons.injEq, and_true] <;>
        exact ⟨congrArg _ (by omega), congrArg _ (by omega), congrArg _ (by omega),
          congrArg _ (by omega)⟩

theorem decode_encode (text : List Char) : decode (encode text) = some text := by
  induction text with
  | nil => simp [encode, decode]
  | cons character text inductionHypothesis =>
      obtain ⟨first, more, bytes, read⟩ := front_encodeChar character (encode text)
      have whole : encode (character :: text) = first :: (more ++ encode text) := by
        simp [encode, bytes]
      rw [whole, decode, read]
      simp [inductionHypothesis]

theorem encode_of_decode {bytes : List UInt8} {text : List Char}
    (read : decode bytes = some text) : encode text = bytes := by
  induction bytes using decode.induct generalizing text with
  | case1 => simp_all [decode, encode]
  | case2 first rest malformed => simp [decode, malformed] at read
  | case3 first rest character found inductionHypothesis =>
      simp only [decode, found, Option.map_eq_some_iff] at read
      obtain ⟨others, ran, rfl⟩ := read
      have front : front first rest = (some character, (front first rest).2) := by
        rw [← found]
      rw [encodeChar_of_front front]
      simp [encode, ← inductionHypothesis ran]

end VirtualTables.Text.Utf8
