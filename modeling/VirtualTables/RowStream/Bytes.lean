/-!
Numbers as bytes, the most significant first.

Writing and reading undo each other: `natOfBytes_bytesOfNat` for numbers that have enough bytes,
`bytesOfNat_natOfBytes` for all bytes.
-/

namespace VirtualTables.RowStream

/-- The number that bytes write, the most significant first. -/
def natOfBytes (bytes : List UInt8) : Nat :=
  bytes.foldl (fun total byte => total * 256 + byte.toNat) 0

/-- The lowest bytes of a number, the most significant first. -/
def bytesOfNat : (count : Nat) → Nat → List UInt8
  | 0, _ => []
  | count + 1, number => bytesOfNat count (number / 256) ++ [UInt8.ofNat number]

@[simp]
theorem length_bytesOfNat (count number : Nat) : (bytesOfNat count number).length = count := by
  induction count generalizing number with
  | zero => rfl
  | succ count inductionHypothesis => simp [bytesOfNat, inductionHypothesis]

theorem natOfBytes_append (bytes : List UInt8) (byte : UInt8) :
    natOfBytes (bytes ++ [byte]) = natOfBytes bytes * 256 + byte.toNat := by
  simp [natOfBytes]

theorem natOfBytes_bytesOfNat {count number : Nat} (fits : number < Nat.pow 256 count) :
    natOfBytes (bytesOfNat count number) = number := by
  induction count generalizing number with
  | zero =>
      have zero : number = 0 := Nat.lt_one_iff.mp fits
      rw [zero]
      rfl
  | succ count inductionHypothesis =>
      have front : number / 256 < Nat.pow 256 count :=
        Nat.div_lt_of_lt_mul (Nat.mul_comm .. ▸ fits)
      have lowest : (UInt8.ofNat number).toNat = number % 256 := UInt8.toNat_ofNat'
      rw [bytesOfNat, natOfBytes_append, inductionHypothesis front, lowest]
      omega

theorem natOfBytes_lt (bytes : List UInt8) : natOfBytes bytes < Nat.pow 256 bytes.length := by
  rw [← bytes.reverse_reverse]
  induction bytes.reverse with
  | nil => decide
  | cons byte bytes inductionHypothesis =>
      have := byte.toNat_lt
      have longer (count : Nat) : Nat.pow 256 (count + 1) = Nat.pow 256 count * 256 := rfl
      rw [List.reverse_cons, natOfBytes_append, List.length_append, List.length_singleton, longer]
      omega

theorem bytesOfNat_natOfBytes (bytes : List UInt8) :
    bytesOfNat bytes.length (natOfBytes bytes) = bytes := by
  rw [← bytes.reverse_reverse]
  induction bytes.reverse with
  | nil => rfl
  | cons byte bytes inductionHypothesis =>
      have := byte.toNat_lt
      have front (number : Nat) : (number * 256 + byte.toNat) / 256 = number := by omega
      have last (number : Nat) : UInt8.ofNat (number * 256 + byte.toNat) = byte :=
        UInt8.toNat_inj.mp (by rw [UInt8.toNat_ofNat']; omega)
      rw [List.reverse_cons, natOfBytes_append, List.length_append, List.length_singleton,
        bytesOfNat, front, last, inductionHypothesis]

end VirtualTables.RowStream
