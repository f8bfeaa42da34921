import VirtualTables.ByteSource
import VirtualTables.RowStream.Bytes
import VirtualTables.RowStream.Fault
import VirtualTables.Text.Utf8

/-!
Readers, which take the items of a row stream from the front of a source of bytes.

All readers are composed of items of fixed or announced size: `Reader.Composed` says so, and what
holds of the items and passes to sequences then holds of all readers. `Reader.Composed.consumes` is
such a law: a reader never puts anything back, so what remains is an end piece of what there was.
-/

namespace VirtualTables.RowStream

def failure (source : ByteSource) (item : String) (short : StreamFault) : StreamFault :=
  match source.ending with
  | .ends => short
  | .breaks => .broken item

/-- A computation that takes items from the front of a source. -/
abbrev Reader (α : Type) := StateT ByteSource (Except StreamFault) α

namespace Reader

/-- Take a number of bytes. A source that ends before gives the failure for the number of bytes
found; one that breaks is at fault itself. -/
def take (item : String) (count : Nat) (short : Nat → StreamFault) : Reader (List UInt8) :=
  fun source =>
    if (source.bytes.take count).length = count then
      .ok (source.bytes.take count, { source with bytes := source.bytes.drop count })
    else .error (failure source item (short (source.bytes.take count).length))

def fixed (item : String) (count : Nat) : Reader (List UInt8) :=
  take item count fun _ => .truncated item

def announced (item : String) (count : Nat) : Reader (List UInt8) :=
  take item count (.shortItem item count)

def byte (item : String) : Reader Nat := do
  return natOfBytes (← fixed item 1)

def int32 (item : String) : Reader Int := do
  return (UInt32.ofNat (natOfBytes (← fixed item 4))).toInt32.toInt

def word64 (item : String) : Reader UInt64 := do
  return UInt64.ofNat (natOfBytes (← fixed item 8))

def text (item : String) (bytes : List UInt8) : Reader String :=
  match Text.Utf8.decode bytes with
  | some characters => return String.ofList characters
  | none => throw (.malformedText item)

/-- A text behind its size in 16 bits. -/
def shortText (item : String) : Reader String := do
  let size := natOfBytes (← fixed item 2)
  text item (← announced item size)

/-- Bytes behind their number in 32 bits. -/
def longBytes (item : String) : Reader (List UInt8) := do
  let length ← int32 item
  if length < 0 then throw (.negativeLength item length)
  announced item length.toNat

/-- A text behind its size in 32 bits. -/
def longText (item : String) : Reader String := do
  text item (← longBytes item)

theorem run_bind {α β : Type} {first : Reader α} {next : α → Reader β} {source rest : ByteSource}
    {result : β} (run : (first >>= next) source = .ok (result, rest)) :
    ∃ value between, first source = .ok (value, between) ∧
      next value between = .ok (result, rest) := by
  change (first source >>= fun (value, between) => next value between) = _ at run
  cases ran : first source with
  | error fault =>
      rw [ran] at run
      cases run
  | ok pair =>
      rw [ran] at run
      exact ⟨pair.1, pair.2, rfl, run⟩

theorem bind_of_ok {α β : Type} {first : Reader α} {source between : ByteSource} {value : α}
    (next : α → Reader β) (ran : first source = .ok (value, between)) :
    (first >>= next) source = next value between := by
  change (first source >>= fun (value, between) => next value between) = _
  rw [ran]
  rfl

theorem bind_of_error {α β : Type} {first : Reader α} {source : ByteSource} {fault : StreamFault}
    (next : α → Reader β) (ran : first source = .error fault) :
    (first >>= next) source = .error fault := by
  change (first source >>= fun (value, between) => next value between) = _
  rw [ran]
  rfl

/-- Readers that take bytes in whole items only. Apart from items that a source cannot provide they
refuse nothing but what they have taken. -/
inductive Composed : {α : Type} → Reader α → Prop where
  | pure {α : Type} (value : α) : Composed (pure value)
  | throw {α : Type} {fault : StreamFault} (truncates : fault.isTruncation = false)
      (breaks : fault.isSourceFailure = false) : Composed (throw fault : Reader α)
  | fixed (item : String) (count : Nat) : Composed (fixed item count)
  | announced (item : String) (count : Nat) : Composed (announced item count)
  | bind {α β : Type} {first : Reader α} {next : α → Reader β} (composed : Composed first)
      (composedNext : ∀ value, Composed (next value)) : Composed (first >>= next)

namespace Composed

theorem byte (item : String) : Composed (byte item) :=
  .bind (.fixed _ _) fun _ => .pure _

theorem int32 (item : String) : Composed (int32 item) :=
  .bind (.fixed _ _) fun _ => .pure _

theorem word64 (item : String) : Composed (word64 item) :=
  .bind (.fixed _ _) fun _ => .pure _

theorem text (item : String) (bytes : List UInt8) : Composed (text item bytes) := by
  unfold Reader.text
  split
  · exact .pure _
  · exact .throw rfl rfl

theorem shortText (item : String) : Composed (shortText item) :=
  .bind (.fixed _ _) fun _ => .bind (.announced _ _) fun _ => .text _ _

theorem longBytes (item : String) : Composed (longBytes item) := by
  refine .bind (.int32 _) fun length => ?_
  by_cases negative : length < 0
  · simp only [if_pos negative]
    exact .bind (.throw rfl rfl) fun _ => .announced _ _
  · simp only [if_neg negative]
    exact .announced _ _

theorem longText (item : String) : Composed (longText item) :=
  .bind (.longBytes _) fun _ => .text _ _

end Composed

/-- What a reader leaves is an end piece of what there was. -/
def Consumes {α : Type} (reader : Reader α) : Prop :=
  ∀ ⦃source result rest⦄, reader source = .ok (result, rest) →
    rest.bytes <:+ source.bytes ∧ rest.ending = source.ending

theorem Consumes.take (item : String) (count : Nat) (short : Nat → StreamFault) :
    Consumes (take item count short) := by
  intro source result rest run
  unfold Reader.take at run
  split at run
  · cases run
    exact ⟨List.drop_suffix _ _, rfl⟩
  · cases run

theorem take_length {item : String} {count : Nat} {short : Nat → StreamFault}
    {source rest : ByteSource} {bytes : List UInt8}
    (run : take item count short source = .ok (bytes, rest)) :
    rest.bytes.length + count = source.bytes.length := by
  unfold Reader.take at run
  split at run
  · next enough =>
      cases run
      simp only [List.length_take] at enough
      simp only [List.length_drop]
      omega
  · cases run

theorem Composed.consumes {α : Type} {reader : Reader α} (composed : Composed reader) :
    Consumes reader := by
  induction composed with
  | pure value =>
      intro source result rest run
      change Except.ok (value, source) = _ at run
      cases run
      exact ⟨List.suffix_rfl, rfl⟩
  | @throw _ fault =>
      intro source result rest run
      change Except.error fault = _ at run
      cases run
  | fixed item count => exact .take _ _ _
  | announced item count => exact .take _ _ _
  | bind composed composedNext consumes consumesNext =>
      intro source result rest run
      obtain ⟨value, between, ranFirst, ranNext⟩ := run_bind run
      obtain ⟨suffix, ending⟩ := consumes ranFirst
      obtain ⟨suffix', ending'⟩ := consumesNext value ranNext
      exact ⟨suffix'.trans suffix, ending'.trans ending⟩

end Reader

end VirtualTables.RowStream
