import VirtualTables.Address.Reader
import VirtualTables.Proofs.Text.Utf8

/-!
Addresses cut out of their bytes.

The parts of an address can be found by searching its bytes and cutting at the offsets found, each
search beginning where the one before it ended. `slices?` does so and gives up where a slice would
not begin and end between scalar values; it never has to, and the slices are those of `parts?`.
-/

namespace VirtualTables.Address

open Text Text.Utf8

structure Slices where
  host : List UInt8
  port : List UInt8
  query? : Option (List UInt8)

def querySlice? (bytes : List UInt8) (service : Nat) : Option (Option (List UInt8)) := do
  match offset? (encode ['?']) (← slice? bytes service bytes.length) with
  | none => return none
  | some found => return some (← slice? bytes (service + found + 1) bytes.length)

def slicesAtColon? (bytes : List UInt8) (authority colon : Nat) :
    Option (Except AddressFault Slices) := do
  match offset? (encode servicePath.toList) (← slice? bytes colon bytes.length) with
  | none => return .error .missingService
  | some found =>
      let service := found + colon
      let host ← slice? bytes authority colon
      let port ← slice? bytes (colon + 1) service
      if host.isEmpty then return .error .emptyHost
      else if port.isEmpty then return .error .emptyPort
      else return .ok ⟨host, port, ← querySlice? bytes service⟩

/-- The slices of an address, or what is wrong with it; `none` if a slice cannot be cut. -/
def slices? (bytes : List UInt8) : Option (Except AddressFault Slices) := do
  let authority := (encode start.toList).length
  if (encode start.toList).isPrefixOf bytes then
    match offset? (encode [':']) (← slice? bytes authority bytes.length) with
    | none => return .error .missingPort
    | some found => slicesAtColon? bytes authority (found + authority)
  else return .error .wrongStart

theorem query?_append {front : List Char} (clean : '?' ∉ front) (text : List Char) :
    query? (front ++ text) = query? text := by
  have passed : ∀ character ∈ front, (character != '?') = true := by
    intro character inside
    rw [bne_iff_ne]
    rintro rfl
    exact clean inside
  rw [query?, query?, List.dropWhile_append_of_pos passed]

theorem query?_eq (text : List Char) : query? text = (upTo? ['?'] text).map Prod.snd := by
  induction text with
  | nil => rfl
  | cons character text inductionHypothesis =>
      by_cases mark : character = '?'
      · subst mark
        rfl
      · have passed : query? (character :: text) = query? text :=
          query?_append (by simpa using Ne.symm mark : '?' ∉ [character]) text
        rw [passed, inductionHypothesis]
        simp [upTo?, afterStart?, Ne.symm mark, Function.comp_def]

theorem querySlice?_encode {text front behind : List Char} (split : text = front ++ behind) :
    querySlice? (encode text) (encode front).length = some ((query? behind).map encode) := by
  have slice : slice? (encode text) (encode front).length (encode text).length =
      some (encode behind) :=
    slice?_encode front behind [] (by simp [split]) rfl (by simp [split])
  rw [querySlice?, slice, query?_eq, Option.bind_eq_bind, Option.bind_some,
    offset?_encode (List.cons_ne_nil '?' [])]
  cases found : upTo? ['?'] behind with
  | none => rfl
  | some parts =>
      have parted := upTo?_eq_some found
      have query : slice? (encode text) ((encode front).length + (encode parts.1).length + 1)
          (encode text).length = some (encode parts.2) := by
        refine slice?_encode (front ++ parts.1 ++ ['?']) parts.2 [] ?_ ?_ ?_
        · simp [split, parted]
        · simp [encodeChar, Nat.add_assoc]
        · simp [split, parted, Nat.add_assoc]
      rw [Option.map_some]
      dsimp only
      rw [query]
      rfl

theorem upTo?_servicePath_colon (text : List Char) :
    upTo? servicePath.toList (':' :: text) =
      (upTo? servicePath.toList text).map fun parts => (':' :: parts.1, parts.2) := by
  rfl

theorem slicesAtColon?_encode {text host behind : List Char}
    (split : text = start.toList ++ (host ++ ':' :: behind)) :
    slicesAtColon? (encode text) (encode start.toList).length
        ((encode host).length + (encode start.toList).length) =
      some (match upTo? servicePath.toList behind with
        | none => .error .missingService
        | some (port, rest) =>
            if host.isEmpty then .error .emptyHost
            else if port.isEmpty then .error .emptyPort
            else .ok ⟨encode host, encode port, (query? rest).map encode⟩) := by
  have path : servicePath.toList ≠ [] := by decide
  have colon : slice? (encode text) ((encode host).length + (encode start.toList).length)
      (encode text).length = some (encode (':' :: behind)) :=
    slice?_encode (start.toList ++ host) (':' :: behind) [] (by simp [split])
      (by simp [Nat.add_comm]) (by simp [split, Nat.add_assoc])
  rw [slicesAtColon?, colon, Option.bind_eq_bind, Option.bind_some, offset?_encode path,
    upTo?_servicePath_colon]
  cases found : upTo? servicePath.toList behind with
  | none => rfl
  | some parts =>
      obtain ⟨port, rest⟩ := parts
      have parted := upTo?_eq_some found
      have hostSlice : slice? (encode text) (encode start.toList).length
          ((encode host).length + (encode start.toList).length) = some (encode host) :=
        slice?_encode start.toList host (':' :: behind) split rfl (Nat.add_comm _ _)
      have portSlice : slice? (encode text)
          ((encode host).length + (encode start.toList).length + 1)
          ((encode (':' :: port)).length +
            ((encode host).length + (encode start.toList).length)) = some (encode port) := by
        refine slice?_encode (start.toList ++ host ++ [':']) port (servicePath.toList ++ rest)
          ?_ ?_ ?_
        · simp [split, parted]
        · simp [encodeChar]
          omega
        · simp
          omega
      have query : querySlice? (encode text) ((encode (':' :: port)).length +
          ((encode host).length + (encode start.toList).length)) =
          some ((query? rest).map encode) := by
        have divided : text = (start.toList ++ host ++ ':' :: port) ++
            (servicePath.toList ++ rest) := by
          simp [split, parted]
        rw [← query?_append (by decide : '?' ∉ servicePath.toList), ← querySlice?_encode divided]
        congr 1
        simp
        omega
      rw [Option.map_some, Option.map_some]
      dsimp only
      rw [hostSlice, portSlice, query, Option.bind_eq_bind, Option.bind_some, Option.bind_some,
        isEmpty_encode, isEmpty_encode]
      cases host.isEmpty with
      | true => rfl
      | false =>
          cases port.isEmpty with
          | true => rfl
          | false => rfl

/-- No slice is ever cut beside a boundary, and the slices are the parts of the address. -/
theorem slices?_encode (text : List Char) :
    slices? (encode text) = some ((parts? text).map fun parts =>
      ⟨encode parts.1, encode parts.2.1, (query? parts.2.2).map encode⟩) := by
  have isPrefix : (encode start.toList).isPrefixOf (encode text) = true ↔
      start.toList <+: text := by
    rw [List.isPrefixOf_iff_prefix, encode_prefix_iff]
  rw [slices?]
  cases started : afterStart? start.toList text with
  | none =>
      rw [if_neg (mt isPrefix.mp (afterStart?_eq_none_iff.mp started)), parts?, started]
      rfl
  | some behind =>
      have split := afterStart?_eq_some_iff.mp started
      have authority : slice? (encode text) (encode start.toList).length (encode text).length =
          some (encode behind) :=
        slice?_encode start.toList behind [] (by simp [split]) rfl (by simp [split])
      rw [if_pos (isPrefix.mpr ⟨behind, split.symm⟩), authority, Option.bind_eq_bind,
        Option.bind_some, offset?_encode (List.cons_ne_nil ':' [])]
      cases found : upTo? [':'] behind with
      | none =>
          simp only [parts?, started, found]
          rfl
      | some parts =>
          obtain ⟨host, after⟩ := parts
          have divided : text = start.toList ++ (host ++ ':' :: after) := by
            simp [split, upTo?_eq_some found]
          simp only [parts?, started, found, Option.map_some]
          rw [slicesAtColon?_encode divided]
          cases upTo? servicePath.toList after with
          | none => rfl
          | some parts =>
              dsimp only
              cases host.isEmpty with
              | true => rfl
              | false =>
                  cases parts.1.isEmpty with
                  | true => rfl
                  | false => rfl

end VirtualTables.Address
