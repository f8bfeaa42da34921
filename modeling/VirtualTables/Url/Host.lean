import VirtualTables.Url.Name
import VirtualTables.Url.Percent

/-!
Hosts of locators: names, IPv4 addresses in any of their notations, and IPv6 addresses.

A host is reduced to the one text that it is written as. In the special schemes a name is
percent-decoded and put into its ASCII form, and a name whose last label is a number is an IPv4
address; elsewhere a name stays as it is.
-/

namespace VirtualTables.Url

open Text

def isForbiddenInHost (character : Char) : Bool :=
  ['\x00', '\t', '\n', '\r', ' ', '#', '/', ':', '<', '>', '?', '@', '[', '\\', ']', '^',
    '|'].contains character

def isForbiddenInName (character : Char) : Bool :=
  isForbiddenInHost character || character.toNat < 0x20 || character == '%' ||
    character == '\x7f'

/-- The number that one part of an IPv4 address writes: decimal, octal after a zero, hexadecimal
after `0x`. -/
def ipv4Part? (part : List Char) : Option Nat :=
  match part with
  | [] => none
  | ['0'] => some 0
  | '0' :: mark :: digits =>
      if mark = 'x' ∨ mark = 'X' then natInBase? 16 digits else natInBase? 8 (mark :: digits)
  | digits => natInBase? 10 digits

/-- The parts of a dotted name; a dot at the end closes the last part. -/
def dottedParts (name : List Char) : List (List Char) :=
  let parts := splitAt (· == '.') name
  if parts.getLast? = some [] then parts.dropLast else parts

def endsInNumber (name : List Char) : Bool :=
  match (dottedParts name).getLast? with
  | none => false
  | some last => (!last.isEmpty && last.all isDigit) || (ipv4Part? last).isSome

/-- The number of an IPv4 address: its last part fills all bytes that the others leave. -/
def ipv4? (name : List Char) : Option Nat := do
  let numbers ← (dottedParts name).mapM ipv4Part?
  let last ← numbers.getLast?
  let others := numbers.dropLast
  if 4 ≤ others.length ∨ others.any (255 < ·) ∨ Nat.pow 256 (4 - others.length) ≤ last then none
  else
    return others.foldr (fun part total => part * 0x1000000 + total / 256) 0 + last

def ipv4Text (number : Nat) : List Char :=
  let part (index : Nat) := Nat.toDigits 10 (number / Nat.pow 256 index % 256)
  part 3 ++ '.' :: part 2 ++ '.' :: part 1 ++ '.' :: part 0

def embeddedPart? (part : List Char) : Option Nat :=
  if part.isEmpty || !part.all isDigit || (1 < part.length && part.head? == some '0') then none
  else
    let value := natOfDigits part
    if value < 256 then some value else none

def embeddedGroups? (text : List Char) : Option (List Nat) :=
  match (splitAt (· == '.') text).mapM embeddedPart? with
  | some [a, b, c, d] => some [a * 256 + b, c * 256 + d]
  | _ => none

def ipv6Group? (text : List Char) : Option Nat :=
  if text.isEmpty || 4 < text.length then none else natInBase? 16 text

def ipv6Groups? (text : List Char) : Option (List Nat) :=
  if text.isEmpty then some []
  else
    let parts := splitAt (· == ':') text
    match parts.reverse with
    | [] => some []
    | last :: others =>
        if last.contains '.' then do
          let front ← others.reverse.mapM ipv6Group?
          let back ← embeddedGroups? last
          return front ++ back
        else parts.mapM ipv6Group?

/-- The eight groups of an IPv6 address; a double colon stands for groups of zero. -/
def ipv6? (text : List Char) : Option (List Nat) :=
  match upTo? [':', ':'] text with
  | none => do
      let groups ← ipv6Groups? text
      if groups.length = 8 then some groups else none
  | some (before, after) => do
      if before.contains '.' then none
      let front ← ipv6Groups? before
      let back ← ipv6Groups? after
      let count := front.length + back.length
      if count ≤ 7 then some (front ++ List.replicate (8 - count) 0 ++ back) else none

def zeroRun (groups : List Nat) : Nat :=
  (groups.takeWhile (· == 0)).length

/-- Position and length of the first longest run of at least two zeros. -/
def longestZeroRun (groups : List Nat) : Option (Nat × Nat) :=
  (List.range groups.length).foldl (fun best position =>
    let length := zeroRun (groups.drop position)
    if length < 2 then best
    else
      match best with
      | none => some (position, length)
      | some (_, longest) => if longest < length then some (position, length) else best) none

def groupsText (groups : List Nat) : List Char :=
  [':'].intercalate (groups.map (Nat.toDigits 16))

def ipv6Text (groups : List Nat) : List Char :=
  let inner :=
    match longestZeroRun groups with
    | none => groupsText groups
    | some (position, length) =>
        groupsText (groups.take position) ++ ':' :: ':' ::
          groupsText (groups.drop (position + length))
  '[' :: inner ++ [']']

def bracketed? (text : List Char) : Option (List Char) :=
  match text.reverse with
  | ']' :: inner => (ipv6? inner.reverse).map ipv6Text
  | _ => none

def specialHost? (text : List Char) : Option (List Char) :=
  match text with
  | '[' :: rest => bracketed? rest
  | _ => do
      let name ← asciiName? (← Utf8.decode (decode text))
      if name.isEmpty || name.any isForbiddenInName then none
      else if endsInNumber name then (ipv4? name).map ipv4Text
      else some name

def plainHost? (text : List Char) : Option (List Char) :=
  match text with
  | '[' :: rest => bracketed? rest
  | _ => if text.any isForbiddenInHost then none else some (encode encodesControls text)

end VirtualTables.Url
