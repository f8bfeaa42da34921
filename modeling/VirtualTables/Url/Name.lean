import VirtualTables.Text.Split
import VirtualTables.Url.Punycode

/-!
Names of hosts beyond ASCII, and the ASCII names that stand for them.

A name is put into small letters first. Known here are the capital letters of the Latin, Greek,
Cyrillic and Armenian alphabets and the wide forms of the ASCII characters; other characters keep
their form. Then each label with a character beyond ASCII is written in Punycode behind `xn--`.
-/

namespace VirtualTables.Url

open Text

/-- Capital letters, at equal distances, and the distance to their small letters. -/
structure Capitals where
  first : Nat
  last : Nat
  step : Nat
  small : Nat

def capitals : List Capitals := [
  ⟨0x41, 0x5A, 1, 0x61⟩, ⟨0xC0, 0xD6, 1, 0xE0⟩, ⟨0xD8, 0xDE, 1, 0xF8⟩, ⟨0x100, 0x12E, 2, 0x101⟩,
  ⟨0x134, 0x136, 2, 0x135⟩, ⟨0x139, 0x13D, 2, 0x13A⟩, ⟨0x141, 0x147, 2, 0x142⟩,
  ⟨0x14A, 0x176, 2, 0x14B⟩, ⟨0x178, 0x178, 1, 0xFF⟩, ⟨0x179, 0x17D, 2, 0x17A⟩,
  ⟨0x1CD, 0x1DB, 2, 0x1CE⟩, ⟨0x1DE, 0x1EE, 2, 0x1DF⟩, ⟨0x1F8, 0x21E, 2, 0x1F9⟩,
  ⟨0x222, 0x232, 2, 0x223⟩, ⟨0x386, 0x386, 1, 0x3AC⟩, ⟨0x388, 0x38A, 1, 0x3AD⟩,
  ⟨0x38C, 0x38C, 1, 0x3CC⟩, ⟨0x38E, 0x38F, 1, 0x3CD⟩, ⟨0x391, 0x3A1, 1, 0x3B1⟩,
  ⟨0x3A3, 0x3AB, 1, 0x3C3⟩, ⟨0x400, 0x40F, 1, 0x450⟩, ⟨0x410, 0x42F, 1, 0x430⟩,
  ⟨0x460, 0x480, 2, 0x461⟩, ⟨0x48A, 0x4BE, 2, 0x48B⟩, ⟨0x4C0, 0x4C0, 1, 0x4CF⟩,
  ⟨0x4C1, 0x4CD, 2, 0x4C2⟩, ⟨0x4D0, 0x52E, 2, 0x4D1⟩, ⟨0x531, 0x556, 1, 0x561⟩,
  ⟨0x1E00, 0x1E94, 2, 0x1E01⟩, ⟨0x1EA0, 0x1EFE, 2, 0x1EA1⟩, ⟨0xFF01, 0xFF20, 1, 0x21⟩,
  ⟨0xFF21, 0xFF3A, 1, 0x61⟩, ⟨0xFF3B, 0xFF5E, 1, 0x5B⟩]

def Capitals.contains (family : Capitals) (code : Nat) : Bool :=
  family.first ≤ code && code ≤ family.last && (code - family.first) % family.step == 0

def smallLetter (character : Char) : Char :=
  match capitals.find? (·.contains character.toNat) with
  | none => character
  | some family => Char.ofNat (family.small + (character.toNat - family.first))

/-- Ranges of codes that leave no trace in a name. -/
def dropped : List (Nat × Nat) :=
  [(0xAD, 0xAD), (0x34F, 0x34F), (0x180B, 0x180D), (0x200B, 0x200B), (0x2060, 0x2060),
    (0x2064, 0x2064), (0xFE00, 0xFE0F), (0xFEFF, 0xFEFF)]

/-- Ranges of codes that no name may have: controls, blanks, marks of direction, and what is left
to private use or to no use. -/
def excluded : List (Nat × Nat) :=
  [(0x80, 0xA0), (0xA8, 0xA8), (0x2000, 0x200A), (0x200E, 0x200F), (0x2028, 0x202F),
    (0x205F, 0x205F), (0x2061, 0x2063), (0x2066, 0x206F), (0x3000, 0x3000), (0xD800, 0xF8FF),
    (0xFDD0, 0xFDEF), (0xFFF0, 0xFFFF), (0xE0000, 0x10FFFF)]

def inRanges (ranges : List (Nat × Nat)) (character : Char) : Bool :=
  ranges.any fun (first, last) => first ≤ character.toNat && character.toNat ≤ last

def isWideDot (character : Char) : Bool :=
  character == '\u3002' || character == '\uFF61'

/-- A name in the form in which its labels are compared. -/
def folded (name : List Char) : List Char :=
  (name.filter (!inRanges dropped ·)).map fun character =>
    if isWideDot character then '.' else smallLetter character

/-- Whether a label beyond ASCII may be part of a name. Marks that combine with the character in
front of them cannot come first. -/
def isLabel (label : List Char) : Bool :=
  folded label == label && !label.any (inRanges excluded) && !label.contains '.' &&
    !(label.head?.any fun first => 0x300 ≤ first.toNat && first.toNat ≤ 0x36F)

def punycodeStart : List Char := "xn--".toList

def asciiLabel? (label : List Char) : Option (List Char) :=
  if label.all Punycode.isAscii then
    match afterStart? punycodeStart label with
    | none => some label
    | some code => do
        let name ← Punycode.decode? code
        if isLabel name ∧ !name.all Punycode.isAscii ∧ Punycode.encode name = code then
          return label
        else none
  else if isLabel label then some (punycodeStart ++ Punycode.encode label)
  else none

def asciiName? (name : List Char) : Option (List Char) := do
  let labels ← (splitAt (· == '.') (folded name)).mapM asciiLabel?
  return ['.'].intercalate labels

end VirtualTables.Url
