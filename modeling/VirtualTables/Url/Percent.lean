import VirtualTables.Text.Ascii
import VirtualTables.Text.Utf8

/-!
Percent-encoding of locators. Each part of a locator has its own set of characters that are
written as the percent-encoded bytes of their UTF-8 form; controls and characters beyond ASCII are
in all of them.
-/

namespace VirtualTables.Url

def encodesControls (character : Char) : Bool :=
  character.toNat < 0x20 || 0x7F ≤ character.toNat

def encodesFragment (character : Char) : Bool :=
  encodesControls character || [' ', '"', '<', '>', '\x60'].contains character

def encodesPath (character : Char) : Bool :=
  encodesFragment character || ['#', '?', '\x7b', '\x7d'].contains character

def encodesUser (character : Char) : Bool :=
  encodesPath character ||
    ['/', ':', ';', '=', '@', '[', '\\', ']', '^', '|'].contains character

/-- The characters that are encoded in a query; an apostrophe only in the special schemes. -/
def encodesQuery (isSpecial : Bool) (character : Char) : Bool :=
  encodesControls character || [' ', '"', '#', '<', '>'].contains character ||
    (isSpecial && character == '\'')

def encode (inSet : Char → Bool) (text : List Char) : List Char :=
  text.flatMap fun character =>
    if inSet character then
      (Text.Utf8.encodeChar character).flatMap fun byte =>
        '%' :: (Text.paddedHex 2 byte.toNat).map Char.toUpper
    else [character]

/-- The bytes that a text stands for. A percent sign without two hexadecimal digits behind it
stands for itself. -/
def decode : List Char → List UInt8
  | [] => []
  | ['%'] => [0x25]
  | ['%', character] => 0x25 :: Text.Utf8.encodeChar character
  | '%' :: high :: low :: rest =>
      match Text.natInBase? 16 [high, low] with
      | some value => UInt8.ofNat value :: decode rest
      | none => 0x25 :: decode (high :: low :: rest)
  | character :: rest => Text.Utf8.encodeChar character ++ decode rest

end VirtualTables.Url
