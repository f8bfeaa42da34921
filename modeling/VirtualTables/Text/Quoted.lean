import VirtualTables.Text.Ascii
import VirtualTables.Text.Shown

/-!
Quoted texts, as diagnostics show them: between double quotes, with short escapes for the usual
controls and the code point in hexadecimal for every other character that is not shown.
-/

namespace VirtualTables.Text

def quotedChar (character : Char) : List Char :=
  match character with
  | '"' => ['\\', '"']
  | '\\' => ['\\', '\\']
  | '\n' => ['\\', 'n']
  | '\r' => ['\\', 'r']
  | '\t' => ['\\', 't']
  | '\x00' => ['\\', '0']
  | other =>
      if isShown other then [other]
      else "\\u\x7b".toList ++ Nat.toDigits 16 other.toNat ++ ['\x7d']

def quoted (text : String) : String :=
  String.ofList ('"' :: text.toList.flatMap quotedChar ++ ['"'])

end VirtualTables.Text
