import VirtualTables.Text.Ascii
import VirtualTables.Text.Utf8

/-!
Character references and the five predefined entities in the text of a document.

`resolve` replaces the references of a text. A failure tells where it lies, in bytes of that text.
-/

namespace VirtualTables.Markup

open Text

inductive NumberFault where
  | empty
  | digit
  | tooLarge
  | zero
  | noCharacter (code : Nat)
deriving DecidableEq

def NumberFault.message : NumberFault → String
  | .empty => "cannot parse integer from empty string"
  | .digit => "invalid digit found in string"
  | .tooLarge => "number too large to fit in target type"
  | .zero => "0x0 character is not permitted in XML"
  | .noCharacter code => "`" ++ toString code ++ "` is not a valid codepoint"

inductive ReferenceFault where
  | unknownEntity (start stop : Nat) (name : String)
  | unterminated (start stop : Nat)
  | number (fault : NumberFault)
deriving DecidableEq

def ReferenceFault.message : ReferenceFault → String
  | .unknownEntity start stop name =>
      "at " ++ toString start ++ ".." ++ toString stop ++ ": unrecognized entity `" ++ name ++ "`"
  | .unterminated start stop =>
      "Error while escaping character at range " ++ toString start ++ ".." ++ toString stop ++
        ": Cannot find ';' after '&'"
  | .number fault => "invalid character reference: " ++ fault.message

/-- Put digits behind a number of 32 bits, stopping at the first that is wrong. -/
def appendDigits (base : Nat) : Nat → List Char → Except NumberFault Nat
  | number, [] => .ok number
  | number, digit :: rest =>
      match digitValue? base digit with
      | none => .error .digit
      | some value =>
          if number * base + value < UInt32.size then appendDigits base (number * base + value) rest
          else .error .tooLarge

/-- The number that a text writes, a plus sign in front of it or not. -/
def code? (base : Nat) : List Char → Except NumberFault Nat
  | [] => .error .empty
  | ['+'] => .error .digit
  | '+' :: digits => appendDigits base 0 digits
  | digits => appendDigits base 0 digits

/-- The character that the number of a reference, decimal or after `x` hexadecimal, stands for. -/
def numbered? (text : List Char) : Except NumberFault Char := do
  let code ←
    match text with
    | 'x' :: digits => code? 16 digits
    | digits => code? 10 digits
  if code = 0 then throw .zero
  if code < 0xD800 ∨ (0xE000 ≤ code ∧ code < 0x110000) then return Char.ofNat code
  else throw (.noCharacter code)

def predefined? (name : List Char) : Option Char :=
  match String.ofList name with
  | "lt" => some '<'
  | "gt" => some '>'
  | "amp" => some '&'
  | "apos" => some '\''
  | "quot" => some '"'
  | _ => none

/-- The character that the reference between an ampersand, at a position, and a semicolon stands
for. -/
def reference? (position : Nat) (name : List Char) : Except ReferenceFault Char :=
  match name with
  | '#' :: number =>
      match numbered? number with
      | .error fault => .error (.number fault)
      | .ok character => .ok character
  | name =>
      match predefined? name with
      | some character => .ok character
      | none =>
          .error (.unknownEntity (position + 1) (position + 1 + Utf8.size name)
            (String.ofList name))

def endsName (character : Char) : Bool :=
  character == '&' || character == ';'

def resolve (position : Nat) (text : List Char) : Except ReferenceFault (List Char) :=
  match text with
  | [] => .ok []
  | '&' :: rest =>
      let name := rest.takeWhile (!endsName ·)
      match _ : rest.dropWhile (!endsName ·) with
      | ';' :: others =>
          match reference? position name with
          | .error fault => .error fault
          | .ok character =>
              match resolve (position + Utf8.size name + 2) others with
              | .error fault => .error fault
              | .ok resolved => .ok (character :: resolved)
      | _ => .error (.unterminated position (position + 1 + Utf8.size name))
  | character :: rest =>
      match resolve (position + Utf8.size [character]) rest with
      | .error fault => .error fault
      | .ok resolved => .ok (character :: resolved)
termination_by text.length
decreasing_by
  · next ended =>
      have suffix := (List.dropWhile_suffix (fun c => !endsName c) : _ <:+ rest).length_le
      simp only [ended, List.length_cons] at suffix ⊢
      omega
  · simp

end VirtualTables.Markup
