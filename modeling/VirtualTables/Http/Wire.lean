import VirtualTables.Http.Message
import VirtualTables.Text.Base64
import VirtualTables.Text.Blank
import VirtualTables.Text.Split
import VirtualTables.Text.Utf8

/-!
Requests and responses as the bytes that go over a connection.

A connection carries one request and one response, so a response without a length of its own
reaches to the end of the connection. A body that ends too early is one whose reading fails.
-/

namespace VirtualTables.Http

open Text

/-- A byte of a form: letters, digits and four marks as they are, a space as a plus sign, and
anything else percent-encoded. -/
def formByte (byte : UInt8) : List Char :=
  let character := Char.ofNat byte.toNat
  let small := lower character
  if isDigit character || ('a' ≤ small && small ≤ 'z') || ['*', '-', '.', '_'].contains character
  then [character]
  else if character = ' ' then ['+']
  else '%' :: (paddedHex 2 byte.toNat).map Char.toUpper

def formText (form : Fields) : List Char :=
  let part (text : String) : List Char := (Utf8.encode text.toList).flatMap formByte
  ['&'].intercalate (form.map fun (name, value) => part name ++ '=' :: part value)

def basicAuthorization (username : String) (password : Option String) : String :=
  let both := username ++ ":" ++ password.getD ""
  "Basic " ++ String.ofList (Base64.encode (Utf8.encode both.toList))

def requestBytes (method : Method) (target : String) (headers : Fields) (body : List Char) :
    List UInt8 :=
  let lines := (method.name ++ " " ++ target ++ " HTTP/1.1") ::
    headers.map fun (name, value) => name ++ ": " ++ value
  let head := lines.flatMap fun line => line.toList ++ ['\r', '\n']
  Utf8.encode (head ++ '\r' :: '\n' :: body)

def line? : List UInt8 → Option (List UInt8 × List UInt8)
  | [] => none
  | 0x0A :: rest => some ([], rest)
  | 0x0D :: 0x0A :: rest => some ([], rest)
  | byte :: rest => (line? rest).map fun (line, after) => (byte :: line, after)

theorem line?_length {bytes line rest : List UInt8} (found : line? bytes = some (line, rest)) :
    rest.length < bytes.length := by
  induction bytes using line?.induct generalizing line with
  | case1 => simp [line?] at found
  | case2 | case3 =>
      simp only [line?, Option.some.injEq, Prod.mk.injEq] at found
      simp only [← found.2, List.length_cons]
      omega
  | case4 byte bytes notLineFeed notBreak inductionHypothesis =>
      rw [line?] at found
      · simp only [Option.map_eq_some_iff, Prod.mk.injEq] at found
        obtain ⟨_, ran, _, rfl⟩ := found
        have := inductionHypothesis ran
        simp only [List.length_cons]
        omega
      · exact notLineFeed
      · exact notBreak

/-- The characters that bytes stand for one by one. -/
def narrow (bytes : List UInt8) : List Char :=
  bytes.map fun byte => Char.ofNat byte.toNat

def field? (line : List UInt8) : Option (String × List Char) :=
  let text := narrow line
  match text.dropWhile (· != ':') with
  | [] => none
  | _ :: value =>
      some (String.ofList ((text.takeWhile (· != ':')).map lower), trim value)

def fields? (bytes : List UInt8) : Option (List (String × List Char) × List UInt8) :=
  match _ : line? bytes with
  | none => none
  | some ([], rest) => some ([], rest)
  | some (line, rest) => do
      let field ← field? line
      let (others, after) ← fields? rest
      return (field :: others, after)
termination_by bytes.length
decreasing_by exact line?_length ‹_›

def status? (line : List UInt8) : Option Nat := do
  let rest ← afterStart? "HTTP/1.".toList (narrow line)
  match rest with
  | _ :: ' ' :: a :: b :: c :: after =>
      if [a, b, c].all isDigit && (after.isEmpty || after.head? == some ' ') then
        some (natOfDigits [a, b, c])
      else none
  | _ => none

def chunks (bytes : List UInt8) : ByteSource :=
  match _ : line? bytes with
  | none => ⟨[], .breaks⟩
  | some (line, rest) =>
      let digits := trim ((narrow line).takeWhile (· != ';'))
      match natInBase? 16 digits with
      | none => ⟨[], .breaks⟩
      | some 0 => if digits.isEmpty then ⟨[], .breaks⟩ else .ofBytes []
      | some size =>
          if rest.length < size then ⟨rest, .breaks⟩
          else
            let others := chunks ((rest.drop size).drop 2)
            ⟨rest.take size ++ others.bytes, others.ending⟩
termination_by bytes.length
decreasing_by
  have := line?_length ‹_›
  simp only [List.length_drop]
  omega

def bodyOf (status : Nat) (headers : List (String × List Char)) (bytes : List UInt8) : ByteSource :=
  let header? (name : String) := (headers.find? fun field => field.1 == name).map (·.2)
  if status = 204 ∨ status = 304 then .ofBytes []
  else if (header? "transfer-encoding").any (sameLetters · "chunked".toList) then chunks bytes
  else
    match (header? "content-length").bind (intOfText? 0 (UInt64.size - 1)) with
    | none => .ofBytes bytes
    | some length =>
        if (bytes.length : Int) < length then ⟨bytes, .breaks⟩
        else .ofBytes (bytes.take length.toNat)

def isVisible (value : List Char) : Bool :=
  value.all fun character => character == '\t' || (' ' ≤ character && character < '\x7f')

/-- The response that the bytes of a connection hold. Interim responses are passed over, and so are
headers whose values are not visible. -/
def Response.ofBytes? (bytes : List UInt8) : Option Response :=
  match _ : line? bytes with
  | none => none
  | some (line, rest) =>
      match status? line, _ : fields? rest with
      | some status, some (headers, after) =>
          if status < 200 ∧ status ≠ 101 then
            if after.length < bytes.length then ofBytes? after else none
          else
            let visible := headers.filter fun field => isVisible field.2
            some ⟨status, visible.map fun (name, value) => (name, String.ofList value),
              bodyOf status headers after⟩
      | _, _ => none
termination_by bytes.length

end VirtualTables.Http
