import VirtualTables.Text.Ascii

/-!
What can be wrong with a row stream while it is read, and the wording of each case.
-/

namespace VirtualTables

/-- A failure while reading a row stream; `item` says what was being read. -/
inductive StreamFault where
  /-- The stream ended within an item of fixed size. -/
  | truncated (item : String)
  /-- The stream ended within an item that announces its size. -/
  | shortItem (item : String) (announced found : Nat)
  | broken (item : String)
  | malformedText (item : String)
  | negativeCount (count : Int)
  | unknownType (number : Int)
  | negativeLength (item : String) (length : Int)
  | dateOutOfRange (item : String) (millis : Int)
  /-- Neither a row nor the end of the rows begins with this byte. -/
  | unknownMarker (byte : UInt8)
deriving DecidableEq

namespace StreamFault

def message : StreamFault → String
  | .truncated item => "Truncated row stream while reading " ++ item
  | .shortItem item announced found =>
      "Truncated row stream while reading " ++ item ++ ": expected " ++ toString announced ++
        " bytes, got " ++ toString found
  | .broken item => "Failed reading row stream (" ++ item ++ ")"
  | .malformedText item => "Invalid UTF-8 in " ++ item
  | .negativeCount count => "Negative field count " ++ toString count
  | .unknownType number => "Unknown field type id " ++ toString number
  | .negativeLength item length => "Negative length " ++ toString length ++ " in " ++ item
  | .dateOutOfRange item millis => "Date out of range in " ++ item ++ ": " ++ toString millis
  | .unknownMarker byte =>
      "Unexpected row marker 0x" ++ String.ofList (Text.paddedHex 2 byte.toNat)

def isSourceFailure : StreamFault → Bool
  | .broken _ => true
  | _ => false

def isTruncation : StreamFault → Bool
  | .truncated _ => true
  | .shortItem .. => true
  | _ => false

end StreamFault

end VirtualTables
