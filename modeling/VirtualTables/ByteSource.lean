/-!
Sources of bytes: a number of bytes, and then either the end or a failure.
-/

namespace VirtualTables

inductive ByteSource.Ending where
  | ends
  | breaks
deriving DecidableEq

/-- The bytes still to be read and what happens after them. -/
structure ByteSource where
  bytes : List UInt8
  ending : ByteSource.Ending
deriving DecidableEq

namespace ByteSource

def ofBytes (bytes : List UInt8) : ByteSource :=
  ⟨bytes, .ends⟩

def all? (source : ByteSource) : Option (List UInt8) :=
  match source.ending with
  | .ends => some source.bytes
  | .breaks => none

end ByteSource

end VirtualTables
