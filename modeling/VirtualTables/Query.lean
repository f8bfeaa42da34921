import VirtualTables.Address.Basic
import VirtualTables.Text.Split

/-!
Queries and what is sent along with them.
-/

namespace VirtualTables

structure Query where
  sql : String
  /-- The number of rows to return at most; zero for all. -/
  maxRows : Nat
  parameters : Dictionary String
  debugFile : Option String
  debugLog : Bool
deriving DecidableEq

namespace Query

def ofStatement (sql : String) (maxRows : Nat) : Query :=
  ⟨sql, maxRows, .empty, none, false⟩

/-- Fill in what the address prescribes for all queries; what the query says itself comes first. -/
def withDefaults (query : Query) (address : Address) : Query :=
  { query with
    debugFile := query.debugFile <|> address.debugFile
    debugLog := query.debugLog || address.debugLog
    parameters := query.parameters.withDefaults address.parameters }

def isLineBreak (character : Char) : Bool :=
  character == '\r' || character == '\n'

/-- A text on one line. Line breaks of two characters become spaces first, and then those that are
left. -/
def onOneLine (text : List Char) : List Char :=
  (Text.replaceAll ['\r', '\n'] [' '] text).map fun character =>
    if isLineBreak character then ' ' else character

def sentSql (query : Query) : String :=
  String.ofList (onOneLine query.sql.toList)

end Query

end VirtualTables
