import VirtualTables.Toml.Value

/-!
What the sources of settings say, before it is checked.

Sources are merged key by key: of two tables the entries are merged, and anything else that comes
later takes the place of what came before.
-/

namespace VirtualTables

inductive Settings.Value where
  | string (value : List Char)
  | integer (value : Int)
  | float (value : Binary64)
  | truth (value : Bool)
  | list (values : List Settings.Value)
  | table (entries : List (String × Settings.Value))

namespace Settings.Value

def get? (entries : List (String × Value)) (key : String) : Option Value :=
  (entries.find? fun entry => entry.1 == key).map (·.2)

def put (key : String) (value : Value) : List (String × Value) → List (String × Value)
  | [] => [(key, value)]
  | entry :: rest => if entry.1 = key then (key, value) :: rest else entry :: put key value rest

mutual

/-- A value with a later one merged into it. -/
def merge (earlier : Value) : (later : Value) → Value
  | .table later =>
      match earlier with
      | .table earlier => .table (mergeEntries earlier later)
      | _ => .table later
  | later => later

def mergeEntries (earlier : List (String × Value)) :
    (later : List (String × Value)) → List (String × Value)
  | [] => earlier
  | (key, value) :: rest =>
      let merged :=
        match get? earlier key with
        | none => value
        | some found => merge found value
      mergeEntries (put key merged earlier) rest

end

def nested : (path : List String) → Value → Value
  | [], value => value
  | key :: path, value => .table [(key, nested path value)]

mutual

/-- The value that a document gives. Times are no values of settings: they count as tables without
a known key. -/
def ofToml : Toml.Value → Value
  | .string value => .string value
  | .integer value => .integer value
  | .float value => .float value
  | .boolean value => .truth value
  | .datetime _ => .table []
  | .array _ values => .list (listOfToml values)
  | .table _ entries => .table (entriesOfToml entries)

def listOfToml : List Toml.Value → List Value
  | [] => []
  | value :: rest => ofToml value :: listOfToml rest

def entriesOfToml : List (String × Toml.Value) → List (String × Value)
  | [] => []
  | (key, value) :: rest => (key, ofToml value) :: entriesOfToml rest

end

end Settings.Value

end VirtualTables
