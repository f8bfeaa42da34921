import VirtualTables.Decimal.Binary64

/-!
Values of TOML documents, and the rules by which tables grow.

A table remembers how it came about, because that decides what may still be added to it: nothing to
a closed one, dotted keys to none that a header has defined, and a header only to one that deeper
headers imply. An array remembers whether it is a growing array of tables.
-/

namespace VirtualTables.Toml

/-- How a table came about. -/
inductive Origin where
  /-- It is written between braces. -/
  | closed
  /-- It has a header. -/
  | defined
  /-- It lies on the way to a table with a header. -/
  | implied
  /-- It lies on the way of a dotted key. -/
  | dotted
deriving DecidableEq

inductive Value where
  | string (value : List Char)
  | integer (value : Int)
  | float (value : Binary64)
  | boolean (value : Bool)
  | datetime (written : List Char)
  | array (isOpen : Bool) (values : List Value)
  | table (origin : Origin) (entries : List (String × Value))

abbrev Entries := List (String × Value)

namespace Entries

def get? (entries : Entries) (key : String) : Option Value :=
  (List.find? (fun entry => entry.1 == key) entries).map (·.2)

def put (key : String) (value : Value) : Entries → Entries
  | [] => [(key, value)]
  | entry :: rest => if entry.1 = key then (key, value) :: rest else entry :: put key value rest

/-- Change the entries at the end of a path of keys; on the way, tables are made that are missing
and the last table of an array of tables is entered. The change is told the origin of the table. -/
def extend (isDotted : Bool) (change : Origin → Entries → Option Entries) :
    (path : List String) → Origin → Entries → Option Entries
  | [], origin, entries => change origin entries
  | key :: path, _, entries =>
      match get? entries key with
      | none => do
          let made : Origin := if isDotted then .dotted else .implied
          let inner ← extend isDotted change path made []
          return put key (.table made inner) entries
      | some (.table .closed _) => none
      | some (.table origin inner) =>
          if isDotted ∧ origin = .defined then none
          else do
            let inner ← extend isDotted change path origin inner
            return put key (.table origin inner) entries
      | some (.array true values) =>
          match values.reverse with
          | .table origin inner :: others => do
              let inner ← extend isDotted change path origin inner
              return put key (.array true (.table origin inner :: others).reverse) entries
          | _ => none
      | some _ => none

/-- Put a value under a dotted key into a table. A key may be given once, and a dotted key may only
add to tables that dotted keys have made. -/
def define (path : List String) (key : String) (value : Value) (origin : Origin)
    (entries : Entries) : Option Entries :=
  let add (reached : Origin) (entries : Entries) : Option Entries :=
    if !path.isEmpty && reached != .dotted then none
    else if (get? entries key).isSome then none
    else some (put key value entries)
  extend true add path origin entries

def beginTable (path : List String) (key : String) (entries : Entries) : Option Entries :=
  let add (_ : Origin) (entries : Entries) : Option Entries :=
    match get? entries key with
    | none => some (put key (.table .defined []) entries)
    | some (.table .implied inner) => some (put key (.table .defined inner) entries)
    | some _ => none
  extend false add path .defined entries

def beginItem (path : List String) (key : String) (entries : Entries) : Option Entries :=
  let add (_ : Origin) (entries : Entries) : Option Entries :=
    match get? entries key with
    | none => some (put key (.array true [.table .defined []]) entries)
    | some (.array true values) =>
        some (put key (.array true (values ++ [.table .defined []])) entries)
    | some _ => none
  extend false add path .defined entries

end Entries

end VirtualTables.Toml
