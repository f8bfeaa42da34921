import VirtualTables.Text.Quoted

/-!
The shape of diagnostic texts: records with named fields, lists, and values that may be absent.
-/

namespace VirtualTables.Text.Diagnostic

def field (name value : String) : String :=
  name ++ ": " ++ value

def record (type : String) (fields : List String) : String :=
  type ++ " \x7b " ++ ", ".intercalate fields ++ " \x7d"

def list (values : List String) : String :=
  "[" ++ ", ".intercalate values ++ "]"

def option (value : Option String) : String :=
  match value with
  | none => "None"
  | some text => "Some(" ++ text ++ ")"

def boolean (value : Bool) : String :=
  if value then "true" else "false"

def optionalText (value : Option String) : String :=
  option (value.map quoted)

end VirtualTables.Text.Diagnostic
