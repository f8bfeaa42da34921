import VirtualTables.ByteSource
import VirtualTables.Text.Ascii
import VirtualTables.Text.Diagnostic

/-!
Requests to a server and its responses.
-/

namespace VirtualTables.Http

open Text.Diagnostic

inductive Method where
  | get
  | post
deriving DecidableEq

def Method.name : Method → String
  | .get => "GET"
  | .post => "POST"

/-- Names and values, in order; a name can have several values. -/
abbrev Fields := List (String × String)

/-- The first value under a name, the case of its letters aside. -/
def Fields.header? (fields : Fields) (name : String) : Option String :=
  (List.find? (fun field => Text.sameName field.1 name) fields).map (·.2)

/-- A value is the first one under a name, the case of its letters aside. -/
def Fields.IsFirst (fields : Fields) (name value : String) : Prop :=
  ∃ front key back, fields = front ++ (key, value) :: back ∧ Text.sameName key name = true ∧
    ∀ field ∈ front, Text.sameName field.1 name = false

theorem Fields.header?_eq_some_iff {fields : Fields} {name value : String} :
    fields.header? name = some value ↔ fields.IsFirst name value := by
  unfold header? IsFirst
  rw [Option.map_eq_some_iff]
  constructor
  · rintro ⟨⟨key, _⟩, found, rfl⟩
    obtain ⟨same, front, back, split, others⟩ := List.find?_eq_some_iff_append.mp found
    refine ⟨front, key, back, split, same, ?_⟩
    intro field inside
    simpa using others field inside
  · rintro ⟨front, key, back, split, same, others⟩
    refine ⟨(key, value), List.find?_eq_some_iff_append.mpr ⟨same, front, back, split, ?_⟩, rfl⟩
    intro field inside
    simpa using others field inside

theorem Fields.header?_eq_none_iff {fields : Fields} {name : String} :
    fields.header? name = none ↔ ∀ field ∈ fields, Text.sameName field.1 name = false := by
  unfold header?
  rw [Option.map_eq_none_iff, List.find?_eq_none]
  simp only [Bool.not_eq_true]

/-- The first value under exactly this name. -/
def Fields.value? (fields : Fields) (name : String) : Option String :=
  (List.find? (fun field => field.1 == name) fields).map (·.2)

structure Request where
  method : Method
  url : String
  headers : Fields
  form : Fields
  authorize : Bool
deriving DecidableEq

def Request.get (url : String) : Request :=
  ⟨.get, url, [], [], true⟩

structure Response where
  status : Nat
  headers : Fields
  body : ByteSource
deriving DecidableEq

namespace Response

def isSuccess (response : Response) : Bool :=
  200 ≤ response.status && response.status < 300

def isRedirect (response : Response) : Bool :=
  [301, 302, 303, 307, 308].contains response.status

def diagnostic (response : Response) : String :=
  let headers := response.headers.map fun (name, value) =>
    "(" ++ Text.quoted name ++ ", " ++ Text.quoted value ++ ")"
  record "HttpResponse" [field "status" (toString response.status), field "headers" (list headers),
    ".."]

end Response

end VirtualTables.Http
