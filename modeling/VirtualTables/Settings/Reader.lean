import VirtualTables.Settings.Basic
import VirtualTables.Settings.Environment
import VirtualTables.Toml.Reader

/-!
Reading the settings from files and the environment.

The sources are merged before anything is checked. A section is a table, or a list with the values
in the order of the section's fields; what is missing keeps its default, and what has no field is
passed over.

A failure tells where a value does not fit, but has no wording.
-/

namespace VirtualTables.Settings

inductive Fault where
  | notToml
  | wrongKind (path : List String)
  | outOfRange (path : List String)
deriving DecidableEq

structure Field (σ : Type) where
  name : String
  /-- Set the field to a value that stands at a path. -/
  set : (path : List String) → Value → σ → Except Fault σ

def natural (path : List String) : Value → Except Fault Nat
  | .integer value =>
      if 0 ≤ value ∧ value < UInt64.size then .ok value.toNat else .error (.outOfRange path)
  | _ => .error (.wrongKind path)

def text (path : List String) : Value → Except Fault String
  | .string value => .ok (String.ofList value)
  | _ => .error (.wrongKind path)

def Connection.fields : List (Field Connection) := [
  ⟨"connect_timeout_ms", fun path value section_ =>
    (natural path value).map fun number => { section_ with connectTimeout := number }⟩,
  ⟨"request_timeout_ms", fun path value section_ =>
    (natural path value).map fun number => { section_ with requestTimeout := number }⟩,
  ⟨"max_redirects", fun path value section_ =>
    (natural path value).map fun number => { section_ with maxRedirects := number }⟩,
  ⟨"user_agent", fun path value section_ =>
    (text path value).map fun name => { section_ with userAgent := name }⟩]

def Logging.fields : List (Field Logging) := [
  ⟨"level", fun path value section_ =>
    (text path value).map fun level => { section_ with level := level }⟩,
  ⟨"format", fun path value section_ =>
    (text path value).map fun format => { section_ with format := format }⟩,
  ⟨"file", fun path value section_ =>
    (text path value).map fun file => { section_ with file := some file }⟩]

/-- Set the fields of a section: those of a table in the order of their names, those of a list in
their own order. -/
def readSection {σ : Type} (name : String) (fields : List (Field σ)) (defaults : σ) :
    Value → Except Fault σ
  | .table entries =>
      (fields.mergeSort fun left right => decide (left.name ≤ right.name)).foldlM
        (fun section_ field =>
          match Value.get? entries field.name with
          | none => .ok section_
          | some value => field.set [name, field.name] value section_) defaults
  | .list values =>
      (fields.zip values).zipIdx.foldlM
        (fun section_ ((field, value), index) =>
          field.set [name, toString index] value section_) defaults
  | _ => .error (.wrongKind [name])

def ofEntries (entries : List (String × Value)) : Except Fault Settings := do
  let part {σ : Type} (name : String) (fields : List (Field σ)) (defaults : σ) : Except Fault σ :=
    match Value.get? entries name with
    | none => .ok defaults
    | some value => readSection name fields defaults value
  let connection ← part "http" Connection.fields .default
  let logging ← part "logging" Logging.fields .default
  return ⟨connection, logging⟩

def ofFile (content : Option String) : Except Fault (List (String × Value)) :=
  match content with
  | none => .ok []
  | some text =>
      match Toml.read? text with
      | none => .error .notToml
      | some entries => .ok (Value.entriesOfToml entries)

def defaultFiles : List String := ["dataservice.toml", "dataservice.local.toml"]

/-- The settings of the named file, or of the files that are read by default, with those of the
environment over them. -/
def read (files : String → Option String) (named : Option String)
    (environment : List (String × String)) : Except Fault Settings := do
  let names := match named with
    | none => defaultFiles
    | some name => [name]
  let sources ← names.mapM fun name => ofFile (files name)
  let merged := sources.foldl Value.mergeEntries []
  match Value.ofVariables environment with
  | .table entries => ofEntries (Value.mergeEntries merged entries)
  | _ => ofEntries merged

end VirtualTables.Settings
