import VirtualTables.Backend.Basic
import VirtualTables.Catalog.Rows
import VirtualTables.Settings.Basic

/-!
Asking for the catalog of a backend.

The listing is fetched anew for every question that needs it. A question that names another schema
than the only one, or that never has rows, needs none.
-/

namespace VirtualTables.Catalog

variable {σ : Type}

def findTables (backend : Backend σ) (schema table : Option String) : Attempt σ (List Table) := do
  if (NamePattern.ofText? schema).accepts schemaName then
    return tables (← backend.services) (NamePattern.ofText? table)
  else return []

def findColumns (backend : Backend σ) (schema table column : Option String) :
    Attempt σ (List TableColumn) := do
  if (NamePattern.ofText? schema).accepts schemaName then
    return columns (← backend.services) (NamePattern.ofText? table) (NamePattern.ofText? column)
  else return []

def introspect (backend : Backend σ) (kind : Introspection) : Attempt σ (List Row) :=
  match kind with
  | .schemas => return schemas.map Schema.row
  | .tables => do return (← findTables backend none none).map Table.row
  | .columns => do return (← findColumns backend none none none).map TableColumn.row
  | _ => return []

structure Answer where
  kind : Introspection
  layout : Layout
  rows : List Row
deriving DecidableEq

def Answer.empty (kind : Introspection) : Answer :=
  ⟨kind, kind.layout, []⟩

def answer (backend : Backend σ) (kind : Introspection) : Attempt σ Answer := do
  return { Answer.empty kind with rows := ← introspect backend kind }

structure Identity where
  productName : String
  driverName : String
  driverVersion : String
  /-- The address, without the password. -/
  url : String
  userName : Option String
deriving DecidableEq

def driverName : String := "PDI Data Services client"

def identity (address : Address) : Identity :=
  ⟨"Pentaho Data Services", driverName, Settings.version, address.text,
    address.credentials.username⟩

end VirtualTables.Catalog
