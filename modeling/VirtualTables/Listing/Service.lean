import VirtualTables.Row

/-!
Services: the virtual tables that a server offers, with their fields.
-/

namespace VirtualTables

structure Service.Field where
  name : String
  type : CellType
  /-- The declared length, if there is one. A listing never gives a negative one. -/
  length : Option Int32
  precision : Option Int32
deriving DecidableEq

structure Service where
  name : String
  fields : List Service.Field
deriving DecidableEq

def Service.layout (service : Service) : Layout :=
  ⟨service.fields.map fun field => ⟨field.name, field.type⟩⟩

end VirtualTables
