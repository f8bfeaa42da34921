import VirtualTables.Fault
import VirtualTables.Http.Message
import VirtualTables.Query

/-!
What answers questions about virtual tables.

Everything that is asked runs as an `Attempt`: it may change the state of the world around it,
which stays a parameter, and it may fail.
-/

namespace VirtualTables

/-- A computation that may change a state and may fail; what it changed before stays. -/
abbrev Attempt (σ : Type) (α : Type) := ExceptT Fault (StateM σ) α

/-- The way that single requests take to servers. Redirects are not followed there. -/
abbrev Exchange (σ : Type) := Http.Request → Attempt σ Http.Response

structure Backend (σ : Type) where
  status : Attempt σ Unit
  services : Attempt σ (List Service)
  query : Query → Attempt σ ByteSource

end VirtualTables
