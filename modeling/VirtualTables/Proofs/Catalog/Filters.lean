import Mathlib.Data.List.Forall2
import VirtualTables.Proofs.Catalog.Series

/-!
Filters on the catalog.

The fields of a service are numbered before any filter is applied, so a column keeps the position
that it has among all of them. What patterns are given then only decides which entries are left.
-/

namespace VirtualTables

/-- A name is like a pattern, or no pattern is given. -/
def Fits (pattern? : Option String) (name : String) : Prop :=
  ∀ pattern ∈ pattern?, Likes pattern.toList name.toList

instance (pattern? : Option String) (name : String) : Decidable (Fits pattern? name) :=
  decidable_of_iff ((NamePattern.ofText? pattern?).accepts name = true)
    NamePattern.accepts_ofText?_iff

@[simp]
theorem NamePattern.accepts_any (name : String) : any.accepts name = true := rfl

namespace Catalog

section Find

variable {σ : Type} {backend : Backend σ} {world after : σ} {services : List Service}

end Find

end Catalog

end VirtualTables
