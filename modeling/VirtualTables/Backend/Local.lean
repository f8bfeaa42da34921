import VirtualTables.Backend.Basic

/-!
Services of this process, which are asked without a network.

A registry holds at most one service. It is looked into at every question, so that a service that
is registered later answers too. The registry also keeps record of the questions that its services
have been asked.
-/

namespace VirtualTables

structure LocalService where
  status : Except Fault Unit
  services : Except Fault (List Service)
  query : Query → Except Fault ByteSource

inductive LocalCall where
  | status
  | services
  | query (query : Query)
deriving DecidableEq

structure Registry where
  /-- The service registered last, unless it has been removed. -/
  service? : Option LocalService
  /-- The questions asked so far, the latest first. -/
  calls : List LocalCall

namespace Registry

def empty : Registry :=
  ⟨none, []⟩

def register (registry : Registry) (service : LocalService) : Registry :=
  { registry with service? := some service }

def unregister (registry : Registry) : Registry :=
  { registry with service? := none }

def isRegistered (registry : Registry) : Bool :=
  registry.service?.isSome

def service (registry : Registry) : Except Fault LocalService :=
  match registry.service? with
  | none => .error .noLocalService
  | some service => .ok service

def ask {α : Type} (registry : Registry) (call : LocalCall)
    (answer : LocalService → Except Fault α) : Except Fault α × Registry :=
  match registry.service? with
  | none => (.error .noLocalService, registry)
  | some service => (answer service, { registry with calls := call :: registry.calls })

open Text.Diagnostic in
def diagnostic (registry : Registry) : String :=
  record "LocalServiceRegistry" [field "registered" (boolean registry.isRegistered)]

end Registry

/-- States of the world that a registry is part of. -/
class HasRegistry (σ : Type) where
  registry : σ → Registry
  withRegistry : σ → Registry → σ

variable {σ : Type} [HasRegistry σ]

def askRegistered {α : Type} (call : LocalCall) (answer : LocalService → Except Fault α) :
    Attempt σ α := do
  let world ← get
  let (result, registry) := (HasRegistry.registry world).ask call answer
  set (HasRegistry.withRegistry world registry)
  match result with
  | .error fault => throw fault
  | .ok value => return value

def localBackend (address : Address) : Backend σ where
  status := askRegistered .status (·.status)
  services := askRegistered .services (·.services)
  query query :=
    let query := query.withDefaults address
    askRegistered (.query query) (·.query query)

end VirtualTables
