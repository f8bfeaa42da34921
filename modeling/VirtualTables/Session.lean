import VirtualTables.Backend.Client
import VirtualTables.Backend.Local
import VirtualTables.Backend.Remote
import VirtualTables.Capability.Operation
import VirtualTables.Catalog.Lookup
import VirtualTables.RowStream.Cursor

/-!
Sessions with a server, or with the service of this process that an address asks for instead.
-/

namespace VirtualTables

structure Session (σ : Type) where
  address : Address
  backend : Backend σ

namespace Session

variable {σ : Type}

def addressOf (text : String) (credentials : Credentials) : Except Fault Address :=
  match Address.ofText? text credentials with
  | .error fault => .error (.malformedAddress text fault)
  | .ok address => .ok address

def withExchange [HasRegistry σ] (text : String) (credentials : Credentials)
    (exchange : Exchange σ) (maxRedirects : Nat) : Except Fault (Session σ) := do
  let address ← addressOf text credentials
  if address.isLocal then return ⟨address, localBackend address⟩
  else return ⟨address, (Remote.mk address exchange maxRedirects).backend⟩

def overNetwork [HasRegistry σ] (text : String) (credentials : Credentials)
    (settings : Settings.Connection) (network : Client → Exchange σ) :
    Except Fault (Session σ) := do
  let address ← addressOf text credentials
  if address.isLocal then return ⟨address, localBackend address⟩
  else
    let client ← Client.ofAddress address settings
    let remote := Remote.mk address (client.exchange network) settings.maxRedirects
    return ⟨address, remote.backend⟩

def test (session : Session σ) : Attempt σ Unit :=
  session.backend.status

/-- A session over a network, once the services have been reached. -/
def connect [HasRegistry σ] (text : String) (credentials : Credentials)
    (settings : Settings.Connection) (network : Client → Exchange σ) : Attempt σ (Session σ) := do
  match overNetwork text credentials settings network with
  | .error fault => throw fault
  | .ok session =>
      session.test
      return session

def isValid (session : Session σ) : StateM σ Bool := do
  match ← session.test.run with
  | .error _ => return false
  | .ok _ => return true

def execute (session : Session σ) (query : Query) : Attempt σ Cursor := do
  let source ← session.backend.query query
  match Cursor.ofSource source query.maxRows with
  | .error fault => throw (.rows fault)
  | .ok cursor => return cursor

def diagnostic (session : Session σ) : String :=
  Text.Diagnostic.record "Connection" [
    Text.Diagnostic.field "descriptor" session.address.diagnostic, ".."]

end Session

/-- The fixed answer of an operation, `none` if it is carried out, or its refusal. -/
def Operation.check (operation : Operation) : Except Fault (Option FixedAnswer) :=
  match operation.capability with
  | .supported => .ok none
  | .noOp answer => .ok (some answer)
  | .unsupported => .error (.unsupported operation.name)

end VirtualTables
