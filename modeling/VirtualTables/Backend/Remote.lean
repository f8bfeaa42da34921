import VirtualTables.Backend.Redirect

/-!
Servers, which are asked over HTTP.
-/

namespace VirtualTables

structure Remote (σ : Type) where
  address : Address
  exchange : Exchange σ
  maxRedirects : Nat

namespace Remote

variable {σ : Type}

def response (remote : Remote σ) (request : Http.Request) : Attempt σ Http.Response :=
  follow remote.exchange remote.maxRedirects request.url remote.maxRedirects request

def page (remote : Remote σ) (path : String) : Attempt σ String := do
  let response ← remote.response (.get (remote.address.endpoint path))
  match response.body.text? with
  | none => throw (.connection .unreadableBody)
  | some text => return String.ofList text

def statusPath : String := "/kettle/status/"

def listingPath : String := "/kettle/listServices/"

def queryPath : String := "/kettle/sql"

def formOf (query : Query) : Http.Fields :=
  (query.debugFile.map fun file => ("debugtrans", file)).toList ++
  (if query.debugLog then [("debuglog", "true")] else []) ++
  query.parameters.entries

/-- The request for a query, with what the address prescribes for all queries. -/
def requestOf (address : Address) (query : Query) : Http.Request :=
  let query := query.withDefaults address
  { method := .post
    url := address.endpoint queryPath
    headers := [("SQL", query.sentSql), ("MaxRows", toString query.maxRows)]
    form := formOf query
    authorize := true }

def listing (remote : Remote σ) : Attempt σ (List Service) := do
  let document ← remote.page listingPath
  match Listing.services document with
  | .error fault => throw (.listing fault)
  | .ok services => return services

def backend (remote : Remote σ) : Backend σ where
  status := do
    let _ ← remote.page statusPath
  services := remote.listing
  query query := do
    let response ← remote.response (requestOf remote.address query)
    return response.body

end Remote

end VirtualTables
