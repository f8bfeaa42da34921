import VirtualTables.Address.Reader
import VirtualTables.Http.Status
import VirtualTables.Listing.Reader
import VirtualTables.RowStream.Fault

/-!
Everything that can go wrong between a caller and a server, with its kind and wording.
-/

namespace VirtualTables

inductive ConnectionFault where
  | unreachable
  | timedOut
  /-- What comes back is no response, or nothing comes back. -/
  | unanswered (url : String)
  /-- A request cannot be built; with the locator, if that is what is wrong with it. -/
  | unbuildable (url : Option String)
  | invalidProxy (url : String)
  | refused (status : Nat) (body : List Char)
  | unreadableBody
deriving DecidableEq

def ConnectionFault.message : ConnectionFault → String
  | .unreachable => "Unable to reach server"
  | .timedOut => "Request timed out"
  | .unanswered url => "HTTP failure: error sending request for url (" ++ url ++ ")"
  | .unbuildable none => "HTTP failure: builder error"
  | .unbuildable (some url) => "HTTP failure: builder error for url (" ++ url ++ ")"
  | .invalidProxy url => "Invalid proxy '" ++ url ++ "'"
  | .refused status body => Http.statusText status body
  | .unreadableBody => "Failed to read response body"

inductive RedirectFault where
  | missingLocation (status : Nat) (url : String)
  | invalidRequest (url : String)
  | invalidTarget (location : String)
  | tooMany (limit : Nat) (url : String)
deriving DecidableEq

def RedirectFault.message : RedirectFault → String
  | .missingLocation status url =>
      "Redirect status " ++ toString status ++ " from " ++ url ++ " without a Location header"
  | .invalidRequest url => "Invalid request URL '" ++ url ++ "'"
  | .invalidTarget location => "Invalid redirect target '" ++ location ++ "'"
  | .tooMany limit url =>
      "Too many redirects (more than " ++ toString limit ++ ") requesting " ++ url

inductive Fault where
  | malformedAddress (address : String) (fault : AddressFault)
  | connection (fault : ConnectionFault)
  | redirect (fault : RedirectFault)
  | unsendableHeader (name : String)
  | listing (fault : ListingFault)
  | rows (fault : StreamFault)
  | connectivity (message : String) (cause : Option String)
  | protocol (message : String) (cause : Option String)
  | unsupported (operation : String)
  | noLocalService
deriving DecidableEq

namespace Fault

inductive Kind where
  | malformedAddress
  | connectivity
  | protocol
  | unsupportedOperation
  | localServiceUnavailable
deriving DecidableEq

def Kind.name : Kind → String
  | .malformedAddress => "malformed_address"
  | .connectivity => "connectivity"
  | .protocol => "protocol"
  | .unsupportedOperation => "unsupported_operation"
  | .localServiceUnavailable => "local_service_unavailable"

def kind : Fault → Kind
  | .malformedAddress .. => .malformedAddress
  | .connection _ => .connectivity
  | .redirect _ => .protocol
  | .unsendableHeader _ => .protocol
  | .listing _ => .protocol
  | .rows fault => if fault.isSourceFailure then .connectivity else .protocol
  | .connectivity .. => .connectivity
  | .protocol .. => .protocol
  | .unsupported _ => .unsupportedOperation
  | .noLocalService => .localServiceUnavailable

/-- The wording of a failure, apart from what its kind puts in front or behind. -/
def detail : Fault → String
  | .malformedAddress _ fault => fault.reason
  | .connection fault => fault.message
  | .redirect fault => fault.message
  | .unsendableHeader name => "Header " ++ name ++ " cannot be encoded (control characters?)"
  | .listing fault => fault.message
  | .rows fault => fault.message
  | .connectivity message _ => message
  | .protocol message _ => message
  | .unsupported operation => operation
  | .noLocalService => ""

def address : Fault → String
  | .malformedAddress address _ => address
  | _ => ""

def message (fault : Fault) : String :=
  match fault.kind with
  | .malformedAddress =>
      "Invalid connection address '" ++ fault.address ++ "': " ++ fault.detail
  | .connectivity => "Error connecting to server: " ++ fault.detail
  | .protocol => "Protocol error: " ++ fault.detail
  | .unsupportedOperation =>
      fault.detail ++ " is not supported by the thin data-service client"
  | .localServiceUnavailable => "Local client service is not installed"

def cause? : Fault → Option String
  | .connectivity _ cause => cause
  | .protocol _ cause => cause
  | _ => none

end Fault

end VirtualTables
