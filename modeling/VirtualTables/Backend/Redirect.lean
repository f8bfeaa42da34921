import VirtualTables.Backend.Basic
import VirtualTables.Url.Reader

/-!
Following redirects.

A redirected request is the same request for another place. Its name and password are sent along
as long as every place so far has the origin of the one before it; once they are left out, they
stay out. `follow` recurses on the number of redirects that are still allowed.
-/

namespace VirtualTables

def Http.Request.redirected (request : Http.Request) (location : String) :
    Except RedirectFault Http.Request :=
  match Url.ofText? request.url.toList with
  | none => .error (.invalidRequest request.url)
  | some current =>
      match current.join? location.toList with
      | none => .error (.invalidTarget location)
      | some target =>
          .ok { request with
            url := String.ofList target.text
            authorize := request.authorize && Url.sameOrigin request.url.toList target.text }

/-- The text of a body, unless reading it fails; what is not well-formed UTF-8 is replaced. -/
def ByteSource.text? (body : ByteSource) : Option (List Char) :=
  body.all?.map Text.Utf8.decodeLossy

/-- The request that a response demands to be sent next, if it does not settle the matter. -/
def Http.Request.onward? (request : Http.Request) (response : Http.Response) :
    Except Fault (Option Http.Request) :=
  if response.isSuccess then .ok none
  else if response.isRedirect then
    match response.headers.header? "Location" with
    | none => .error (.redirect (.missingLocation response.status request.url))
    | some location =>
        match request.redirected location with
        | .error fault => .error (.redirect fault)
        | .ok next => .ok (some next)
  else .error (.connection (.refused response.status (response.body.text?.getD [])))

variable {σ : Type}

/-- The response to a request after at most a number of redirects; with the whole number allowed
and the locator that was asked for first. -/
def follow (exchange : Exchange σ) (limit : Nat) (first : String) :
    (left : Nat) → Http.Request → Attempt σ Http.Response
  | 0, request => do
      let response ← exchange request
      match ← request.onward? response with
      | none => return response
      | some _ => throw (.redirect (.tooMany limit first))
  | left + 1, request => do
      let response ← exchange request
      match ← request.onward? response with
      | none => return response
      | some next => follow exchange limit first left next

end VirtualTables
