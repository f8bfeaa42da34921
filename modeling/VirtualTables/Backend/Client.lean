import VirtualTables.Backend.Basic
import VirtualTables.Settings.Basic
import VirtualTables.Url.Reader

/-!
The way to servers over a network: what is checked before anything is sent.

A proxy must have a locator that can be read, and the client a name that can be sent. Of each
request the header values are checked first, then the locator, the header names and the scheme.
What passes goes to the network.
-/

namespace VirtualTables

structure Client where
  proxy : Option String
  /-- The hosts that are reached without the proxy, separated by commas. -/
  bypass : String
  userAgent : String
  credentials : Credentials
  /-- Milliseconds to wait for a connection, unless any time will do. -/
  connectTimeout : Option Nat
  requestTimeout : Option Nat

namespace Client

def isSendable (byte : UInt8) : Bool :=
  byte = 0x09 || (0x20 ≤ byte && byte != 0x7F)

def isHeaderValue (text : String) : Bool :=
  (Text.Utf8.encode text.toList).all isSendable

def isHeaderName (text : String) : Bool :=
  let isNameChar (character : Char) : Bool :=
    Text.isDigit character || ('a' ≤ Text.lower character && Text.lower character ≤ 'z') ||
      "!#$%&'*+-.^_\x60|~".toList.contains character
  !text.isEmpty && text.toList.all isNameChar

def proxyOf (address : Address) : Option String :=
  match address.proxyHost with
  | none => none
  | some host =>
      if host.isEmpty then none
      else
        match address.proxyPort with
        | none => some ("http://" ++ host)
        | some port =>
            if port.isEmpty then some ("http://" ++ host)
            else some ("http://" ++ host ++ ":" ++ port)

/-- The hosts of a bypass list, separated by commas: `*.a|b` becomes `.a,b`. -/
def bypassList (hosts : String) : String :=
  let entries := (Text.splitAt (fun c => c == '|' || c == ',') hosts.toList).map Text.trim
  let kept := (entries.filter (!·.isEmpty)).map fun entry =>
    match entry with
    | '*' :: rest => rest
    | entry => entry
  String.ofList ([','].intercalate kept)

def ofAddress (address : Address) (settings : Settings.Connection) : Except Fault Client :=
  let proxy := proxyOf address
  match proxy.filter fun url => (Url.ofText? url.toList).isNone with
  | some url => .error (.connection (.invalidProxy url))
  | none =>
      if isHeaderValue settings.userAgent then
        let bypass := (address.nonProxyHosts.map bypassList).getD ""
        .ok ⟨proxy, bypass, settings.userAgent, address.credentials,
          Settings.limited settings.connectTimeout, Settings.limited settings.requestTimeout⟩
      else .error (.connection (.unbuildable none))

def check (request : Http.Request) : Except Fault Unit :=
  match request.headers.find? fun header => !isHeaderValue header.2 with
  | some header => .error (.unsendableHeader header.1)
  | none =>
      match Url.ofText? request.url.toList with
      | none => .error (.connection (.unbuildable none))
      | some url =>
          if !url.hasHost then
            .error (.connection (.unbuildable (some (String.ofList url.text))))
          else if !request.headers.all fun header => isHeaderName header.1 then
            .error (.connection (.unbuildable none))
          else if url.scheme ≠ "http".toList ∧ url.scheme ≠ "https".toList then
            .error (.connection (.unbuildable (some (String.ofList url.withoutUser.text))))
          else .ok ()

def exchange {σ : Type} (client : Client) (network : Client → Exchange σ) : Exchange σ :=
  fun request => do
    match check request with
    | .error fault => throw fault
    | .ok _ => network client request

end Client

def unreachableNetwork {σ : Type} : Client → Exchange σ :=
  fun _ _ => throw (.connection .unreachable)

end VirtualTables
