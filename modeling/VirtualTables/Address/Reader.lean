import VirtualTables.Address.Basic
import VirtualTables.Text.Ascii
import VirtualTables.Text.Split

/-!
Reading and writing addresses such as `jdbc:pdi://host:9080/kettle?webappname=pdi&secure=true`.

An argument counts if, its trailing equals signs aside, it has exactly one equals sign; others are
passed over. Of several arguments with one key the last counts. `Address.text` writes an address
with the same parts again, in a fixed order.
-/

namespace VirtualTables

inductive AddressFault where
  | wrongStart
  | missingPort
  | missingService
  | emptyHost
  | emptyPort
  | stated (reason : String)
deriving DecidableEq

def AddressFault.reason : AddressFault → String
  | .wrongStart => "address must start with '" ++ Address.start ++ "'"
  | .missingPort => "missing ':port'"
  | .missingService => "missing '" ++ Address.servicePath ++ "' service path"
  | .emptyHost => "empty host name"
  | .emptyPort => "empty port"
  | .stated reason => reason

namespace Address

/-- The arguments with a meaning of their own. -/
def recognizedArguments : List String :=
  ["webappname", "proxyhostname", "proxyport", "nonproxyhosts", "debugtrans", "debuglog", "secure",
    "local"]

def recognizes (name : String) : Bool :=
  recognizedArguments.contains name

/-- The key and value of one argument, if it counts. -/
def argument? (piece : List Char) : Option (String × String) :=
  let parts := Text.splitAt (· == '=') piece
  match (parts.reverse.dropWhile List.isEmpty).reverse with
  | [key, value] => some (String.ofList key, String.ofList value)
  | _ => none

def arguments (query : List Char) : Dictionary String :=
  .ofList ((Text.splitAt (· == '&') query).filterMap argument?)

def isOn (value : Option String) : Bool :=
  value.any (Text.sameName · "true")

def query? (text : List Char) : Option (List Char) :=
  match text.dropWhile (· != '?') with
  | [] => none
  | _ :: query => some query

def parts? (text : List Char) : Except AddressFault (List Char × List Char × List Char) :=
  match Text.afterStart? start.toList text with
  | none => .error .wrongStart
  | some rest =>
      match Text.upTo? [':'] rest with
      | none => .error .missingPort
      | some (host, rest) =>
          match Text.upTo? servicePath.toList rest with
          | none => .error .missingService
          | some (port, rest) =>
              if host.isEmpty then .error .emptyHost
              else if port.isEmpty then .error .emptyPort
              else .ok (host, port, rest)

/-- The address that a text writes. -/
def ofText? (text : String) (credentials : Credentials) : Except AddressFault Address :=
  match parts? text.toList with
  | .error fault => .error fault
  | .ok (host, port, rest) =>
      let found := ((query? rest).map arguments).getD .empty
      .ok {
        given := text
        host := String.ofList host
        port := String.ofList port
        webAppName := found.get? "webappname"
        proxyHost := found.get? "proxyhostname"
        proxyPort := found.get? "proxyport"
        nonProxyHosts := found.get? "nonproxyhosts"
        secure := isOn (found.get? "secure")
        isLocal := isOn (found.get? "local")
        debugFile := found.get? "debugtrans"
        debugLog := isOn (found.get? "debuglog")
        parameters := recognizedArguments.foldl Dictionary.erase found
        credentials }

def optionalArgument (key : String) (value : Option String) : List (String × String) :=
  (value.map fun text => (key, text)).toList

def switchArgument (key : String) (isSet : Bool) : List (String × String) :=
  if isSet then [(key, "true")] else []

def writtenArguments (address : Address) : List (String × String) :=
  optionalArgument "webappname" address.webAppName ++
  optionalArgument "proxyhostname" address.proxyHost ++
  optionalArgument "proxyport" address.proxyPort ++
  optionalArgument "nonproxyhosts" address.nonProxyHosts ++
  optionalArgument "debugtrans" address.debugFile ++
  switchArgument "debuglog" address.debugLog ++
  switchArgument "secure" address.secure ++
  switchArgument "local" address.isLocal ++
  address.parameters.entries

/-- The written form of an address, which holds neither name nor password. -/
def text (address : Address) : String :=
  let written := address.writtenArguments.map fun (key, value) => key ++ "=" ++ value
  let query := if written.isEmpty then "" else "?" ++ "&".intercalate written
  start ++ address.host ++ ":" ++ address.port ++ servicePath ++ query

end Address

end VirtualTables
