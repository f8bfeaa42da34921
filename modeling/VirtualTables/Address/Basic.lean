import VirtualTables.Dictionary
import VirtualTables.Text.Blank
import VirtualTables.Text.Diagnostic

/-!
Addresses of servers: where the server is, how it is reached, and what is sent with every query.
-/

namespace VirtualTables

structure Credentials where
  username : Option String
  password : Option String
deriving DecidableEq

structure Address where
  given : String
  host : String
  /-- The port, as it is written. -/
  port : String
  webAppName : Option String
  proxyHost : Option String
  proxyPort : Option String
  /-- The hosts that are reached without the proxy. -/
  nonProxyHosts : Option String
  secure : Bool
  /-- Whether a service of this process is asked instead of a server. -/
  isLocal : Bool
  /-- The file that the server shall save the generated transformation to. -/
  debugFile : Option String
  debugLog : Bool
  /-- The other arguments, which are sent with every query. -/
  parameters : Dictionary String
  credentials : Credentials
deriving DecidableEq

namespace Address

def start : String := "jdbc:pdi://"

def servicePath : String := "/kettle"

def accepts (text : String) : Bool :=
  start.toList.isPrefixOf text.toList

def scheme (address : Address) : String :=
  if address.secure then "https" else "http"

/-- The locator that all paths of the server are put behind. -/
def baseUrl (address : Address) : String :=
  let server := address.scheme ++ "://" ++ address.host ++ ":" ++ address.port
  match address.webAppName with
  | none => server
  | some name =>
      if name.isEmpty then server
      else server ++ "/" ++ String.ofList (Text.stripBoth (· == '/') name.toList)

def endpoint (address : Address) (path : String) : String :=
  address.baseUrl ++ path

end Address

open Text.Diagnostic in
/-- The diagnostic text of name and password, which hides the password. -/
def Credentials.diagnostic (credentials : Credentials) : String :=
  record "Credentials" [
    field "username" (optionalText credentials.username),
    field "password" (optionalText (credentials.password.map fun _ => "***"))]

open Text.Diagnostic in
def Address.diagnostic (address : Address) : String :=
  let parameters := address.parameters.entries.map fun (name, value) =>
    Text.quoted name ++ ": " ++ Text.quoted value
  record "ConnectionDescriptor" [
    field "host" (Text.quoted address.host),
    field "port" (Text.quoted address.port),
    field "web_app_name" (optionalText address.webAppName),
    field "proxy_host" (optionalText address.proxyHost),
    field "proxy_port" (optionalText address.proxyPort),
    field "non_proxy_hosts" (optionalText address.nonProxyHosts),
    field "secure" (boolean address.secure),
    field "local" (boolean address.isLocal),
    field "debug_transformation_file" (optionalText address.debugFile),
    field "debug_remote_log" (boolean address.debugLog),
    field "extra_parameters" ("\x7b" ++ ", ".intercalate parameters ++ "\x7d"),
    field "credentials" address.credentials.diagnostic]

end VirtualTables
