import VirtualTables.Backend.Client
import VirtualTables.Http.Wire

/-!
Where a request goes over a network, and the bytes that it takes there.

A request goes to the server that its locator names, or to the proxy, which is told the whole
locator. The proxy is passed by for hosts in its bypass list, which holds names, addresses and
networks: a name stands also for the hosts below it, a star for every name.
-/

namespace VirtualTables

open Text

/-- An IP address: the number of its bits, and the number that they write. -/
structure IpAddress where
  width : Nat
  number : Nat
deriving DecidableEq

def IpAddress.ofText? (text : List Char) : Option IpAddress :=
  match Url.embeddedGroups? text, Url.ipv6? text with
  | some groups, _ => some ⟨32, groups.foldl (· * 65536 + ·) 0⟩
  | none, some groups => some ⟨128, groups.foldl (· * 65536 + ·) 0⟩
  | none, none => none

/-- Whether an address lies in the network, or is the address, that a text writes; `none` for other
texts. -/
def IpAddress.within? (address : IpAddress) (entry : List Char) : Option Bool := do
  let network ← ofText? (entry.takeWhile (· != '/'))
  let common ←
    match entry.dropWhile (· != '/') with
    | [] => some network.width
    | _ :: digits => (intOfText? 0 network.width digits).map Int.toNat
  let free := network.width - common
  return address.width == network.width && address.number >>> free == network.number >>> free

/-- Whether a name is that of an entry, or of a host below it. -/
def isBelow (entry name : List Char) : Bool :=
  entry == ['*'] || entry == name || entry == '.' :: name ||
    (entry.isSuffixOf name &&
      (entry.head? == some '.' ||
        (name.take (name.length - entry.length)).getLast? == some '.'))

def isBypassed (list : String) (host : List Char) : Bool :=
  let entries := ((splitAt (· == ',') list.toList).map trim).filter (!·.isEmpty)
  let host := host.filter fun character => character != '[' && character != ']'
  match IpAddress.ofText? host with
  | some address => entries.any fun entry => (address.within? entry).getD false
  | none =>
      entries.any fun entry =>
        (IpAddress.within? ⟨0, 0⟩ entry).isNone && isBelow entry host

structure Route where
  host : String
  port : Nat
  bytes : List UInt8

def userField (name : String) (authority : Url.Authority) : Http.Fields :=
  if authority.user.isEmpty then []
  else
    let part (text : List Char) : String :=
      String.ofList (Utf8.decodeLossy (Url.decode text))
    let username := part (authority.user.takeWhile (· != ':'))
    let password := (authority.user.dropWhile (· != ':')).drop 1
    [(name, Http.basicAuthorization username (some (part password)))]

namespace Client

def proxyFor? (client : Client) (host : List Char) : Option Url.Authority := do
  let proxy ← client.proxy
  if isBypassed client.bypass host then none
  else (← Url.ofText? proxy.toList).authority

def headers (client : Client) (request : Http.Request) (authority : Url.Authority)
    (form : List Char) : Http.Fields :=
  let host := String.ofList { authority with user := [] }.text
  let credentials :=
    match client.credentials.username with
    | some username =>
        if request.authorize then
          [("authorization", Http.basicAuthorization username client.credentials.password)]
        else []
    | none => []
  let content :=
    if request.form.isEmpty then []
    else
      [("content-type", "application/x-www-form-urlencoded"),
        ("content-length", toString form.length)]
  [("accept", "*/*"), ("user-agent", client.userAgent), ("host", host), ("connection", "close")] ++
    userField "authorization" authority ++ request.headers ++ credentials ++ content

/-- The route of a request, unless it needs a connection that is encrypted. -/
def route? (client : Client) (request : Http.Request) : Option Route := do
  let url ← Url.ofText? request.url.toList
  if url.scheme ≠ "http".toList then none
  let authority ← url.authority
  let form := Http.formText request.form
  let headers := client.headers request authority form
  let through (target : List Char) (extra : Http.Fields) (next : Url.Authority) : Route :=
    let host := next.host.filter fun character => character != '[' && character != ']'
    ⟨String.ofList host, next.port.getD 80,
      Http.requestBytes request.method (String.ofList target) (headers ++ extra) form⟩
  match client.proxyFor? authority.host with
  | none =>
      return through (url.path.text ++ (url.query.map ('?' :: ·)).getD []) [] authority
  | some proxy =>
      let target := { url.withoutUser with fragment := none }.text
      return through target (userField "proxy-authorization" proxy) proxy

end Client

end VirtualTables
