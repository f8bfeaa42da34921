import VirtualTables.Text.Ascii

/-!
Locators: a scheme, perhaps an authority, a path, a query and a fragment.

All parts are kept in the form that they are written in. Two locators of the schemes that have
servers share an origin when scheme, host and port agree, where a port that is not written is the
one that the scheme prescribes; any other locator shares its origin with none.
-/

namespace VirtualTables

structure Url.Authority where
  /-- The user's name and password, without the sign that ends them. -/
  user : List Char
  host : List Char
  /-- The port, unless it is the one that the scheme prescribes. -/
  port : Option Nat
deriving DecidableEq

inductive Url.Path where
  | plain (text : List Char)
  | segments (segments : List (List Char))
deriving DecidableEq

structure Url where
  scheme : List Char
  authority : Option Url.Authority
  path : Url.Path
  query : Option (List Char)
  fragment : Option (List Char)
deriving DecidableEq

namespace Url

/-- What a scheme means for the form of its locators. -/
inductive Kind where
  | file
  | server (port : Nat)
  | other
deriving DecidableEq

def Kind.of (scheme : List Char) : Kind :=
  match String.ofList scheme with
  | "file" => .file
  | "http" => .server 80
  | "https" => .server 443
  | "ws" => .server 80
  | "wss" => .server 443
  | "ftp" => .server 21
  | _ => .other

def Kind.isSpecial (kind : Kind) : Bool :=
  kind != .other

def kind (url : Url) : Kind :=
  Kind.of url.scheme

def hasHost (url : Url) : Bool :=
  url.authority.any fun authority => !authority.host.isEmpty

def Path.text : Path → List Char
  | .plain text => text
  | .segments parts => parts.flatMap ('/' :: ·)

def Authority.text (authority : Authority) : List Char :=
  (if authority.user.isEmpty then [] else authority.user ++ ['@']) ++ authority.host ++
    (match authority.port with
      | none => []
      | some port => ':' :: Nat.toDigits 10 port)

/-- The text of a locator. Without an authority, a path that begins with two slashes is written
behind `/.`, so that it does not read as one. -/
def text (url : Url) : List Char :=
  let path := url.path.text
  let authority :=
    match url.authority, url.path, path with
    | some authority, _, _ => '/' :: '/' :: authority.text
    | none, .segments _, '/' :: '/' :: _ => ['/', '.']
    | none, _, _ => []
  let query := (url.query.map ('?' :: ·)).getD []
  let fragment := (url.fragment.map ('#' :: ·)).getD []
  url.scheme ++ ':' :: authority ++ path ++ query ++ fragment

structure Origin where
  scheme : List Char
  host : List Char
  /-- The port, also if it is not written. -/
  port : Nat
deriving DecidableEq

def origin? (url : Url) : Option Origin :=
  match url.kind, url.authority with
  | .server port, some authority => some ⟨url.scheme, authority.host, authority.port.getD port⟩
  | _, _ => none

def withoutUser (url : Url) : Url :=
  { url with authority := url.authority.map ({ · with user := [] }) }

end Url

end VirtualTables
