/-
Addresses of resources: a scheme, for most schemes an authority with user, host
and port, a path, and perhaps a query and a fragment. The path of an address
without authority may be unrooted, such as `a@b` in `mailto:a@b`; nothing can be
resolved against such an address but a fragment.
-/
import GuidedLogin.Url.Address

namespace GuidedLogin

namespace Url

inductive Host where
  | domain (name : String)
  | fourBytes (address : Nat)
  | eightPieces (pieces : List Nat)
  deriving DecidableEq, Repr

def Host.render : Host → List Char
  | .domain name => name.toList
  | .fourBytes address => renderFourBytes address
  | .eightPieces pieces => '[' :: renderPieces pieces ++ [']']

structure Authority where
  username : String
  password : Option String
  host : Option Host
  port : Option Nat
  deriving DecidableEq, Repr

inductive Fault where
  | emptyHost
  | invalidDomain
  | invalidPort
  | invalidFourByteAddress
  | invalidEightPieceAddress
  | invalidHostCharacter
  | relativeWithoutBase
  | relativeToUnrooted
  deriving DecidableEq, Repr

def Fault.message : Fault → String
  | .emptyHost => "empty host"
  | .invalidDomain => "invalid international domain name"
  | .invalidPort => "invalid port number"
  | .invalidFourByteAddress => "invalid IPv4 address"
  | .invalidEightPieceAddress => "invalid IPv6 address"
  | .invalidHostCharacter => "invalid domain character"
  | .relativeWithoutBase => "relative URL without a base"
  | .relativeToUnrooted => "relative URL with a cannot-be-a-base base"

inductive SchemeKind where
  | file
  | special
  | other
  deriving DecidableEq, Repr

def schemeKind (scheme : String) : SchemeKind :=
  if scheme = "file" then .file
  else if scheme ∈ ["http", "https", "ws", "wss", "ftp"] then .special
  else .other

def defaultPort (scheme : String) : Option Nat :=
  if scheme = "http" || scheme = "ws" then some 80
  else if scheme = "https" || scheme = "wss" then some 443
  else if scheme = "ftp" then some 21
  else none

end Url

structure Url where
  scheme : String
  authority : Option Url.Authority
  path : String
  query : Option String
  fragment : Option String
  deriving DecidableEq, Repr

namespace Url

/-- The path of an address without authority need not begin with a slash. -/
def isUnrooted (url : Url) : Bool := url.authority.isNone && url.path.toList.head? != some '/'

def host? (url : Url) : Option Host := url.authority.bind Authority.host

def username (url : Url) : String := (url.authority.map Authority.username).getD ""

def password? (url : Url) : Option String := url.authority.bind Authority.password

def port? (url : Url) : Option Nat := url.authority.bind Authority.port

def Authority.renderUser (authority : Authority) : List Char :=
  match authority.password with
  | some password => authority.username.toList ++ ':' :: password.toList ++ ['@']
  | none => if authority.username.isEmpty then [] else authority.username.toList ++ ['@']

def Authority.render (authority : Authority) : List Char :=
  authority.renderUser ++ (authority.host.map Host.render).getD [] ++
    match authority.port with
    | some port => ':' :: Nat.toDigits 10 port
    | none => []

/-- What stands between scheme and query. A path with an empty first segment is
set apart from an authority by a dot segment. -/
def renderHierarchy (url : Url) : List Char :=
  match url.authority with
  | some authority => ['/', '/'] ++ authority.render ++ url.path.toList
  | none =>
      match url.path.toList with
      | '/' :: '/' :: rest => ['/', '.', '/', '/'] ++ rest
      | path => path

def renderPart (mark : Char) : Option String → List Char
  | some text => mark :: text.toList
  | none => []

def renderTarget (url : Url) : List Char :=
  url.scheme.toList ++ ':' :: url.renderHierarchy ++ renderPart '?' url.query

def render (url : Url) : String :=
  String.ofList (url.renderTarget ++ renderPart '#' url.fragment)

end Url

end GuidedLogin
