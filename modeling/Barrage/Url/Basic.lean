import Barrage.Text.Percent
import Barrage.Url.Address

/-! Addresses of resources: their parts, and their text. -/

namespace Barrage

inductive Host where
  | domain (name : List Char)
  | ipv4 (address : Nat)
  | ipv6 (pieces : List Nat)
  deriving DecidableEq, Repr

def Host.text : Host → List Char
  | .domain name => name
  | .ipv4 a => Url.ipv4Text a
  | .ipv6 ps => '[' :: Url.ipv6Text ps ++ [']']

inductive UrlPath where
  | segments (l : List (List Char))
  | whole (text : List Char)
  deriving DecidableEq, Repr

structure Url where
  scheme : List Char
  username : List Char
  password : Option (List Char)
  /-- None where there is no place for one; the empty domain where there is, and it is left out. -/
  host : Option Host
  port : Option Nat
  path : UrlPath
  query : Option (List Char)
  fragment : Option (List Char)
  deriving DecidableEq, Repr

inductive UrlFault where
  | noBase
  | emptyHost
  | badDomain
  | badDomainCharacter
  | badPort
  | badIpv4
  | badIpv6
  | noHost
  deriving DecidableEq, Repr

def UrlFault.message : UrlFault → String
  | .noBase => "relative URL without a base"
  | .emptyHost => "empty host"
  | .badDomain => "invalid international domain name"
  | .badDomainCharacter => "invalid domain character"
  | .badPort => "invalid port number"
  | .badIpv4 => "invalid IPv4 address"
  | .badIpv6 => "invalid IPv6 address"
  | .noHost => "URL has no host"

namespace Url

def usualPorts : List (String × Nat) :=
  [("http", 80), ("https", 443), ("ws", 80), ("wss", 443), ("ftp", 21)]

def usualPort? (scheme : List Char) : Option Nat :=
  (usualPorts.find? (·.1.toList == scheme)).map (·.2)

def hasHost (u : Url) : Bool :=
  match u.host with
  | none | some (.domain []) => false
  | some _ => true

def credentials (u : Url) : List Char :=
  let password := match u.password with
    | some p => ':' :: p
    | none => []
  if u.username = [] ∧ u.password = none then [] else u.username ++ password ++ ['@']

def authority (u : Url) : List Char :=
  match u.host with
  | none => []
  | some h => '/' :: '/' :: u.credentials ++ h.text ++ (match u.port with
      | some p => ':' :: Decimal.digits p
      | none => [])

def segmentsText (l : List (List Char)) : List Char := l.flatMap ('/' :: ·)

def pathText (u : Url) : List Char :=
  match u.path with
  | .whole t => t
  | .segments l =>
    (match u.host, l with
      | none, [] :: _ :: _ => ['/', '.']
      | _, _ => []) ++ segmentsText l

def text (u : Url) : List Char :=
  u.scheme ++ ':' :: u.authority ++ u.pathText ++
    (match u.query with
      | some q => '?' :: q
      | none => []) ++
    (match u.fragment with
      | some f => '#' :: f
      | none => [])

def withoutCredentials (u : Url) : Url := { u with username := [], password := none }

end Url
end Barrage
