import Barrage.Url.Basic
import Barrage.Url.Domain

/-! Reading addresses of resources.
Blanks and controls at the ends and line ends anywhere are passed over. The scheme decides how the
rest is read: some schemes always have a host, files have one of their own kind, and others have one
after two slashes only. -/

namespace Barrage.Url

inductive Kind where
  | file
  /-- A scheme that always has a host. -/
  | hosted
  | other
  deriving DecidableEq, Repr

def kindOf (scheme : List Char) : Kind :=
  if scheme = "file".toList then .file
  else if (usualPort? scheme).isSome then .hosted
  else .other

def Kind.isSlash (k : Kind) (c : Char) : Bool := c = '/' || (k ≠ .other && c = '\\')

def Kind.endsAuthority (k : Kind) (c : Char) : Bool := k.isSlash c || c = '?' || c = '#'

def strip (cs : List Char) : List Char :=
  let outer (c : Char) : Bool := c.toNat ≤ 32
  let inner := ((cs.dropWhile outer).reverse.dropWhile outer).reverse
  inner.filter fun c => c ≠ '\t' && c ≠ '\n' && c ≠ '\r'

def scheme? (cs : List Char) : Option (List Char × List Char) :=
  let isPart (c : Char) : Bool := c.isAlphanum || c = '+' || c = '-' || c = '.'
  match cs with
  | c :: _ =>
    match cs.dropWhile isPart with
    | ':' :: rest => if c.isAlpha then some ((cs.takeWhile isPart).map Char.toLower, rest) else none
    | _ => none
  | [] => none

def inFragment (c : Char) : Bool := c = ' ' || c = '"' || c = '<' || c = '>' || c.toNat = 0x60

def inPath (c : Char) : Bool :=
  inFragment c || c = '#' || c = '?' || c = '\x7b' || c = '\x7d'

def inCredentials (c : Char) : Bool :=
  inPath c || "/:;=@[\\]^|".toList.contains c

def inQuery (hosted : Bool) (c : Char) : Bool :=
  c = ' ' || c = '"' || c = '#' || c = '<' || c = '>' || (hosted && c = '\'')

def inNothing (_ : Char) : Bool := false

def domainHost (cs : List Char) : Except UrlFault Host :=
  match cs with
  | '[' :: rest =>
    if rest.getLast? = some ']' then
      match ipv6? rest.dropLast with
      | some ps => .ok (.ipv6 ps)
      | none => .error .badIpv6
    else .error .badIpv6
  | cs =>
    match Domain.toAscii (Percent.decode cs) with
    | none => .error .badDomain
    | some [] => .error .emptyHost
    | some name =>
      if endsInNumber name then
        match ipv4? name with
        | some a => .ok (.ipv4 a)
        | none => .error .badIpv4
      else .ok (.domain name)

def otherHost (cs : List Char) : Except UrlFault Host :=
  match cs with
  | '[' :: rest =>
    if rest.getLast? = some ']' then
      match ipv6? rest.dropLast with
      | some ps => .ok (.ipv6 ps)
      | none => .error .badIpv6
    else .error .badIpv6
  | cs =>
    if cs.any fun c => c.toNat = 0 || " #/:<>?@[\\]^|".toList.contains c then
      .error .badDomainCharacter
    else .ok (.domain (Percent.encode inNothing cs))

/-- The characters up to the end of the host; a colon between brackets does not end it. -/
def takeHost (k : Kind) : Bool → List Char → List Char
  | _, [] => []
  | inside, c :: rest =>
    if k.endsAuthority c || (c = ':' && !inside) then []
    else c :: takeHost k (if c = '[' then true else if c = ']' then false else inside) rest

def readPort (scheme cs : List Char) : Except UrlFault (Option Nat × List Char) :=
  let ds := cs.takeWhile Char.isDigit
  let rest := cs.dropWhile Char.isDigit
  let n := Decimal.value ds
  if 65535 < n then .error .badPort
  else if (rest.head?.map fun c => !"/\\?#".toList.contains c).getD false then .error .badPort
  else .ok (if ds = [] ∨ usualPort? scheme = some n then none else some n, rest)

/-- The length of the credentials with their sign, which ends with the last sign before the host. -/
def credentialsLength (k : Kind) (cs : List Char) : Option Nat :=
  let own := cs.takeWhile fun c => !k.endsAuthority c
  let after := (own.reverse.takeWhile (· ≠ '@')).length
  if after = own.length then none else some (own.length - after - 1)

def splitCredentials (cs : List Char) : List Char × Option (List Char) :=
  let name := Percent.encode inCredentials (cs.takeWhile (· ≠ ':'))
  match cs.dropWhile (· ≠ ':') with
  | _ :: c :: rest => (name, some (Percent.encode inCredentials (c :: rest)))
  | _ => (name, none)

structure Authority where
  username : List Char
  password : Option (List Char)
  host : Host
  port : Option Nat

def readAuthority (k : Kind) (scheme cs : List Char) : Except UrlFault (Authority × List Char) := do
  let (username, password, cs) ← match credentialsLength k cs with
    | none => .ok ([], none, cs)
    | some 0 =>
      match cs.drop 1 with
      | c :: rest => if k.endsAuthority c then .error .emptyHost else .ok ([], none, c :: rest)
      | [] => .ok ([], none, [])
    | some n =>
      let (username, password) := splitCredentials (cs.take n)
      .ok (username, password, cs.drop (n + 1))
  let own := takeHost k false cs
  let rest := cs.drop own.length
  if k = .hosted ∧ own = [] then .error .emptyHost
  let host ← if k = .hosted then domainHost own else otherHost own
  if host = .domain [] ∧ rest.head? = some ':' then .error .emptyHost
  let (p, rest) ← match rest with
    | ':' :: rest => readPort scheme rest
    | rest => .ok (none, rest)
  if host = .domain [] ∧ (username ≠ [] ∨ password ≠ none) then .error .emptyHost
  .ok (⟨username, password, host, p⟩, rest)

def isSingleDot (s : List Char) : Bool := [".", "%2e"].contains (String.ofList (s.map Char.toLower))

def isDoubleDot (s : List Char) : Bool :=
  ["..", ".%2e", "%2e.", "%2e%2e"].contains (String.ofList (s.map Char.toLower))

def isDrive (s : List Char) : Bool :=
  match s with
  | [a, b] => a.isAlpha && (b = ':' || b = '|')
  | _ => false

/-- The segments without the last one; the drive of a file stays. -/
def shorten (k : Kind) (l : List (List Char)) : List (List Char) :=
  match k, l with
  | .file, [d] => if isDrive d && d.getLast? = some ':' then l else []
  | _, l => l.dropLast

def walkSegments (k : Kind) (acc : List (List Char)) : List (List Char) → List (List Char)
  | [] => acc
  | s :: rest =>
    if isDoubleDot s then
      let acc := shorten k acc
      walkSegments k (if rest = [] then acc ++ [[]] else acc) rest
    else if isSingleDot s then walkSegments k (if rest = [] then acc ++ [[]] else acc) rest
    else if k = .file ∧ acc = [] ∧ isDrive s then walkSegments k [s.take 1 ++ [':']] rest
    else walkSegments k (acc ++ [Percent.encode inPath s]) rest

def cutSegments (k : Kind) : List Char → List (List Char)
  | [] => [[]]
  | c :: rest =>
    if k.isSlash c then [] :: cutSegments k rest
    else match cutSegments k rest with
      | [] => [[c]]
      | s :: more => (c :: s) :: more

def readPath (k : Kind) (cs : List Char) : List (List Char) × List Char :=
  let own := cs.takeWhile fun c => c ≠ '?' && c ≠ '#'
  let written := match own with
    | c :: rest => if k.isSlash c then rest else own
    | [] => own
  (walkSegments k [] (cutSegments k written), cs.drop own.length)

def readPathAfter (k : Kind) (cs : List Char) : List (List Char) × List Char :=
  match k, cs.head? with
  | .other, none | .other, some '?' | .other, some '#' => ([], cs)
  | _, _ => readPath k cs

def readEnd (k : Kind) (cs : List Char) : Option (List Char) × Option (List Char) :=
  let fragment (cs : List Char) : Option (List Char) :=
    match cs with
    | '#' :: rest => some (Percent.encode inFragment rest)
    | _ => none
  match cs with
  | '?' :: rest =>
    (some (Percent.encode (inQuery (k ≠ .other)) (rest.takeWhile (· ≠ '#'))),
      fragment (rest.dropWhile (· ≠ '#')))
  | cs => (none, fragment cs)

def finish (k : Kind) (scheme : List Char) (a : Option Authority) (path : UrlPath) (rest : List Char) :
    Url :=
  let (query, fragment) := readEnd k rest
  { scheme, path, query, fragment
    username := (a.map (·.username)).getD []
    password := a.bind (·.password)
    host := a.map (·.host)
    port := a.bind (·.port) }

def fileSegments (l : List (List Char)) : List (List Char) :=
  match l.dropWhile (· = []) with
  | [] => [[]]
  | l => l

/-- A file, whose host is left out when it is this computer or when the path names a drive. -/
def readFile (scheme cs : List Char) : Except UrlFault Url := do
  let build (host : Host) (cs : List Char) : Url :=
    let (segments, rest) := readPath .file cs
    let host := if (segments.head?.map isDrive).getD false then .domain [] else host
    finish .file scheme (some ⟨[], none, host, none⟩) (.segments (fileSegments segments)) rest
  match cs with
  | a :: b :: rest =>
    if Kind.file.isSlash a && Kind.file.isSlash b then
      let own := rest.takeWhile fun c => !Kind.file.endsAuthority c
      if isDrive own then .ok (build (.domain []) rest)
      else if own = [] then .ok (build (.domain []) rest)
      else
        let host ← domainHost own
        let host := if host = .domain "localhost".toList then .domain [] else host
        .ok (build host (rest.drop own.length))
    else .ok (build (.domain []) cs)
  | cs => .ok (build (.domain []) cs)

def ofText (text : String) : Except UrlFault Url :=
  match scheme? (strip text.toList) with
  | none => .error .noBase
  | some (scheme, rest) =>
    match kindOf scheme with
    | .file => readFile scheme rest
    | .hosted => do
      let (a, rest) ← readAuthority .hosted scheme (rest.dropWhile Kind.hosted.isSlash)
      let (segments, rest) := readPathAfter .hosted rest
      .ok (finish .hosted scheme (some a) (.segments segments) rest)
    | .other =>
      match rest with
      | '/' :: '/' :: rest => do
        let (a, rest) ← readAuthority .other scheme rest
        let (segments, rest) := readPathAfter .other rest
        .ok (finish .other scheme (some a) (.segments segments) rest)
      | '/' :: rest =>
        let (segments, rest) := readPath .other ('/' :: rest)
        .ok (finish .other scheme none (.segments segments) rest)
      | rest =>
        let own := rest.takeWhile fun c => c ≠ '?' && c ≠ '#'
        .ok (finish .other scheme none (.whole (Percent.encode inNothing own))
          (rest.drop own.length))

end Barrage.Url
