import Barrage.Text.Ascii
import Barrage.Text.Decimal

/-! Numeric addresses of hosts, of the fourth and the sixth version of the protocol. -/

namespace Barrage.Url

/-! Version four: one to four numbers in base ten, eight or sixteen. -/

def addressNumber? (cs : List Char) : Option Nat :=
  let based (base : Nat) (isDigit : Char → Bool) (ds : List Char) : Option Nat :=
    if ds.all isDigit then some (ds.foldl (fun n c => base * n + (Text.hexValue? c).getD 0) 0) else none
  match cs with
  | [] => none
  | '0' :: 'x' :: rest | '0' :: 'X' :: rest => based 16 Text.isHex rest
  | '0' :: a :: rest => based 8 (fun c => '0' ≤ c && c ≤ '7') (a :: rest)
  | cs => based 10 Char.isDigit cs

def addressParts (cs : List Char) : List (List Char) :=
  let parts := Text.splitAt '.' cs
  if 1 < parts.length ∧ parts.getLast? = some [] then parts.dropLast else parts

/-- Whether a domain ends like an address, so that it has to be one. -/
def endsInNumber (cs : List Char) : Bool :=
  match (addressParts cs).getLast? with
  | none => false
  | some last =>
    (last ≠ [] && last.all Char.isDigit) || (addressNumber? last).isSome

/-- The address of a domain that ends like one; the last number takes all bytes that are left. -/
def ipv4? (cs : List Char) : Option Nat := do
  let parts := addressParts cs
  if 4 < parts.length then none
  let numbers ← parts.mapM addressNumber?
  let last ← numbers.getLast?
  let first := numbers.dropLast
  if last < 1 <<< (8 * (4 - first.length)) ∧ first.all (· < 256) then
    some (first.zipIdx.foldl (fun address (n, i) => address + n <<< (8 * (3 - i))) last)
  else none

def ipv4Text (address : Nat) : List Char :=
  let byte (i : Nat) := Decimal.digits ((address >>> (8 * i)) % 256)
  byte 3 ++ '.' :: byte 2 ++ '.' :: byte 1 ++ '.' :: byte 0

/-! Version six: eight pieces of sixteen bits, of which one run of zeros may be left out. -/

def embedded? (cs : List Char) : Option (List Nat) := do
  let numbers ← (Text.splitAt '.' cs).mapM fun ds => do
    let n ← Decimal.read? ds
    if n < 256 ∧ (ds.head? ≠ some '0' ∨ ds.length = 1) then some n else none
  match numbers with
  | [a, b, c, d] => some [a * 256 + b, c * 256 + d]
  | _ => none

def pieces? : List (List Char) → Option (List Nat)
  | [] => some []
  | p :: rest =>
    if p ≠ [] ∧ p.length ≤ 4 ∧ p.all Text.isHex then
      (pieces? rest).map (p.foldl (fun n c => 16 * n + (Text.hexValue? c).getD 0) 0 :: ·)
    else if rest = [] then embedded? p
    else none

def splitGap (acc : List Char) : List Char → Option (List Char × List Char)
  | ':' :: ':' :: rest => some (acc.reverse, rest)
  | c :: rest => splitGap (c :: acc) rest
  | [] => none

def piecesOf (cs : List Char) : Option (List Nat) :=
  if cs = [] then some [] else pieces? (Text.splitAt ':' cs)

def ipv6? (cs : List Char) : Option (List Nat) :=
  match splitGap [] cs with
  | none => do
    let ps ← pieces? (Text.splitAt ':' cs)
    if ps.length = 8 then some ps else none
  | some (before, after) => do
    let a ← if before.contains '.' then none else piecesOf before
    let b ← piecesOf after
    if a.length + b.length ≤ 7 then some (a ++ List.replicate (8 - a.length - b.length) 0 ++ b)
    else none

def zeros (ps : List Nat) : Nat := (ps.takeWhile (· = 0)).length

def longestGap (ps : List Nat) : Option (Nat × Nat) :=
  (List.range ps.length).foldl (fun best i =>
    let n := zeros (ps.drop i)
    if 2 ≤ n ∧ (best.map Prod.snd).getD 1 < n then some (i, n) else best) none

def colonList (ps : List Nat) : List Char :=
  (Text.join ":" (ps.map fun p => String.ofList (Nat.toDigits 16 p))).toList

def ipv6Text (ps : List Nat) : List Char :=
  match longestGap ps with
  | none => colonList ps
  | some (i, n) => colonList (ps.take i) ++ ':' :: ':' :: colonList (ps.drop (i + n))

end Barrage.Url
