import Barrage.Text.Ascii

/-! Punycode: labels beyond ASCII written in letters, digits and dashes.
The ASCII characters stand first; after a dash, numbers of varying length say which further character
comes where, in ascending order of the characters. -/

namespace Barrage.Punycode

def base : Nat := 36
def leastThreshold : Nat := 1
def greatestThreshold : Nat := 26
def skew : Nat := 38
def damp : Nat := 700
def firstBias : Nat := 72
def firstCode : Nat := 128

def settle : Nat → Nat → Nat → Nat × Nat
  | 0, k, delta => (k, delta)
  | fuel + 1, k, delta =>
    if (base - leastThreshold) * greatestThreshold / 2 < delta then
      settle fuel (k + base) (delta / (base - leastThreshold))
    else (k, delta)

def adapt (delta points : Nat) (first : Bool) : Nat :=
  let delta := if first then delta / damp else delta / 2
  let (k, delta) := settle 64 0 (delta + delta / points)
  k + (base - leastThreshold + 1) * delta / (delta + skew)

def threshold (bias k : Nat) : Nat :=
  if k ≤ bias then leastThreshold
  else if bias + greatestThreshold ≤ k then greatestThreshold
  else k - bias

def digit? (c : Char) : Option Nat :=
  if c.isDigit then some (c.toNat - 48 + 26)
  else if 'a' ≤ c ∧ c ≤ 'z' then some (c.toNat - 97)
  else if 'A' ≤ c ∧ c ≤ 'Z' then some (c.toNat - 65)
  else none

def digitChar (n : Nat) : Char := if n < 26 then Char.ofNat (97 + n) else Char.ofNat (22 + n)

def readNumber (bias : Nat) (i weight k : Nat) : List Char → Option (Nat × List Char)
  | [] => none
  | c :: rest => do
    let d ← digit? c
    let i := i + d * weight
    if UInt32.size ≤ i then none
    let t := threshold bias k
    if d < t then some (i, rest) else readNumber bias i (weight * (base - t)) (k + base) rest

def insertAt (i : Nat) (a : α) (l : List α) : List α := l.take i ++ a :: l.drop i

def insertAll : Nat → Nat → Nat → Nat → List Char → List Char → Option (List Char)
  | _, _, _, _, out, [] => some out
  | 0, _, _, _, _, _ => none
  | fuel + 1, n, i, bias, out, s => do
    let (next, rest) ← readNumber bias i 1 base s
    let points := out.length + 1
    let bias := adapt (next - i) points (i == 0)
    let n := n + next / points
    let at_ := next % points
    if h : n.isValidChar then
      insertAll fuel n (at_ + 1) bias (insertAt at_ (Char.ofNatAux n h) out) rest
    else none

def decode (s : List Char) : Option (List Char) :=
  let (basic, rest) := match Text.splitLast? '-' s with
    | some (basic, rest) => (basic, rest)
    | none => ([], s)
  if basic.all Text.isAscii then insertAll (rest.length + 1) firstCode 0 firstBias basic rest else none

def writeNumber (bias : Nat) : Nat → Nat → Nat → List Char
  | 0, _, _ => []
  | fuel + 1, q, k =>
    let t := threshold bias k
    if q < t then [digitChar q]
    else digitChar (t + (q - t) % (base - t)) :: writeNumber bias fuel ((q - t) / (base - t)) (k + base)

/-- Where one pass over a label for the character `n` leads: the distance since the last insertion,
the bias, how many characters are written, and the text. -/
structure Progress where
  delta : Nat
  bias : Nat
  written : Nat
  out : List Char

def passOver (n basicCount : Nat) (p : Progress) (c : Char) : Progress :=
  if c.toNat < n then { p with delta := p.delta + 1 }
  else if c.toNat = n then
    { delta := 0
      bias := adapt p.delta (p.written + 1) (p.written == basicCount)
      written := p.written + 1
      out := p.out ++ writeNumber p.bias 32 p.delta base }
  else p

def encode (label : List Char) : List Char :=
  let basic := label.filter Text.isAscii
  let codes := ((label.filter fun c => !Text.isAscii c).map Char.toNat).mergeSort.eraseDups
  let start : Progress := ⟨0, firstBias, basic.length, basic ++ if basic = [] then [] else ['-']⟩
  let step := fun ((p, n) : Progress × Nat) (m : Nat) =>
    let p := { p with delta := p.delta + (m - n) * (p.written + 1) }
    let p := label.foldl (passOver m basic.length) p
    ({ p with delta := p.delta + 1 }, m + 1)
  (codes.foldl step (start, firstCode)).1.out

end Barrage.Punycode
