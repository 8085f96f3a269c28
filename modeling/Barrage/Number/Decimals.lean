import Barrage.Number.Binary64
import Barrage.Text.Decimal

/-! Decimal text of binary numbers.
`shortest` finds the fewest digits that read back as the same number and, among those, the ones
nearest to it. A `DecimalStyle` says how digits and exponent become text; `fixed` writes a set number of
places, rounding the exact value, with an exact half to the even neighbour. -/

namespace Barrage.Binary64

structure Decimals where
  digits : Nat
  exponent : Int
  deriving DecidableEq, Repr

private def shifted (x : Nat) (e : Int) : Nat × Nat :=
  match e with
  | .ofNat k => (x, Decimal.tenTo k)
  | .negSucc k => (x * Decimal.tenTo (k + 1), 1)

/-- Whether a decimal lies among the reals that round to a rank: those no farther than half a step
on either side, the ends included when the mantissa is even. -/
def roundsTo (rank : Nat) (d : Decimals) : Bool :=
  let m := mantissa rank
  let s := scale rank
  let below := if m = stride ∧ 0 < s then 1 <<< s else 2 <<< s
  let low := (4 * m) <<< s - below
  let high := (4 * m + 2) <<< s
  let (x, y) := match d.exponent with
    | .ofNat k => (d.digits * Decimal.tenTo k * one * 4, 1)
    | .negSucc k => (d.digits * one * 4, Decimal.tenTo (k + 1))
  if m % 2 = 0 then low * y ≤ x && x ≤ high * y else low * y < x && x < high * y

/-- The exponent `e` with `10 ^ (e - 1) ≤ v < 10 ^ e` for the value of a rank above zero. -/
def decimalExponent (rank : Nat) : Int :=
  ((Decimal.digits (units rank * Decimal.tenTo 324 / one)).length : Int) - 324

/-- Of the two neighbours on the grid of `n` digits, the nearer one that reads back. -/
def onGrid? (rank n : Nat) : Option Decimals :=
  let e := decimalExponent rank - n
  let (x, y) := shifted (units rank) e
  let q := x / (y * one)
  let r := x % (y * one)
  let low : Decimals := ⟨q, e⟩
  let high : Decimals := ⟨q + 1, e⟩
  match roundsTo rank low, roundsTo rank high with
  | true, true =>
    if 2 * r < y * one ∨ (2 * r = y * one ∧ q % 2 = 0) then some low else some high
  | true, false => some low
  | false, true => some high
  | false, false => none

def stripZeros : Nat → Decimals → Decimals
  | 0, d => d
  | fuel + 1, d =>
    if d.digits % 10 = 0 ∧ d.digits ≠ 0 then stripZeros fuel ⟨d.digits / 10, d.exponent + 1⟩ else d

/-- The fewest digits that read back as the value of a rank; seventeen always do. -/
def shortest (rank : Nat) : Decimals :=
  match (List.range 17).findSome? (fun n => onGrid? rank (n + 1)) with
  | some d => stripZeros 20 d
  | none => ⟨0, 0⟩

/-- Where positional writing ends and the exponent begins, as exponents of the leading digit. -/
structure DecimalStyle where
  least : Int
  greatest : Int
  deriving Repr

def positional (d : Decimals) : List Char :=
  let ds := Decimal.digits d.digits
  match d.exponent with
  | .ofNat k => ds ++ List.replicate k '0' ++ ['.', '0']
  | .negSucc k =>
    if k + 1 < ds.length then ds.take (ds.length - (k + 1)) ++ '.' :: ds.drop (ds.length - (k + 1))
    else '0' :: '.' :: List.replicate (k + 1 - ds.length) '0' ++ ds

def scientific (d : Decimals) : List Char :=
  let ds := Decimal.digits d.digits
  let e : Int := d.exponent + ds.length - 1
  let sign := if e < 0 then '-' else '+'
  ds.take 1 ++ (if ds.length = 1 then [] else '.' :: ds.drop 1) ++
    'e' :: sign :: Decimal.digits e.natAbs

def magnitudeText (n : DecimalStyle) (rank : Nat) : List Char :=
  if rank = 0 then ['0', '.', '0']
  else
    let d := shortest rank
    let lead : Int := d.exponent + (Decimal.digits d.digits).length - 1
    if n.least ≤ lead ∧ lead ≤ n.greatest then positional d else scientific d

def text (n : DecimalStyle) : Binary64 → List Char
  | .finite s r => (if s then ['-'] else []) ++ magnitudeText n r
  | .infinite s => (if s then ['-'] else []) ++ ['i', 'n', 'f']
  | .nan => ['N', 'a', 'N']

/-- Numbers of documents are positional from `0.00001` up to below `10 ^ 16`. -/
def documentStyle : DecimalStyle := ⟨-5, 15⟩

def plainStyle : DecimalStyle := ⟨-400, 400⟩

/-- The exact value rounded to a number of places after the point. -/
def fixed (places : Nat) : Binary64 → List Char
  | .finite s r =>
    let n := roundEven (units r * Decimal.tenTo places) one
    let ds := Decimal.padded (places + 1) n
    (if s then ['-'] else []) ++ ds.take (ds.length - places) ++
      (if places = 0 then [] else '.' :: ds.drop (ds.length - places))
  | .infinite s => (if s then ['-'] else []) ++ ['i', 'n', 'f']
  | .nan => ['N', 'a', 'N']

end Barrage.Binary64
