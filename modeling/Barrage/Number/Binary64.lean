import Barrage.Text.Decimal

/-! Binary floating point numbers of 64 bits, with exact rounding.
Every finite magnitude is a whole multiple of the unit `2 ^ (-1074)`, and the finite magnitudes are
numbered upwards from zero: the number `r` has the scale `r / stride - 1`, where `stride` is
`2 ^ 52`, and, in units, the value `(r - scale * stride) * 2 ^ scale`. Sums, products and quotients
are computed exactly in natural numbers and then rounded to the nearest rank, an exact half to the
even one. -/

namespace Barrage

/-- How many ranks have one scale: `2 ^ 52`. -/
abbrev Binary64.stride : Nat := 4503599627370496

abbrev Binary64.rankLimit : Nat := 2047 * stride

inductive Binary64 where
  | finite (negative : Bool) (rank : Fin Binary64.rankLimit)
  | infinite (negative : Bool)
  | nan
  deriving DecidableEq, Repr

namespace Binary64

/-- How many units make up one. -/
def one : Nat := 1 <<< 1074

def scale (rank : Nat) : Nat := rank / stride - 1

def mantissa (rank : Nat) : Nat := rank - scale rank * stride

def units (rank : Nat) : Nat := mantissa rank <<< scale rank

/-- The whole number nearest to a quotient; an exact half goes to the even neighbour. -/
def roundEven (num den : Nat) : Nat :=
  let q := num / den
  let r := num % den
  if 2 * r < den then q
  else if den < 2 * r then q + 1
  else q + q % 2

/-- The rank nearest to `num / den` units. -/
def nearestRank (num den : Nat) : Nat :=
  let s := (num / den).log2 - 52
  s * stride + roundEven num (den <<< s)

/-- The value of a rank, infinite when the rank is beyond all finite ones. -/
def ofRank (negative : Bool) (rank : Nat) : Binary64 :=
  if h : rank < rankLimit then .finite negative ⟨rank, h⟩ else .infinite negative

def ofFraction (negative : Bool) (num den : Nat) : Binary64 :=
  ofRank negative (nearestRank (num * one) den)

def ofNat (n : Nat) : Binary64 := ofFraction false n 1

def zero : Binary64 := .finite false 0

def withSign (negative : Bool) : Binary64 → Binary64
  | .finite _ r => .finite negative r
  | .infinite _ => .infinite negative
  | .nan => .nan

def ofDecimal (negative : Bool) (digits : Nat) (exponent : Int) : Binary64 :=
  match exponent with
  | .ofNat e => ofFraction negative (digits * Decimal.tenTo e) 1
  | .negSucc e => ofFraction negative digits (Decimal.tenTo (e + 1))

def mul : Binary64 → Binary64 → Binary64
  | .finite a x, .finite b y => ofRank (a != b) (nearestRank (units x * units y) one)
  | .nan, _ | _, .nan => .nan
  | .infinite a, .infinite b => .infinite (a != b)
  | .infinite a, .finite b y | .finite b y, .infinite a =>
    if y.val = 0 then .nan else .infinite (a != b)

def div : Binary64 → Binary64 → Binary64
  | .finite a x, .finite b y =>
    if y.val = 0 then (if x.val = 0 then .nan else .infinite (a != b))
    else ofRank (a != b) (nearestRank (units x * one) (units y))
  | .nan, _ | _, .nan => .nan
  | .infinite _, .infinite _ => .nan
  | .infinite a, .finite b _ => .infinite (a != b)
  | .finite a _, .infinite b => .finite (a != b) 0

def addMagnitude : Binary64 → Binary64 → Binary64
  | .finite _ x, .finite _ y => ofRank false (nearestRank (units x + units y) 1)
  | .nan, _ | _, .nan => .nan
  | _, _ => .infinite false

instance : Mul Binary64 := ⟨mul⟩
instance : Div Binary64 := ⟨div⟩

def isPositive : Binary64 → Bool
  | .finite false x => 0 < x.val
  | .infinite false => true
  | _ => false

def exceeds (x : Binary64) (bound : Nat) : Bool :=
  match x with
  | .finite false r => bound * one < units r
  | .infinite false => true
  | _ => false

def orZero (x : Binary64) : Binary64 := if x.isPositive then x else zero

def floorUpTo (top : Nat) : Binary64 → Nat
  | .finite false r => min (units r / one) top
  | .infinite false => top
  | _ => 0

def signBit : Nat := 9223372036854775808

/-- The 64 bits of the interchange format: the sign, then the rank. -/
def toBits : Binary64 → UInt64
  | .finite s r => UInt64.ofNat ((if s then signBit else 0) + r.val)
  | .infinite s => UInt64.ofNat ((if s then signBit else 0) + rankLimit)
  | .nan => 0x7FF8000000000000

@[simp] theorem units_zero : units 0 = 0 := by simp [units, mantissa]

theorem units_of_small {r : Nat} (h : r < stride) : units r = r := by
  have hs : scale r = 0 := by rw [scale, Nat.div_eq_of_lt h]
  simp [units, mantissa, hs]

@[simp] theorem isPositive_zero : zero.isPositive = false := rfl

end Binary64
end Barrage
