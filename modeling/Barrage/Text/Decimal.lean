/-! Whole numbers in decimal digits: writing them, padding them, and reading words of 32 and 64 bits. -/

namespace Barrage.Decimal

def tenTo (n : Nat) : Nat := Nat.pow 10 n

def digits (n : Nat) : List Char := Nat.toDigits 10 n

def padded (width n : Nat) : List Char :=
  let ds := digits n
  List.replicate (width - ds.length) '0' ++ ds

def value (ds : List Char) : Nat := ds.foldl (fun n c => 10 * n + (c.toNat - 48)) 0

def read? (cs : List Char) : Option Nat :=
  if cs ≠ [] ∧ cs.all Char.isDigit then some (value cs) else none

/-- Digits with an optional plus sign, below a bound. -/
def readBelow? (bound : Nat) (cs : List Char) : Option Nat :=
  let ds := match cs with
    | '+' :: rest => rest
    | _ => cs
  (read? ds).filter (· < bound)

def word64? (s : String) : Option UInt64 := (readBelow? UInt64.size s.toList).map UInt64.ofNat

def word32? (s : String) : Option UInt32 := (readBelow? UInt32.size s.toList).map UInt32.ofNat

def word16? (s : String) : Option UInt16 := (readBelow? UInt16.size s.toList).map UInt16.ofNat

@[simp] theorem value_nil : value [] = 0 := rfl

theorem isDigit_of_mem_digits {n : Nat} {c : Char} (h : c ∈ digits n) : c.isDigit = true :=
  Nat.isDigit_of_mem_toDigits (by decide) (by decide) h

theorem isDigit_of_mem_padded {width n : Nat} {c : Char} (h : c ∈ padded width n) :
    c.isDigit = true := by
  rcases List.mem_append.1 h with zero | digit
  · rw [List.eq_of_mem_replicate zero]
    rfl
  · exact isDigit_of_mem_digits digit

theorem isDigit_of_mem_toString {n : Nat} {c : Char} (h : c ∈ (toString n).toList) :
    c.isDigit = true :=
  isDigit_of_mem_digits (by simpa [digits] using h)

theorem ne_of_isDigit {c d : Char} (digit : c.isDigit = true) (other : d.isDigit = false) :
    c ≠ d := by
  rintro rfl
  rw [digit] at other
  cases other

end Barrage.Decimal
