import Barrage.Text.Ascii

/-! Sets of characters, written as ranges of code points.
A set is a text of hexadecimal ranges with blanks between them; a range of one code point has no
dash. -/

namespace Barrage.Unicode

def hexNumber (cs : List Char) : Nat := cs.foldl (fun n c => 16 * n + (Text.hexValue? c).getD 0) 0

def words (s : String) : List (List Char) :=
  (Text.splitAt ' ' (s.toList.map fun c => if c = '\n' then ' ' else c)).filter (· ≠ [])

def readRange (cs : List Char) : Nat × Nat :=
  match Text.splitAt '-' cs with
  | [a, b] => (hexNumber a, hexNumber b)
  | _ => (hexNumber cs, hexNumber cs)

/-- A set of code points as the ends of its ranges. -/
abbrev Ranges := List (Nat × Nat)

def readRanges (s : String) : Ranges := (words s).map readRange

def Ranges.has (r : Ranges) (c : Char) : Bool :=
  r.any fun e => e.1 ≤ c.toNat && c.toNat ≤ e.2

end Barrage.Unicode
