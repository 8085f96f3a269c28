import Barrage.Instant
import Barrage.Text.Ascii
import Barrage.Text.Blank

/-! Reading instants from dates with a time of day and an offset from UTC.
Fields may have fewer digits than they are written with, blanks may stand between them, and the
offset may be written in several ways. -/

namespace Barrage.Instant

inductive ReadFault where
  | tooShort
  | invalid
  | outOfRange
  | tooLong
  | impossible
  deriving DecidableEq, Repr

def ReadFault.message : ReadFault → String
  | .tooShort => "premature end of input"
  | .invalid => "input contains invalid characters"
  | .outOfRange => "input is out of range"
  | .tooLong => "trailing input"
  | .impossible => "no possible date and time matching input"

def skipBlanks (s : List Char) : List Char := s.dropWhile Text.isBlank

/-- A number of at least one and at most `most` digits, which has to fit 63 bits. -/
def readNumber (most : Nat) (s : List Char) : Except ReadFault (Nat × List Char) :=
  let ds := (s.take most).takeWhile Char.isDigit
  if s = [] then .error .tooShort
  else if ds = [] then .error .invalid
  else if 9223372036854775808 ≤ Decimal.value ds then .error .outOfRange
  else .ok (Decimal.value ds, s.drop ds.length)

def readField (low high : Nat) (s : List Char) : Except ReadFault (Nat × List Char) := do
  let (n, rest) ← readNumber 2 (skipBlanks s)
  if low ≤ n ∧ n ≤ high then .ok (n, rest) else .error .outOfRange

def readYear (s : List Char) : Except ReadFault (Int × List Char) := do
  let (y, rest) ← match skipBlanks s with
    | '-' :: rest => (readNumber rest.length rest).map fun (n, rest) => (-(n : Int), rest)
    | '+' :: rest => (readNumber rest.length rest).map fun (n, rest) => ((n : Int), rest)
    | s => (readNumber 4 s).map fun (n, rest) => ((n : Int), rest)
  if -2147483648 ≤ y ∧ y ≤ 2147483647 then .ok (y, rest) else .error .outOfRange

def readMark (c : Char) (s : List Char) : Except ReadFault (List Char) :=
  match skipBlanks s with
  | [] => .error .tooShort
  | d :: rest => if d = c then .ok rest else .error .invalid

def readDivider (s : List Char) : Except ReadFault (List Char) :=
  match s with
  | 't' :: rest | 'T' :: rest | ' ' :: rest => .ok rest
  | [] => .error .tooShort
  | _ => .error .invalid

/-- The nanoseconds of the digits after a point; those beyond the ninth are left out. -/
def readFraction (s : List Char) : Except ReadFault (Nat × List Char) :=
  match s with
  | '.' :: rest => do
    let (n, after) ← readNumber 9 rest
    .ok (n * Decimal.tenTo (9 - (rest.length - after.length)), after.dropWhile Char.isDigit)
  | s => .ok (0, s)

def readTwoDigits (s : List Char) : Except ReadFault ((Nat × Nat) × List Char) :=
  match s with
  | a :: b :: rest =>
    if a.isDigit && b.isDigit then .ok ((a.toNat - 48, b.toNat - 48), rest) else .error .invalid
  | [a] => if a.utf8Size < 2 then .error .tooShort else .error .invalid
  | [] => .error .tooShort

def readMagnitude (s : List Char) : Except ReadFault (Int × List Char) := do
  let ((a, b), s) ← readTwoDigits s
  let ((c, d), s) ← readTwoDigits (s.dropWhile fun c => c = ':' || Text.isBlank c)
  if 6 ≤ c then .error .outOfRange
  else .ok (((a * 10 + b) * 3600 + (c * 10 + d) * 60 : Nat), s)

/-- Seconds east of UTC: the letters of UTC, a zulu sign, or hours and minutes. -/
def readOffset (s : List Char) : Except ReadFault (Int × List Char) :=
  if (s.take 3).map Char.toUpper = ['U', 'T', 'C'] then .ok (0, s.drop 3)
  else match s with
    | [] => .error .tooShort
    | 'Z' :: rest | 'z' :: rest => .ok (0, rest)
    | '+' :: rest => readMagnitude rest
    | '-' :: rest | '\u2212' :: rest => (readMagnitude rest).map fun (n, s) => (-n, s)
    | _ => .error .invalid

def firstYear : Int := -262143

def lastYear : Int := 262142

def ofLocal (date : Date) (hour minute second nanos : Nat) (east : Int) : Except ReadFault Instant :=
  if !date.isValid || date.year < firstYear || lastYear < date.year then .error .outOfRange
  else if 86400 ≤ east.natAbs then .error .outOfRange
  else
    let leap := second = 60
    let ofDay := hour * 3600 + minute * 60 + (if leap then 59 else second)
    let t : Instant := ⟨date.toDays * 86400 + ofDay - east, nanos + if leap then 1000000000 else 0⟩
    if t.date.year < firstYear || lastYear < t.date.year then .error .impossible else .ok t

def ofText (text : String) : Except ReadFault Instant := do
  let (y, s) ← readYear text.toList
  let (mo, s) ← readField 1 12 (← readMark '-' s)
  let (d, s) ← readField 1 31 (← readMark '-' s)
  let (h, s) ← readField 0 23 (← readDivider s)
  let (mi, s) ← readField 0 59 (← readMark ':' s)
  let (sec, s) ← readField 0 60 (← readMark ':' s)
  let (nanos, s) ← readFraction s
  let (east, s) ← readOffset (skipBlanks s)
  if skipBlanks s = [] then ofLocal ⟨y, mo, d⟩ h mi sec nanos east else .error .tooLong

end Barrage.Instant
