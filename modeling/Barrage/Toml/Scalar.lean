import Barrage.Calendar
import Barrage.Text.Decimal
import Barrage.Text.Ascii
import Barrage.Toml.Value

/-! Values of settings documents that are written without quotation marks: truth values, numbers,
dates and times. -/

namespace Barrage.Toml

/-- Digits that may have single low lines between them, without these. -/
def groupedDigits? (isDigit : Char → Bool) : List Char → Option (List Char)
  | [] => none
  | [c] => if isDigit c then some [c] else none
  | c :: '_' :: rest => if isDigit c then (groupedDigits? isDigit rest).map (c :: ·) else none
  | c :: rest => if isDigit c then (groupedDigits? isDigit rest).map (c :: ·) else none

def wholeDigits? (cs : List Char) : Option (List Char) := do
  let ds ← groupedDigits? Char.isDigit cs
  if ds.head? = some '0' ∧ ds ≠ ['0'] then none else some ds

def basedValue (base : Nat) (ds : List Char) : Nat :=
  ds.foldl (fun n c => base * n + (Text.hexValue? c).getD 0) 0

def keepInteger (n : Int) : Option Value :=
  if -170141183460469231731687303715884105728 ≤ n ∧ n ≤ 340282366920938463463374607431768211455
  then some (.integer n) else none

def based? (base : Nat) (isDigit : Char → Bool) (cs : List Char) : Option Value := do
  let ds ← groupedDigits? isDigit cs
  keepInteger (basedValue base ds)

def realOf (negative : Bool) (ds : List Char) (exponent : Int) : Option Value :=
  let n := Decimal.value ds
  if n = 0 then some (.real (Binary64.zero.withSign negative))
  else if 400 < exponent + ds.length then none
  else if exponent + ds.length < -400 then some (.real (Binary64.zero.withSign negative))
  else match Binary64.ofDecimal negative n exponent with
    | .infinite _ => none
    | x => some (.real x)

def exponent? (cs : List Char) : Option Int :=
  let (negative, cs) := match cs with
    | '+' :: rest => (false, rest)
    | '-' :: rest => (true, rest)
    | _ => (false, cs)
  (groupedDigits? Char.isDigit cs).map fun ds =>
    let n := Decimal.value ds
    if negative then -(n : Int) else n

def decimal? (negative : Bool) (cs : List Char) : Option Value := do
  let isPart := fun (c : Char) => c.isDigit || c == '_'
  let whole ← wholeDigits? (cs.takeWhile isPart)
  match cs.dropWhile isPart with
  | [] =>
    let n := Decimal.value whole
    keepInteger (if negative then -(n : Int) else n)
  | '.' :: rest =>
    let fraction ← groupedDigits? Char.isDigit (rest.takeWhile isPart)
    let e ← match rest.dropWhile isPart with
      | [] => some 0
      | 'e' :: rest | 'E' :: rest => exponent? rest
      | _ => none
    realOf negative (whole ++ fraction) (e - fraction.length)
  | 'e' :: rest | 'E' :: rest => realOf negative whole (← exponent? rest)
  | _ => none

def special? (negative : Bool) (cs : List Char) : Option Value :=
  if cs = ['i', 'n', 'f'] then some (.real (.infinite negative))
  else if cs = ['n', 'a', 'n'] then some (.real .nan)
  else none

def number? (cs : List Char) : Option Value :=
  match cs with
  | '0' :: 'x' :: rest => based? 16 Text.isHex rest
  | '0' :: 'o' :: rest => based? 8 (fun c => '0' ≤ c && c ≤ '7') rest
  | '0' :: 'b' :: rest => based? 2 (fun c => c == '0' || c == '1') rest
  | '+' :: rest => (special? false rest).orElse fun _ => decimal? false rest
  | '-' :: rest => (special? true rest).orElse fun _ => decimal? true rest
  | cs => (special? false cs).orElse fun _ => decimal? false cs

def digits? (count : Nat) (cs : List Char) : Option (Nat × List Char) :=
  let ds := cs.take count
  if ds.length = count ∧ ds.all Char.isDigit then some (Decimal.value ds, cs.drop count) else none

def mark? (c : Char) : List Char → Option (List Char)
  | d :: rest => if d = c then some rest else none
  | [] => none

def date? (cs : List Char) : Option (List Char) := do
  let (y, cs) ← digits? 4 cs
  let (m, cs) ← digits? 2 (← mark? '-' cs)
  let (d, cs) ← digits? 2 (← mark? '-' cs)
  if Date.isValid ⟨y, m, d⟩ then some cs else none

def time? (cs : List Char) : Option (List Char) := do
  let (h, cs) ← digits? 2 cs
  let (m, cs) ← digits? 2 (← mark? ':' cs)
  if 23 < h ∨ 59 < m then none
  match cs with
  | ':' :: rest =>
    let (s, cs) ← digits? 2 rest
    if 60 < s then none
    match cs with
    | '.' :: rest =>
      if (rest.takeWhile Char.isDigit).isEmpty then none else some (rest.dropWhile Char.isDigit)
    | cs => some cs
  | cs => some cs

def isOffset (cs : List Char) : Bool :=
  match cs with
  | [] | ['Z'] | ['z'] => true
  | sign :: rest =>
    (sign == '+' || sign == '-') &&
      (do
        let (h, cs) ← digits? 2 rest
        let (m, cs) ← digits? 2 (← mark? ':' cs)
        if h ≤ 23 ∧ m ≤ 59 ∧ cs = [] then some () else none).isSome

def isDateTime (cs : List Char) : Bool :=
  match date? cs with
  | some [] => true
  | some (c :: rest) =>
    (c == 'T' || c == 't' || c == ' ') && ((time? rest).map isOffset).getD false
  | none => time? cs = some []

def scalar? (cs : List Char) : Option Value :=
  if cs = "true".toList then some (.boolean true)
  else if cs = "false".toList then some (.boolean false)
  else if isDateTime cs then some .dateTime
  else number? cs

end Barrage.Toml
