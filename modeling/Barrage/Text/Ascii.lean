/-! Letter case and character classes within ASCII.
Characters outside ASCII are never changed and belong to none of the classes. -/

namespace Barrage.Text

def lower (s : String) : String := String.ofList (s.toList.map Char.toLower)

def upper (s : String) : String := String.ofList (s.toList.map Char.toUpper)

@[simp] theorem toList_lower (s : String) : (lower s).toList = s.toList.map Char.toLower := by
  simp [lower]

@[simp] theorem toList_upper (s : String) : (upper s).toList = s.toList.map Char.toUpper := by
  simp [upper]

def isAscii (c : Char) : Bool := c.toNat < 128

def hexValue? (c : Char) : Option Nat :=
  if c.isDigit then some (c.toNat - 48)
  else if 'a' ≤ c ∧ c ≤ 'f' then some (c.toNat - 87)
  else if 'A' ≤ c ∧ c ≤ 'F' then some (c.toNat - 55)
  else none

def isHex (c : Char) : Bool := (hexValue? c).isSome

def hexDigit (capital : Bool) (n : Nat) : Char :=
  if n < 10 then Char.ofNat (48 + n) else Char.ofNat ((if capital then 55 else 87) + n)

def isTokenChar (c : Char) : Bool :=
  c.isAlphanum || "!#$%&'*+-.^_|~".toList.contains c || c.toNat == 0x60

def join (separator : String) (parts : List String) : String :=
  String.intercalate separator parts

/-- Split at every occurrence of a character; there is always at least one piece. -/
def splitAt (c : Char) : List Char → List (List Char)
  | [] => [[]]
  | d :: rest =>
    if d = c then [] :: splitAt c rest
    else match splitAt c rest with
      | [] => [[d]]
      | piece :: pieces => (d :: piece) :: pieces

def afterStart? [DecidableEq α] : List α → List α → Option (List α)
  | [], rest => some rest
  | _ :: _, [] => none
  | a :: start, b :: rest => if a = b then afterStart? start rest else none

def splitLast? (c : Char) (cs : List Char) : Option (List Char × List Char) :=
  let tail := (cs.reverse.takeWhile (· ≠ c)).reverse
  if tail.length = cs.length then none
  else some (cs.take (cs.length - tail.length - 1), tail)

end Barrage.Text
