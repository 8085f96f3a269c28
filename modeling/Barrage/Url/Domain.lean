import Barrage.Text.Symbol
import Barrage.Unicode.Joining
import Barrage.Unicode.Mapping
import Barrage.Unicode.Marks
import Barrage.Url.Punycode

/-! Domain names, international ones included, in their ASCII form.
A name is prepared character by character and cut into labels at its dots. Labels beyond ASCII have
to be well-formed and are then written in ASCII behind a mark. -/

namespace Barrage.Domain

def isForbidden (c : Char) : Bool :=
  c.toNat ≤ 32 || c.toNat = 127 || "#/:<>?@[\\]^|%".toList.contains c

def mark : List Char := ['x', 'n', '-', '-']

/-! Joiners: invisible characters that only have a place next to certain letters. -/

def nonJoiner : Char := '\u200C'

def joiner : Char := '\u200D'

def isTransparent (c : Char) : Bool := Unicode.isMark c

/-- Whether a letter joins over the place between the reversed characters before and those after. -/
def joinsAcross (before after : List Char) : Bool :=
  ((before.dropWhile isTransparent).head?.map Unicode.joinsNext).getD false &&
    ((after.dropWhile isTransparent).head?.map Unicode.joinsPrevious).getD false

/-- Whether all joiners of a label have their place, given what stands before in reverse. -/
def joinersFit (before : List Char) : List Char → Bool
  | [] => true
  | c :: rest =>
    let virama := (before.head?.map Unicode.isVirama).getD false
    (if c = joiner then virama else if c = nonJoiner then virama || joinsAcross before rest else true) &&
      joinersFit (c :: before) rest

/-! Direction: names with letters that are written from right to left. -/

inductive Direction where
  | left
  | right
  | arabicNumber
  | number
  | mark
  | neutral
  deriving DecidableEq, Repr

def inRanges (l : List (Nat × Nat)) (c : Char) : Bool := Unicode.Ranges.has l c

def arabicNumbers : Unicode.Ranges := [(0x600, 0x605), (0x660, 0x669), (0x66B, 0x66C), (0x6DD, 0x6DD),
  (0x890, 0x891), (0x8E2, 0x8E2), (0x10D30, 0x10D39), (0x10E60, 0x10E7E)]

def rightLetters : Unicode.Ranges := [(0x590, 0x8FF), (0xFB1D, 0xFDFF), (0xFE70, 0xFEFF),
  (0x10800, 0x10FFF), (0x1E800, 0x1EFFF)]

def symbols : Unicode.Ranges := [(0xA0, 0xA9), (0xAB, 0xB1), (0xB4, 0xB4), (0xB6, 0xB8), (0xBB, 0xBF),
  (0xD7, 0xD7), (0xF7, 0xF7), (0x2010, 0x2BFF), (0x3001, 0x3004), (0x3008, 0x3020),
  (0x30FB, 0x30FB), (0x1F000, 0x1FAFF)]

def direction (c : Char) : Direction :=
  if Unicode.isMark c then .mark
  else if c.isDigit || inRanges [(0x6F0, 0x6F9)] c then .number
  else if inRanges arabicNumbers c then .arabicNumber
  else if c.isAlpha then .left
  else if Text.isAscii c || inRanges symbols c || c = joiner || c = nonJoiner then .neutral
  else if inRanges rightLetters c then .right
  else .left

def directionFits (label : List Char) : Bool :=
  let ds := label.map direction
  let last := (ds.reverse.dropWhile (· = .mark)).head?
  match ds.head? with
  | none => true
  | some .right | some .arabicNumber =>
    ds.head? = some .right && !ds.contains .left &&
      (last = some .right || last = some .number || last = some .arabicNumber) &&
      !(ds.contains .number && ds.contains .arabicNumber)
  | some .left =>
    !ds.contains .right && !ds.contains .arabicNumber && (last = some .left || last = some .number)
  | some _ => false

def isRightToLeft (label : List Char) : Bool :=
  label.any fun c => direction c = .right || direction c = .arabicNumber

def reveal (label : List Char) : Option (List Char) :=
  match Text.afterStart? mark label with
  | none => some label
  | some rest => do
    let cs ← Punycode.decode rest
    if !cs.all Text.isAscii && cs.all Unicode.isPrepared then some cs else none

def isSound (label : List Char) : Bool :=
  !((label.head?.map Unicode.isMark).getD false) && joinersFit [] label

def asciiLabel (label : List Char) : List Char :=
  if label.all Text.isAscii then label else mark ++ Punycode.encode label

def toAscii (bytes : List UInt8) : Option (List Char) := do
  let name ← Symbol.textOfBytes? bytes
  let prepared ← name.toList.mapM Unicode.prepare
  let labels := Text.splitAt '.' prepared.flatten
  let revealed ← labels.mapM reveal
  if !revealed.all isSound then none
  else if revealed.any isRightToLeft && !revealed.all directionFits then none
  else
    let ascii := (Text.join "." (labels.map fun l => String.ofList (asciiLabel l))).toList
    if ascii.any isForbidden then none else some ascii

end Barrage.Domain
