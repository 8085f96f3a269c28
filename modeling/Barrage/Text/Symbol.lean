/-! Encoded text as a sequence of symbols.
A symbol is a character of UTF-8 text or a byte that is part of none, so that any bytes can be read
from left to right. Places are counted as editors do: lines from one, columns in bytes. -/

namespace Barrage

inductive Symbol where
  | char (c : Char)
  /-- A byte that belongs to no character. -/
  | stray (byte : UInt8)
  deriving DecidableEq, Repr

namespace Symbol

def ofText (s : String) : List Symbol := s.toList.map .char

def size : Symbol → Nat
  | .char c => c.utf8Size
  | .stray _ => 1

def bytes (l : List Symbol) : Nat := l.foldl (fun n s => n + s.size) 0

def isContinuation (b : UInt8) : Bool := 0x80 ≤ b && b ≤ 0xBF

def low (b : UInt8) : Nat := b.toNat % 64

/-- The character at the head of some bytes, with the number of bytes that it takes. The shortest
form alone counts, and no surrogate. -/
def headChar? : List UInt8 → Option (Char × Nat)
  | [] => none
  | a :: rest =>
    if a < 0x80 then some (Char.ofNat a.toNat, 1)
    else if 0xC2 ≤ a && a ≤ 0xDF then
      match rest with
      | b :: _ => if isContinuation b then some (Char.ofNat (a.toNat % 32 * 64 + low b), 2) else none
      | [] => none
    else if 0xE0 ≤ a && a ≤ 0xEF then
      match rest with
      | b :: c :: _ =>
        if isContinuation b && isContinuation c && (a != 0xE0 || 0xA0 ≤ b) && (a != 0xED || b ≤ 0x9F)
        then some (Char.ofNat (a.toNat % 16 * 4096 + low b * 64 + low c), 3) else none
      | _ => none
    else if 0xF0 ≤ a && a ≤ 0xF4 then
      match rest with
      | b :: c :: d :: _ =>
        if isContinuation b && isContinuation c && isContinuation d && (a != 0xF0 || 0x90 ≤ b) &&
            (a != 0xF4 || b ≤ 0x8F)
        then some (Char.ofNat (a.toNat % 8 * 262144 + low b * 4096 + low c * 64 + low d), 4)
        else none
      | _ => none
    else none

/-- Decode bytes; `skip` of them belong to a character that is already taken. -/
def decode (acc : List Symbol) : Nat → List UInt8 → List Symbol
  | _, [] => acc.reverse
  | skip + 1, _ :: rest => decode acc skip rest
  | 0, a :: rest =>
    match headChar? (a :: rest) with
    | some (c, n) => decode (.char c :: acc) (n - 1) rest
    | none => decode (.stray a :: acc) 0 rest

def ofBytes (l : List UInt8) : List Symbol := decode [] 0 l

def char? : Symbol → Option Char
  | .char c => some c
  | .stray _ => none

def text? (l : List Symbol) : Option String := (l.mapM char?).map String.ofList

def textOfBytes? (l : List UInt8) : Option String := text? (ofBytes l)

/-- How many further bytes of a broken character follow its first byte `a`. -/
private def brokenLength (a : UInt8) (rest : List UInt8) : Nat :=
  let second := fun (b : UInt8) =>
    isContinuation b && (a != 0xE0 || 0xA0 ≤ b) && (a != 0xED || b ≤ 0x9F) &&
      (a != 0xF0 || 0x90 ≤ b) && (a != 0xF4 || b ≤ 0x8F)
  if 0xE0 ≤ a && a ≤ 0xEF then
    match rest with
    | b :: _ => if second b then 1 else 0
    | [] => 0
  else if 0xF0 ≤ a && a ≤ 0xF4 then
    match rest with
    | b :: c :: _ => if second b then (if isContinuation c then 2 else 1) else 0
    | [b] => if second b then 1 else 0
    | [] => 0
  else 0

def replaceBroken (acc : List Char) : Nat → List UInt8 → List Char
  | _, [] => acc.reverse
  | skip + 1, _ :: rest => replaceBroken acc skip rest
  | 0, a :: rest =>
    match headChar? (a :: rest) with
    | some (c, n) => replaceBroken (c :: acc) (n - 1) rest
    | none => replaceBroken ('\uFFFD' :: acc) (brokenLength a rest) rest

structure Place where
  line : Nat
  column : Nat
  deriving DecidableEq, Repr

def Place.advance : Nat → List Symbol → Place → Place
  | _, [], p => p
  | n, s :: rest, p =>
    if n < s.size then ⟨p.line, p.column + n⟩
    else Place.advance (n - s.size) rest
      (if s = .char '\n' then ⟨p.line + 1, 0⟩ else ⟨p.line, p.column + s.size⟩)

@[simp] theorem ofText_ofList (cs : List Char) : ofText (String.ofList cs) = cs.map .char := by
  simp [ofText]

end Symbol
end Barrage
