import Barrage.Text.Ascii
import Barrage.Text.Symbol

/-! Percent-encoding: a byte as a percent sign and two hexadecimal digits. -/

namespace Barrage.Percent

def utf8 (cs : List Char) : List UInt8 := (String.ofList cs).toUTF8.toList

def encodeByte (b : UInt8) : List Char :=
  ['%', Text.hexDigit true (b.toNat / 16), Text.hexDigit true (b.toNat % 16)]

def encode (special : Char → Bool) (cs : List Char) : List Char :=
  cs.flatMap fun c =>
    if special c || 127 ≤ c.toNat || c.toNat < 32 then (utf8 [c]).flatMap encodeByte else [c]

/-- The bytes of a text, in which encoded bytes are decoded and stray percent signs stay. -/
def decode : List Char → List UInt8
  | '%' :: a :: b :: rest =>
    match Text.hexValue? a, Text.hexValue? b with
    | some x, some y => UInt8.ofNat (x * 16 + y) :: decode rest
    | _, _ => utf8 ['%'] ++ decode (a :: b :: rest)
  | c :: rest => utf8 [c] ++ decode rest
  | [] => []

def decodeText? (cs : List Char) : Option String := Symbol.textOfBytes? (decode cs)

def decodeForm (cs : List Char) : String :=
  String.ofList <| Symbol.replaceBroken [] 0 <| decode <| cs.map fun c => if c = '+' then ' ' else c

def formPairs (cs : List Char) : List (String × String) :=
  ((Text.splitAt '&' cs).filter (· ≠ [])).map fun pair =>
    (decodeForm (pair.takeWhile (· ≠ '=')), decodeForm ((pair.dropWhile (· ≠ '=')).drop 1))

end Barrage.Percent
