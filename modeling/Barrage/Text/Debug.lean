import Barrage.Text.Decimal
import Barrage.Text.Ascii
import Barrage.Unicode.Unprintable

/-! Text as messages show it: between quotation marks, with what cannot be printed escaped. -/

namespace Barrage.Text

def hexDigits (n : Nat) : List Char := Nat.toDigits 16 n

def debugChar (c : Char) : List Char :=
  if c = '"' then ['\\', '"']
  else if c = '\\' then ['\\', '\\']
  else if c = '\n' then ['\\', 'n']
  else if c = '\r' then ['\\', 'r']
  else if c = '\t' then ['\\', 't']
  else if c.toNat = 0 then ['\\', '0']
  else if Unicode.isUnprintable c then ['\\', 'u', '\x7b'] ++ hexDigits c.toNat ++ ['\x7d']
  else [c]

def debug (s : String) : String :=
  String.ofList ('"' :: s.toList.flatMap debugChar ++ ['"'])

end Barrage.Text
