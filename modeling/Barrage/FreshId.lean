import Barrage.Text.Ascii

/-! Identifiers for new scripts: sixteen random bytes, of which six bits tell that they are random. -/

namespace Barrage.FreshId

def hexText (bytes : List UInt8) : List Char :=
  bytes.flatMap fun b =>
    [Text.hexDigit false (b.toNat / 16), Text.hexDigit false (b.toNat % 16)]

def marked (bytes : List UInt8) : List UInt8 :=
  bytes.mapIdx fun i b =>
    if i = 6 then b % 16 + 64 else if i = 8 then b % 64 + 128 else b

def ofBytes (bytes : List UInt8) : String :=
  let cs := hexText (marked bytes)
  let group (start length : Nat) : List Char := (cs.drop start).take length
  String.ofList (group 0 8 ++ '-' :: group 8 4 ++ '-' :: group 12 4 ++ '-' :: group 16 4 ++
    '-' :: group 20 12)

end Barrage.FreshId
