import Barrage.Number.Decimals
import Barrage.Text.Debug

/-! What was found where a value of another type or range was expected. -/

namespace Barrage

inductive Found where
  | null
  | boolean (value : Bool)
  | integer (value : Int)
  | real (value : Binary64)
  | string (value : String)
  | sequence
  | map
  deriving DecidableEq, Repr

def Found.text (style : Binary64.DecimalStyle) : Found → String
  | .null => "null"
  | .boolean b => if b then "boolean \x60true\x60" else "boolean \x60false\x60"
  | .integer n => "integer \x60" ++ toString n ++ "\x60"
  | .real x => "floating point \x60" ++ String.ofList (x.text style) ++ "\x60"
  | .string s => "string " ++ Text.debug s
  | .sequence => "sequence"
  | .map => "map"

inductive Misfit where
  | type (found : Found) (expected : String)
  | value (found : Found) (expected : String)
  deriving DecidableEq, Repr

def Misfit.message (style : Binary64.DecimalStyle) : Misfit → String
  | .type found expected => "invalid type: " ++ found.text style ++ ", expected " ++ expected
  | .value found expected => "invalid value: " ++ found.text style ++ ", expected " ++ expected

end Barrage
