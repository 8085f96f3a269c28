import Barrage.Url.Reader

/-! References from one address to another. -/

namespace Barrage.Url

def directoryText (path : List Char) : List Char := (path.reverse.dropWhile (· ≠ '/')).reverse

def referenceText (base : Url) (reference : List Char) : List Char :=
  let here := base.scheme ++ ':' :: base.authority
  match scheme? reference, reference with
  | some _, _ => reference
  | none, '/' :: '/' :: _ => base.scheme ++ ':' :: reference
  | none, '/' :: _ => here ++ reference
  | none, '?' :: _ => here ++ base.pathText ++ reference
  | none, [] | none, '#' :: _ => ({ base with fragment := none } : Url).text ++ reference
  | none, _ => here ++ directoryText base.pathText ++ reference

def follow? (base : Url) (reference : String) : Option Url :=
  (ofText (String.ofList (referenceText base (strip reference.toList)))).toOption

end Barrage.Url
