import Barrage.Text.Ascii

/-! Media types, as far as it takes to know which of them are documents. -/

namespace Barrage.MediaType

def quoted : Bool → List Char → Option (List Char)
  | _, [] => none
  | false, '"' :: _ => none
  | true, '"' :: rest => some rest
  | _, c :: rest => if c.toNat < 32 || c.toNat = 127 then none else quoted true rest

def parameters : Nat → List Char → Bool
  | 0, _ => true
  | _ + 1, [] => true
  | fuel + 1, c :: rest =>
    if c = ' ' || c = ';' then parameters fuel rest
    else
      let name := (c :: rest).takeWhile Text.isTokenChar
      match (c :: rest).drop name.length with
      | '=' :: '"' :: value =>
        match quoted false value with
        | none => false
        | some after =>
          match after.dropWhile (· = ' ') with
          | [] => true
          | ';' :: more => parameters fuel more
          | _ => false
      | '=' :: value =>
        let own := value.takeWhile Text.isTokenChar
        match value.drop own.length with
        | [] => !name.isEmpty
        | d :: more => !name.isEmpty && !own.isEmpty && (d = ' ' || d = ';') && parameters fuel more
      | _ => false

/-- Whether a media type is that of documents: `application/json`, or a type that ends in `+json`. -/
def isDocument (s : String) : Bool :=
  let cs := s.toList
  let main := cs.takeWhile Text.isTokenChar
  match cs.drop main.length with
  | '/' :: rest =>
    let sub := rest.takeWhile Text.isTokenChar
    let after := rest.drop sub.length
    let known := match after with
      | [] => !sub.isEmpty
      | c :: more => !sub.isEmpty && (c = ' ' || c = ';') && parameters (more.length + 1) more
    let lower := sub.map Char.toLower
    let json := "json".toList
    known && main.map Char.toLower = "application".toList &&
      (lower = json || match Text.splitLast? '+' lower with
        | some (a, b) => a ≠ [] && (a = json || b = json)
        | none => false)
  | _ => false

end Barrage.MediaType
