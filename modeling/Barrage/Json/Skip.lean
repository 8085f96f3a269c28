import Barrage.Json.Token

/-! Passing over a value that nobody asks for.
Its strings and numbers are looked at less closely than those that are read, and it may be nested to
any depth. -/

namespace Barrage.Json

def skipString : Nat → List Symbol → Except Fault (List Symbol)
  | _, [] => .error (.here .endInString [])
  | skip + 1, _ :: rest => skipString skip rest
  | 0, .stray _ :: rest => skipString 0 rest
  | 0, .char c :: rest =>
    if c = '"' then .ok rest
    else if c = '\\' then
      match rest with
      | [] => .error (.here .endInString [])
      | .char 'u' :: after =>
        match hexCode after with
        | .ok _ => skipString 5 rest
        | .error f => .error f
      | .char d :: after =>
        if "\"\\/bfnrt".toList.contains d then skipString 1 rest
        else .error (.next .invalidEscape (.char d :: after))
      | s => .error (.next .invalidEscape s)
    else if c.toNat < 0x20 then .error (.here .controlCharacter (.char c :: rest))
    else skipString 0 rest

def skipExponent (s : List Symbol) : Except Fault (List Symbol) :=
  let s := match s with
    | .char '+' :: rest | .char '-' :: rest => rest
    | s => s
  match s with
  | [] => .error (.here .invalidNumber [])
  | a :: rest =>
    if (digit? a).isSome then .ok (skipDigits rest) else .error (.next .invalidNumber (a :: rest))

def skipFraction (s : List Symbol) : Except Fault (List Symbol) :=
  if startsWithDigit s then
    match skipDigits s with
    | .char 'e' :: rest | .char 'E' :: rest => skipExponent rest
    | rest => .ok rest
  else .error (.next .invalidNumber s)

def skipNumber (s : List Symbol) : Except Fault (List Symbol) := do
  let s ← match s with
    | [] => .error (.here .invalidNumber [])
    | a :: rest =>
      match digit? a with
      | none => .error (.next .invalidNumber (a :: rest))
      | some 0 => if startsWithDigit rest then .error (.next .invalidNumber rest) else .ok rest
      | some _ => .ok (skipDigits rest)
  match s with
  | .char '.' :: rest => skipFraction rest
  | .char 'e' :: rest | .char 'E' :: rest => skipExponent rest
  | s => .ok s

inductive Bracket where
  | list
  | object
  deriving DecidableEq, Repr

def skipScalar? (s : List Symbol) : Except Fault (Option (List Symbol)) :=
  match s with
  | [] => .error (.here .endInValue [])
  | .char 'n' :: rest => (readWord ['u', 'l', 'l'] rest).map some
  | .char 't' :: rest => (readWord ['r', 'u', 'e'] rest).map some
  | .char 'f' :: rest => (readWord ['a', 'l', 's', 'e'] rest).map some
  | .char '-' :: rest => (skipNumber rest).map some
  | .char '"' :: rest => (skipString 0 rest).map some
  | .char '[' :: _ => .ok none
  | .char '\x7b' :: _ => .ok none
  | s => if startsWithDigit s then (skipNumber s).map some else .error (.next .expectedValue s)

/-- Close brackets until another value follows: the brackets still open with the rest in front of
that value, or only the rest when none is open. A comma counts only after a value. -/
def closeBrackets :
    Nat → List Bracket → Bool → List Symbol → Except Fault (List Bracket × List Symbol)
  | 0, _, _, s => .error (.here .endInValue s)
  | _ + 1, [], _, s => .ok ([], s)
  | fuel + 1, b :: outer, comma, s =>
    let s := skipBlanks s
    match b, s with
    | .list, [] => .error (.here .endInList [])
    | .object, [] => .error (.here .endInObject [])
    | .list, .char ']' :: rest => closeBrackets fuel outer true rest
    | .object, .char '\x7d' :: rest => closeBrackets fuel outer true rest
    | b, a :: rest =>
      if comma then
        if a = .char ',' then .ok (b :: outer, rest)
        else .error (.next (if b = .list then .expectedListEnd else .expectedObjectEnd) s)
      else .ok (b :: outer, s)

def skipName (s : List Symbol) : Except Fault (List Symbol) :=
  match skipBlanks s with
  | [] => .error (.here .endInObject [])
  | .char '"' :: rest =>
    match skipString 0 rest with
    | .error f => .error f
    | .ok rest =>
      match skipBlanks rest with
      | [] => .error (.here .endInObject [])
      | .char ':' :: rest => .ok rest
      | s => .error (.next .expectedColon s)
  | s => .error (.next .expectedKey s)

def skipWithin : Nat → List Bracket → List Symbol → Except Fault (List Symbol)
  | 0, _, s => .error (.here .endInValue s)
  | fuel + 1, opened, s => do
    let s := skipBlanks s
    let (opened, s) ← match ← skipScalar? s with
      | some rest => closeBrackets (rest.length + 2) opened true rest
      | none =>
        let b := if s.head? = some (.char '[') then Bracket.list else Bracket.object
        closeBrackets (s.length + 2) (b :: opened) false (s.drop 1)
    match opened with
    | [] => .ok s
    | .list :: _ => skipWithin fuel opened s
    | .object :: _ => do
      let s ← skipName s
      skipWithin fuel opened s

def skipValue (s : List Symbol) : Except Fault (List Symbol) := skipWithin (s.length + 1) [] s

end Barrage.Json
