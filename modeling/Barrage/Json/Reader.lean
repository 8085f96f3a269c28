import Barrage.Dict
import Barrage.Json.Skip

/-! Reading documents into typed values.
Blanks may stand in front of every part. A record is written as an object, whose members come in any
order and may include unknown ones, or as an array of its fields in order. -/

namespace Barrage.Json

def mismatch (expected : String) (s : List Symbol) : Fault :=
  let word (letters : List Char) (found : Found) (rest : List Symbol) : Fault :=
    match readWord letters rest with
    | .ok rest => .here (.misfit (.type found expected)) rest
    | .error f => f
  let number (negative : Bool) (rest : List Symbol) : Fault :=
    match readNumeral negative rest with
    | .ok (n, rest) => .here (.misfit (.type n.found expected)) rest
    | .error f => f
  match s with
  | .char 'n' :: rest => word ['u', 'l', 'l'] .null rest
  | .char 't' :: rest => word ['r', 'u', 'e'] (.boolean true) rest
  | .char 'f' :: rest => word ['a', 'l', 's', 'e'] (.boolean false) rest
  | .char '-' :: rest => number true rest
  | .char '"' :: rest =>
    match restOfString rest with
    | .ok (t, rest) => .here (.misfit (.type (.string t) expected)) rest
    | .error f => f
  | .char '[' :: _ => .here (.misfit (.type .sequence expected)) s
  | .char '\x7b' :: _ => .here (.misfit (.type .map expected)) s
  | s => if startsWithDigit s then number false s else .next .expectedValue s

def readNamed (expected : String) (convert : String → Except Reason α) : Reader α := fun s =>
  match skipBlanks s with
  | [] => .error (.here .endInValue [])
  | .char '"' :: rest => do
    let (t, rest) ← restOfString rest
    match convert t with
    | .ok a => .ok (a, rest)
    | .error reason => .error (.here reason rest)
  | s => .error (mismatch expected s)

def readString : Reader String := readNamed "a string" .ok

def readNumber (expected : String) (convert : Numeral → Except Reason α) : Reader α := fun s =>
  let finish (n : Numeral) (rest : List Symbol) : Except Fault (α × List Symbol) :=
    match convert n with
    | .ok a => .ok (a, rest)
    | .error reason => .error (.here reason rest)
  match skipBlanks s with
  | [] => .error (.here .endInValue [])
  | .char '-' :: rest => do
    let (n, rest) ← readNumeral true rest
    finish n rest
  | s =>
    if startsWithDigit s then do
      let (n, rest) ← readNumeral false s
      finish n rest
    else .error (mismatch expected s)

def word64 : Numeral → Except Reason UInt64
  | .natural n => .ok n
  | .negative m => .error (.misfit (.value (.integer (-(m : Int))) "u64"))
  | .real x => .error (.misfit (.type (.real x) "u64"))

def word32 : Numeral → Except Reason UInt32
  | .natural n =>
    if n.toNat < UInt32.size then .ok (UInt32.ofNat n.toNat)
    else .error (.misfit (.value (.integer n.toNat) "u32"))
  | .negative m => .error (.misfit (.value (.integer (-(m : Int))) "u32"))
  | .real x => .error (.misfit (.type (.real x) "u32"))

def readWord64 : Reader UInt64 := readNumber "u64" word64

def readWord32 : Reader UInt32 := readNumber "u32" word32

def readReal : Reader Binary64 := readNumber "f64" fun n => .ok n.toReal

def readOption (read : Reader α) : Reader (Option α) := fun s =>
  match skipBlanks s with
  | .char 'n' :: rest => do
    let rest ← readWord ['u', 'l', 'l'] rest
    .ok (none, rest)
  | s => do
    let (a, rest) ← read s
    .ok (some a, rest)

def readColon (s : List Symbol) : Except Fault (List Symbol) :=
  match skipBlanks s with
  | [] => .error (.here .endInObject [])
  | .char ':' :: rest => .ok rest
  | s => .error (.next .expectedColon s)

def nextName (first : Bool) (s : List Symbol) : Except Fault (Option String × List Symbol) :=
  let name (s : List Symbol) : Except Fault (Option String × List Symbol) :=
    match s with
    | [] => .error (.here .endInValue [])
    | .char '"' :: rest => do
      let (k, rest) ← restOfString rest
      .ok (some k, rest)
    | .char '\x7d' :: _ => .error (.next .trailingComma s)
    | s => .error (.next .expectedKey s)
  match skipBlanks s with
  | [] => .error (.here .endInObject [])
  | .char '\x7d' :: rest => .ok (none, .char '\x7d' :: rest)
  | a :: rest =>
    if first then name (a :: rest)
    else if a = .char ',' then name (skipBlanks rest)
    else .error (.next .expectedObjectEnd (a :: rest))

def nextItem (first : Bool) (s : List Symbol) : Except Fault (Bool × List Symbol) :=
  match skipBlanks s with
  | [] => .error (.here .endInList [])
  | .char ']' :: rest => .ok (false, .char ']' :: rest)
  | a :: rest =>
    if first then .ok (true, a :: rest)
    else if a = .char ',' then
      match skipBlanks rest with
      | [] => .error (.here .endInValue [])
      | .char ']' :: rest => .error (.next .trailingComma (.char ']' :: rest))
      | s => .ok (true, s)
    else .error (.next .expectedListEnd (a :: rest))

def endObject (s : List Symbol) : Except Fault (List Symbol) :=
  match skipBlanks s with
  | [] => .error (.here .endInObject [])
  | .char '\x7d' :: rest => .ok rest
  | .char ',' :: rest => .error (.next .trailingComma (.char ',' :: rest))
  | s => .error (.next .trailingCharacters s)

def endList (s : List Symbol) : Except Fault (List Symbol) :=
  match skipBlanks s with
  | [] => .error (.here .endInList [])
  | .char ']' :: rest => .ok rest
  | .char ',' :: rest =>
    match skipBlanks rest with
    | .char ']' :: rest => .error (.next .trailingComma (.char ']' :: rest))
    | s => .error (.next .trailingCharacters s)
  | s => .error (.next .trailingCharacters s)

/-- Where a fault of a whole object is placed: behind its end, if that comes next. -/
def afterObject (s : List Symbol) : List Symbol :=
  match skipBlanks s with
  | .char '\x7d' :: rest => rest
  | s => s

/-- Where a fault of a whole array is placed: behind its end or a comma, if one of them comes next. -/
def afterList (s : List Symbol) : List Symbol :=
  match skipBlanks s with
  | .char ']' :: rest => rest
  | .char ',' :: rest => skipBlanks rest
  | s => s

def inside (segment : Segment) : Except Fault α → Except Fault α :=
  Except.mapError (Fault.within segment)

def readItems (read : Reader α) :
    Nat → List α → List Symbol → Except Fault (List α × List Symbol)
  | 0, _, s => .error (.here .endInList s)
  | fuel + 1, acc, s => do
    let (more, s) ← nextItem acc.isEmpty s
    if more then
      let (a, s) ← inside (.index acc.length) (read s)
      readItems read fuel (a :: acc) s
    else .ok (acc.reverse, s)

def readList (read : Reader α) : Reader (List α) := fun s =>
  match skipBlanks s with
  | [] => .error (.here .endInValue [])
  | .char '[' :: rest => do
    let (items, rest) ← readItems read (rest.length + 1) [] rest
    let rest ← endList rest
    .ok (items, rest)
  | s => .error (mismatch "a sequence" s)

/-- The members of a map up to the closing bracket; the later of two with one name wins. -/
def readEntries (read : Reader α) :
    Nat → Bool → Dict α → List Symbol → Except Fault (Dict α × List Symbol)
  | 0, _, _, s => .error (.here .endInObject s)
  | fuel + 1, first, d, s => do
    match ← nextName first s with
    | (none, s) => .ok (d, s)
    | (some k, s) =>
      let (a, s) ← inside (.key k) (do read (← readColon s))
      readEntries read fuel false (d.insert k a) s

def readMap (read : Reader α) : Reader (Dict α) := fun s =>
  match skipBlanks s with
  | [] => .error (.here .endInValue [])
  | .char '\x7b' :: rest => do
    let (d, rest) ← readEntries read (rest.length + 1) true {} rest
    let rest ← endObject rest
    .ok (d, rest)
  | s => .error (mismatch "a map" s)

def readVariant (names : List String) (value? : String → Option α) : Reader α := fun s =>
  let convert (t : String) : Except Reason α :=
    match value? t with
    | some a => .ok a
    | none => .error (.unknownVariant t names)
  match skipBlanks s with
  | [] => .error (.here .endInValue [])
  | .char '"' :: rest => readNamed "variant identifier" convert (.char '"' :: rest)
  | .char '\x7b' :: rest => do
    let ((a, name), rest) ← readNamed "variant identifier" (fun t => (convert t).map (·, t)) rest
    let rest ← readColon rest
    let rest ← inside (.key name) <|
      match skipBlanks rest with
      | [] => .error (.here .endInValue [])
      | .char 'n' :: rest => readWord ['u', 'l', 'l'] rest
      | s => .error (mismatch "unit" s)
    match skipBlanks rest with
    | [] => .error (.here .endInObject [])
    | .char '\x7d' :: rest => .ok (a, rest)
    | s => .error (.here .expectedValue s)
  | s => .error (.next .expectedValue s)

structure Field (σ : Type) where
  name : String
  /-- Whether the record is complete without the field. -/
  optional : Bool
  isSet : σ → Bool
  read : σ → Reader σ

def Field.of (name : String) (optional : Bool) (get : σ → Option α) (set : σ → α → σ)
    (read : Reader α) : Field σ where
  name := name
  optional := optional
  isSet d := (get d).isSome
  read d s := (read s).map fun (a, rest) => (set d a, rest)

structure Record (σ α : Type) where
  name : String
  empty : σ
  fields : List (Field σ)
  /-- The record of a draft that has all fields it needs. -/
  build : σ → α

namespace Record

def expected (r : Record σ α) : String := "struct " ++ r.name

def expectedLength (r : Record σ α) : String :=
  r.expected ++ " with " ++ toString r.fields.length ++
    (if r.fields.length = 1 then " element" else " elements")

def missing? (r : Record σ α) (d : σ) : Option String :=
  (r.fields.find? fun f => !f.optional && !f.isSet d).map (·.name)

def readMembers (r : Record σ α) :
    Nat → Bool → σ → List Symbol → Except Fault (σ × List Symbol)
  | 0, _, _, s => .error (.here .endInObject s)
  | fuel + 1, first, d, s => do
    match ← nextName first s with
    | (none, s) =>
      match r.missing? d with
      | some k => .error (.here (.missingField k) (afterObject s))
      | none => .ok (d, s)
    | (some k, s) =>
      match r.fields.find? (·.name == k) with
      | none =>
        let s ← inside (.key k) (do skipValue (← readColon s))
        readMembers r fuel false d s
      | some f =>
        if f.isSet d then .error (.here (.duplicateField k) (afterObject s))
        else
          let (d, s) ← inside (.key k) (do f.read d (← readColon s))
          readMembers r fuel false d s

def readPositions (r : Record σ α) :
    List (Field σ) → Nat → Bool → σ → List Symbol → Except Fault (σ × List Symbol)
  | [], _, _, d, s => .ok (d, s)
  | f :: fields, i, first, d, s => do
    let (more, s) ← nextItem first s
    if more then
      let (d, s) ← inside (.index i) (f.read d s)
      readPositions r fields (i + 1) false d s
    else if f.optional then readPositions r fields (i + 1) first d s
    else .error (.here (.wrongLength i r.expectedLength) (afterList s))

def read (r : Record σ α) : Reader α := fun s =>
  match skipBlanks s with
  | [] => .error (.here .endInValue [])
  | .char '[' :: rest => do
    let (d, rest) ← readPositions r r.fields 0 true r.empty rest
    let rest ← endList rest
    .ok (r.build d, rest)
  | .char '\x7b' :: rest => do
    let (d, rest) ← readMembers r (rest.length + 1) true r.empty rest
    let rest ← endObject rest
    .ok (r.build d, rest)
  | s => .error (mismatch r.expected s)

end Record

def readDocument (read : Reader α) (document : List Symbol) : Except Fault α := do
  let (a, rest) ← read document
  match skipBlanks rest with
  | [] => .ok a
  | s => .error (.next .trailingCharacters s)

def readText (read : Reader α) (text : String) : Except Fault α := readDocument read (Symbol.ofText text)

end Barrage.Json
