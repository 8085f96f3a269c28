import Barrage.Toml.Scalar

/-! Reading settings documents.
A document is a list of lines that give a key its value or open a table. A reader takes what it reads
from the front of the characters and returns the rest; there is no telling what is wrong with a
document that is none. -/

namespace Barrage.Toml

def isControl (c : Char) : Bool := (c.toNat < 0x20 && c ≠ '\t') || c.toNat = 0x7F

def skipBlanks (s : List Char) : List Char := s.dropWhile fun c => c = ' ' || c = '\t'

def lineEnd? : List Char → Option (List Char)
  | '\n' :: rest => some rest
  | '\r' :: '\n' :: rest => some rest
  | _ => none

def skipComment : List Char → Option (List Char)
  | [] => some []
  | '\n' :: rest => some ('\n' :: rest)
  | '\r' :: '\n' :: rest => some ('\r' :: '\n' :: rest)
  | c :: rest => if isControl c then none else skipComment rest

def skipLines : Nat → List Char → Option (List Char)
  | 0, s => some s
  | fuel + 1, s =>
    let s := skipBlanks s
    match s with
    | '#' :: rest => do skipLines fuel (← skipComment rest)
    | s =>
      match lineEnd? s with
      | some rest => skipLines fuel rest
      | none => some s

def endLine (s : List Char) : Option (List Char) :=
  match skipBlanks s with
  | [] => some []
  | '#' :: rest => do
    let rest ← skipComment rest
    if rest = [] then some [] else lineEnd? rest
  | s => lineEnd? s

def hexChar? (count : Nat) (s : List Char) : Option (Char × List Char) :=
  let ds := s.take count
  if ds.length = count ∧ ds.all Text.isHex then
    let n := basedValue 16 ds
    if h : n.isValidChar then some (Char.ofNatAux n h, s.drop count) else none
  else none

def escaped? : List Char → Option (Char × List Char)
  | 'b' :: rest => some ('\x08', rest)
  | 't' :: rest => some ('\t', rest)
  | 'n' :: rest => some ('\n', rest)
  | 'f' :: rest => some ('\x0C', rest)
  | 'r' :: rest => some ('\r', rest)
  | 'e' :: rest => some ('\x1B', rest)
  | '"' :: rest => some ('"', rest)
  | '\\' :: rest => some ('\\', rest)
  | 'x' :: rest => hexChar? 2 rest
  | 'u' :: rest => hexChar? 4 rest
  | 'U' :: rest => hexChar? 8 rest
  | _ => none

def basic : Nat → List Char → List Char → Option (String × List Char)
  | 0, _, _ => none
  | fuel + 1, acc, s =>
    match s with
    | [] => none
    | '"' :: rest => some (String.ofList acc.reverse, rest)
    | '\\' :: rest => do
      let (c, rest) ← escaped? rest
      basic fuel (c :: acc) rest
    | c :: rest => if isControl c then none else basic fuel (c :: acc) rest

def plain (acc : List Char) : List Char → Option (String × List Char)
  | [] => none
  | '\'' :: rest => some (String.ofList acc.reverse, rest)
  | c :: rest => if isControl c then none else plain (c :: acc) rest

def continued? (s : List Char) : Option (List Char) := do
  let rest ← lineEnd? (skipBlanks s)
  some (rest.dropWhile fun c => c = ' ' || c = '\t' || c = '\n' || c = '\r')

/-- The end of a string over several lines: three quotation marks, with up to two of the text in
front of them. -/
def closing? (quote : Char) (s : List Char) : Option (List Char × List Char) :=
  let run := (s.takeWhile (· = quote)).length
  if run < 3 then none
  else
    let kept := min (run - 3) 2
    some (List.replicate kept quote, s.drop (kept + 3))

def multiline (quote : Char) : Nat → List Char → List Char → Option (String × List Char)
  | 0, _, _ => none
  | fuel + 1, acc, s =>
    match closing? quote s with
    | some (kept, rest) => some (String.ofList (acc.reverse ++ kept), rest)
    | none =>
      match s with
      | [] => none
      | c :: rest =>
        if c = '\\' ∧ quote = '"' then
          match continued? rest with
          | some rest => multiline quote fuel acc rest
          | none => do
            let (c, rest) ← escaped? rest
            multiline quote fuel (c :: acc) rest
        else
          match lineEnd? s with
          | some rest => multiline quote fuel ('\n' :: acc) rest
          | none => if isControl c then none else multiline quote fuel (c :: acc) rest

/-- A string over several lines after its opening marks; a line end right there is left out. -/
def readMultiline (quote : Char) (s : List Char) : Option (String × List Char) :=
  multiline quote (s.length + 1) [] ((lineEnd? s).getD s)

def isBareChar (c : Char) : Bool := c.isAlphanum || c == '-' || c == '_'

def simpleKey? (s : List Char) : Option (Key × List Char) := do
  let (name, rest) ← match s with
    | '"' :: rest => basic (rest.length + 1) [] rest
    | '\'' :: rest => plain [] rest
    | s =>
      let name := s.takeWhile isBareChar
      if name = [] then none else some (String.ofList name, s.dropWhile isBareChar)
  some (⟨name, s.length, rest.length⟩, rest)

def dottedKey? : Nat → List Key → List Char → Option (List Key × Key × List Char)
  | 0, _, _ => none
  | fuel + 1, acc, s => do
    let (k, rest) ← simpleKey? s
    match skipBlanks rest with
    | '.' :: more => dottedKey? fuel (k :: acc) (skipBlanks more)
    | _ => some (acc.reverse, k, rest)

def isScalarChar (c : Char) : Bool :=
  c.isAlphanum || c == '+' || c == '-' || c == '_' || c == '.' || c == ':'

def readScalar (s : List Char) : Option (Value × List Char) := do
  let first := s.takeWhile isScalarChar
  let rest := s.dropWhile isScalarChar
  match date? first, rest with
  | some [], ' ' :: more =>
    let second := more.takeWhile isScalarChar
    if (second.head?.map Char.isDigit).getD false then
      let v ← scalar? (first ++ ' ' :: second)
      some (v, more.dropWhile isScalarChar)
    else some (.dateTime, rest)
  | _, _ => do
    let v ← scalar? first
    some (v, rest)

abbrev ValueReader := List Char → Option (Value × List Char)

def readItems (read : ValueReader) : Nat → List (Span × Value) → List Char →
    Option (List (Span × Value) × List Char)
  | 0, _, _ => none
  | fuel + 1, acc, s => do
    let s ← skipLines (s.length + 1) s
    match s with
    | ']' :: rest => some (acc.reverse, rest)
    | s =>
      let (v, rest) ← read s
      let acc := ((⟨s.length, rest.length⟩ : Span), v) :: acc
      match ← skipLines (rest.length + 1) rest with
      | ',' :: rest => readItems read fuel acc rest
      | ']' :: rest => some (acc.reverse, rest)
      | _ => none

def readPair (read : ValueReader) (s : List Char) :
    Option (List Key × Key × Span × Value × List Char) := do
  let (path, key, rest) ← dottedKey? (s.length + 1) [] s
  match skipBlanks rest with
  | '=' :: rest =>
    let s := skipBlanks rest
    let (v, rest) ← read s
    some (path, key, ⟨s.length, rest.length⟩, v, rest)
  | _ => none

def readEntries (read : ValueReader) : Nat → Entries → List Char → Option (Entries × List Char)
  | 0, _, _ => none
  | fuel + 1, entries, s => do
    let s ← skipLines (s.length + 1) s
    match s with
    | '\x7d' :: rest => some (entries, rest)
    | s =>
      let (path, key, span, v, rest) ← readPair read s
      let entries ← insertValue path key span v .header entries
      match ← skipLines (rest.length + 1) rest with
      | ',' :: rest => readEntries read fuel entries rest
      | '\x7d' :: rest => some (entries, rest)
      | _ => none

def readValue : Nat → ValueReader
  | 0, _ => none
  | depth + 1, s =>
    match s with
    | '"' :: '"' :: '"' :: rest => (readMultiline '"' rest).map fun (t, r) => (.string t, r)
    | '\'' :: '\'' :: '\'' :: rest => (readMultiline '\'' rest).map fun (t, r) => (.string t, r)
    | '"' :: rest => (basic (rest.length + 1) [] rest).map fun (t, r) => (.string t, r)
    | '\'' :: rest => (plain [] rest).map fun (t, r) => (.string t, r)
    | '[' :: rest =>
      if depth = 0 then none
      else (readItems (readValue depth) (rest.length + 1) [] rest).map fun (l, r) =>
        (.array false l, r)
    | '\x7b' :: rest =>
      if depth = 0 then none
      else (readEntries (readValue depth) (rest.length + 1) [] rest).map fun (l, r) =>
        (.table .braces l, r)
    | s => readScalar s

def deepest : Nat := 80

def readHeader (s : List Char) : Option (List Key × Key × List Char) := do
  let (path, key, rest) ← dottedKey? (s.length + 1) [] (skipBlanks s)
  match skipBlanks rest with
  | ']' :: rest => some (path, key, rest)
  | _ => none

def readLines : Nat → List Key → Entries → List Char → Option Entries
  | 0, _, _, _ => none
  | fuel + 1, header, root, s => do
    let s ← skipLines (s.length + 1) s
    match s with
    | [] => some root
    | '[' :: '[' :: rest =>
      let (path, key, rest) ← readHeader rest
      let rest ← mark? ']' rest
      let root ← openItem path key ⟨s.length, rest.length⟩ root
      readLines fuel (path ++ [key]) root (← endLine rest)
    | '[' :: rest =>
      let (path, key, rest) ← readHeader rest
      let root ← openTable path key ⟨s.length, rest.length⟩ root
      readLines fuel (path ++ [key]) root (← endLine rest)
    | s =>
      let (path, key, span, v, rest) ← readPair (readValue (deepest + 1)) s
      let root ← atHeader (insertValue path key span v) header root
      readLines fuel header root (← endLine rest)

def read? (document : List Char) : Option Entries :=
  let s := match document with
    | '\uFEFF' :: rest => rest
    | s => s
  readLines (s.length + 1) [] [] s

end Barrage.Toml
