import Barrage.Number.Decimals
import Barrage.Text.Ascii

/-! Documents as values, and their two layouts: on one line, and indented by two blanks. -/

namespace Barrage.Json

inductive Value where
  | null
  | boolean (b : Bool)
  | natural (n : Nat)
  | real (x : Binary64)
  | string (s : String)
  | array (items : List Value)
  /-- Members in the order of writing. -/
  | object (members : List (String × Value))

instance : Inhabited Value := ⟨.null⟩

def escape (c : Char) : List Char :=
  if c = '"' then ['\\', '"']
  else if c = '\\' then ['\\', '\\']
  else if c = '\n' then ['\\', 'n']
  else if c = '\r' then ['\\', 'r']
  else if c = '\t' then ['\\', 't']
  else if c.toNat = 0x08 then ['\\', 'b']
  else if c.toNat = 0x0C then ['\\', 'f']
  else if c.toNat < 0x20 then
    ['\\', 'u', '0', '0', Text.hexDigit false (c.toNat / 16), Text.hexDigit false (c.toNat % 16)]
  else [c]

def quote (s : String) : List Char := '"' :: s.toList.flatMap escape ++ ['"']

def realText : Binary64 → List Char
  | .finite s r => Binary64.text Binary64.documentStyle (.finite s r)
  | _ => ['n', 'u', 'l', 'l']

inductive Layout where
  | compact
  | pretty
  deriving DecidableEq, Repr

namespace Layout

/-- What separates an opening bracket, a comma or the last item from what follows it, at a depth. -/
def gap (l : Layout) (depth : Nat) : List Char :=
  match l with
  | .compact => []
  | .pretty => '\n' :: List.replicate (2 * depth) ' '

def colon : Layout → List Char
  | .compact => [':']
  | .pretty => [':', ' ']

end Layout

mutual

def Value.write (l : Layout) (depth : Nat) : Value → List Char
  | .null => ['n', 'u', 'l', 'l']
  | .boolean b => if b then ['t', 'r', 'u', 'e'] else ['f', 'a', 'l', 's', 'e']
  | .natural n => Decimal.digits n
  | .real x => realText x
  | .string s => quote s
  | .array [] => ['[', ']']
  | .array (v :: rest) =>
    '[' :: l.gap (depth + 1) ++ v.write l (depth + 1) ++ writeItems l depth rest ++ [']']
  | .object [] => ['\x7b', '\x7d']
  | .object ((k, v) :: rest) =>
    '\x7b' :: l.gap (depth + 1) ++ quote k ++ l.colon ++ v.write l (depth + 1) ++
      writeMembers l depth rest ++ ['\x7d']

def writeItems (l : Layout) (depth : Nat) : List Value → List Char
  | [] => l.gap depth
  | v :: rest => ',' :: l.gap (depth + 1) ++ v.write l (depth + 1) ++ writeItems l depth rest

def writeMembers (l : Layout) (depth : Nat) : List (String × Value) → List Char
  | [] => l.gap depth
  | (k, v) :: rest => ',' :: l.gap (depth + 1) ++ quote k ++ l.colon ++ v.write l (depth + 1) ++
      writeMembers l depth rest

end

def Value.text (l : Layout) (v : Value) : String := String.ofList (v.write l 0)

def Value.compact (v : Value) : String := v.text .compact

def Value.pretty (v : Value) : String := v.text .pretty

end Barrage.Json
