import Barrage.Number.Binary64

/-! Settings documents as trees.
Every value knows where it stands in the document. Tables know how they came about, since that
decides which of them later lines may extend. -/

namespace Barrage.Toml

/-- A part of a document, by the number of characters that are left at its start and at its end. -/
structure Span where
  start : Nat
  stop : Nat
  deriving DecidableEq, Repr, Inhabited

inductive Origin where
  /-- By a header of its own. -/
  | header
  /-- As the parent of a table with a header. -/
  | implied
  /-- As the parent in a dotted key. -/
  | dotted
  /-- As a value in braces, which nothing extends. -/
  | braces
  deriving DecidableEq, Repr

inductive Value where
  | string (s : String)
  | integer (n : Int)
  | real (x : Binary64)
  | boolean (b : Bool)
  | dateTime
  /-- The items of a value in brackets, or tables with headers in double brackets. -/
  | array (tables : Bool) (items : List (Span × Value))
  | table (origin : Origin) (entries : List (String × Span × Value))

instance : Inhabited Value := ⟨.boolean false⟩

abbrev Entries := List (String × Span × Value)

structure Key where
  name : String
  span : Span
  deriving Repr

def Entries.set (name : String) (v : Span × Value) : Entries → Entries
  | [] => []
  | (n, w) :: rest => if n = name then (n, v) :: rest else (n, w) :: Entries.set name v rest

def Entries.get? (name : String) : Entries → Option (Span × Value)
  | [] => none
  | (n, w) :: rest => if n = name then some w else Entries.get? name rest

/-- Change the table that keys lead to, starting from some entries of a table; missing tables on the
way come about as `origin` says. Dotted keys lead only through tables that have no header. -/
def descend (origin : Origin) (change : Origin → Entries → Option Entries) :
    List Key → Origin → Entries → Option Entries
  | [], own, entries => change own entries
  | k :: rest, _, entries =>
    match Entries.get? k.name entries with
    | none => do
      let inner ← descend origin change rest origin []
      some (entries ++ [(k.name, k.span, .table origin inner)])
    | some (span, .table own inner) =>
      if own = .braces ∨ (origin = .dotted ∧ own = .header) then none
      else do
        let inner ← descend origin change rest own inner
        some (Entries.set k.name (span, .table own inner) entries)
    | some (span, .array true items) =>
      match items.getLast? with
      | some (s, .table own inner) => do
        if origin = .dotted then none
        let inner ← descend origin change rest own inner
        some (Entries.set k.name (span, .array true (items.dropLast ++ [(s, .table own inner)])) entries)
      | _ => none
    | some _ => none

def insertValue (path : List Key) (key : Key) (span : Span) (v : Value) (own : Origin)
    (entries : Entries) : Option Entries :=
  descend .dotted (fun own entries =>
    if path ≠ [] ∧ own ≠ .dotted then none
    else match Entries.get? key.name entries with
      | some _ => none
      | none => some (entries ++ [(key.name, span, v)])) path own entries

def openTable (path : List Key) (key : Key) (span : Span) (root : Entries) : Option Entries :=
  descend .implied (fun _ entries =>
    match Entries.get? key.name entries with
    | none => some (entries ++ [(key.name, span, .table .header [])])
    | some (_, .table .implied inner) =>
      some (Entries.set key.name (span, .table .header inner) entries)
    | some _ => none) path .header root

def openItem (path : List Key) (key : Key) (span : Span) (root : Entries) : Option Entries :=
  descend .implied (fun _ entries =>
    match Entries.get? key.name entries with
    | none => some (entries ++ [(key.name, span, .array true [(span, .table .header [])])])
    | some (s, .array true items) =>
      some (Entries.set key.name (s, .array true (items ++ [(span, .table .header [])])) entries)
    | some _ => none) path .header root

def atHeader (change : Origin → Entries → Option Entries) (path : List Key) (root : Entries) :
    Option Entries :=
  descend .implied change path .header root

mutual

def Value.fits : Value → Bool
  | .integer n => -9223372036854775808 ≤ n && n ≤ 9223372036854775807
  | .array _ items => itemsFit items
  | .table _ entries => entriesFit entries
  | _ => true

def itemsFit : List (Span × Value) → Bool
  | [] => true
  | (_, v) :: rest => v.fits && itemsFit rest

def entriesFit : List (String × Span × Value) → Bool
  | [] => true
  | (_, _, v) :: rest => v.fits && entriesFit rest

end

end Barrage.Toml
