import Barrage.Found
import Barrage.Toml.Reader

/-! Taking typed values out of settings documents.
A group of settings is a table, or an array of its values in order; keys that it does not know are
passed over, and missing ones keep what they were. -/

namespace Barrage.Toml

/-- A value that does not fit, with the part of the document that it takes. -/
structure Fault where
  misfit : Misfit
  span : Span
  deriving DecidableEq, Repr

def Value.found : Value → Found
  | .string s => .string s
  | .integer n => .integer n
  | .real x => .real x
  | .boolean b => .boolean b
  | .dateTime => .map
  | .array _ _ => .sequence
  | .table _ _ => .map

def mismatch (expected : String) (v : Span × Value) : Fault := ⟨.type v.2.found expected, v.1⟩

def textOf (expected : String) (v : Span × Value) : Except Fault String :=
  match v.2 with
  | .string s => .ok s
  | _ => .error (mismatch expected v)

def wordOf (v : Span × Value) : Except Fault UInt64 :=
  match v.2 with
  | .integer n =>
    if n < 0 then .error ⟨.value v.2.found "u64", v.1⟩
    else if n < UInt64.size then .ok (UInt64.ofNat n.toNat)
    else .error (mismatch "u64" v)
  | _ => .error (mismatch "u64" v)

structure Setting (σ : Type) where
  name : String
  put : σ → Span × Value → Except Fault σ

def Setting.of (name : String) (read : Span × Value → Except Fault α) (put : σ → α → σ) :
    Setting σ :=
  ⟨name, fun s v => (read v).map (put s)⟩

def takeEntries (known : List (Setting σ)) (s : σ) (entries : Entries) : Except Fault σ :=
  (entries.mergeSort fun a b => a.1 ≤ b.1).foldlM (fun s e =>
    match known.find? (·.name == e.1) with
    | some k => k.put s e.2
    | none => .ok s) s

def takeItems (known : List (Setting σ)) (s : σ) (items : List (Span × Value)) : Except Fault σ :=
  (known.zip items).foldlM (fun s e => e.1.put s e.2) s

def takeGroup (expected : String) (known : List (Setting σ)) (s : σ) (v : Span × Value) :
    Except Fault σ :=
  match v.2 with
  | .table _ entries => takeEntries known s entries
  | .array _ items => takeItems known s items
  | .dateTime => .ok s
  | _ => .error (mismatch expected v)

/-- The line of a document that a place is on, with the number of lines before it, and what of the
line stands before the place. -/
def lineAt (document : List Char) (start : Nat) : Nat × List Char × List Char :=
  let before := document.take (document.length - start)
  let column := (before.reverse.takeWhile (· ≠ '\n')).reverse
  let after := (document.drop (before.length - column.length)).takeWhile (· ≠ '\n')
  (before.count '\n', after, column)

def bytes (cs : List Char) : Nat := cs.foldl (fun n c => n + c.utf8Size) 0

def Fault.message (document : List Char) (f : Fault) : String :=
  let (lines, line, before) := lineAt document f.span.start
  let number := toString (lines + 1)
  let gutter := String.ofList (List.replicate (number.length + 1) ' ')
  let span := (document.drop (document.length - f.span.start)).take (f.span.start - f.span.stop)
  let marks := max 1 (min (bytes span) (bytes line - before.length))
  "TOML parse error at line " ++ number ++ ", column " ++ toString (before.length + 1) ++ "\n" ++
    gutter ++ "|\n" ++
    number ++ " | " ++ String.ofList line ++ "\n" ++
    gutter ++ "|" ++ String.ofList (List.replicate (before.length + 1) ' ') ++
    String.ofList (List.replicate marks '^') ++ "\n" ++
    f.misfit.message Binary64.plainStyle ++ "\n"

end Barrage.Toml
