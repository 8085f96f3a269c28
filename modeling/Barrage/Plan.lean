import Barrage.Text.Ascii

/-! What a run is asked to do: which script, how many virtual users, and for how long. -/

namespace Barrage

/-- A label for the purpose of a run; it does not change how the run behaves. -/
inductive TestKind where
  | smoke
  | load
  | stress
  | spike
  deriving DecidableEq, Repr

namespace TestKind

instance : Inhabited TestKind := ⟨.load⟩

def name : TestKind → String
  | .smoke => "smoke"
  | .load => "load"
  | .stress => "stress"
  | .spike => "spike"

def all : List TestKind := [.smoke, .load, .stress, .spike]

def named? (s : String) : Option TestKind := all.find? (fun k => k.name == s)

def ofText (s : String) : Except String TestKind :=
  match named? (Text.lower s) with
  | some k => .ok k
  | none => .error ("unknown test type '" ++ Text.lower s ++
      "' (expected smoke, load, stress or spike)")

@[simp] theorem named?_name (k : TestKind) : named? k.name = some k := by
  cases k <;> decide

end TestKind

structure Plan where
  scriptId : String
  kind : TestKind
  users : UInt32
  /-- How long users go on starting iterations, in seconds. -/
  seconds : UInt64
  deriving DecidableEq, Repr, Inhabited

end Barrage
