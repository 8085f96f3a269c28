import Barrage.Document.Script
import Barrage.Store.Fault

/-! Stores of scripts, keyed by identifier.
A store on a disk keeps each script as a file of its directory. It reads them all when it is opened;
a save writes the file first and counts only if that succeeds. -/

namespace Barrage

structure ScriptStore where
  /-- The directory of the files, none for a store without a disk. -/
  directory : Option String
  scripts : Dict Script

namespace ScriptStore

def memory : ScriptStore := ⟨none, {}⟩

def endsIn [BEq α] (ending l : List α) : Bool := ending.length < l.length && ending.isSuffixOf l

/-- Whether a file with this name is read as a script: it has the extension `json`. -/
def isScriptFile : FileName → Bool
  | .text s => endsIn ".json".toList s.toList
  | .bytes b => endsIn ".json".toUTF8.toList b

def scriptIn? (d : Disk) (directory : Path) (name : FileName) : Option Script := do
  let node ← d.node? (directory ++ [name])
  if isScriptFile name then
    let text ← (Disk.Node.text node).toOption
    (Script.ofText text).toOption
  else none

/-- The scripts in the files of a directory, under their own identifiers. -/
def load (d : Disk) (directory : Path) (names : List FileName) : Dict Script :=
  names.foldl (fun scripts name =>
    match scriptIn? d directory name with
    | some s => scripts.insert s.id s
    | none => scripts) {}

def openAt (d : Disk) (directory : String) : Except StoreFault ScriptStore × Disk :=
  match d.makeDirectories directory with
  | (.error cause, d) => (.error ⟨directory, cause⟩, d)
  | (.ok (), d) =>
    match d.list directory with
    | .error cause => (.error ⟨directory, cause⟩, d)
    | .ok (p, names) => (.ok ⟨some directory, load d p names⟩, d)

def fileName (id : String) : String := String.ofList (fileStem id ++ ".json".toList)

/-- Insert a script or replace the one of its identifier. The file is written first. -/
def save (store : ScriptStore) (d : Disk) (now : Int) (s : Script) : Saved ScriptStore :=
  let inserted : ScriptStore := { store with scripts := store.scripts.insert s.id s }
  match store.directory with
  | none => ⟨.ok (), inserted, d⟩
  | some directory =>
    match d.writeIn now directory (fileName s.id) s.toValue.pretty with
    | (.error cause, d) => ⟨.error ⟨joinPath directory (fileName s.id), cause⟩, store, d⟩
    | (.ok (), d) => ⟨.ok (), inserted, d⟩

def find? (store : ScriptStore) (id : String) : Option Script := store.scripts.get? id

def findAll (store : ScriptStore) : List Script := store.scripts.values

end ScriptStore
end Barrage
