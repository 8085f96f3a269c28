import Barrage.Document.Result
import Barrage.Store.Fault

/-! The history of runs.
A store on a disk keeps each result as a file that is named for the script and the start of the run,
and reads the directory anew for every question. Old files can be removed by their age. -/

namespace Barrage

structure ResultStore where
  /-- The directory of the files, none for a store without a disk. -/
  directory : Option String
  /-- The results of a store without a disk, in the order of saving. -/
  results : List RunResult

namespace ResultStore

def memory : ResultStore := ⟨none, []⟩

def openAt (d : Disk) (directory : String) : Except StoreFault ResultStore × Disk :=
  match d.makeDirectories directory with
  | (.error cause, d) => (.error ⟨directory, cause⟩, d)
  | (.ok (), d) => (.ok ⟨some directory, []⟩, d)

def start : String := "result-"

def fileName (r : RunResult) : String :=
  String.ofList (start.toList ++ fileStem r.scriptId ++ '-' :: r.startedAt.stamp ++ ".json".toList)

def isResultName (name : FileName) : Bool :=
  match name with
  | .text s => start.toList.isPrefixOf s.toList && ".json".toList.isSuffixOf s.toList
  | .bytes _ => false

/-- The newest first; results with the same start stay in their order. -/
def newestFirst (rs : List RunResult) : List RunResult :=
  rs.mergeSort fun a b => b.startedAt.le a.startedAt

def file? (d : Disk) (directory : Path) (name : FileName) : Option File :=
  match d.node? (directory ++ [name]) with
  | some (.file f) => if isResultName name then some f else none
  | _ => none

def resultIn? (d : Disk) (directory : Path) (name : FileName) : Option RunResult := do
  let f ← file? d directory name
  let text ← (Disk.Node.text (.file f)).toOption
  (Json.readText RunResult.record.read text).toOption

def save (store : ResultStore) (d : Disk) (now : Int) (r : RunResult) : Saved ResultStore :=
  match store.directory with
  | none => ⟨.ok (), { store with results := store.results ++ [r] }, d⟩
  | some directory =>
    let (written, d) := d.writeIn now directory (fileName r) r.toValue.pretty
    ⟨StoreFault.of (joinPath directory (fileName r)) written, store, d⟩

def findAll (store : ResultStore) (d : Disk) : Except StoreFault (List RunResult) :=
  match store.directory with
  | none => .ok (newestFirst store.results)
  | some directory => do
    let (p, names) ← StoreFault.of directory (d.list directory)
    .ok (newestFirst (names.filterMap (resultIn? d p)))

def findByScript (store : ResultStore) (d : Disk) (id : String) :
    Except StoreFault (List RunResult) :=
  (store.findAll d).map fun rs => rs.filter fun r => r.scriptId == id

def earliest : Int := -9223372036854775808

/-- The time before which files are old: some time ago, or 1970 if clocks do not reach back that
far. -/
def cutoffOf (now : Int) (age : Duration) : Int :=
  let t := now - age.toNanos
  if t.fdiv 1000000000 < earliest then 0 else t

def cutoff (now : Int) (seconds : UInt64) : Int := cutoffOf now (.ofSeconds seconds)

/-- Whether a file is removed: it is of the history, known to be older than the time, and removable. -/
def isOld (d : Disk) (directory : Path) (before : Int) (name : FileName) : Bool :=
  match file? d directory name with
  | none => false
  | some f =>
    match f.modified with
    | none => false
    | some t => t < before && f.removable

def prune (old : FileName → Bool) (directory : Path) (names : List FileName) (d : Disk) :
    Nat × Disk :=
  names.foldl (fun (n, d) name => if old name then (n + 1, d.erase (directory ++ [name])) else (n, d))
    (0, d)

def removeOlder (directory : String) (d : Disk) (now : Int) (age : Duration) :
    Except StoreFault (Nat × Disk) := do
  let (p, names) ← StoreFault.of directory (d.list directory)
  .ok (prune (isOld d p (cutoffOf now age)) p names d)

def cleanup (directory : String) (d : Disk) (now : Int) (seconds : UInt64) :
    Except StoreFault (Nat × Disk) := removeOlder directory d now (.ofSeconds seconds)

end ResultStore
end Barrage
