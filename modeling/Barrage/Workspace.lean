import Barrage.Script.OfUrl
import Barrage.Load.Engine
import Barrage.Load.Validation
import Barrage.Store.Results
import Barrage.Store.Scripts

/-! Scripts, their runs, and the history of runs, in one place. -/

namespace Barrage

structure Workspace where
  scripts : ScriptStore
  results : ResultStore
  disk : Disk

inductive WorkspaceFault where
  | script (f : ScriptFault)
  | url (r : UrlRefusal)
  | store (f : StoreFault)
  deriving DecidableEq, Repr

def WorkspaceFault.message : WorkspaceFault → String
  | .script f => f.message
  | .url r => r.message
  | .store f => f.message

namespace Workspace

def createScript (w : Workspace) (now : Int) (freshId url : String) :
    Except WorkspaceFault Script × Workspace :=
  match Script.ofUrl freshId url with
  | .error refusal => (.error (.url refusal), w)
  | .ok s =>
    let saved := w.scripts.save w.disk now s
    let w : Workspace := { w with scripts := saved.store, disk := saved.disk }
    match saved.outcome with
    | .error f => (.error (.store f), w)
    | .ok () => (.ok s, w)

/-- Save a result, and go on with what there is then if that fails. -/
def keepResult (w : Workspace) (now : Int) (r : RunResult) : Workspace :=
  let saved := w.results.save w.disk now r
  { w with results := saved.store, disk := saved.disk }

inductive RunEnd where
  /-- Nothing ran, since there is no such script or it is not fit to run. -/
  | refused (f : ScriptFault)
  /-- The deadline was beyond the clock. -/
  | beyondClock
  | done (r : RunResult)
  deriving DecidableEq

def runnable (w : Workspace) (p : Plan) : Except ScriptFault Script :=
  checkFound p.scriptId (w.scripts.find? p.scriptId)

/-- The end of a run and the state after it: a result is kept, and none means that the deadline was
beyond the clock. -/
def finishRun (w : Workspace) (now : Int) : Option RunResult → RunEnd × Workspace
  | none => (.beyondClock, w)
  | some r => (.done r, w.keepResult now r)

def runTest (w : Workspace) (e : Engine) (startedAt : Instant) (now : Int) (p : Plan) :
    RunEnd × Workspace :=
  match w.runnable p with
  | .error f => (.refused f, w)
  | .ok s => w.finishRun now (e.run startedAt s p)

def history (w : Workspace) (scriptId : Option String) :
    Except StoreFault (List RunResult) :=
  match scriptId with
  | some id => w.results.findByScript w.disk id
  | none => w.results.findAll w.disk

end Workspace
end Barrage
