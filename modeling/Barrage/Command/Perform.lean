import Barrage.Command.Complaint
import Barrage.Command.Help
import Barrage.Command.Order
import Barrage.Export.K6
import Barrage.History
import Barrage.Settings
import Barrage.Summary
import Barrage.Workspace

/-! Carrying out orders.
An order reads and changes the disk, says something on two channels, and ends in a verdict. -/

namespace Barrage.Command

structure Surroundings where
  disk : Disk
  environment : Settings.Environment
  engine : Engine
  startedAt : Instant
  /-- Nanoseconds since 1970. -/
  now : Int
  /-- Whether the first channel leads to a terminal. -/
  atTerminal : Bool

inductive Verdict where
  | success
  | failure (c : Complaint)
  /-- The deadline of a run was beyond the clock. -/
  | beyondClock
  | stopped (s : Stop)
  /-- The server may start, with its stores open and a limit for each request, in seconds. -/
  | serving (address : String) (limit : UInt64) (w : Workspace)

structure Ending where
  verdict : Verdict
  out : String
  err : String
  disk : Disk

def Verdict.code : Verdict → Nat
  | .success => 0
  | .failure _ => 1
  | .beyondClock => 101
  | .stopped .usage => 2
  | .stopped _ => 0
  | .serving .. => 0

namespace Ending

def success (out err : String) (disk : Disk) : Ending := ⟨.success, out, err, disk⟩

def failure (disk : Disk) (c : Complaint) : Ending := ⟨.failure c, "", "", disk⟩

end Ending

def loadScript (d : Disk) (path : String) : Except Complaint Script :=
  if !d.exists path then .error ⟨"Script file not found: " ++ path, []⟩
  else match d.readText path with
    | .error cause => .error ⟨"Failed to read script '" ++ path ++ "'", [cause.message]⟩
    | .ok text =>
      match Script.ofText text with
      | .ok s => .ok s
      | .error f => .error ⟨"Failed to parse script '" ++ path ++ "'",
          [f.message (Symbol.ofText text)]⟩

def keep (d : Disk) (directory : String) (now : Int) (r : RunResult) : String × Disk :=
  let failed (f : StoreFault) := "\nWarning: Failed to save result: " ++ f.message ++ "\n"
  match ResultStore.openAt d directory with
  | (.error f, d) => (failed f, d)
  | (.ok store, d) =>
    let saved := store.save d now r
    match saved.outcome with
    | .error f => (failed f, saved.disk)
    | .ok () =>
      ("\nResult written to: " ++ joinPath directory (ResultStore.fileName r) ++ "\n", saved.disk)

def announcement (p : Plan) : String :=
  "Running " ++ p.scriptId ++ " with " ++ toString p.users.toNat ++ " VUs for " ++
    toString p.seconds.toNat ++ "s...\n"

def runnable (d : Disk) (path : String) (users : UInt32) (seconds : UInt64) (kind : TestKind) :
    Except Complaint (Script × Plan) := do
  let script ← loadScript d path
  script.check.mapError fun f => ⟨"Invalid script '" ++ path ++ "': " ++ f.message, []⟩
  .ok (script, ⟨script.id, kind, users, seconds⟩)

def Surroundings.run (s : Surroundings) (settings : Settings) (path : String) (users : UInt32)
    (seconds : UInt64) (kind : TestKind) (keepsResult plain : Bool) : Ending :=
  match runnable s.disk path users seconds kind with
  | .error c => .failure s.disk c
  | .ok (script, plan) =>
    match s.engine.run s.startedAt script plan with
    | none => ⟨.beyondClock, "", announcement plan, s.disk⟩
    | some r =>
      let (report, disk) :=
        if keepsResult then keep s.disk settings.resultsDirectory s.now r else ("", s.disk)
      .success (Summary.render (s.atTerminal && !plain) r plan script ++ "\n")
        (announcement plan ++ report) disk

def withResults (d : Disk) (settings : Settings) (act : ResultStore → Disk → Ending) : Ending :=
  match ResultStore.openAt d settings.resultsDirectory with
  | (.error f, d) => .failure d (.ofStore "Failed to open result store" f)
  | (.ok store, d) => act store d

def Surroundings.history (s : Surroundings) (settings : Settings) (scriptId : Option String)
    (asDocument : Bool) : Ending :=
  withResults s.disk settings fun store d =>
    let found := match scriptId with
      | some id => store.findByScript d id
      | none => store.findAll d
    match found with
    | .error f => .failure d (.ofFault f)
    | .ok rs =>
      if asDocument then
        .success ((Json.Value.array (rs.map RunResult.toValue)).pretty ++ "\n") "" d
      else if rs.isEmpty then
        .success "" ("No stored results in " ++ settings.resultsDirectory ++ "\n") d
      else .success (History.table rs) "" d

def Surroundings.cleanup (s : Surroundings) (settings : Settings) (days : UInt64) : Ending :=
  withResults s.disk settings fun _ d =>
    match ResultStore.cleanup settings.resultsDirectory d s.now (Settings.daySeconds days) with
    | .error f => .failure d (.ofFault f)
    | .ok (removed, d) =>
      .success ("Removed " ++ toString removed ++ " result file(s) older than " ++
        toString days.toNat ++ " day(s) from " ++ settings.resultsDirectory ++ "\n") "" d

def Surroundings.k6 (s : Surroundings) (path : String) (users : UInt32) (seconds : UInt64) : Ending :=
  match loadScript s.disk path with
  | .error c => .failure s.disk c
  | .ok script => .success (K6.file script ⟨script.id, .load, users, seconds⟩) "" s.disk

def addressFault? (address : String) : Option String :=
  match Text.splitLast? ':' address.toList with
  | none => some "invalid socket address"
  | some (_, port) =>
    if (Decimal.word16? (String.ofList port)).isSome then none else some "invalid port value"

def prune (d : Disk) (settings : Settings) (now : Int) : Disk :=
  match settings.retentionSeconds.map (ResultStore.cleanup settings.resultsDirectory d now) with
  | some (.ok (_, d)) => d
  | _ => d

def Surroundings.serve (s : Surroundings) (settings : Settings) (bind : Option String) : Ending :=
  let address := bind.getD settings.bind
  match ScriptStore.openAt s.disk settings.scriptsDirectory with
  | (.error f, d) => .failure d (.ofStore "Failed to open script store" f)
  | (.ok scripts, d) =>
    withResults d settings fun results d =>
      let d := prune d settings s.now
      match addressFault? address with
      | some cause => .failure d ⟨"Failed to bind " ++ address, [cause]⟩
      | none => ⟨.serving address settings.timeoutSeconds ⟨scripts, results, d⟩, "", "", d⟩

def Order.perform (s : Surroundings) (settings : Settings) : Order → Ending
  | .run script users seconds kind keepsResult plain =>
    s.run settings script users seconds kind keepsResult plain
  | .serve bind => s.serve settings bind
  | .history scriptId asDocument => s.history settings scriptId asDocument
  | .k6 script users seconds => s.k6 script users seconds
  | .cleanup days => s.cleanup settings days

def Order.toRun? (d : Disk) : Order → Option (Script × Plan)
  | .run script users seconds kind _ _ => (runnable d script users seconds kind).toOption
  | _ => none

def Invocation.perform (s : Surroundings) (i : Invocation) : Ending :=
  match Settings.load s.disk i.config s.environment with
  | .error f => .failure s.disk ⟨"Failed to load configuration", [f.message]⟩
  | .ok settings => i.order.perform s settings

def configVariable : String := "LOADRIG_CONFIG"

def perform (s : Surroundings) (args : List String) : Ending :=
  match Invocation.ofArguments (Settings.valueOf? s.environment configVariable) args with
  | .ok i => i.perform s
  | .error stop => ⟨.stopped stop, stop.out, stop.err, s.disk⟩

end Barrage.Command
