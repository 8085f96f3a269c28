import Barrage.Command.Perform
import Barrage.World.Server

/-! The program: what arguments ask for, done to the real file system and over the real network. -/

namespace Barrage.World

open Command

def environment : IO Settings.Environment :=
  (configVariable :: Settings.variableNames).filterMapM fun name => do
    return (← IO.getEnv name).map (name, ·)

def lookAtSettings (d : Disk) (config : Option String) : IO Disk := do
  let d ← look d Settings.usualPath
  match config with
  | some path => look d path
  | none => return d

def lookAround (d : Disk) (settings : Settings) (order : Order) : IO Disk := do
  let d ← look d settings.resultsDirectory
  match order, order.script? with
  | _, some path => look d path
  | .serve _, none => look d settings.scriptsDirectory
  | _, none => return d

def surroundings (args : List String) : IO Surroundings := do
  let environment ← environment
  let atTerminal ← (← IO.getStdout).isTty
  let unknown ← start
  let invocation? :=
    (Invocation.ofArguments (Settings.valueOf? environment configVariable) args).toOption
  let disk ← lookAtSettings unknown (invocation?.bind Invocation.config)
  let settings? := invocation?.bind fun i => (Settings.load disk i.config environment).toOption
  match invocation?, settings? with
  | some i, some settings =>
    let disk ← lookAround disk settings i.order
    let startedAt ← now
    let engine ← (engineFor settings.timeoutSeconds.toNat (i.order.toRun? disk)).block
    return ⟨disk, environment, engine, .ofNanos startedAt, ← now, atTerminal⟩
  | _, _ =>
    let startedAt ← now
    return ⟨disk, environment, ← (engineFor 0 none).block, .ofNanos startedAt, startedAt, atTerminal⟩

def program (args : List String) : IO UInt32 := do
  let s ← surroundings args
  let ending := perform s args
  IO.print ending.out
  try commit s.disk ending.disk catch e => IO.eprintln ("Warning: " ++ toString e)
  IO.eprint ending.err
  match ending.verdict with
  | .failure complaint => IO.eprint complaint.text
  | .serving address limit space =>
    try (serve address limit.toNat space).block
    catch e =>
      IO.eprint (Complaint.text ⟨"Failed to bind " ++ address, [toString e]⟩)
      return 1
  | _ => pure ()
  return UInt32.ofNat ending.verdict.code

end Barrage.World

def main (args : List String) : IO UInt32 := Barrage.World.program args
