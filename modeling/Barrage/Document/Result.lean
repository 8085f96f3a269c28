import Barrage.Document.Script
import Barrage.Instant.Reading
import Barrage.Load.Result

/-! Records of runs as documents.
The failures by category are not written when there are none. -/

namespace Barrage
open Json

def readInstant : Reader Instant :=
  readNamed "an RFC 3339 formatted date and time string" fun t =>
    (Instant.ofText t).mapError fun f => .unreadable f.message

def wordValue (n : UInt64) : Value := .natural n.toNat

def RunResult.toValue (r : RunResult) : Value :=
  .object <|
    [("testId", .string r.testId), ("scriptId", .string r.scriptId),
      ("totalRequests", wordValue r.totalRequests), ("success", wordValue r.success),
      ("failure", wordValue r.failure), ("avgLatencyMs", wordValue r.averageMillis),
      ("p90LatencyMs", wordValue r.p90Millis), ("p95LatencyMs", wordValue r.p95Millis),
      ("p99LatencyMs", wordValue r.p99Millis), ("rps", .real r.rate),
      ("iterations", wordValue r.iterations),
      ("startedAt", .string (String.ofList r.startedAt.text))] ++
    (if r.errors.isEmpty then [] else [("errors", r.errors.toValue wordValue)])

structure RunResult.Draft where
  testId : Option String := none
  scriptId : Option String := none
  totalRequests : Option UInt64 := none
  success : Option UInt64 := none
  failure : Option UInt64 := none
  averageMillis : Option UInt64 := none
  p90Millis : Option UInt64 := none
  p95Millis : Option UInt64 := none
  p99Millis : Option UInt64 := none
  rate : Option Binary64 := none
  iterations : Option UInt64 := none
  startedAt : Option Instant := none
  errors : Option (Dict UInt64) := none

def RunResult.record : Record RunResult.Draft RunResult where
  name := "TestResult"
  empty := {}
  fields := [
    .of "testId" false (·.testId) (fun d v => { d with testId := some v }) readString,
    .of "scriptId" false (·.scriptId) (fun d v => { d with scriptId := some v }) readString,
    .of "totalRequests" false (·.totalRequests) (fun d v => { d with totalRequests := some v })
      readWord64,
    .of "success" false (·.success) (fun d v => { d with success := some v }) readWord64,
    .of "failure" false (·.failure) (fun d v => { d with failure := some v }) readWord64,
    .of "avgLatencyMs" false (·.averageMillis) (fun d v => { d with averageMillis := some v })
      readWord64,
    .of "p90LatencyMs" false (·.p90Millis) (fun d v => { d with p90Millis := some v }) readWord64,
    .of "p95LatencyMs" false (·.p95Millis) (fun d v => { d with p95Millis := some v }) readWord64,
    .of "p99LatencyMs" false (·.p99Millis) (fun d v => { d with p99Millis := some v }) readWord64,
    .of "rps" false (·.rate) (fun d v => { d with rate := some v }) readReal,
    .of "iterations" false (·.iterations) (fun d v => { d with iterations := some v }) readWord64,
    .of "startedAt" false (·.startedAt) (fun d v => { d with startedAt := some v }) readInstant,
    .of "errors" true (·.errors) (fun d v => { d with errors := some v }) (readMap readWord64)]
  build d := {
    testId := d.testId.getD ""
    scriptId := d.scriptId.getD ""
    totalRequests := d.totalRequests.getD 0
    success := d.success.getD 0
    failure := d.failure.getD 0
    averageMillis := d.averageMillis.getD 0
    p90Millis := d.p90Millis.getD 0
    p95Millis := d.p95Millis.getD 0
    p99Millis := d.p99Millis.getD 0
    rate := d.rate.getD .zero
    iterations := d.iterations.getD 0
    startedAt := d.startedAt.getD default
    errors := d.errors.getD {} }

end Barrage
