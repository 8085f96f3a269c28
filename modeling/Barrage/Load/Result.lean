import Barrage.Instant
import Barrage.Plan
import Barrage.Load.Latency
import Barrage.Load.Run

/-! The record of a completed run, and how a run leads to one. -/

namespace Barrage

structure RunResult where
  testId : String
  scriptId : String
  totalRequests : UInt64
  success : UInt64
  failure : UInt64
  averageMillis : UInt64
  p90Millis : UInt64
  p95Millis : UInt64
  p99Millis : UInt64
  /-- Requests per second over the time that the run took. -/
  rate : Binary64
  iterations : UInt64
  startedAt : Instant
  /-- Failures by category. -/
  errors : Dict UInt64
  deriving DecidableEq

namespace RunResult

def failureRate (r : RunResult) : Binary64 :=
  if r.totalRequests = 0 then .zero
  else Binary64.ofNat r.failure.toNat / Binary64.ofNat r.totalRequests.toNat

def ofMetrics (plan : Plan) (m : Metrics) (iterations : Nat) (elapsed : Duration)
    (startedAt : Instant) : RunResult :=
  let latency := Latency.Summary.of m.latencies
  { testId := startedAt.runId
    scriptId := plan.scriptId
    totalRequests := UInt64.ofNat m.total
    success := UInt64.ofNat m.success
    failure := UInt64.ofNat m.failure
    averageMillis := latency.average
    p90Millis := latency.p90
    p95Millis := latency.p95
    p99Millis := latency.p99
    rate := Latency.perSecond (UInt64.ofNat m.total) elapsed
    iterations := UInt64.ofNat iterations
    startedAt := startedAt
    errors := m.categories.map UInt64.ofNat }

end RunResult
end Barrage
