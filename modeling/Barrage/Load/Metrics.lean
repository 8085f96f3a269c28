import Barrage.Dict
import Barrage.Load.Outcome

/-! Counts over the requests of a run, and the latency of each in the order of recording. -/

namespace Barrage

structure Metrics where
  total : Nat
  success : Nat
  failure : Nat
  /-- Milliseconds, in record order. -/
  latencies : List UInt64
  /-- How many failures there are of each category that occurred. -/
  categories : Dict Nat
  deriving DecidableEq

namespace Metrics

def empty : Metrics := ⟨0, 0, 0, [], {}⟩

instance : Inhabited Metrics := ⟨empty⟩

def countFailure (counts : Dict Nat) (f : Failure) : Dict Nat :=
  counts.alter f.category (fun n => n.getD 0 + 1)

def record (m : Metrics) (s : Sample) : Metrics :=
  match s.outcome with
  | .ok () => ⟨m.total + 1, m.success + 1, m.failure, m.latencies ++ [s.millis], m.categories⟩
  | .error f => ⟨m.total + 1, m.success, m.failure + 1, m.latencies ++ [s.millis],
      countFailure m.categories f⟩

def recordAll (m : Metrics) (samples : List Sample) : Metrics := samples.foldl record m

@[simp] theorem total_record (m : Metrics) (s : Sample) : (m.record s).total = m.total + 1 := by
  unfold record; split <;> rfl

@[simp] theorem latencies_record (m : Metrics) (s : Sample) :
    (m.record s).latencies = m.latencies ++ [s.millis] := by
  unfold record; split <;> rfl

end Metrics
end Barrage
