import Barrage.Number.Binary64
import Barrage.Load.Outcome

/-! Statistics over latency samples, and throughput. -/

namespace Barrage.Latency

/-- The rank `p * n / 100`, rounded down and held within the sample. -/
def rank (n : Nat) (p : Binary64) : Nat :=
  (p.orZero * Binary64.ofNat n / Binary64.ofNat 100).floorUpTo (n - 1)

/-- The nearest-rank percentile of an ascending sample; zero for an empty one. -/
def percentile (sorted : List UInt64) (p : Binary64) : UInt64 :=
  sorted.getD (rank sorted.length p) 0

def sum (samples : List UInt64) : BitVec 128 :=
  samples.foldl (fun acc v => acc + BitVec.ofNat 128 v.toNat) 0

def average (samples : List UInt64) : UInt64 :=
  if samples = [] then 0
  else UInt64.ofNat (sum samples / BitVec.ofNat 128 samples.length).toNat

structure Summary where
  average : UInt64
  p90 : UInt64
  p95 : UInt64
  p99 : UInt64
  least : UInt64
  greatest : UInt64
  deriving DecidableEq, Repr

def sorted (samples : List UInt64) : List UInt64 := samples.mergeSort (fun a b => a ≤ b)

def Summary.of (samples : List UInt64) : Summary :=
  let s := sorted samples
  { average := Latency.average s
    p90 := percentile s (.ofNat 90)
    p95 := percentile s (.ofNat 95)
    p99 := percentile s (.ofNat 99)
    least := s.headD 0
    greatest := s.getLastD 0 }

def seconds (d : Duration) : Binary64 :=
  (Binary64.ofNat d.seconds.toNat).addMagnitude (Binary64.ofNat d.nanos / Binary64.ofNat 1000000000)

/-- Requests for each second of a span of time; zero when no time has passed. -/
def perSecond (total : UInt64) (elapsed : Duration) : Binary64 :=
  let s := seconds elapsed
  if s.isPositive then Binary64.ofNat total.toNat / s else .zero

theorem sorted_perm (samples : List UInt64) : (sorted samples).Perm samples :=
  List.mergeSort_perm samples _

theorem ascending_sorted (samples : List UInt64) : (sorted samples).Pairwise (· ≤ ·) := by
  have run := @List.pairwise_mergeSort UInt64 (fun a b => a ≤ b)
    (fun a b c hab hbc => by
      simp only [decide_eq_true_eq] at hab hbc ⊢
      exact UInt64.le_trans hab hbc)
    (fun a b => by simpa using UInt64.le_total a b) samples
  simpa [sorted] using run

@[simp] theorem percentile_nil (p : Binary64) : percentile [] p = 0 := rfl

@[simp] theorem average_nil : average [] = 0 := rfl

end Barrage.Latency
