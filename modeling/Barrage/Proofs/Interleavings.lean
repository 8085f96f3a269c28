import Mathlib.Data.List.Sort
import Barrage.Proofs.Turns

/-! The order of recording shows in the list of latencies only.
Logs that put together the same samples of each user are permutations of one another. A count does
not see a permutation, and neither does a statistic of a list that is sorted first; so two runs in
which every user gets the same replies have the same result, whoever was faster. -/

namespace Barrage

/-- Metrics that differ at most in the order of their latencies. -/
structure Metrics.Agree (m n : Metrics) : Prop where
  total : m.total = n.total
  success : m.success = n.success
  failure : m.failure = n.failure
  categories : m.categories = n.categories
  latencies : m.latencies.Perm n.latencies

/-- Results that differ at most in what depends on the time of the run and on counted iterations. -/
structure RunResult.Agree (x y : RunResult) : Prop where
  totalRequests : x.totalRequests = y.totalRequests
  success : x.success = y.success
  failure : x.failure = y.failure
  errors : x.errors = y.errors
  averageMillis : x.averageMillis = y.averageMillis
  p90Millis : x.p90Millis = y.p90Millis
  p95Millis : x.p95Millis = y.p95Millis
  p99Millis : x.p99Millis = y.p99Millis

theorem Metrics.agree_of_perm (m : Metrics) {a b : List Sample} (h : a.Perm b) :
    Agree (m.recordAll a) (m.recordAll b) where
  total := by rw [total_recordAll, total_recordAll, h.length_eq]
  success := by rw [success_recordAll, success_recordAll, h.countP_eq]
  failure := by rw [failure_recordAll, failure_recordAll, h.countP_eq]
  categories := Dict.ext_get? fun c => by
    rw [get?_categories_recordAll, get?_categories_recordAll, h.countP_eq]
  latencies := by
    rw [latencies_recordAll, latencies_recordAll]
    exact (h.map _).append_left _

namespace Latency

theorem sorted_eq_of_perm {a b : List UInt64} (h : a.Perm b) : sorted a = sorted b := by
  have same : (sorted a).Perm (sorted b) :=
    (sorted_perm a).trans (h.trans (sorted_perm b).symm)
  exact same.eq_of_pairwise (fun _ _ _ _ => UInt64.le_antisymm) (ascending_sorted a)
    (ascending_sorted b)

theorem summary_eq_of_perm {a b : List UInt64} (h : a.Perm b) : Summary.of a = Summary.of b := by
  unfold Summary.of
  rw [sorted_eq_of_perm h]

end Latency

namespace Metrics.Agree
variable {m n : Metrics}

theorem ofMetrics_eq (h : m.Agree n) (plan : Plan) (iterations : Nat) (elapsed : Duration)
    (startedAt : Instant) :
    RunResult.ofMetrics plan m iterations elapsed startedAt =
      RunResult.ofMetrics plan n iterations elapsed startedAt := by
  unfold RunResult.ofMetrics
  rw [Latency.summary_eq_of_perm h.latencies, h.total, h.success, h.failure, h.categories]

theorem ofMetrics (h : m.Agree n) (plan : Plan) (i j : Nat) (d e : Duration) (x y : Instant) :
    RunResult.Agree (.ofMetrics plan m i d x) (.ofMetrics plan n j e y) := by
  rw [h.ofMetrics_eq]
  exact ⟨rfl, rfl, rfl, rfl, rfl, rfl, rfl, rfl⟩

end Metrics.Agree

/-- Two logs of the same samples of each user lead to the same counts, statistics and result, and so
does every run in which each user records these samples, whatever its script and schedule. -/
theorem scheduling_independence {samples : Nat → List Sample} {a b : List (Nat × Sample)}
    (ha : Interleaves a samples) (hb : Interleaves b samples) :
    let m := Metrics.empty.recordAll (a.map (·.2))
    let n := Metrics.empty.recordAll (b.map (·.2))
    m.Agree n ∧ Latency.Summary.of m.latencies = Latency.Summary.of n.latencies ∧
    (m.total = a.length ∧ m.latencies = a.map (·.2.millis)) ∧
    (∀ (plan : Plan) (i j : Nat) (d e : Duration) (x y : Instant),
      RunResult.Agree (.ofMetrics plan m i d x) (.ofMetrics plan n j e y)) ∧
    (∀ (plan : Plan) (i : Nat) (d : Duration) (x : Instant),
      RunResult.ofMetrics plan m i d x = RunResult.ofMetrics plan n i d x) ∧
    ∀ (steps : List Step) (t : Transport) (users : Nat) (schedule : List Turn),
      let r := (Run.start users).turns steps t schedule
      (∀ u, t.samples u (r.sentBy u) = samples u) → m.Agree r.metrics := by
  intro m n
  have agree : m.Agree n := Metrics.empty.agree_of_perm (ha.perm hb)
  have total : m.total = a.length := by
    rw [Metrics.total_recordAll, List.length_map]
    exact Nat.zero_add _
  have latencies : m.latencies = a.map (·.2.millis) := by
    rw [Metrics.latencies_recordAll, List.map_map]
    rfl
  refine ⟨agree, Latency.summary_eq_of_perm agree.latencies, ⟨total, latencies⟩,
    agree.ofMetrics, agree.ofMetrics_eq, ?_⟩
  intro steps t users schedule r same
  obtain ⟨log, recorded, order⟩ := (Run.logged_start t users).turns steps schedule
  have whole : Interleaves log samples := fun u => (order u).trans (same u)
  rw [show r.metrics = _ from recorded]
  exact Metrics.empty.agree_of_perm (ha.perm whole)

/-- A success and a timeout of one user, and a success of another between or before them. -/
theorem scheduling_independence_two_users :
    let first : List Sample := [⟨5, .ok ()⟩, ⟨7, .error .timeout⟩]
    let second : List Sample := [⟨6, .ok ()⟩]
    let t : Transport := fun u k => if u = 0 then first[k]? else if u = 1 then second[k]? else none
    let a := [(0, first[0]), (1, second[0]), (0, first[1])]
    let b := [(1, second[0]), (0, first[0]), (0, first[1])]
    let schedule := [Turn.user 0, .user 1, .user 0, .user 0, .user 1]
    ∃ m n r, m = Metrics.empty.recordAll (a.map (·.2)) ∧
      n = Metrics.empty.recordAll (b.map (·.2)) ∧
      r = (Run.start 2).turns [Step.get "/a", Step.get "/b"] t schedule ∧
      m.latencies = [5, 6, 7] ∧ n.latencies = [6, 5, 7] ∧ r.metrics.latencies = [5, 7, 6] ∧
      m.Agree n ∧ Latency.Summary.of m.latencies = Latency.Summary.of n.latencies ∧
      m.Agree r.metrics := by
  intro first second t a b schedule
  let samples (u : Nat) : List Sample := if u = 0 then first else if u = 1 then second else []
  have ha : Interleaves a samples := fun u => by
    match u with
    | 0 | 1 => rfl
    | u + 2 => simp [a, samples]
  have hb : Interleaves b samples := fun u => by
    match u with
    | 0 | 1 => rfl
    | u + 2 => simp [b, samples]
  have runs := scheduling_independence ha hb
  have users : ((Run.start 2).turns [Step.get "/a", Step.get "/b"] t schedule).users =
      [⟨.counting, [Step.get "/a", Step.get "/b"]⟩,
        ⟨.waiting (Step.get "/b") [], [Step.get "/a"]⟩] := by decide
  have same (u : Nat) : t.samples u (((Run.start 2).turns [Step.get "/a", Step.get "/b"] t
      schedule).sentBy u) = samples u := by
    rw [Run.sentBy, users]
    match u with
    | 0 | 1 => rfl
    | u + 2 => rfl
  exact ⟨_, _, _, rfl, rfl, rfl, rfl, rfl, rfl, runs.1, runs.2.1,
    runs.2.2.2.2.2 _ t 2 schedule same⟩

end Barrage
