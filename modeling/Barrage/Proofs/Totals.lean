import Barrage.Proofs.Invariant

/-! The counts of a run and of its result.
In every state that the users' moves lead to, in whatever order they are made, the total is that of
successes and failures, and that of counted iterations and the parts of those under way. When all
users have left, no part is under way, and the result says so in words of 64 bits. -/

namespace Barrage

/-- A result says in words of 64 bits what was counted in a run. -/
structure RunResult.Reports (result : RunResult) (r : Run) : Prop where
  total : result.totalRequests.toNat = r.metrics.total
  success : result.success.toNat = r.metrics.success
  failure : result.failure.toNat = r.metrics.failure
  iterations : result.iterations.toNat = r.iterations
  errors : result.errors.entries.map (fun e => (e.1, e.2.toNat)) = r.metrics.categories.entries

/-- The counts of a result fit together, as whole numbers. -/
structure RunResult.Balanced (result : RunResult) (steps : List Step) : Prop where
  total : result.totalRequests.toNat = result.success.toNat + result.failure.toNat
  iterations : result.totalRequests.toNat = result.iterations.toNat * steps.length
  errors : (result.errors.values.map UInt64.toNat).sum = result.failure.toNat

theorem Dict.toNat_values {d : Dict UInt64} {counts : Dict Nat}
    (h : d.entries.map (fun e => (e.1, e.2.toNat)) = counts.entries) :
    d.values.map UInt64.toNat = counts.values := by
  rw [values, values, ← h, List.map_map, List.map_map]
  rfl

namespace Metrics.Balanced
variable {m : Metrics} (h : m.Balanced) (small : m.failure < UInt64.size)
include h small

theorem toNat_categories :
    (m.categories.map UInt64.ofNat).entries.map (fun e => (e.1, e.2.toNat)) =
      m.categories.entries := by
  simp only [Dict.map, List.map_map]
  refine (List.map_congr_left fun e bound => ?_).trans (List.map_id _)
  have part := m.categories.le_sum_values bound
  have failures := h.failure
  simp only [Function.comp_apply, id_eq]
  rw [UInt64.toNat_ofNat_of_lt' (by omega)]

theorem sum_errors (p : Plan) (iterations : Nat) (elapsed : Duration) (startedAt : Instant) :
    ((RunResult.ofMetrics p m iterations elapsed startedAt).errors.values.map UInt64.toNat).sum =
      (RunResult.ofMetrics p m iterations elapsed startedAt).failure.toNat := by
  simp only [RunResult.ofMetrics]
  rw [UInt64.toNat_ofNat_of_lt' small, h.failure, Dict.toNat_values (h.toNat_categories small)]

end Metrics.Balanced

namespace Run

theorem reports_ofMetrics {r : Run} (balanced : r.metrics.Balanced)
    (total : r.metrics.total < UInt64.size) (iterations : r.iterations < UInt64.size)
    (p : Plan) (elapsed : Duration) (startedAt : Instant) :
    (RunResult.ofMetrics p r.metrics r.iterations elapsed startedAt).Reports r := by
  have parts := balanced.total
  have failure : r.metrics.failure < UInt64.size := by omega
  exact ⟨UInt64.toNat_ofNat_of_lt' total, UInt64.toNat_ofNat_of_lt' (by omega),
    UInt64.toNat_ofNat_of_lt' failure, UInt64.toNat_ofNat_of_lt' iterations,
    balanced.toNat_categories failure⟩

theorem Consistent.balanced_of_reports {steps : List Step} {users : Nat} {r : Run}
    (h : Consistent steps users r) (left : ∀ user ∈ r.users, user.place = .left)
    {result : RunResult} (reports : result.Reports r) : result.Balanced steps where
  total := by rw [reports.total, reports.success, reports.failure, h.balanced.total]
  iterations := by rw [reports.total, reports.iterations, h.total_of_left left]
  errors := by rw [Dict.toNat_values reports.errors, reports.failure, h.balanced.failure]

/-- What holds after any moves of any users of a script, and of the result once all of them have
left. -/
theorem reachable_totals {s : Script} {users : Nat} {r : Run}
    (reached : Reachable s.steps users r) :
    r.metrics.total = r.metrics.success + r.metrics.failure ∧
    r.metrics.total = r.metrics.latencies.length ∧
    r.metrics.failure = r.metrics.categories.values.sum ∧
    (∀ e ∈ r.metrics.categories.entries, 1 ≤ e.2 ∧
      e.1 ∈ ["http", "timeout", "connection", "invalid_request"]) ∧
    r.metrics.total =
      r.iterations * s.steps.length + (r.users.map (·.place.recorded s.steps)).sum ∧
    (∀ user ∈ r.users, ∃ k, user.sent =
      (List.replicate k s.steps).flatten ++ s.steps.take (user.place.recorded s.steps)) ∧
    ((∀ user ∈ r.users, user.place = .left) →
      r.metrics.total < UInt64.size → r.iterations < UInt64.size →
      ∀ (e : Engine) (startedAt : Instant) (p : Plan), e.play s p = some r →
        ∃ result, e.run startedAt s p = some result ∧ result.Reports r ∧
          result.Balanced s.steps) := by
  have h := reached.consistent
  refine ⟨h.balanced.total, h.balanced.latencies, h.balanced.failure, ?_, h.iterations,
    fun user member => (h.ordered user member).sent_eq, ?_⟩
  · intro e he
    have known := h.balanced.categories e he
    simp only [Failure.categories, List.mem_cons, List.not_mem_nil, or_false] at known ⊢
    tauto
  · intro left total iterations e startedAt p played
    have reports := reports_ofMetrics h.balanced total iterations p e.elapsed startedAt
    refine ⟨_, ?_, reports, h.balanced_of_reports left reports⟩
    rw [Engine.run, played, Option.map_some]

/-- Two users whose moves interleave; the deadline passes while both are in their iteration, and one
request times out. -/
theorem reachable_totals_two_users :
    let s : Script := ⟨"s", [Step.get "/a", Step.get "/b"]⟩
    let r : Run := ⟨⟨4, 3, 1, [5, 7, 6, 8], Dict.ofList [("timeout", 1)]⟩, 2, true,
      [⟨.left, s.steps⟩, ⟨.left, s.steps⟩]⟩
    Reachable s.steps 2 r ∧ (∀ user ∈ r.users, user.place = .left) ∧
      ∃ result, (Engine.mk 0 (fun _ _ _ => r) ⟨1, 0⟩).run ⟨0, 0⟩ s ⟨"s", .load, 2, 1⟩ =
          some result ∧
        result.totalRequests = 4 ∧ result.success = 3 ∧ result.failure = 1 ∧
        result.iterations = 2 ∧
        result.errors.entries.map (fun e => (e.1, e.2.toNat)) = [("timeout", 1)] ∧
        result.Balanced s.steps := by
  intro s r
  have reached : Reachable s.steps 2 r := Reachable.start.moves
    [.look 0, .look 1, .reply 1 ⟨5, .ok ()⟩, .reply 0 ⟨7, .error .timeout⟩, .expire,
      .reply 0 ⟨6, .ok ()⟩, .count 0, .reply 1 ⟨8, .ok ()⟩, .look 0, .count 1, .look 1] rfl
  have left : ∀ user ∈ r.users, user.place = .left := by decide
  have finished := (reachable_totals reached).2.2.2.2.2.2 left (by decide) (by decide)
  obtain ⟨result, ran, reports, balanced⟩ :=
    finished (Engine.mk 0 (fun _ _ _ => r) ⟨1, 0⟩) ⟨0, 0⟩ ⟨"s", .load, 2, 1⟩ rfl
  exact ⟨reached, left, result, ran, UInt64.toNat_inj.1 reports.total,
    UInt64.toNat_inj.1 reports.success, UInt64.toNat_inj.1 reports.failure,
    UInt64.toNat_inj.1 reports.iterations, reports.errors, balanced⟩

end Run
end Barrage
