import Mathlib.Algebra.BigOperators.Group.Finset.Piecewise
import Barrage.Load.Metrics
import Barrage.Proofs.Bindings

/-! What metrics hold after a list of samples.
The counts are those of the samples, category by category. Samples that several users record stand
in one log, each user's in its own order, and what the log holds of some kind is what all users
recorded of it. -/

namespace Barrage

/-- Whether an outcome is a failure of a category. -/
def Outcome.failsAs (c : String) : Outcome → Bool
  | .ok () => false
  | .error f => f.category = c

namespace Metrics

@[simp] theorem recordAll_nil (m : Metrics) : m.recordAll [] = m := rfl

@[simp] theorem recordAll_cons (m : Metrics) (s : Sample) (l : List Sample) :
    m.recordAll (s :: l) = (m.record s).recordAll l := rfl

theorem recordAll_concat (m : Metrics) (l : List Sample) (s : Sample) :
    m.recordAll (l ++ [s]) = (m.recordAll l).record s := by
  simp [recordAll]

theorem success_record (m : Metrics) (s : Sample) :
    (m.record s).success = m.success + if s.outcome.isOk then 1 else 0 := by
  unfold record
  split <;> next h => simp [h, Except.isOk, Except.toBool]

theorem failure_record (m : Metrics) (s : Sample) :
    (m.record s).failure = m.failure + if s.outcome.isOk then 0 else 1 := by
  unfold record
  split <;> next h => simp [h, Except.isOk, Except.toBool]

theorem get?_countFailure (counts : Dict Nat) (f : Failure) (c : String) :
    (countFailure counts f).get? c =
      if f.category = c then some ((counts.get? c).getD 0 + 1) else counts.get? c := by
  rw [countFailure, Dict.alter, Dict.get?_insert]
  split
  · next h => rw [h]
  · rfl

theorem get?_categories_record (m : Metrics) (s : Sample) (c : String) :
    (m.record s).categories.get? c =
      if s.outcome.failsAs c then some ((m.categories.get? c).getD 0 + 1)
      else m.categories.get? c := by
  unfold record
  split
  · next h => simp [h, Outcome.failsAs]
  · next f h => simp [h, Outcome.failsAs, get?_countFailure]

theorem total_recordAll (m : Metrics) (l : List Sample) :
    (m.recordAll l).total = m.total + l.length := by
  induction l generalizing m with
  | nil => rfl
  | cons s l ih =>
    rw [recordAll_cons, ih, total_record, List.length_cons]
    omega

theorem latencies_recordAll (m : Metrics) (l : List Sample) :
    (m.recordAll l).latencies = m.latencies ++ l.map (·.millis) := by
  induction l generalizing m with
  | nil => simp
  | cons s l ih => simp [ih]

theorem success_recordAll (m : Metrics) (l : List Sample) :
    (m.recordAll l).success = m.success + l.countP (·.outcome.isOk) := by
  induction l generalizing m with
  | nil => rfl
  | cons s l ih =>
    rw [recordAll_cons, ih, success_record, List.countP_cons]
    omega

theorem failure_recordAll (m : Metrics) (l : List Sample) :
    (m.recordAll l).failure = m.failure + l.countP (!·.outcome.isOk) := by
  induction l generalizing m with
  | nil => rfl
  | cons s l ih =>
    rw [recordAll_cons, ih, failure_record, List.countP_cons]
    cases s.outcome.isOk
    · simp
      omega
    · simp

theorem get?_categories_recordAll (m : Metrics) (l : List Sample) (c : String) :
    (m.recordAll l).categories.get? c =
      if l.countP (·.outcome.failsAs c) = 0 then m.categories.get? c
      else some ((m.categories.get? c).getD 0 + l.countP (·.outcome.failsAs c)) := by
  induction l generalizing m with
  | nil => rfl
  | cons s l ih =>
    rw [recordAll_cons, ih, get?_categories_record, List.countP_cons]
    cases s.outcome.failsAs c
    · simp
    · by_cases none : l.countP (·.outcome.failsAs c) = 0
      · simp [none]
      · simp [none]
        omega

/-- Every request is a success or a failure, has a latency, and failures are counted by category. -/
structure Balanced (m : Metrics) : Prop where
  total : m.total = m.success + m.failure
  latencies : m.total = m.latencies.length
  failure : m.failure = m.categories.values.sum
  categories : ∀ e ∈ m.categories.entries, 1 ≤ e.2 ∧ e.1 ∈ Failure.categories

theorem balanced_empty : Balanced empty where
  total := rfl
  latencies := rfl
  failure := rfl
  categories := fun _ h => absurd h (List.not_mem_nil)

theorem sum_countFailure (counts : Dict Nat) (f : Failure) :
    (countFailure counts f).values.sum = counts.values.sum + 1 := by
  have swap := counts.sum_values_insert f.category ((counts.get? f.category).getD 0 + 1)
  rw [countFailure, Dict.alter]
  omega

theorem mem_countFailure {counts : Dict Nat} {f : Failure} {e : String × Nat}
    (h : e ∈ (countFailure counts f).entries) :
    e.2 ≠ 0 ∧ e.1 = f.category ∨ e ∈ counts.entries := by
  rcases Dict.mem_place h with rfl | h
  · exact .inl ⟨Nat.succ_ne_zero _, rfl⟩
  · exact .inr h

theorem Balanced.record {m : Metrics} (h : m.Balanced) (s : Sample) : (m.record s).Balanced := by
  have total := h.total
  have latencies := h.latencies
  have failure := h.failure
  unfold Metrics.record
  split
  · refine ⟨?_, ?_, failure, h.categories⟩
    · dsimp only
      omega
    · simpa using latencies
  · next f _ =>
    refine ⟨?_, ?_, ?_, fun e he => ?_⟩
    · dsimp only
      omega
    · simpa using latencies
    · simpa [sum_countFailure] using failure
    · rcases mem_countFailure he with ⟨positive, name⟩ | he
      · exact ⟨Nat.pos_of_ne_zero positive, name ▸ f.category_mem⟩
      · exact h.categories e he

end Metrics

/-- A log, in which every sample stands with its user, puts together the samples of each user in
their own order. -/
def Interleaves (log : List (Nat × Sample)) (samples : Nat → List Sample) : Prop :=
  ∀ u, (log.filter (·.1 = u)).map (·.2) = samples u

theorem Interleaves.concat {log : List (Nat × Sample)} {samples : Nat → List Sample}
    (h : Interleaves log samples) (u : Nat) (s : Sample) :
    Interleaves (log ++ [(u, s)]) (fun v => if v = u then samples v ++ [s] else samples v) := by
  intro v
  by_cases hv : u = v
  · simp [hv, h v]
  · simp [hv, Ne.symm hv, h v]

theorem Interleaves.perm {a b : List (Nat × Sample)} {samples : Nat → List Sample}
    (ha : Interleaves a samples) (hb : Interleaves b samples) :
    (a.map (·.2)).Perm (b.map (·.2)) := by
  classical
  have count (log : List (Nat × Sample)) (h : Interleaves log samples) (u : Nat) (s : Sample) :
      log.count (u, s) = (samples u).count s := by
    rw [← h u, List.count, List.count, List.countP_map, List.countP_filter]
    refine List.countP_congr fun e _ => ?_
    simp [Prod.ext_iff, and_comm]
  refine List.Perm.map _ (List.perm_iff_count.2 fun e => ?_)
  rw [count a ha e.1 e.2, count b hb e.1 e.2]

theorem Interleaves.countP {log : List (Nat × Sample)} {samples : Nat → List Sample}
    (h : Interleaves log samples) {users : Nat} (none : ∀ u, users ≤ u → samples u = [])
    (kind : Sample → Bool) :
    (log.map (·.2)).countP kind = ∑ u ∈ Finset.range users, (samples u).countP kind := by
  have within : ∀ e ∈ log, e.1 < users := by
    intro e member
    by_contra outside
    have empty := (h e.1).trans (none e.1 (Nat.le_of_not_lt outside))
    have mine : e ∈ log.filter (·.1 = e.1) := by simp [member]
    simp [List.map_eq_nil_iff.1 empty] at mine
  simp only [← h _]
  clear h none
  induction log with
  | nil => simp
  | cons e log ih =>
    have bound := within e (by simp)
    have rest := ih fun e he => within e (List.mem_cons_of_mem _ he)
    have own (u : Nat) : ((((e :: log).filter (·.1 = u)).map (·.2)).countP kind) =
        ((log.filter (·.1 = u)).map (·.2)).countP kind +
          if e.1 = u then (if kind e.2 then 1 else 0) else 0 := by
      by_cases hu : e.1 = u <;> simp [hu, List.countP_cons]
    rw [Finset.sum_congr rfl fun u _ => own u, Finset.sum_add_distrib, Finset.sum_ite_eq,
      if_pos (Finset.mem_range.2 bound), ← rest, List.map_cons, List.countP_cons]

end Barrage
