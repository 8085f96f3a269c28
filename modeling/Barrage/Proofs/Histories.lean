import Barrage.Proofs.Ties
import Barrage.Store.Results

/-! The order of the history.
Results stand by their start, the newest first, so two listings of the same results can differ only
in the order of those that started together. -/

namespace Barrage

namespace Instant
variable {a b c : Instant}

theorem le_iff : a.le b = true ↔
    a.seconds < b.seconds ∨ (a.seconds = b.seconds ∧ a.nanos ≤ b.nanos) := by simp [le]

theorem le_total (a b : Instant) : a.le b = true ∨ b.le a = true := by
  rw [le_iff, le_iff]
  omega

theorem le_trans (h : a.le b = true) (g : b.le c = true) : a.le c = true := by
  rw [le_iff] at h g ⊢
  omega

theorem le_antisymm (h : a.le b = true) (g : b.le a = true) : a = b := by
  rw [le_iff] at h g
  obtain ⟨seconds, nanos⟩ := a
  obtain ⟨seconds', nanos'⟩ := b
  simp only [Instant.mk.injEq] at h g ⊢
  omega

end Instant

namespace ResultStore
variable {rs ss : List RunResult}

def NewestFirst (rs : List RunResult) : Prop :=
  rs.Pairwise fun a b => b.startedAt.le a.startedAt = true

theorem newestFirst_perm (rs : List RunResult) : (newestFirst rs).Perm rs :=
  List.mergeSort_perm rs _

theorem newer_trans (a b c : RunResult) (h : b.startedAt.le a.startedAt = true)
    (g : c.startedAt.le b.startedAt = true) : c.startedAt.le a.startedAt = true :=
  Instant.le_trans g h

theorem newer_total (a b : RunResult) :
    (b.startedAt.le a.startedAt || a.startedAt.le b.startedAt) = true := by
  rw [Bool.or_eq_true]
  exact Instant.le_total _ _

theorem newestFirst_ordered (rs : List RunResult) : NewestFirst (newestFirst rs) :=
  List.pairwise_mergeSort newer_trans newer_total rs

theorem newestFirst_ties (rs : List RunResult) (t : Instant) :
    (newestFirst rs).filter (·.startedAt = t) = rs.filter (·.startedAt = t) := by
  refine filter_mergeSort newer_trans newer_total (fun a b here there => ?_) rs
  rw [of_decide_eq_true here, of_decide_eq_true there]
  exact (Instant.le_total t t).elim id id

theorem flatMap_filter_perm (rs : List RunResult) {ids : List String} (distinct : ids.Nodup) :
    (ids.flatMap fun id => rs.filter (·.scriptId = id)).Perm
      (rs.filter fun r => r.scriptId ∈ ids) := by
  induction ids with
  | nil => simp
  | cons id ids ih =>
    obtain ⟨fresh, distinct⟩ := List.nodup_cons.1 distinct
    have first : (rs.filter fun r => r.scriptId ∈ id :: ids).filter (·.scriptId = id) =
        rs.filter (·.scriptId = id) := by
      rw [List.filter_filter]
      refine List.filter_congr fun r _ => ?_
      by_cases own : r.scriptId = id <;> simp [own]
    have others : (rs.filter fun r => r.scriptId ∈ id :: ids).filter (fun r => !decide (r.scriptId = id)) =
        rs.filter fun r => r.scriptId ∈ ids := by
      rw [List.filter_filter]
      refine List.filter_congr fun r _ => ?_
      by_cases own : r.scriptId = id <;> simp [own, fresh]
    rw [List.flatMap_cons, ← first]
    refine ((ih distinct).append_left _).trans ?_
    rw [← others]
    exact List.filter_append_perm _ _

theorem NewestFirst.filter (h : NewestFirst rs) (q : RunResult → Bool) :
    NewestFirst (rs.filter q) := List.Pairwise.filter q h

/-- The same results, where only those with the same start may stand in another order. -/
def SameUpToTies (rs ss : List RunResult) : Prop :=
  rs.Perm ss ∧ rs.map (·.startedAt) = ss.map (·.startedAt)

theorem NewestFirst.starts (h : NewestFirst rs) :
    (rs.map (·.startedAt)).Pairwise fun a b => b.le a = true := List.pairwise_map.2 h

theorem NewestFirst.sameUpToTies (h : NewestFirst rs) (g : NewestFirst ss) (perm : rs.Perm ss) :
    SameUpToTies rs ss := by
  refine ⟨perm, List.Perm.eq_of_pairwise ?_ h.starts g.starts (perm.map _)⟩
  intro a b _ _ le ge
  exact Instant.le_antisymm ge le

end ResultStore
end Barrage
