import Mathlib.Algebra.Order.Floor.Semifield
import Mathlib.Data.List.GetD
import Mathlib.Data.Rat.Floor
import Barrage.Load.Latency
import Barrage.Proofs.Rounding

/-! Percentiles as places in a sample.
A percentile is the element at a rank of the sorted sample. The rank is computed in binary floating
point: it is inside the sample for every percentage, it grows with the percentage, and for whole
percentages it is the exact one unless the sample is enormous. How many elements are below an
element of a sorted sample, or up to it, is told by its place. -/

namespace Barrage.Latency

section
variable {l : List UInt64}

theorem countP_lt_le (ascending : l.Pairwise (· ≤ ·)) {i : Nat} (inside : i < l.length) :
    l.countP (· < l[i]) ≤ i := by
  induction l generalizing i with
  | nil => exact absurd inside (Nat.not_lt_zero i)
  | cons v l ih =>
    have above : ∀ w ∈ l, v ≤ w := fun _ h => List.rel_of_pairwise_cons ascending h
    cases i with
    | zero =>
      apply Nat.le_of_eq
      rw [List.countP_eq_zero]
      intro w member
      rcases List.mem_cons.1 member with rfl | member
      · simp
      · simpa using above w member
    | succ i =>
      have rest := ih ascending.of_cons (Nat.lt_of_succ_lt_succ inside)
      rw [List.getElem_cons_succ, List.countP_cons]
      split <;> omega

theorem lt_countP_le (ascending : l.Pairwise (· ≤ ·)) {i : Nat} (inside : i < l.length) :
    i < l.countP (· ≤ l[i]) := by
  induction l generalizing i with
  | nil => exact absurd inside (Nat.not_lt_zero i)
  | cons v l ih =>
    cases i with
    | zero =>
      rw [List.countP_pos_iff]
      exact ⟨v, List.mem_cons_self, by simp⟩
    | succ i =>
      have rest := ih ascending.of_cons (Nat.lt_of_succ_lt_succ inside)
      have within : i < l.length := Nat.lt_of_succ_lt_succ inside
      have first : v ≤ l[i] := List.rel_of_pairwise_cons ascending (List.getElem_mem _)
      rw [List.getElem_cons_succ, List.countP_cons, if_pos (decide_eq_true first)]
      omega

theorem getD_le_getD (ascending : l.Pairwise (· ≤ ·)) {i j : Nat} (h : i ≤ j)
    (inside : j < l.length) : l.getD i 0 ≤ l.getD j 0 := by
  have first := h.trans_lt inside
  rw [List.getD_eq_getElem _ _ first, List.getD_eq_getElem _ _ inside]
  rcases Nat.lt_or_eq_of_le h with less | rfl
  · exact List.pairwise_iff_getElem.1 ascending i j first inside less
  · exact UInt64.le_refl _

theorem headD_least (ascending : l.Pairwise (· ≤ ·)) (nonempty : l ≠ []) :
    l.headD 0 ∈ l ∧ ∀ v ∈ l, l.headD 0 ≤ v := by
  cases l with
  | nil => exact absurd rfl nonempty
  | cons first rest =>
    refine ⟨List.mem_cons_self, fun v member => ?_⟩
    rcases List.mem_cons.1 member with rfl | later
    · exact UInt64.le_refl _
    · exact List.rel_of_pairwise_cons ascending later

theorem getLastD_greatest (ascending : l.Pairwise (· ≤ ·)) (nonempty : l ≠ []) :
    l.getLastD 0 ∈ l ∧ ∀ v ∈ l, v ≤ l.getLastD 0 := by
  obtain rfl | ⟨front, last, rfl⟩ := List.eq_nil_or_concat l
  · exact absurd rfl nonempty
  · rw [List.concat_eq_append] at ascending ⊢
    have value : (front ++ [last]).getLastD 0 = last := by simp
    rw [value]
    refine ⟨List.mem_append_right _ List.mem_cons_self, fun v member => ?_⟩
    rcases List.mem_append.1 member with earlier | same
    · exact (List.pairwise_append.1 ascending).2.2 v earlier last List.mem_cons_self
    · rw [List.mem_singleton.1 same]
      exact UInt64.le_refl _

end

section
open Binary64

theorem rank_lt {n : Nat} (positive : 0 < n) (p : Binary64) : rank n p < n := by
  have bound := floorUpTo_le_top (p.orZero * ofNat n / ofNat 100) (n - 1)
  rw [rank]
  omega

theorem rank_le_rank {p q : Binary64} (h : p.le q) (n : Nat) : rank n p ≤ rank n q := by
  rcases Nat.eq_zero_or_pos n with rfl | positive
  · have bound := floorUpTo_le_top (p.orZero * ofNat 0 / ofNat 100) 0
    exact bound.trans (Nat.zero_le _)
  · obtain ⟨size, factor, length, -⟩ := exists_ofNat positive
    obtain ⟨hundred, divisor, value, finite⟩ := exists_ofNat (k := 100) (by decide)
    rw [rank, rank, length, value]
    exact (((Below.orZero h).mul factor).div divisor (finite (by decide))).floorUpTo _

theorem rank_ofNat {n k : Nat} (short : n < 2 ^ 46) (percent : k ≤ 100) :
    rank n (ofNat k) = min (k * n / 100) (n - 1) := by
  have product : k * n ≤ 100 * n := Nat.mul_le_mul_right n percent
  have size : n ≤ 2 * stride := by
    unfold stride
    omega
  have percentage : k ≤ 2 * stride := by
    unfold stride
    omega
  rw [rank, orZero_ofNat percentage, ofNat_mul_ofNat percentage size]
  apply floorUpTo_div <;> omega

end

/-- The rank for a percentage without any rounding. -/
def exactRank (n : Nat) (p : ℚ) : Nat := min ⌊max p 0 * n / 100⌋₊ (n - 1)

theorem exactRank_mono {p q : ℚ} (h : p ≤ q) (n : Nat) : exactRank n p ≤ exactRank n q := by
  apply min_le_min_right
  apply Nat.floor_mono
  have wider : max p 0 ≤ max q 0 := max_le_max_right 0 h
  gcongr

theorem exactRank_natCast (n k : Nat) : exactRank n k = min (k * n / 100) (n - 1) := by
  have whole : max (k : ℚ) 0 * n / 100 = ((k * n : Nat) : ℚ) / (100 : Nat) := by
    rw [max_eq_left (Nat.cast_nonneg k)]
    push_cast
    rfl
  rw [exactRank, whole, Nat.floor_div_eq_div]

section
variable {l : List UInt64} (p q : Binary64)

theorem percentile_eq_getElem (nonempty : l ≠ []) :
    ∃ inside : rank l.length p < l.length, percentile l p = l[rank l.length p] := by
  have inside := rank_lt (List.length_pos_of_ne_nil nonempty) p
  exact ⟨inside, List.getD_eq_getElem l 0 inside⟩

theorem percentile_mem (nonempty : l ≠ []) : percentile l p ∈ l := by
  obtain ⟨inside, value⟩ := percentile_eq_getElem p nonempty
  rw [value]
  exact List.getElem_mem inside

variable {p q}

theorem percentile_mono (ascending : l.Pairwise (· ≤ ·)) (h : p.le q) :
    percentile l p ≤ percentile l q := by
  rcases eq_or_ne l [] with rfl | nonempty
  · exact UInt64.le_refl _
  · exact getD_le_getD ascending (rank_le_rank h l.length)
      (rank_lt (List.length_pos_of_ne_nil nonempty) q)

theorem percentile_splits (ascending : l.Pairwise (· ≤ ·)) (nonempty : l ≠ [])
    (short : l.length < 2 ^ 46) {k : Nat} (percent : k < 100) :
    100 * l.countP (· < percentile l (.ofNat k)) ≤ k * l.length ∧
      k * l.length < 100 * l.countP (· ≤ percentile l (.ofNat k)) := by
  have positive := List.length_pos_of_ne_nil nonempty
  obtain ⟨inside, value⟩ := percentile_eq_getElem (.ofNat k) nonempty
  have below := countP_lt_le ascending inside
  have upTo := lt_countP_le ascending inside
  have place : rank l.length (.ofNat k) = k * l.length / 100 := by
    rw [rank_ofNat short percent.le, Nat.min_eq_left]
    have less := (Nat.mul_lt_mul_right positive).2 percent
    omega
  rw [value]
  omega

end

/-- The percentiles of a sample are elements of it that split it as they should, in their order and
between the least and the greatest. In general a percentile is the element at a rank inside the
sample, and grows with the percentage, in binary floating point as in exact arithmetic; the ranks of
both are the same for whole percentages. -/
theorem percentiles_of_samples {samples : List UInt64} (nonempty : samples ≠ []) :
    let n := samples.length
    let s := Summary.of samples
    (n < 2 ^ 46 → ∀ k v, (k, v) ∈ [(90, s.p90), (95, s.p95), (99, s.p99)] →
      v ∈ samples ∧ 100 * samples.countP (· < v) ≤ k * n ∧ k * n < 100 * samples.countP (· ≤ v)) ∧
    (s.least ∈ samples ∧ ∀ v ∈ samples, s.least ≤ v) ∧
    (s.greatest ∈ samples ∧ ∀ v ∈ samples, v ≤ s.greatest) ∧
    (s.least ≤ s.p90 ∧ s.p90 ≤ s.p95 ∧ s.p95 ≤ s.p99 ∧ s.p99 ≤ s.greatest) ∧
    ∀ l : List UInt64, l.Pairwise (· ≤ ·) →
      (l ≠ [] → ∀ p, percentile l p ∈ l ∧
        ∃ inside : rank l.length p < l.length, percentile l p = l[rank l.length p]) ∧
      (∀ p q : Binary64, p.le q → percentile l p ≤ percentile l q) ∧
      (∀ p q : ℚ, p ≤ q →
        l.getD (exactRank l.length p) 0 ≤ l.getD (exactRank l.length q) 0) ∧
      (l.length < 2 ^ 46 → ∀ k ≤ 100, rank l.length (.ofNat k) = exactRank l.length k) := by
  intro n s
  have perm := sorted_perm samples
  have ascending := ascending_sorted samples
  have stays : sorted samples ≠ [] := fun none => nonempty (List.perm_nil.1 (none ▸ perm.symm))
  obtain ⟨leastMem, least⟩ := headD_least ascending stays
  obtain ⟨greatestMem, greatest⟩ := getLastD_greatest ascending stays
  have grows {j k : Nat} (h : j ≤ k) (small : k ≤ 2 * Binary64.stride) :
      percentile (sorted samples) (.ofNat j) ≤ percentile (sorted samples) (.ofNat k) :=
    percentile_mono ascending (Binary64.ofNat_le_ofNat h small)
  refine ⟨fun short k v entry => ?_, ⟨perm.mem_iff.1 leastMem, fun v member => ?_⟩,
    ⟨perm.mem_iff.1 greatestMem, fun v member => ?_⟩, ⟨?_, ?_, ?_, ?_⟩,
    fun l ascending => ⟨fun nonempty p => ?_, fun p q => percentile_mono ascending,
      fun p q h => ?_, fun short k percent => ?_⟩⟩
  · obtain ⟨percent, rfl⟩ : k < 100 ∧ v = percentile (sorted samples) (.ofNat k) := by
      simp only [List.mem_cons, Prod.mk.injEq, List.not_mem_nil, or_false] at entry
      rcases entry with ⟨rfl, rfl⟩ | ⟨rfl, rfl⟩ | ⟨rfl, rfl⟩ <;> exact ⟨by decide, rfl⟩
    have splits := percentile_splits ascending stays (perm.length_eq ▸ short) percent
    rw [perm.length_eq, perm.countP_eq, perm.countP_eq] at splits
    exact ⟨perm.mem_iff.1 (percentile_mem _ stays), splits⟩
  · exact least v (perm.mem_iff.2 member)
  · exact greatest v (perm.mem_iff.2 member)
  · exact least _ (percentile_mem _ stays)
  · exact grows (by decide) (by decide)
  · exact grows (by decide) (by decide)
  · exact greatest _ (percentile_mem _ stays)
  · exact ⟨percentile_mem p nonempty, percentile_eq_getElem p nonempty⟩
  · rcases eq_or_ne l [] with rfl | nonempty
    · exact UInt64.le_refl _
    · apply getD_le_getD ascending (exactRank_mono h l.length)
      have positive := List.length_pos_of_ne_nil nonempty
      have bound : exactRank l.length q ≤ l.length - 1 := Nat.min_le_right ..
      omega
  · rw [rank_ofNat short percent, exactRank_natCast]

/-- Five samples out of order, two of them equal. -/
theorem percentiles_of_samples_five :
    let samples : List UInt64 := [30, 10, 18446744073709551615, 10, 20]
    let s := Summary.of samples
    samples ≠ [] ∧ samples.length < 2 ^ 46 ∧
    (s.least, s.p90, s.greatest) = (10, 18446744073709551615, 18446744073709551615) ∧
    100 * samples.countP (· < s.p90) ≤ 90 * samples.length ∧
    90 * samples.length < 100 * samples.countP (· ≤ s.p90) ∧
    s.least ≤ s.p90 ∧ s.p90 ≤ s.p95 ∧ s.p95 ≤ s.p99 ∧ s.p99 ≤ s.greatest := by
  intro samples s
  have nonempty : samples ≠ [] := by decide
  have short : samples.length < 2 ^ 46 := by decide
  have order : sorted samples = [10, 10, 20, 30, 18446744073709551615] := by
    have perm : (sorted samples).Perm [10, 10, 20, 30, 18446744073709551615] :=
      (sorted_perm samples).trans (by decide)
    exact perm.eq_of_pairwise (fun _ _ _ _ => UInt64.le_antisymm) (ascending_sorted samples)
      (by decide)
  have values : (s.least, s.p90, s.greatest) =
      (10, 18446744073709551615, 18446744073709551615) := by
    simp only [s, Summary.of, order]
    decide +kernel
  have all := percentiles_of_samples nonempty
  have ninety := all.1 short 90 s.p90 List.mem_cons_self
  exact ⟨nonempty, short, values, ninety.2.1, ninety.2.2, all.2.2.2.1⟩

end Barrage.Latency
