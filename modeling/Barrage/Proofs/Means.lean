import Mathlib.Algebra.Group.Action.Defs
import Mathlib.Algebra.Order.BigOperators.Group.List
import Barrage.Proofs.Percentiles

/-! Means of samples.
A sample is added up in 128 bits, which so many words as a list of 64-bit length can have never
fill: the sum is the true one at every step. The mean is between the least and the greatest sample
and so a word again. -/

namespace Barrage.Latency

def total (samples : List UInt64) : Nat := (samples.map UInt64.toNat).sum

section
variable {samples : List UInt64} {bound : UInt64}

theorem total_append (a b : List UInt64) : total (a ++ b) = total a + total b := by
  rw [total, List.map_append, List.sum_append, total, total]

theorem total_of_perm {a b : List UInt64} (h : a.Perm b) : total a = total b :=
  (h.map _).sum_nat

theorem total_le (above : ∀ v ∈ samples, v ≤ bound) :
    total samples ≤ samples.length * bound.toNat := by
  have whole := List.sum_le_card_nsmul (samples.map UInt64.toNat) bound.toNat fun n member => by
    obtain ⟨v, inside, rfl⟩ := List.mem_map.1 member
    exact UInt64.le_iff_toNat_le.1 (above v inside)
  rwa [List.length_map, smul_eq_mul] at whole

theorem le_total (below : ∀ v ∈ samples, bound ≤ v) :
    samples.length * bound.toNat ≤ total samples := by
  have whole := List.card_nsmul_le_sum (samples.map UInt64.toNat) bound.toNat fun n member => by
    obtain ⟨v, inside, rfl⟩ := List.mem_map.1 member
    exact UInt64.le_iff_toNat_le.1 (below v inside)
  rwa [List.length_map, smul_eq_mul] at whole

theorem total_le_words (samples : List UInt64) :
    total samples ≤ samples.length * 18446744073709551615 := by
  have above (v : UInt64) (_ : v ∈ samples) : v ≤ 18446744073709551615 :=
    UInt64.le_iff_toNat_le.2 (Nat.le_of_lt_succ v.toNat_lt_size)
  exact total_le above

theorem toNat_sum (samples : List UInt64) : (sum samples).toNat = total samples % 2 ^ 128 := by
  have general (acc : BitVec 128) :
      (samples.foldl (fun acc v => acc + BitVec.ofNat 128 v.toNat) acc).toNat =
        (acc.toNat + total samples) % 2 ^ 128 := by
    induction samples generalizing acc with
    | nil => exact (Nat.mod_eq_of_lt acc.isLt).symm
    | cons v rest ih =>
      rw [List.foldl_cons, ih, BitVec.toNat_add, BitVec.toNat_ofNat, total, total, List.map_cons,
        List.sum_cons]
      omega
  rw [sum, general]
  simp

theorem total_lt (short : samples.length < 2 ^ 64) : total samples < 2 ^ 128 := by
  have words := total_le_words samples
  omega

theorem toNat_sum_of_short (short : samples.length < 2 ^ 64) :
    (sum samples).toNat = total samples := by
  rw [toNat_sum, Nat.mod_eq_of_lt (total_lt short)]

theorem toNat_quotient (short : samples.length < 2 ^ 64) :
    (sum samples / BitVec.ofNat 128 samples.length).toNat = total samples / samples.length := by
  rw [BitVec.toNat_udiv, toNat_sum_of_short short, BitVec.toNat_ofNat, Nat.mod_eq_of_lt (by omega)]

theorem mean_lt (samples : List UInt64) : total samples / samples.length < 2 ^ 64 := by
  have words : total samples / samples.length ≤ 18446744073709551615 :=
    Nat.div_le_of_le_mul (total_le_words samples)
  omega

theorem toNat_average (short : samples.length < 2 ^ 64) :
    (average samples).toNat = total samples / samples.length := by
  rw [average]
  split
  · next none => simp [none, total]
  · rw [toNat_quotient short]
    exact UInt64.toNat_ofNat_of_lt' (mean_lt samples)

theorem average_le (short : samples.length < 2 ^ 64) (above : ∀ v ∈ samples, v ≤ bound) :
    average samples ≤ bound := by
  rw [UInt64.le_iff_toNat_le, toNat_average short]
  exact Nat.div_le_of_le_mul (total_le above)

theorem le_average (short : samples.length < 2 ^ 64) (nonempty : samples ≠ [])
    (below : ∀ v ∈ samples, bound ≤ v) : bound ≤ average samples := by
  rw [UInt64.le_iff_toNat_le, toNat_average short,
    Nat.le_div_iff_mul_le (List.length_pos_of_ne_nil nonempty), Nat.mul_comm]
  exact le_total below

theorem average_of_perm {a b : List UInt64} (h : a.Perm b) (short : a.length < 2 ^ 64) :
    average a = average b := by
  rw [← UInt64.toNat_inj, toNat_average short, toNat_average (h.length_eq ▸ short), h.length_eq,
    total_of_perm h]

end

/-- For every sample that a 64-bit length can have: no addition fills 128 bits, so the sum is the
true one; the quotient fits a word, which is the true mean without its fraction, zero for an empty
sample. The statistics of a sample have this mean, whatever the order, and it lies between the least
and the greatest element. -/
theorem mean_of_samples {samples : List UInt64} (short : samples.length < 2 ^ 64) :
    (∀ before v after, samples = before ++ v :: after → (sum before).toNat + v.toNat < 2 ^ 128) ∧
    (sum samples).toNat = (samples.map UInt64.toNat).sum ∧
    (sum samples / BitVec.ofNat 128 samples.length).toNat < UInt64.size ∧
    (average samples).toNat = (samples.map UInt64.toNat).sum / samples.length ∧
    (samples = [] → average samples = 0) ∧
    let s := Summary.of samples
    s.average = average samples ∧
    (samples ≠ [] → s.least ∈ samples ∧ s.greatest ∈ samples ∧
      (∀ v ∈ samples, s.least ≤ v ∧ v ≤ s.greatest) ∧
      s.least ≤ s.average ∧ s.average ≤ s.greatest) := by
  have perm := sorted_perm samples
  have ascending := ascending_sorted samples
  have mean : average (sorted samples) = average samples :=
    average_of_perm perm (perm.length_eq ▸ short)
  refine ⟨fun before v after parts => ?_, toNat_sum_of_short short, ?_, toNat_average short,
    fun none => none ▸ average_nil, mean, fun nonempty => ?_⟩
  · rw [parts, List.length_append, List.length_cons] at short
    have first : (before ++ [v]).length < 2 ^ 64 := by
      rw [List.length_append, List.length_singleton]
      omega
    have fits := total_lt first
    rw [total_append] at fits
    rw [toNat_sum_of_short (by omega)]
    exact fits
  · rw [toNat_quotient short]
    exact mean_lt samples
  · have stays : sorted samples ≠ [] := fun none => nonempty (List.perm_nil.1 (none ▸ perm.symm))
    obtain ⟨leastMem, least⟩ := headD_least ascending stays
    obtain ⟨greatestMem, greatest⟩ := getLastD_greatest ascending stays
    have below : ∀ v ∈ samples, (Summary.of samples).least ≤ v := fun v member =>
      least v (perm.mem_iff.2 member)
    have above : ∀ v ∈ samples, v ≤ (Summary.of samples).greatest := fun v member =>
      greatest v (perm.mem_iff.2 member)
    refine ⟨perm.mem_iff.1 leastMem, perm.mem_iff.1 greatestMem,
      fun v member => ⟨below v member, above v member⟩, ?_, ?_⟩
    · exact (le_average short nonempty below).trans_eq mean.symm
    · exact mean.trans_le (average_le short above)

/-- Three samples at the limit of a word, whose sum needs 66 bits. -/
theorem mean_of_samples_greatest :
    let samples : List UInt64 :=
      [18446744073709551615, 18446744073709551613, 18446744073709551615]
    let s := Summary.of samples
    samples.length < 2 ^ 64 ∧ samples ≠ [] ∧
    (sum samples).toNat = 55340232221128654843 ∧ s.average = 18446744073709551614 ∧
    s.least ≤ s.average ∧ s.average ≤ s.greatest := by
  intro samples s
  have short : samples.length < 2 ^ 64 := by decide
  have nonempty : samples ≠ [] := by decide
  obtain ⟨-, sum, -, -, -, mean, inside⟩ := mean_of_samples short
  have value : average samples = 18446744073709551614 := by decide
  exact ⟨short, nonempty, sum.trans (by decide), mean.trans value, (inside nonempty).2.2.2⟩

end Barrage.Latency
