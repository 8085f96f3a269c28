import Mathlib.Data.List.Basic

/-! Ties in sorted lists.
Sorting takes an element past others only where it has to, so elements of which each may stand
before each stay in the order that they were in. -/

namespace Barrage

theorem filter_mergeSort {α : Type} {le : α → α → Bool}
    (trans : ∀ a b c, le a b = true → le b c = true → le a c = true)
    (total : ∀ a b, (le a b || le b a) = true) {kind : α → Bool}
    (tied : ∀ a b, kind a = true → kind b = true → le a b = true) (l : List α) :
    (l.mergeSort le).filter kind = l.filter kind := by
  have ties : (l.filter kind).Pairwise fun a b => le a b = true :=
    List.pairwise_of_forall_mem_list fun a here b there =>
      tied a b (List.mem_filter.1 here).2 (List.mem_filter.1 there).2
  have kept : (l.filter kind).Sublist (l.mergeSort le) :=
    List.sublist_mergeSort trans total ties List.filter_sublist
  -- they are all of those that there are
  have inside := kept.filter kind
  rw [List.filter_filter] at inside
  simp only [Bool.and_self] at inside
  exact (inside.eq_of_length ((List.mergeSort_perm l le).filter _).length_eq.symm).symm

end Barrage
