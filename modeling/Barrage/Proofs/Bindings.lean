import Mathlib.Algebra.GroupWithZero.Nat
import Mathlib.Algebra.Order.BigOperators.Group.List
import Mathlib.Algebra.Order.Group.Nat
import Mathlib.Data.List.Sort
import Barrage.Dict

/-! Dictionaries by their bindings.
In ascending order a key is found exactly where it is bound, so two dictionaries that answer every
lookup alike are one. Numbers kept under keys add up, and changing one changes the sum as much. -/

namespace Barrage.Dict
variable {α β : Type}

abbrev Ascending (l : List (String × α)) : Prop := l.Pairwise (fun a b => a.1 < b.1)

theorem find_eq_none {k : String} {l : List (String × α)} (above : ∀ e ∈ l, k < e.1) :
    find k l = none := by
  induction l with
  | nil => rfl
  | cons e rest ih =>
    have ne : e.1 ≠ k := fun h => String.lt_irrefl k (h ▸ above e (by simp))
    rw [find, if_neg ne]
    exact ih fun e he => above e (List.mem_cons_of_mem _ he)

theorem find_eq_some_iff {k : String} {v : α} {l : List (String × α)} (h : Ascending l) :
    find k l = some v ↔ (k, v) ∈ l := by
  induction l with
  | nil => simp [find]
  | cons e rest ih =>
    obtain ⟨j, w⟩ := e
    have later : ∀ e ∈ rest, j < e.1 := fun _ he => List.rel_of_pairwise_cons h he
    by_cases hj : j = k
    · subst hj
      have fresh : (j, v) ∉ rest := fun he => String.lt_irrefl j (later _ he)
      simp [find, fresh, eq_comm]
    · rw [find, if_neg hj, ih h.of_cons]
      simp [Ne.symm hj]

theorem get?_eq_some_iff (d : Dict α) {k : String} {v : α} :
    d.get? k = some v ↔ (k, v) ∈ d.entries := find_eq_some_iff d.ascending

theorem ext_get? {d e : Dict α} (h : ∀ k, d.get? k = e.get? k) : d = e := by
  have antisymm : Std.Antisymm (fun a b : String × α => a.1 < b.1) :=
    ⟨fun _ _ hab hba => absurd hba (String.lt_asymm hab)⟩
  have irrefl : Std.Irrefl (fun a b : String × α => a.1 < b.1) :=
    ⟨fun a => String.lt_irrefl a.1⟩
  have same : d.entries = e.entries := by
    refine d.ascending.eq_of_mem_iff e.ascending fun b => ?_
    rw [← d.get?_eq_some_iff, ← e.get?_eq_some_iff, h]
  cases d
  cases e
  simpa using same

theorem get?_insert (d : Dict α) (k i : String) (v : α) :
    (d.insert k v).get? i = if k = i then some v else d.get? i := by
  split
  · next h => rw [← h, get?_insert_self]
  · next h => exact get?_insert_ne d v h

theorem get?_map (f : α → β) (d : Dict α) (k : String) : (d.map f).get? k = (d.get? k).map f := by
  simp only [get?, map]
  induction d.entries with
  | nil => rfl
  | cons e rest ih => by_cases h : e.1 = k <;> simp [find, h, ih]

@[simp] theorem values_map (f : α → β) (d : Dict α) : (d.map f).values = d.values.map f := by
  simp [values, map, Function.comp_def]

theorem sum_place {l : List (String × Nat)} (h : Ascending l) (k : String) (n : Nat) :
    ((place k n l).map (·.2)).sum + (find k l).getD 0 = (l.map (·.2)).sum + n := by
  induction l with
  | nil => simp [place, find]
  | cons e rest ih =>
    obtain ⟨j, w⟩ := e
    have later : ∀ e ∈ rest, j < e.1 := fun _ he => List.rel_of_pairwise_cons h he
    rw [place]
    split
    · next hk =>
      have absent : find k ((j, w) :: rest) = none := by
        refine find_eq_none fun e he => ?_
        rcases List.mem_cons.1 he with rfl | he
        · exact hk
        · exact String.lt_trans hk (later e he)
      simp [absent]
      omega
    · split
      · next hkj =>
        simp [find, hkj]
        omega
      · next hkj =>
        have tail := ih h.of_cons
        simp only [find, if_neg (Ne.symm hkj), List.map_cons, List.sum_cons]
        omega

theorem sum_values_insert (d : Dict Nat) (k : String) (n : Nat) :
    (d.insert k n).values.sum + (d.get? k).getD 0 = d.values.sum + n :=
  sum_place d.ascending k n

theorem le_sum_values (d : Dict Nat) {k : String} {n : Nat} (h : (k, n) ∈ d.entries) :
    n ≤ d.values.sum :=
  List.le_sum_of_mem (List.mem_map.2 ⟨(k, n), h, rfl⟩)

theorem ascending_values (d : Dict α) (key : α → String)
    (own : ∀ k v, d.get? k = some v → key v = k) : (d.values.map key).Pairwise (· < ·) := by
  have keys : d.values.map key = d.keys := by
    rw [values, keys, List.map_map]
    exact List.map_congr_left fun e he => own e.1 e.2 (d.get?_eq_some_iff.2 he)
  rw [keys]
  exact List.pairwise_map.2 d.ascending

theorem place_perm {k : String} {l : List (String × α)} (new : find k l = none) (v : α) :
    (place k v l).Perm ((k, v) :: l) := by
  induction l with
  | nil => exact .refl _
  | cons e rest ih =>
    obtain ⟨j, w⟩ := e
    by_cases same : j = k
    · simp [find, same] at new
    rw [find, if_neg same] at new
    rw [place]
    split
    · exact .refl _
    · rw [if_neg (Ne.symm same)]
      exact ((ih new).cons _).trans (.swap _ _ _)

theorem values_insert_perm {d : Dict α} {k : String} (new : d.get? k = none) (v : α) :
    (d.insert k v).values.Perm (v :: d.values) := (place_perm new v).map Prod.snd

theorem find_append (k : String) (l m : List (String × α)) :
    find k (l ++ m) = (find k l).or (find k m) := by
  induction l with
  | nil => rfl
  | cons e rest ih => by_cases h : e.1 = k <;> simp [find, h, ih]

theorem mem_of_find {k : String} {v : α} {l : List (String × α)} (h : find k l = some v) :
    (k, v) ∈ l := by
  induction l with
  | nil => simp [find] at h
  | cons e rest ih =>
    obtain ⟨j, w⟩ := e
    by_cases hj : j = k
    · simp_all [find]
    · rw [find, if_neg hj] at h
      exact List.mem_cons_of_mem _ (ih h)

theorem isSome_find {k : String} {v : α} {l : List (String × α)} (h : (k, v) ∈ l) :
    (find k l).isSome := by
  induction l with
  | nil => simp at h
  | cons e rest ih =>
    obtain ⟨j, w⟩ := e
    by_cases hj : j = k
    · simp [find, hj]
    · rw [find, if_neg hj]
      refine ih ((List.mem_cons.1 h).resolve_left fun same => hj ?_)
      exact (congrArg Prod.fst same).symm

theorem get?_ofList (l : List (String × α)) (k : String) :
    (ofList l).get? k = find k l.reverse := by
  have general (d : Dict α) : (l.foldl (fun d e => d.insert e.1 e.2) d).get? k =
      (find k l.reverse).or (d.get? k) := by
    induction l generalizing d with
    | nil => rfl
    | cons e rest ih =>
      rw [List.foldl_cons, ih, List.reverse_cons, find_append, Option.or_assoc, get?_insert]
      by_cases h : e.1 = k <;> simp [find, h]
  rw [ofList, general, get?_empty, Option.or_none]

theorem mem_of_get?_ofList {l : List (String × α)} {k : String} {v : α}
    (h : (ofList l).get? k = some v) : (k, v) ∈ l := by
  rw [get?_ofList] at h
  exact List.mem_reverse.1 (mem_of_find h)

theorem get?_ofList_of_mem {l : List (String × α)} {k : String} {v : α} (bound : (k, v) ∈ l)
    (only : ∀ w, (k, w) ∈ l → w = v) : (ofList l).get? k = some v := by
  have found := isSome_find (List.mem_reverse.2 bound)
  rw [← get?_ofList] at found
  obtain ⟨w, hw⟩ := Option.isSome_iff_exists.1 found
  rw [hw, only w (mem_of_get?_ofList hw)]

theorem ofList_of_perm {l : List (String × α)} {d : Dict α} (h : l.Perm d.entries) :
    ofList l = d := by
  refine ext_get? fun k => ?_
  cases hk : d.get? k with
  | some v =>
    refine get?_ofList_of_mem (h.mem_iff.2 (d.get?_eq_some_iff.1 hk)) fun w hw => ?_
    exact Option.some.inj ((d.get?_eq_some_iff.2 (h.mem_iff.1 hw)).symm.trans hk)
  | none =>
    refine Option.eq_none_iff_forall_ne_some.2 fun v hv => ?_
    have bound := d.get?_eq_some_iff.2 (h.mem_iff.1 (mem_of_get?_ofList hv))
    exact absurd (hk.symm.trans bound) (by simp)

end Barrage.Dict
