/-! Finite maps with text keys, kept in ascending key order.
The order is that of code points, which is also the order of the encoded bytes. Two dictionaries
with the same bindings are equal, and listing one needs no sorting. -/

namespace Barrage

/-- Bindings in strictly ascending key order, so every key occurs once. -/
structure Dict (α : Type) where
  entries : List (String × α)
  ascending : entries.Pairwise (fun a b => a.1 < b.1)
  deriving DecidableEq

namespace Dict
variable {α β : Type}

def empty : Dict α := ⟨[], .nil⟩

instance : Inhabited (Dict α) := ⟨empty⟩
instance : EmptyCollection (Dict α) := ⟨empty⟩

def isEmpty (d : Dict α) : Bool := d.entries.isEmpty

def keys (d : Dict α) : List String := d.entries.map (·.1)

def values (d : Dict α) : List α := d.entries.map (·.2)

def find (k : String) : List (String × α) → Option α
  | [] => none
  | (j, v) :: rest => if j = k then some v else find k rest

def get? (d : Dict α) (k : String) : Option α := find k d.entries

def place (k : String) (v : α) : List (String × α) → List (String × α)
  | [] => [(k, v)]
  | (j, w) :: rest =>
    if k < j then (k, v) :: (j, w) :: rest
    else if k = j then (k, v) :: rest
    else (j, w) :: place k v rest

theorem mem_place {k : String} {v : α} {e : String × α} {l : List (String × α)}
    (h : e ∈ place k v l) : e = (k, v) ∨ e ∈ l := by
  induction l with
  | nil => simpa [place] using h
  | cons head rest ih =>
    obtain ⟨j, w⟩ := head
    rw [place] at h
    split at h
    · simpa using h
    · split at h
      · rcases List.mem_cons.1 h with h | h <;> simp [h]
      · rcases List.mem_cons.1 h with h | h
        · simp [h]
        · rcases ih h with h | h <;> simp [h]

theorem ascending_place (k : String) (v : α) {l : List (String × α)}
    (h : l.Pairwise (fun a b => a.1 < b.1)) : (place k v l).Pairwise (fun a b => a.1 < b.1) := by
  induction l with
  | nil => simp [place]
  | cons head rest ih =>
    obtain ⟨j, w⟩ := head
    rw [place]
    have hj : ∀ e ∈ rest, j < e.1 := fun _ he => List.rel_of_pairwise_cons h he
    split
    · rename_i hk
      refine .cons (fun e he => ?_) h
      rcases List.mem_cons.1 he with rfl | he
      · exact hk
      · exact String.lt_trans hk (hj e he)
    · rename_i hk
      split
      · rename_i hkj
        subst hkj
        exact .cons (fun e he => hj e he) h.of_cons
      · rename_i hne
        refine .cons (fun e he => ?_) (ih h.of_cons)
        rcases mem_place he with rfl | he
        · exact Decidable.byContradiction fun hjk =>
            hne (String.le_antisymm (String.not_lt.1 hjk) (String.not_lt.1 hk))
        · exact hj e he

def insert (d : Dict α) (k : String) (v : α) : Dict α :=
  ⟨place k v d.entries, ascending_place k v d.ascending⟩

def ofList (l : List (String × α)) : Dict α := l.foldl (fun d e => d.insert e.1 e.2) empty

def map (f : α → β) (d : Dict α) : Dict β :=
  ⟨d.entries.map fun e => (e.1, f e.2), List.pairwise_map.2 d.ascending⟩

def alter (d : Dict α) (k : String) (f : Option α → α) : Dict α := d.insert k (f (d.get? k))

@[simp] theorem entries_empty : (empty : Dict α).entries = [] := rfl

@[simp] theorem entries_insert (d : Dict α) (k : String) (v : α) :
    (d.insert k v).entries = place k v d.entries := rfl

@[simp] theorem get?_empty (k : String) : (empty : Dict α).get? k = none := rfl

theorem find_place_self (k : String) (v : α) (l : List (String × α)) :
    find k (place k v l) = some v := by
  induction l with
  | nil => simp [place, find]
  | cons head rest ih =>
    obtain ⟨j, w⟩ := head
    rw [place]
    split
    · simp [find]
    · split
      · simp [find]
      · rename_i h
        simp [find, Ne.symm h, ih]

theorem find_place_ne {k i : String} (v : α) (h : k ≠ i) (l : List (String × α)) :
    find i (place k v l) = find i l := by
  induction l with
  | nil => simp [place, find, h]
  | cons head rest ih =>
    obtain ⟨j, w⟩ := head
    rw [place]
    split
    · simp [find, h]
    · split
      · rename_i hk
        subst hk
        simp [find, h]
      · by_cases hj : j = i <;> simp [find, hj, ih]

@[simp] theorem get?_insert_self (d : Dict α) (k : String) (v : α) :
    (d.insert k v).get? k = some v := find_place_self k v d.entries

theorem get?_insert_ne (d : Dict α) {k i : String} (v : α) (h : k ≠ i) :
    (d.insert k v).get? i = d.get? i := find_place_ne v h d.entries

end Dict
end Barrage
