import Mathlib.Data.List.Nodup
import Barrage.Disk

/-! Directories that texts lead to.
A text is followed through directories that are there, or makes those that are missing. What was
walked once can be walked again as long as directories stay directories, and no operation turns one
into a file. -/

namespace Barrage.Disk

structure KeepsDirectories (d e : Disk) : Prop where
  home : e.home = d.home
  kept : ∀ p, d.node? p = some .directory → e.node? p = some .directory

theorem KeepsDirectories.refl (d : Disk) : KeepsDirectories d d := ⟨rfl, fun _ h => h⟩

theorem KeepsDirectories.trans {d e f : Disk} (h : KeepsDirectories d e)
    (g : KeepsDirectories e f) : KeepsDirectories d f :=
  ⟨g.home.trans h.home, fun p there => g.kept p (h.kept p there)⟩

theorem KeepsDirectories.origin {d e : Disk} (h : KeepsDirectories d e) (s : List Char) :
    e.origin s = d.origin s := by simp only [Disk.origin, h.home]

theorem keepsDirectories_put {d : Disk} {p : Path} {n : Node}
    (h : d.node? p = some .directory → n = .directory) : KeepsDirectories d (d.put p n) := by
  refine ⟨rfl, fun q there => ?_⟩
  by_cases root : q = []
  · rw [root, node?_root]
  by_cases same : q = p
  · subst same
    rw [node?_put_self d root, h there]
  · rw [node?_put_ne d same, there]

inductive Leads (d : Disk) : Path → List (List Char) → Path → Prop
  | here (p : Path) : Leads d p [] p
  | up {p q : Path} {rest : List (List Char)} (h : Leads d p.dropLast rest q) :
      Leads d p (['.', '.'] :: rest) q
  | down {p q : Path} {c : List Char} {rest : List (List Char)} (named : c ≠ ['.', '.'])
      (short : ¬ FileName.longest < (FileName.text (String.ofList c)).size)
      (there : d.node? (p ++ [.text (String.ofList c)]) = some .directory)
      (h : Leads d (p ++ [.text (String.ofList c)]) rest q) : Leads d p (c :: rest) q

theorem Leads.mono {d e : Disk} (keeps : KeepsDirectories d e) {p q : Path}
    {cs : List (List Char)} (h : Leads d p cs q) : Leads e p cs q := by
  induction h with
  | here p => exact .here p
  | up _ ih => exact .up ih
  | down named short there _ ih => exact .down named short (keeps.kept _ there) ih

theorem Leads.follow {d : Disk} {p q : Path} {cs : List (List Char)} (h : Leads d p cs q)
    (wantsDirectory : Bool) : d.follow wantsDirectory p cs = .ok q := by
  induction h with
  | here p => rfl
  | up _ ih => rw [Disk.follow, if_pos rfl, ih]
  | down named short there rest ih =>
    rw [Disk.follow, if_neg named]
    simp only [if_neg short, there]
    -- the last component is not looked at, unless the text ends in a slash
    split
    · next last =>
      rw [last.1] at rest
      cases rest
      rfl
    · exact ih

theorem Leads.makeAlong {d : Disk} {p q : Path} {cs : List (List Char)} (h : Leads d p cs q) :
    d.makeAlong p cs = (.ok (), d) := by
  induction h with
  | here p => rfl
  | up _ ih => rw [Disk.makeAlong, if_pos rfl, ih]
  | down named short there _ ih =>
    rw [Disk.makeAlong, if_neg named]
    simpa only [if_neg short, there] using ih

theorem leads_of_makeAlong {d e : Disk} {p : Path} {cs : List (List Char)}
    (h : d.makeAlong p cs = (.ok (), e)) : KeepsDirectories d e ∧ ∃ q, Leads e p cs q := by
  induction cs generalizing d p with
  | nil =>
    obtain rfl : d = e := congrArg Prod.snd h
    exact ⟨.refl d, p, .here p⟩
  | cons c rest ih =>
    rw [makeAlong] at h
    by_cases up : c = ['.', '.']
    · subst up
      obtain ⟨keeps, q, leads⟩ := ih ((if_pos rfl).symm.trans h)
      exact ⟨keeps, q, .up leads⟩
    simp only [if_neg up] at h
    by_cases long : FileName.longest < (FileName.text (String.ofList c)).size
    · simp only [if_pos long] at h
      cases h
    simp only [if_neg long] at h
    split at h
    · next there =>
      obtain ⟨keeps, q, leads⟩ := ih h
      exact ⟨keeps, q, .down up long (keeps.kept _ there) leads⟩
    · cases h
    · next missing =>
      -- the new directory is still there when the rest has been made
      obtain ⟨keeps, q, leads⟩ := ih h
      exact ⟨(keepsDirectories_put fun _ => rfl).trans keeps, q,
        .down up long (keeps.kept _ (node?_put_self d (by simp) .directory)) leads⟩

theorem resolve_of_leads {d : Disk} {s : String} {p : Path} (nonempty : s.toList ≠ [])
    (noZero : s.toList.contains '\x00' = false)
    (leads : d.Leads (d.origin s.toList) (components s.toList) p) : d.resolve s = .ok p := by
  simp only [resolve, if_neg nonempty, noZero, leads.follow]
  rfl

structure Reaches (d : Disk) (s : String) (p : Path) : Prop where
  nonempty : s.toList ≠ []
  noZero : s.toList.contains '\x00' = false
  leads : d.Leads (d.origin s.toList) (components s.toList) p
  there : d.node? p = some .directory

namespace Reaches
variable {d e : Disk} {s : String} {p : Path}

theorem mono (keeps : KeepsDirectories d e) (h : d.Reaches s p) : e.Reaches s p where
  nonempty := h.nonempty
  noZero := h.noZero
  leads := by
    rw [keeps.origin]
    exact h.leads.mono keeps
  there := keeps.kept p h.there

theorem resolve (h : d.Reaches s p) : d.resolve s = .ok p :=
  resolve_of_leads h.nonempty h.noZero h.leads

theorem list (h : d.Reaches s p) : d.list s = .ok (p, d.children p) := by
  simp only [Disk.list, h.resolve, bind, Except.bind, h.there]

theorem directory (h : d.Reaches s p) : d.directory s = .ok p := by
  have nonempty : s.isEmpty = false := by
    simpa [String.isEmpty_iff, ← String.toList_eq_nil_iff] using h.nonempty
  simp only [Disk.directory, nonempty, h.resolve, bind, Except.bind, h.there]
  rfl

theorem makeDirectories (h : d.Reaches s p) : d.makeDirectories s = (.ok (), d) := by
  simp only [Disk.makeDirectories, h.noZero, if_neg h.nonempty, h.leads.makeAlong]
  rfl

end Reaches

theorem leads_of_makeDirectories {d e : Disk} {s : String} (nonempty : s.toList ≠ [])
    (made : d.makeDirectories s = (.ok (), e)) :
    s.toList.contains '\x00' = false ∧ KeepsDirectories d e ∧
      ∃ q, e.Leads (e.origin s.toList) (components s.toList) q := by
  have noZero : s.toList.contains '\x00' = false := by
    by_contra zero
    rw [Bool.not_eq_false] at zero
    simp only [Disk.makeDirectories, zero] at made
    cases made
  simp only [Disk.makeDirectories, noZero, if_neg nonempty] at made
  obtain ⟨keeps, q, leads⟩ := leads_of_makeAlong made
  rw [← keeps.origin] at leads
  exact ⟨noZero, keeps, q, leads⟩

theorem reaches_of_makeDirectories {d e : Disk} {s : String} {p : Path} {names : List FileName}
    (made : d.makeDirectories s = (.ok (), e)) (listed : e.list s = .ok (p, names)) :
    e.Reaches s p ∧ names = e.children p := by
  have nonempty : s.toList ≠ [] := by
    intro none
    simp [Disk.list, Disk.resolve, none, bind, Except.bind] at listed
  obtain ⟨noZero, -, q, leads⟩ := leads_of_makeDirectories nonempty made
  simp only [Disk.list, resolve_of_leads nonempty noZero leads, bind, Except.bind] at listed
  split at listed
  · next there =>
    cases listed
    exact ⟨⟨nonempty, noZero, leads, there⟩, rfl⟩
  · cases listed
  · cases listed

theorem mem_of_find {p : Path} {n : Node} {l : List (Path × Node)} (h : find p l = some n) :
    (p, n) ∈ l := by
  induction l with
  | nil => simp [find] at h
  | cons e rest ih =>
    obtain ⟨q, m⟩ := e
    by_cases same : q = p
    · simp_all [find]
    · rw [find, if_neg same] at h
      exact List.mem_cons_of_mem _ (ih h)

theorem mem_children {d : Disk} {p : Path} {name : FileName} {n : Node}
    (h : d.node? (p ++ [name]) = some n) : name ∈ d.children p := by
  rw [node?, if_neg (by simp)] at h
  exact List.mem_filterMap.2 ⟨_, mem_of_find h, by simp⟩

/-- The working directory is there, and so are the directories on the way to everything. -/
structure Rooted (d : Disk) : Prop where
  home : d.node? d.home = some .directory
  parents : ∀ p name n, d.node? (p ++ [name]) = some n → d.node? p = some .directory

namespace Rooted
variable {d e : Disk} {p q : Path} {cs : List (List Char)}

theorem of_nodes (home : d.node? d.home = some .directory)
    (all : ∀ e ∈ d.nodes, d.node? e.1.dropLast = some .directory) : d.Rooted where
  home := home
  parents p name n held := by
    rw [node?, if_neg (by simp)] at held
    have there := all _ (mem_of_find held)
    rwa [List.dropLast_concat] at there

theorem dropLast (h : d.Rooted) (there : d.node? p = some .directory) :
    d.node? p.dropLast = some .directory := by
  obtain rfl | ⟨q, name, rfl⟩ := p.eq_nil_or_concat'
  · exact there
  · rw [List.dropLast_concat]
    exact h.parents q name _ there

theorem put (h : d.Rooted) (there : d.node? p = some .directory) {name : FileName}
    (missing : d.node? (p ++ [name]) = none) : (d.put (p ++ [name]) .directory).Rooted := by
  have keeps : KeepsDirectories d (d.put (p ++ [name]) .directory) :=
    keepsDirectories_put fun _ => rfl
  refine ⟨keeps.kept _ h.home, fun q other n held => ?_⟩
  by_cases same : q ++ [other] = p ++ [name]
  · obtain ⟨rfl, -⟩ := List.append_inj' same rfl
    exact keeps.kept _ there
  · rw [node?_put_ne d same] at held
    exact keeps.kept _ (h.parents q other n held)

theorem makeAlong (h : d.Rooted) (there : d.node? p = some .directory) :
    (d.makeAlong p cs).2.Rooted := by
  induction cs generalizing d p with
  | nil => exact h
  | cons c rest ih =>
    rw [Disk.makeAlong]
    split
    · exact ih h (h.dropLast there)
    · simp only
      split
      · exact h
      · split
        · next next => exact ih h next
        · exact h
        · next missing => exact ih (h.put there missing) (node?_put_self d (by simp) .directory)

theorem origin (h : d.Rooted) (s : List Char) : d.node? (d.origin s) = some .directory := by
  rw [Disk.origin]
  split
  · exact node?_root d
  · exact h.home

theorem makeDirectories (h : d.Rooted) (s : String) : (d.makeDirectories s).2.Rooted := by
  simp only [Disk.makeDirectories]
  split
  · exact h
  · split
    · exact h.makeAlong h.home
    · exact h.makeAlong (h.origin _)

theorem leads (h : d.Rooted) (there : d.node? p = some .directory) (way : d.Leads p cs q) :
    d.node? q = some .directory := by
  induction way with
  | here p => exact there
  | up _ ih => exact ih (h.dropLast there)
  | down _ _ next _ ih => exact ih next

theorem reaches_of_makeDirectories {s : String} (h : d.Rooted) (named : s ≠ "")
    (made : d.makeDirectories s = (.ok (), e)) : ∃ p, e.Reaches s p := by
  have nonempty : s.toList ≠ [] := fun none => named (String.toList_eq_nil_iff.1 none)
  obtain ⟨noZero, -, q, way⟩ := leads_of_makeDirectories nonempty made
  have rooted := h.makeDirectories s
  rw [made] at rooted
  exact ⟨q, nonempty, noZero, way, rooted.leads (rooted.origin _) way⟩

end Rooted

def Distinct (d : Disk) : Prop := (d.nodes.map Prod.fst).Nodup

instance (d : Disk) : Decidable d.Distinct := inferInstanceAs (Decidable (List.Nodup _))

namespace Distinct
variable {d : Disk}

theorem put (h : d.Distinct) (p : Path) (n : Node) : (d.put p n).Distinct := by
  rw [Distinct, Disk.put, List.map_append, List.nodup_append]
  refine ⟨h.sublist (List.filter_sublist.map _), by simp, ?_⟩
  intro q kept r last same
  obtain ⟨e, entry, rfl⟩ := List.mem_map.1 kept
  have apart : e.1 ≠ p := by simpa using (List.mem_filter.1 entry).2
  have last : r = p := by simpa using last
  exact apart (same.trans last)

theorem makeAlong (h : d.Distinct) (p : Path) (cs : List (List Char)) :
    (d.makeAlong p cs).2.Distinct := by
  induction cs generalizing d p with
  | nil => exact h
  | cons c rest ih =>
    rw [Disk.makeAlong]
    split
    · exact ih h _
    · simp only
      split
      · exact h
      · split
        · exact ih h _
        · exact h
        · exact ih (h.put _ _) _

theorem makeDirectories (h : d.Distinct) (s : String) : (d.makeDirectories s).2.Distinct := by
  simp only [Disk.makeDirectories]
  split
  · exact h
  · exact h.makeAlong _ _

theorem nodup_children (h : d.Distinct) (p : Path) : (d.children p).Nodup := by
  have names : d.children p = (d.nodes.map Prod.fst).filterMap fun q =>
      if q.dropLast = p ∧ q ≠ [] then q.getLast? else none := by
    rw [List.filterMap_map]
    rfl
  rw [names]
  -- a name in the directory gives back its path
  refine List.Nodup.filterMap (fun q r name here there => ?_) h
  split at here
  · split at there
    · next left right =>
      rw [← List.dropLast_append_getLast? _ here, ← List.dropLast_append_getLast? _ there, left.1,
        right.1]
    · cases there
  · cases here

end Distinct
end Barrage.Disk
