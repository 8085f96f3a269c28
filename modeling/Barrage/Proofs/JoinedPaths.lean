import Barrage.Proofs.Directories
import Barrage.Proofs.Encodings

/-! Texts of files in directories.
A name that is one component, appended to the text of a directory, leads to the file of that name in
the directory and nowhere else. To which directories texts lead depends on no file. -/

namespace Barrage

namespace Disk

structure JsonName (name : String) : Prop where
  whole : '/' ∉ name.toList
  noZero : '\x00' ∉ name.toList
  ending : ".json".toList <:+ name.toList

namespace JsonName
variable {name : String} (h : JsonName name)
include h

theorem length : 5 ≤ name.toList.length := h.ending.length_le

theorem ne_dots : name.toList ≠ [] ∧ name.toList ≠ ['.'] ∧ name.toList ≠ ['.', '.'] := by
  have long := h.length
  refine ⟨?_, ?_, ?_⟩ <;>
    · intro same
      rw [same] at long
      simp at long

theorem components : components name.toList = [name.toList] := by
  rw [Disk.components, Text.splitAt_of_not_mem h.whole]
  simp [h.ne_dots]

theorem components_append (cs : List Char) :
    Disk.components (cs ++ '/' :: name.toList) = Disk.components cs ++ [name.toList] := by
  rw [Disk.components, Text.splitAt_append_cons, List.filter_append, ← Disk.components,
    ← Disk.components, h.components]

theorem not_endsInDirectory (cs : List Char) : endsInDirectory (cs ++ name.toList) = false := by
  obtain ⟨before, ending⟩ := h.ending
  rw [← ending]
  simp [endsInDirectory]

end JsonName

theorem joinPath_parts (d : Disk) {name : String} (h : JsonName name) (s : String) :
    (joinPath s name).toList ≠ [] ∧ endsInDirectory (joinPath s name).toList = false ∧
    ('\x00' ∈ (joinPath s name).toList ↔ '\x00' ∈ s.toList) ∧
    d.origin (joinPath s name).toList = d.origin s.toList ∧
    components (joinPath s name).toList = components s.toList ++ [name.toList] := by
  have noZero := h.noZero
  have first : name.toList.head? ≠ some '/' := fun slash => h.whole (List.mem_of_mem_head? slash)
  by_cases empty : s = ""
  · have joined : (joinPath s name).toList = name.toList := by simp [joinPath, empty]
    rw [joined, empty]
    refine ⟨h.ne_dots.1, h.not_endsInDirectory [], by simp [noZero], ?_, h.components⟩
    simp [origin, first]
  have nonempty : s.toList ≠ [] := by simpa using empty
  obtain ⟨c, rest, start⟩ := List.exists_cons_of_ne_nil nonempty
  by_cases slash : s.toList.getLast? = some '/'
  · obtain ⟨cs, ending⟩ := List.getLast?_eq_some_iff.1 slash
    have joined : (joinPath s name).toList = cs ++ '/' :: name.toList := by
      simp [joinPath, ending]
    have stays : components s.toList = components cs := by
      rw [ending, components, Text.splitAt_append_cons, List.filter_append]
      simp [components, Text.splitAt]
    rw [joined, h.components_append, stays]
    refine ⟨by simp, ?_, by simp [ending, noZero], ?_, rfl⟩
    · simpa using h.not_endsInDirectory (cs ++ ['/'])
    · rw [ending]
      cases cs <;> rfl
  · have joined : (joinPath s name).toList = s.toList ++ '/' :: name.toList := by
      simp [joinPath, slash, empty, String.isEmpty_iff]
    rw [joined, h.components_append]
    refine ⟨by simp, ?_, by simp [noZero], ?_, rfl⟩
    · simpa using h.not_endsInDirectory (s.toList ++ ['/'])
    · rw [start]
      rfl

theorem leads_of_follow {d : Disk} {wants : Bool} {p q : Path} {cs : List (List Char)}
    (h : d.follow wants p cs = .ok q) (there : d.node? q = some .directory) : d.Leads p cs q := by
  induction cs generalizing p with
  | nil =>
    cases h
    exact .here _
  | cons c rest ih =>
    rw [follow] at h
    by_cases up : c = ['.', '.']
    · rw [if_pos up] at h
      rw [up]
      exact .up (ih h)
    rw [if_neg up] at h
    by_cases long : FileName.longest < (FileName.text (String.ofList c)).size
    · simp only [if_pos long] at h
      cases h
    simp only [if_neg long] at h
    split at h
    · next last =>
      cases h
      rw [last.1]
      exact .down up long there (.here _)
    · split at h
      · next directory => exact .down up long directory (ih h)
      · cases h
      · cases h

theorem Leads.follow_append {d : Disk} {p q : Path} {cs : List (List Char)} (h : d.Leads p cs q)
    {c : List Char} (named : c ≠ ['.', '.']) :
    d.follow false p (cs ++ [c]) =
      if FileName.longest < (FileName.text (String.ofList c)).size then .error .nameTooLong
      else .ok (q ++ [.text (String.ofList c)]) := by
  induction h with
  | here p =>
    rw [List.nil_append, Disk.follow, if_neg named]
    simp
  | up _ ih => rw [List.cons_append, Disk.follow, if_pos rfl, ih]
  | down other short there rest ih =>
    rw [List.cons_append, Disk.follow, if_neg other]
    simp only [if_neg short, there]
    rw [if_neg (by simp), ih]

theorem directory_eq_ok_iff {d : Disk} {s : String} {p : Path} :
    d.directory s = .ok p ↔ '\x00' ∉ s.toList ∧
      d.Leads (d.origin s.toList) (components s.toList) p ∧ d.node? p = some .directory := by
  by_cases empty : s = ""
  · rw [empty]
    constructor
    · intro h
      have start : "".isEmpty = true := rfl
      simp only [Disk.directory, start, if_true, bind, Except.bind] at h
      split at h <;> cases h
      exact ⟨by simp, .here _, ‹_›⟩
    · rintro ⟨-, leads, home⟩
      cases leads
      have same : d.node? d.home = some .directory := home
      simp only [Disk.directory, bind, Except.bind, same]
      rfl
  have nonempty : s.toList ≠ [] := by simpa using empty
  have start : s.isEmpty = false := by simpa [String.isEmpty_iff] using empty
  constructor
  · intro h
    cases resolved : d.resolve s with
    | error fault => simp [Disk.directory, start, resolved, bind, Except.bind] at h
    | ok q =>
      simp only [Disk.directory, start, resolved, Bool.false_eq_true, if_false, bind,
        Except.bind] at h
      simp only [resolve, if_neg nonempty] at resolved
      split at h <;> cases h
      next directory =>
        split at resolved
        · cases resolved
        · next noZero =>
          exact ⟨by simpa using noZero, leads_of_follow resolved directory, directory⟩
  · rintro ⟨noZero, leads, directory⟩
    have resolved := resolve_of_leads nonempty (by simpa using noZero) leads
    simp only [Disk.directory, start, resolved, bind, Except.bind, directory]
    rfl

theorem resolve_joinPath {d : Disk} {s name : String} {p : Path} (h : d.directory s = .ok p)
    (json : JsonName name) :
    d.resolve (joinPath s name) =
      if FileName.longest < name.utf8ByteSize then .error .nameTooLong
      else .ok (p ++ [.text name]) := by
  obtain ⟨noZero, leads, -⟩ := directory_eq_ok_iff.1 h
  obtain ⟨nonempty, last, zero, origin, components⟩ := joinPath_parts d json s
  have none : ¬ (joinPath s name).toList.contains '\x00' = true := by simpa [zero] using noZero
  simp only [resolve, if_neg nonempty, if_neg none, last, origin, components]
  rw [leads.follow_append json.ne_dots.2.2, String.ofList_toList]
  rfl

/-- Both disks have the same directories. -/
structure SameDirectories (d e : Disk) : Prop where
  forth : KeepsDirectories d e
  back : KeepsDirectories e d

theorem SameDirectories.refl (d : Disk) : SameDirectories d d := ⟨.refl d, .refl d⟩

theorem SameDirectories.trans {d e f : Disk} (h : SameDirectories d e) (g : SameDirectories e f) :
    SameDirectories d f :=
  ⟨h.forth.trans g.forth, g.back.trans h.back⟩

theorem KeepsDirectories.directory {d e : Disk} (h : KeepsDirectories d e) {s : String} {p : Path}
    (there : d.directory s = .ok p) : e.directory s = .ok p := by
  obtain ⟨noZero, leads, directory⟩ := directory_eq_ok_iff.1 there
  refine directory_eq_ok_iff.2 ⟨noZero, ?_, h.kept p directory⟩
  rw [h.origin]
  exact leads.mono h

theorem KeepsDirectories.follow {d e : Disk} (h : KeepsDirectories d e) {wants : Bool}
    {p q : Path} {cs : List (List Char)} (leads : d.follow wants p cs = .ok q) :
    e.follow wants p cs = .ok q := by
  induction cs generalizing p with
  | nil => exact leads
  | cons c rest ih =>
    rw [Disk.follow] at leads ⊢
    split at leads
    · next up =>
      rw [if_pos up]
      exact ih leads
    · next down =>
      rw [if_neg down]
      simp only at leads ⊢
      split at leads
      · cases leads
      · next short =>
        rw [if_neg short]
        split at leads
        · next last => rwa [if_pos last]
        · next more =>
          rw [if_neg more]
          split at leads
          · next there =>
            rw [h.kept _ there]
            exact ih leads
          · cases leads
          · cases leads

theorem KeepsDirectories.resolve {d e : Disk} (h : KeepsDirectories d e) {s : String} {p : Path}
    (leads : d.resolve s = .ok p) : e.resolve s = .ok p := by
  simp only [Disk.resolve] at leads ⊢
  split at leads
  · cases leads
  · next nonempty =>
    rw [if_neg nonempty]
    split at leads
    · cases leads
    · next noZero =>
      rw [if_neg noZero, h.origin]
      exact h.follow leads

theorem list_eq_ok_iff {d : Disk} {s : String} {p : Path} {names : List FileName} :
    d.list s = .ok (p, names) ↔
      (d.resolve s = .ok p ∧ d.node? p = some .directory) ∧ names = d.children p := by
  cases resolved : d.resolve s with
  | error cause => simp [Disk.list, resolved, bind, Except.bind]
  | ok q =>
    simp only [Disk.list, resolved, bind, Except.bind, Except.ok.injEq]
    constructor
    · intro listed
      split at listed <;> cases listed
      exact ⟨⟨rfl, ‹_›⟩, rfl⟩
    · rintro ⟨⟨rfl, there⟩, rfl⟩
      rw [there]

theorem SameDirectories.list {d e : Disk} (h : SameDirectories d e) {s : String} {p : Path}
    {names : List FileName} (listed : d.list s = .ok (p, names)) :
    e.list s = .ok (p, e.children p) := by
  obtain ⟨⟨leads, there⟩, -⟩ := list_eq_ok_iff.1 listed
  exact list_eq_ok_iff.2 ⟨⟨h.forth.resolve leads, h.forth.kept p there⟩, rfl⟩
theorem sameDirectories_put {d : Disk} {p : Path} (free : d.node? p ≠ some .directory) (f : File) :
    SameDirectories d (d.put p (.file f)) where
  forth := keepsDirectories_put fun there => absurd there free
  back := by
    refine ⟨rfl, fun q there => ?_⟩
    have below : p ≠ [] := by
      rintro rfl
      exact free rfl
    by_cases same : q = p
    · rw [same, node?_put_self d below] at there
      cases there
    · rwa [node?_put_ne d same] at there

end Disk
end Barrage
