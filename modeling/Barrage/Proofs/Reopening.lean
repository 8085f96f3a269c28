import Mathlib.Data.List.Find
import Barrage.Proofs.ScriptFiles

/-! What a series of saves leaves for the next time a directory is opened.
Identifiers share a file when their names for files are alike, and then only the last script that
was saved there is left; the empty identifier has a file that is never read; and a file from before
may hold another script of the same identifier. A script comes back under its identifier exactly if
none of these got in its way. -/

namespace Barrage.ScriptStore

def saveAll (store : ScriptStore) (d : Disk) : List (Int × Script) → Saved ScriptStore
  | [] => ⟨.ok (), store, d⟩
  | (now, s) :: rest =>
    match store.save d now s with
    | ⟨.ok (), store, d⟩ => saveAll store d rest
    | failed => failed

def lastSaved (saves : List (Int × Script)) (q : Script → Bool) : Option Script :=
  (saves.map Prod.snd).reverse.find? q

def lastUnder (saves : List (Int × Script)) (id : String) : Option Script :=
  lastSaved saves fun s => s.id = id

def lastIn (saves : List (Int × Script)) (name : FileName) : Option Script :=
  lastSaved saves fun s => name = fileOf s.id

/-- What a file is read as after a series of saves over a directory. -/
def heldAfter (d : Disk) (p : Path) (saves : List (Int × Script)) (name : FileName) :
    Option Script :=
  match lastIn saves name with
  | some s => if s.id ≠ "" ∧ d.Readable (p ++ [name]) then some s else none
  | none => scriptIn? d p name

theorem lastSaved_cons (now : Int) (s : Script) (rest : List (Int × Script)) (q : Script → Bool) :
    lastSaved ((now, s) :: rest) q = (lastSaved rest q).or (if q s then some s else none) := by
  rw [lastSaved, List.map_cons, List.reverse_cons, List.find?_append, List.find?_cons,
    List.find?_nil, lastSaved]
  split <;> simp_all

theorem lastSaved_holds {saves : List (Int × Script)} {q : Script → Bool} {s : Script}
    (h : lastSaved saves q = some s) : q s = true := List.find?_some h

theorem lastSaved_of_stronger {saves : List (Int × Script)} {q r : Script → Bool} {s : Script}
    (h : lastSaved saves q = some s) (stronger : ∀ t, r t = true → q t = true)
    (holds : r s = true) : lastSaved saves r = some s := by
  rw [lastSaved, List.find?_eq_some_iff_append] at h ⊢
  obtain ⟨-, later, earlier, split, none⟩ := h
  refine ⟨holds, later, earlier, split, fun t ht => ?_⟩
  have lacks := none t ht
  rw [Bool.not_eq_true'] at lacks ⊢
  exact Bool.eq_false_iff.2 fun has => absurd (stronger t has) (by simp [lacks])

theorem fileOf_of_lastIn {saves : List (Int × Script)} {name : FileName} {s : Script}
    (h : lastIn saves name = some s) : name = fileOf s.id := by
  simpa using lastSaved_holds h

theorem id_of_lastUnder {saves : List (Int × Script)} {id : String} {s : Script}
    (h : lastUnder saves id = some s) : s.id = id := by simpa using lastSaved_holds h

theorem lastUnder_of_lastIn {saves : List (Int × Script)} {name : FileName} {s : Script}
    (h : lastIn saves name = some s) : lastUnder saves s.id = some s := by
  have named := fileOf_of_lastIn h
  refine lastSaved_of_stronger h (fun t same => ?_) (by simp)
  simp only [decide_eq_true_eq] at same ⊢
  rw [same, named]

theorem heldAfter_withScript (d : Disk) (p : Path) (now : Int) (s : Script)
    (rest : List (Int × Script)) (name : FileName) :
    heldAfter (withScript d p now s) p rest name = heldAfter d p ((now, s) :: rest) name := by
  have readable : (withScript d p now s).Readable (p ++ [name]) ↔ d.Readable (p ++ [name]) :=
    Disk.readable_fill (by simp)
  simp only [heldAfter, lastIn, lastSaved_cons, scriptIn?_withScript, readable]
  cases lastSaved rest fun s => name = fileOf s.id with
  | some t => rfl
  | none => by_cases same : name = fileOf s.id <;> simp [same]

theorem saveAll_cons {store store' : ScriptStore} {d d' : Disk} {now : Int} {s : Script}
    {rest : List (Int × Script)}
    (saved : store.saveAll d ((now, s) :: rest) = ⟨.ok (), store', d'⟩) :
    ∃ next e, store.save d now s = ⟨.ok (), next, e⟩ ∧
      next.saveAll e rest = ⟨.ok (), store', d'⟩ := by
  rw [saveAll] at saved
  split at saved
  · next next e first => exact ⟨next, e, first, saved⟩
  · next other => exact absurd saved (other _ _)

theorem find?_saveAll {store store' : ScriptStore} {d d' : Disk} {saves : List (Int × Script)}
    (saved : store.saveAll d saves = ⟨.ok (), store', d'⟩) (id : String) :
    store'.find? id = (lastUnder saves id).or (store.find? id) := by
  -- on the saves, the store being the one before those that are left
  induction saves generalizing store d with
  | nil =>
    cases saved
    rfl
  | cons head rest ih =>
    obtain ⟨now, s⟩ := head
    obtain ⟨next, e, first, saved⟩ := saveAll_cons saved
    have put : next.find? id = if s.id = id then some s else store.find? id := by
      rw [save_scripts first, find?, Dict.get?_insert, find?]
    rw [ih saved, put, lastUnder, lastUnder, lastSaved_cons, Option.or_assoc]
    by_cases same : s.id = id <;> simp [same]

theorem scriptIn?_saveAll {store store' : ScriptStore} {d d' : Disk} {directory : String}
    {p : Path} {saves : List (Int × Script)} (place : store.directory = some directory)
    (h : d.Reaches directory p) (saved : store.saveAll d saves = ⟨.ok (), store', d'⟩) :
    d'.Reaches directory p ∧ ∀ name, scriptIn? d' p name = heldAfter d p saves name := by
  -- on the saves; what is held is told in terms of the disk before those that are left
  induction saves generalizing store d with
  | nil =>
    cases saved
    exact ⟨h, fun name => rfl⟩
  | cons head rest ih =>
    obtain ⟨now, s⟩ := head
    obtain ⟨next, e, first, saved⟩ := saveAll_cons saved
    obtain ⟨-, rfl, reaches⟩ := save_disk place h first
    have place' : next.directory = some directory := by rw [save_scripts first, place]
    obtain ⟨reaches', held⟩ := ih place' reaches saved
    refine ⟨reaches', fun name => ?_⟩
    rw [held, heldAfter_withScript]

theorem saveAll_memory (store : ScriptStore) (d : Disk) (saves : List (Int × Script))
    (place : store.directory = none) : ∃ store', store.saveAll d saves = ⟨.ok (), store', d⟩ := by
  induction saves generalizing store with
  | nil => exact ⟨store, rfl⟩
  | cons head rest ih =>
    obtain ⟨now, s⟩ := head
    simp only [saveAll, save_of_memory place]
    exact ih _ place

theorem exists_saveAll {store : ScriptStore} {d : Disk} {directory : String} {p : Path}
    (saves : List (Int × Script)) (place : store.directory = some directory)
    (h : d.Reaches directory p)
    (short : ∀ save ∈ saves, ¬ FileName.longest < (fileName save.2.id).utf8ByteSize)
    (accepts : ∀ name, d.Accepts (p ++ [name])) :
    ∃ store' d', store.saveAll d saves = ⟨.ok (), store', d'⟩ := by
  induction saves generalizing store d with
  | nil => exact ⟨store, d, rfl⟩
  | cons head rest ih =>
    obtain ⟨now, s⟩ := head
    have first := save_of_accepts place h (short (now, s) (by simp)) (accepts _) now
    simp only [saveAll, first]
    exact ih place (save_disk place h first).2.2 (fun save later => short save (by simp [later]))
      fun name => (accepts name).fill (by simp)

section
variable {d : Disk} {p : Path} {saves : List (Int × Script)} {id : String} {last : Script}

theorem heldAfter_eq_some_iff {name : FileName} {s : Script} :
    heldAfter d p saves name = some s ↔
      (s.id ≠ "" ∧ d.Readable (p ++ [fileOf s.id]) ∧ name = fileOf s.id ∧
        lastIn saves (fileOf s.id) = some s) ∨
        (lastIn saves name = none ∧ scriptIn? d p name = some s) := by
  constructor
  · intro held
    rw [heldAfter] at held
    split at held
    · next t put =>
      split at held
      · next read =>
        cases held
        obtain rfl := fileOf_of_lastIn put
        exact .inl ⟨read.1, read.2, rfl, put⟩
      · cases held
    · next untouched => exact .inr ⟨untouched, held⟩
  · rintro (⟨nonempty, readable, rfl, put⟩ | ⟨untouched, found⟩)
    · simp [heldAfter, put, nonempty, readable]
    · simp [heldAfter, untouched, found]

theorem exists_heldAfter_iff (under : lastUnder saves id = some last) :
    (∃ name, heldAfter d p saves name = some last) ↔
      (id ≠ "" ∧ d.Readable (p ++ [fileOf id]) ∧ lastIn saves (fileOf id) = some last) ∨
        ∃ name, lastIn saves name = none ∧ scriptIn? d p name = some last := by
  simp only [heldAfter_eq_some_iff, id_of_lastUnder under, exists_or]
  simp

theorem only_heldAfter_iff (under : lastUnder saves id = some last) :
    (∀ name s, heldAfter d p saves name = some s → s.id = id → s = last) ↔
      ∀ name s, lastIn saves name = none → scriptIn? d p name = some s → s.id = id → s = last := by
  simp only [heldAfter_eq_some_iff]
  constructor
  · intro only name s untouched found
    exact only name s (.inr ⟨untouched, found⟩)
  · rintro only name s (⟨-, -, -, put⟩ | ⟨untouched, found⟩) same
    · -- what a save left in a file is the last one saved under its own identifier
      have own := lastUnder_of_lastIn put
      rw [same, under] at own
      exact (Option.some.inj own).symm
    · exact only name s untouched found same

end

/-- After saves that all succeed, the open store answers as one in memory, and each file is read as
what was put into it last. The reopened store answers for a saved identifier as the one in memory,
in whatever order the directory is listed, exactly if its last script is still in a file that can be
read, and no file from before holds another script of that identifier. -/
theorem reopened_answers (d d₁ d₂ : Disk) (directory : String) (store store₂ : ScriptStore)
    (saves : List (Int × Script)) (opened : openAt d directory = (.ok store, d₁))
    (saved : store.saveAll d₁ saves = ⟨.ok (), store₂, d₂⟩) :
    ∃ (p : Path) (inMemory : ScriptStore),
      d₁.list directory = .ok (p, d₁.children p) ∧
      d₂.list directory = .ok (p, d₂.children p) ∧
      memory.saveAll d₁ saves = ⟨.ok (), inMemory, d₁⟩ ∧
      openAt d₂ directory = (.ok ⟨some directory, load d₂ p (d₂.children p)⟩, d₂) ∧
      (∀ name, scriptIn? d₂ p name = heldAfter d₁ p saves name) ∧
      ∀ id last, lastUnder saves id = some last →
        inMemory.find? id = some last ∧ store₂.find? id = some last ∧
        ((∀ names : List FileName, names.Perm (d₂.children p) →
            (load d₂ p names).get? id = inMemory.find? id) ↔
          ((id ≠ "" ∧ d₁.Readable (p ++ [fileOf id]) ∧ lastIn saves (fileOf id) = some last) ∨
            ∃ name, lastIn saves name = none ∧ scriptIn? d₁ p name = some last) ∧
          ∀ name s, lastIn saves name = none → scriptIn? d₁ p name = some s → s.id = id →
            s = last) := by
  obtain ⟨p, reaches, rfl⟩ := reaches_of_openAt opened
  obtain ⟨reaches₂, held⟩ := scriptIn?_saveAll rfl reaches saved
  obtain ⟨inMemory, remembered⟩ := saveAll_memory memory d₁ saves rfl
  refine ⟨p, inMemory, reaches.list, reaches₂.list, remembered, openAt_of_reaches reaches₂, held,
    fun id last under => ?_⟩
  have answer : inMemory.find? id = some last := by rw [find?_saveAll remembered, under]; rfl
  refine ⟨answer, by rw [find?_saveAll saved, under]; rfl, ?_⟩
  have same := id_of_lastUnder under
  have orders := get?_load_all_orders (d := d₂) (p := p) last
  simp only [held, same] at orders
  rw [answer, orders, exists_heldAfter_iff under, only_heldAfter_iff under]

theorem get?_load_of_apart {d₁ d₂ : Disk} {directory : String} {p : Path}
    {store store₂ : ScriptStore} {saves : List (Int × Script)}
    (place : store.directory = some directory) (reaches : d₁.Reaches directory p)
    (saved : store.saveAll d₁ saves = ⟨.ok (), store₂, d₂⟩)
    (nonempty : ∀ save ∈ saves, save.2.id ≠ "") (readable : ∀ name, d₁.Readable (p ++ [name]))
    (apart : ∀ save ∈ saves, ∀ other ∈ saves, fileOf save.2.id = fileOf other.2.id →
      save.2.id = other.2.id)
    (named : ∀ name s, scriptIn? d₁ p name = some s → name = fileOf s.id)
    {last : Script} (under : lastUnder saves last.id = some last)
    {names : List FileName} (order : names.Perm (d₂.children p)) :
    (load d₂ p names).get? last.id = some last := by
  obtain ⟨-, held⟩ := scriptIn?_saveAll place reaches saved
  obtain ⟨save, member, same⟩ : ∃ save ∈ saves, save.2 = last :=
    List.mem_map.1 (List.mem_reverse.1 (List.mem_of_find?_eq_some under))
  -- the scripts in the file of the identifier are the ones under the identifier
  have put : lastIn saves (fileOf last.id) = some last := by
    rw [← under]
    refine List.find?_congr fun t ht => ?_
    obtain ⟨other, member', rfl⟩ := List.mem_map.1 (List.mem_reverse.1 ht)
    refine decide_eq_decide.2 ⟨fun shared => ?_, fun same => by rw [same]⟩
    exact (apart save member other member' (same ▸ shared)).symm.trans (congrArg _ same)
  have back := get?_load_all_orders (d := d₂) (p := p) last
  simp only [held] at back
  refine back.2 ⟨?_, ?_⟩ names order
  · exact (exists_heldAfter_iff under).2 (.inl ⟨same ▸ nonempty save member, readable _, put⟩)
  · refine (only_heldAfter_iff under).2 fun name s untouched found shared => ?_
    rw [named name s found, shared, put] at untouched
    cases untouched

/-- Two identifiers with one file between them: the second script comes back, the first does not. -/
theorem reopened_answers_shared_file :
    let first : Script := ⟨"a b", [Step.get "http://h/1"]⟩
    let second : Script := ⟨"a_b", [Step.get "http://h/2"]⟩
    let saves : List (Int × Script) := [(0, first), (1, second)]
    ∃ (store₂ : ScriptStore) (d₂ : Disk) (p : Path),
      openAt drawer "drawer" = (.ok ⟨some "drawer", {}⟩, drawer) ∧
      saveAll ⟨some "drawer", {}⟩ drawer saves = ⟨.ok (), store₂, d₂⟩ ∧
      (∀ names : List FileName, names.Perm (d₂.children p) →
        (load d₂ p names).get? "a_b" = some second) ∧
      ¬ ∀ names : List FileName, names.Perm (d₂.children p) →
        (load d₂ p names).get? "a b" = some first := by
  intro first second saves
  obtain ⟨store₂, d₂, saved⟩ : ∃ store₂ d₂,
      saveAll ⟨some "drawer", {}⟩ drawer saves = ⟨.ok (), store₂, d₂⟩ :=
    exists_saveAll saves rfl drawer_reaches (by decide) drawer_accepts
  obtain ⟨p, inMemory, listed, -, -, -, -, answers⟩ :=
    reopened_answers drawer drawer d₂ "drawer" _ store₂ saves openAt_drawer saved
  obtain rfl : [FileName.text "drawer"] = p := by
    rw [drawer_reaches.list] at listed
    exact (Prod.mk.inj (Except.ok.inj listed)).1
  refine ⟨store₂, d₂, [.text "drawer"], openAt_drawer, saved, ?_, ?_⟩
  · obtain ⟨answer, -, back⟩ := answers "a_b" second (by decide)
    rw [answer] at back
    exact back.2 ⟨.inl ⟨by decide, drawer_readable _, by decide⟩, by simp [scriptIn?_drawer]⟩
  · obtain ⟨answer, -, back⟩ := answers "a b" first (by decide)
    rw [answer] at back
    rw [back]
    have lost : lastIn saves (fileOf "a b") ≠ some first := by decide
    simp [lost, scriptIn?_drawer]

/-- Not every saved script comes back: two identifiers have one file between them, and the file of
the empty identifier is not read. -/
theorem reopened_forgets :
    let shared : Script := ⟨"a b", [Step.get "http://h/1"]⟩
    let nameless : Script := ⟨"", [Step.get "http://h/3"]⟩
    let saves : List (Int × Script) :=
      [(0, shared), (1, ⟨"a_b", [Step.get "http://h/2"]⟩), (2, nameless)]
    ∃ (store₂ reopened : ScriptStore) (d₂ : Disk),
      openAt drawer "drawer" = (.ok ⟨some "drawer", {}⟩, drawer) ∧
      saveAll ⟨some "drawer", {}⟩ drawer saves = ⟨.ok (), store₂, d₂⟩ ∧
      openAt d₂ "drawer" = (.ok reopened, d₂) ∧
      store₂.find? "a b" = some shared ∧ reopened.find? "a b" = none ∧
      store₂.find? "" = some nameless ∧ reopened.find? "" = none := by
  intro shared nameless saves
  obtain ⟨store₂, d₂, saved⟩ : ∃ store₂ d₂,
      saveAll ⟨some "drawer", {}⟩ drawer saves = ⟨.ok (), store₂, d₂⟩ :=
    exists_saveAll saves rfl drawer_reaches (by decide) drawer_accepts
  obtain ⟨reaches, held⟩ := scriptIn?_saveAll rfl drawer_reaches saved
  have absent {id : String} (gone : id = "" ∨ ∀ s, lastIn saves (fileOf id) = some s → s.id ≠ id)
      (names : List FileName) : (load d₂ [.text "drawer"] names).get? id = none := by
    refine Option.eq_none_iff_forall_ne_some.2 fun s found => ?_
    obtain ⟨rfl, name, -, file⟩ := exists_of_get?_load found
    rw [held, heldAfter_eq_some_iff, scriptIn?_drawer] at file
    obtain ⟨nonempty, -, -, put⟩ := file.resolve_right (by simp)
    exact gone.elim nonempty fun other => other s put rfl
  refine ⟨store₂, _, d₂, openAt_drawer, saved, openAt_of_reaches reaches, ?_, ?_, ?_, ?_⟩
  · rw [find?_saveAll saved]
    decide
  · refine absent (.inr fun s put => ?_) _
    have second : lastIn saves (fileOf "a b") = some ⟨"a_b", [Step.get "http://h/2"]⟩ := by decide
    rw [second] at put
    cases put
    decide
  · rw [find?_saveAll saved]
    decide
  · exact absent (.inl rfl) _

end Barrage.ScriptStore
