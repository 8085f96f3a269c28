import Barrage.Proofs.Directories
import Barrage.Proofs.Histories
import Barrage.Proofs.ResultDocuments
import Barrage.Proofs.ScriptFiles

/-! Directories as histories.
A history has one entry for each file that is named for a result and holds one. A save changes what
one file holds, so after a series of saves a file holds the last result of its name, or what it held
before; whatever else lies in the directory gets in nobody's way. The directory must have a name:
without one a save still finds a place for its file, and no listing does. -/

namespace Barrage.ResultStore
open Json

def fileOf (r : RunResult) : FileName := .text (fileName r)

/-- What comes back from its document. -/
structure Returns (r : RunResult) : Prop where
  rate : r.rate.ReadsBack
  started : ∃ text, Instant.ofText text = .ok r.startedAt

/-- A regular file of a directory that is named `result-*.json`, can be read, and is the document of
a result. -/
def Holds (d : Disk) (p : Path) (name : FileName) (r : RunResult) : Prop :=
  ∃ (middle text : String) (f : File), name = .text ("result-" ++ middle ++ ".json") ∧
    d.node? (p ++ [name]) = some (.file f) ∧ f.readable = true ∧ f.content = .text text ∧
    readText RunResult.record.read text = .ok r

theorem isResultName_iff {name : FileName} :
    isResultName name = true ↔
      ∃ middle : String, name = .text ("result-" ++ middle ++ ".json") := by
  cases name with
  | bytes b => simp [isResultName]
  | text s =>
    simp only [isResultName, Bool.and_eq_true, List.isPrefixOf_iff_prefix,
      List.isSuffixOf_iff_suffix, FileName.text.injEq]
    constructor
    · rintro ⟨⟨after, starts⟩, before, ends⟩
      have both := starts.trans ends.symm
      rw [List.append_eq_append_iff] at both
      obtain ⟨middle, -, rest⟩ | ⟨shared, left, right⟩ := both
      · refine ⟨String.ofList middle, String.toList_inj.1 ?_⟩
        rw [← starts, rest]
        simp [start]
      · -- the beginning has no point, so it shares nothing with the ending
        cases shared with
        | nil =>
          refine ⟨"", String.toList_inj.1 ?_⟩
          rw [← starts, ← List.nil_append after, ← right]
          simp [start]
        | cons c rest =>
          obtain rfl : c = '.' := (List.cons.inj right).1.symm
          have point : '.' ∈ start.toList := by simp [left]
          exact absurd point (by decide)
    · rintro ⟨middle, rfl⟩
      exact ⟨⟨middle.toList ++ ".json".toList, by simp [start]⟩,
        "result-".toList ++ middle.toList, by simp⟩

theorem isResultName_fileOf (r : RunResult) : isResultName (fileOf r) = true := by
  refine isResultName_iff.2
    ⟨String.ofList (fileStem r.scriptId ++ '-' :: r.startedAt.stamp), congrArg FileName.text ?_⟩
  apply String.toList_inj.1
  simp [fileName, start]

theorem resultIn?_eq_some_iff {d : Disk} {p : Path} {name : FileName} {r : RunResult} :
    resultIn? d p name = some r ↔ Holds d p name r := by
  constructor
  · intro held
    obtain ⟨f, file, held⟩ := Option.bind_eq_some_iff.1 held
    obtain ⟨text, content, document⟩ := Option.bind_eq_some_iff.1 held
    obtain ⟨there, named⟩ : d.node? (p ++ [name]) = some (.file f) ∧ isResultName name = true := by
      rw [file?] at file
      split at file
      · split at file <;> simp_all
      · cases file
    obtain ⟨middle, named⟩ := isResultName_iff.1 named
    obtain ⟨readable, content⟩ : f.readable = true ∧ f.content = .text text := by
      rw [Disk.Node.text] at content
      split at content
      · cases content
      · next readable =>
        cases kind : f.content <;> simp_all [Except.toOption]
    refine ⟨middle, text, f, named, there, readable, content, ?_⟩
    exact eq_ok_of_toOption document
  · rintro ⟨middle, text, f, named, there, readable, content, document⟩
    have file : file? d p name = some f := by
      rw [file?, there]
      exact if_pos (isResultName_iff.2 ⟨middle, named⟩)
    simp [resultIn?, file, Disk.Node.text, readable, content, Except.toOption, document]

def withResult (d : Disk) (p : Path) (now : Int) (r : RunResult) : Disk :=
  d.fill now (p ++ [fileOf r]) (.text r.toValue.pretty)

theorem resultIn?_congr {d e : Disk} {p : Path} {name : FileName}
    (h : e.node? (p ++ [name]) = d.node? (p ++ [name])) :
    resultIn? e p name = resultIn? d p name := by
  rw [resultIn?, resultIn?, file?, file?, h]

theorem resultIn?_withResult {r : RunResult} (returns : Returns r) (d : Disk) (p : Path) (now : Int)
    (name : FileName) :
    resultIn? (withResult d p now r) p name =
      if name = fileOf r then (if d.Readable (p ++ [name]) then some r else none)
      else resultIn? d p name := by
  split
  · next same =>
    subst same
    have started := Instant.exists_ofText_iff.1 returns.started
    have read : readText RunResult.record.read r.toValue.pretty = .ok r :=
      (RunResult.reads_toValue returns.rate started .pretty).text
    have there : file? (withResult d p now r) p (fileOf r) =
        some ((d.fileAt (p ++ [fileOf r])).holding now (.text r.toValue.pretty)) := by
      rw [file?, withResult, Disk.node?_fill_self (by simp)]
      exact if_pos (isResultName_fileOf r)
    by_cases readable : (d.fileAt (p ++ [fileOf r])).readable = true
    · rw [if_pos (show d.Readable _ from readable)]
      simp [resultIn?, there, Disk.Node.text, File.holding, readable, Except.toOption, read]
    · rw [if_neg (show ¬ d.Readable _ from readable)]
      simp [resultIn?, there, Disk.Node.text, File.holding, readable, Except.toOption]
  · next other => exact resultIn?_congr (Disk.node?_fill_ne (by simpa using other))

section
variable {store store' : ResultStore} {d d' : Disk} {now : Int} {r : RunResult}
  {directory : String} {p : Path}

theorem save_of_memory (memory : store.directory = none) (d : Disk) (now : Int) (r : RunResult) :
    store.save d now r = ⟨.ok (), { store with results := store.results ++ [r] }, d⟩ := by
  simp only [save, memory]

theorem save_of_place (place : store.directory = some directory) (d : Disk) (now : Int)
    (r : RunResult) :
    store.save d now r =
      ⟨StoreFault.of (joinPath directory (fileName r))
          (d.writeIn now directory (fileName r) r.toValue.pretty).1,
        store, (d.writeIn now directory (fileName r) r.toValue.pretty).2⟩ := by
  simp only [save, place]

theorem save_of_written (place : store.directory = some directory)
    (written : d.writeIn now directory (fileName r) r.toValue.pretty = (.ok (), d')) :
    store.save d now r = ⟨.ok (), store, d'⟩ := by
  rw [save_of_place place, written]
  rfl

theorem written_of_save (place : store.directory = some directory)
    (saved : store.save d now r = ⟨.ok (), store', d'⟩) :
    store' = store ∧ d.writeIn now directory (fileName r) r.toValue.pretty = (.ok (), d') := by
  rw [save_of_place place] at saved
  rcases written : d.writeIn now directory (fileName r) r.toValue.pretty with ⟨_ | _, e⟩ <;>
    rw [written] at saved <;> cases saved
  exact ⟨rfl, rfl⟩

theorem save_of_accepts (place : store.directory = some directory) (h : d.Reaches directory p)
    (short : ¬ FileName.longest < (fileName r).utf8ByteSize)
    (accepts : d.Accepts (p ++ [fileOf r])) (now : Int) :
    store.save d now r = ⟨.ok (), store, withResult d p now r⟩ := by
  refine save_of_written place ?_
  rw [h.writeIn, if_neg short]
  exact Disk.writeAt_of_accepts accepts

theorem save_disk (place : store.directory = some directory) (h : d.Reaches directory p)
    (saved : store.save d now r = ⟨.ok (), store', d'⟩) :
    store' = store ∧ d' = withResult d p now r ∧ d'.Reaches directory p := by
  obtain ⟨rfl, written⟩ := written_of_save place saved
  rw [h.writeIn] at written
  split at written
  · cases written
  · obtain ⟨accepts, rfl⟩ := Disk.accepts_of_writeAt written
    exact ⟨rfl, rfl, h.mono (Disk.keepsDirectories_put fun there => absurd there accepts.free)⟩

end

def saveAll (store : ResultStore) (d : Disk) : List (Int × RunResult) → Saved ResultStore
  | [] => ⟨.ok (), store, d⟩
  | (now, r) :: rest =>
    match store.save d now r with
    | ⟨.ok (), store, d⟩ => saveAll store d rest
    | failed => failed

def lastIn (saves : List (Int × RunResult)) (name : FileName) : Option RunResult :=
  (saves.map Prod.snd).reverse.find? fun r => name = fileOf r

theorem lastIn_cons (now : Int) (r : RunResult) (rest : List (Int × RunResult)) (name : FileName) :
    lastIn ((now, r) :: rest) name =
      (lastIn rest name).or (if name = fileOf r then some r else none) := by
  rw [lastIn, List.map_cons, List.reverse_cons, List.find?_append, List.find?_cons,
    List.find?_nil, lastIn]
  split <;> simp_all

theorem saveAll_cons {store store' : ResultStore} {d d' : Disk} {now : Int} {r : RunResult}
    {rest : List (Int × RunResult)}
    (saved : store.saveAll d ((now, r) :: rest) = ⟨.ok (), store', d'⟩) :
    ∃ next e, store.save d now r = ⟨.ok (), next, e⟩ ∧
      next.saveAll e rest = ⟨.ok (), store', d'⟩ := by
  rw [saveAll] at saved
  split at saved
  · next next e first => exact ⟨next, e, first, saved⟩
  · next other => exact absurd saved (other _ _)

/-- What a file is read as after a series of saves over a directory. -/
def heldAfter (d : Disk) (p : Path) (saves : List (Int × RunResult)) (name : FileName) :
    Option RunResult :=
  match lastIn saves name with
  | some r => if d.Readable (p ++ [name]) then some r else none
  | none => resultIn? d p name

theorem heldAfter_eq_some_iff {d : Disk} {p : Path} {saves : List (Int × RunResult)}
    {name : FileName} {r : RunResult} :
    heldAfter d p saves name = some r ↔
      (lastIn saves name = some r ∧ d.Readable (p ++ [name])) ∨
        (lastIn saves name = none ∧ Holds d p name r) := by
  rw [heldAfter, ← resultIn?_eq_some_iff]
  cases lastIn saves name <;> simp [and_comm]

theorem saveAll_disk {store store' : ResultStore} {d d' : Disk} {directory : String} {p : Path}
    {saves : List (Int × RunResult)} (place : store.directory = some directory)
    (h : d.Reaches directory p) (distinct : d.Distinct)
    (returns : ∀ save ∈ saves, Returns save.2)
    (saved : store.saveAll d saves = ⟨.ok (), store', d'⟩) :
    store' = store ∧ d'.Reaches directory p ∧ d'.Distinct ∧
      ∀ name, resultIn? d' p name = heldAfter d p saves name := by
  -- on the saves; what is held is told in terms of the disk before those that are left
  induction saves generalizing store d with
  | nil =>
    cases saved
    exact ⟨rfl, h, distinct, fun name => rfl⟩
  | cons head rest ih =>
    obtain ⟨now, r⟩ := head
    obtain ⟨next, e, first, saved⟩ := saveAll_cons saved
    obtain ⟨rfl, rfl, reaches⟩ := save_disk place h first
    obtain ⟨same, reaches', distinct', held⟩ := ih place reaches (distinct.put _ _)
      (fun save later => returns save (List.mem_cons_of_mem _ later)) saved
    refine ⟨same, reaches', distinct', fun name => ?_⟩
    have readable : (withResult d p now r).Readable (p ++ [name]) ↔ d.Readable (p ++ [name]) :=
      Disk.readable_fill (by simp)
    simp only [held, heldAfter, lastIn_cons, readable,
      resultIn?_withResult (returns (now, r) List.mem_cons_self)]
    cases lastIn rest name with
    | some last => rfl
    | none => by_cases same : name = fileOf r <;> simp [same]

theorem saveAll_memory (rs : List RunResult) (d : Disk) (saves : List (Int × RunResult)) :
    saveAll ⟨none, rs⟩ d saves = ⟨.ok (), ⟨none, rs ++ saves.map Prod.snd⟩, d⟩ := by
  induction saves generalizing rs with
  | nil => simp [saveAll]
  | cons head rest ih =>
    simp only [saveAll, save_of_memory, ih]
    simp

/-- Without a directory to name, whatever is written goes to the working directory, which no listing
of the empty text finds. -/
theorem findAll_of_nowhere {store : ResultStore} (place : store.directory = some "") (d : Disk) :
    store.findAll d = .error ⟨"", .notFound⟩ := by
  simp only [findAll, place]
  rfl

theorem saveAll_place {store store' : ResultStore} {d d' : Disk} {directory : String}
    {saves : List (Int × RunResult)} (place : store.directory = some directory)
    (saved : store.saveAll d saves = ⟨.ok (), store', d'⟩) : store' = store := by
  induction saves generalizing store d with
  | nil =>
    cases saved
    rfl
  | cons head rest ih =>
    obtain ⟨next, e, first, rest'⟩ := saveAll_cons saved
    obtain ⟨rfl, -⟩ := written_of_save place first
    exact ih place rest'

theorem mem_of_lastIn {saves : List (Int × RunResult)} {name : FileName} {r : RunResult}
    (h : lastIn saves name = some r) : r ∈ saves.map Prod.snd ∧ name = fileOf r := by
  refine ⟨List.mem_reverse.1 (List.mem_of_find?_eq_some h), ?_⟩
  simpa using List.find?_some h

theorem lastIn_of_apart {saves : List (Int × RunResult)}
    (apart : (saves.map fun save => fileName save.2).Nodup) {r : RunResult}
    (member : r ∈ saves.map Prod.snd) : lastIn saves (fileOf r) = some r := by
  have own : (lastIn saves (fileOf r)).isSome := by
    rw [lastIn, List.find?_isSome]
    exact ⟨r, List.mem_reverse.2 member, by simp⟩
  obtain ⟨last, found⟩ := Option.isSome_iff_exists.1 own
  obtain ⟨member', same⟩ := mem_of_lastIn found
  have names : fileName r = fileName last := FileName.text.inj same
  obtain ⟨save, here, rfl⟩ := List.mem_map.1 member
  obtain ⟨save', there, rfl⟩ := List.mem_map.1 member'
  rw [found, List.inj_on_of_nodup_map apart here there names]

def entries (d : Disk) (p : Path) : List (FileName × RunResult) :=
  (d.children p).filterMap fun name => (resultIn? d p name).map fun r => (name, r)

theorem mem_entries_iff {d : Disk} {p : Path} {name : FileName} {r : RunResult} :
    (name, r) ∈ entries d p ↔ resultIn? d p name = some r := by
  constructor
  · intro entry
    obtain ⟨other, -, held⟩ := List.mem_filterMap.1 entry
    obtain ⟨s, found, same⟩ := Option.map_eq_some_iff.1 held
    cases same
    exact found
  · intro found
    obtain ⟨-, -, f, -, there, -⟩ := resultIn?_eq_some_iff.1 found
    exact List.mem_filterMap.2 ⟨name, Disk.mem_children there, by rw [found]; rfl⟩

theorem entries_names_nodup {d : Disk} (distinct : d.Distinct) (p : Path) :
    ((entries d p).map Prod.fst).Nodup := by
  rw [entries, List.map_filterMap]
  refine List.Nodup.filterMap (fun a b name here there => ?_) (distinct.nodup_children p)
  simp_all

theorem entries_results (d : Disk) (p : Path) :
    (entries d p).map Prod.snd = (d.children p).filterMap (resultIn? d p) := by
  rw [entries, List.map_filterMap]
  simp [Function.comp_def]

theorem findAll_of_reaches {store : ResultStore} {d : Disk} {directory : String} {p : Path}
    (place : store.directory = some directory) (h : d.Reaches directory p) :
    store.findAll d = .ok (newestFirst ((entries d p).map Prod.snd)) := by
  simp only [findAll, place, h.list, entries_results]
  rfl

theorem entries_perm_of_apart {d : Disk} {p : Path} {saves : List (Int × RunResult)}
    (distinct : d.Distinct) (apart : (saves.map fun save => fileName save.2).Nodup)
    (held : ∀ name, resultIn? d p name = lastIn saves name) :
    ((entries d p).map Prod.snd).Perm (saves.map Prod.snd) := by
  have named : (saves.map fun save => (fileOf save.2, save.2)).Nodup := by
    have files := apart.map fun a b (same : FileName.text a = .text b) => FileName.text.inj same
    refine List.Nodup.of_map Prod.fst ?_
    rwa [List.map_map] at files ⊢
  have same : (entries d p).Perm (saves.map fun save => (fileOf save.2, save.2)) := by
    refine (List.perm_ext_iff_of_nodup (.of_map _ (entries_names_nodup distinct p)) named).2 ?_
    rintro ⟨name, r⟩
    rw [mem_entries_iff, held]
    constructor
    · intro last
      obtain ⟨member, rfl⟩ := mem_of_lastIn last
      obtain ⟨save, here, rfl⟩ := List.mem_map.1 member
      exact List.mem_map.2 ⟨save, here, rfl⟩
    · intro member
      obtain ⟨save, here, same⟩ := List.mem_map.1 member
      cases same
      exact lastIn_of_apart apart (List.mem_map.2 ⟨save, here, rfl⟩)
  simpa [Function.comp_def] using same.map Prod.snd

theorem made_of_openAt {d e : Disk} {directory : String} {store : ResultStore}
    (opened : openAt d directory = (.ok store, e)) :
    store = ⟨some directory, []⟩ ∧ d.makeDirectories directory = (.ok (), e) := by
  rw [openAt] at opened
  split at opened
  · cases opened
  · next made =>
    cases opened
    exact ⟨rfl, made⟩

theorem reaches_of_openAt {d e : Disk} {directory : String} {store : ResultStore}
    (rooted : d.Rooted) (named : directory ≠ "") (opened : openAt d directory = (.ok store, e)) :
    ∃ p, e.Reaches directory p := rooted.reaches_of_makeDirectories named (made_of_openAt opened).2

theorem distinct_of_openAt {d e : Disk} {directory : String} {store : ResultStore}
    (distinct : d.Distinct) (opened : openAt d directory = (.ok store, e)) : e.Distinct := by
  have kept := distinct.makeDirectories directory
  rwa [(made_of_openAt opened).2] at kept

/-- After saves that all succeed, where no two names share a file, the history has one entry for
each regular file that is named `result-*.json`, can be read and can be decoded: the last result
saved under that name or, without any, what the file held when the directory was opened. Results
with different file names in a directory that was empty are found as in memory, up to the order of
those with the same start. All this goes for directories that have a name. A store that was told the
empty text opens and saves just as well, and then finds nothing at all. -/
theorem history_of_files (d d₁ d₂ : Disk) (directory : String) (store store₂ : ResultStore)
    (saves : List (Int × RunResult)) (distinct : d.Distinct) (rooted : d.Rooted)
    (opened : openAt d directory = (.ok store, d₁)) (returns : ∀ save ∈ saves, Returns save.2)
    (saved : store.saveAll d₁ saves = ⟨.ok (), store₂, d₂⟩) :
    (directory = "" → store₂.findAll d₂ = .error ⟨"", .notFound⟩ ∧
      ∀ id, store₂.findByScript d₂ id = .error ⟨"", .notFound⟩) ∧
    (directory ≠ "" → ∃ (p : Path) (found : List RunResult) (files : List (FileName × RunResult)),
      d₁.list directory = .ok (p, d₁.children p) ∧ store₂.findAll d₂ = .ok found ∧
      NewestFirst found ∧ found.Perm (files.map Prod.snd) ∧ (files.map Prod.fst).Nodup ∧
      (∀ name r, (name, r) ∈ files ↔ Holds d₂ p name r) ∧
      (∀ name r, (name, r) ∈ files ↔
        (lastIn saves name = some r ∧ d₁.Readable (p ++ [name])) ∨
          (lastIn saves name = none ∧ Holds d₁ p name r)) ∧
      ((saves.map fun save => fileName save.2).Nodup → (∀ name, d₁.node? (p ++ [name]) = none) →
        ∃ (inMemory : ResultStore) (remembered : List RunResult),
          memory.saveAll d₁ saves = ⟨.ok (), inMemory, d₁⟩ ∧
          inMemory.findAll d₁ = .ok remembered ∧ SameUpToTies found remembered ∧
          ∀ id, ∃ foundOne rememberedOne, store₂.findByScript d₂ id = .ok foundOne ∧
            inMemory.findByScript d₁ id = .ok rememberedOne ∧
            SameUpToTies foundOne rememberedOne)) := by
  obtain ⟨rfl, -⟩ := made_of_openAt opened
  have place : (⟨some directory, []⟩ : ResultStore).directory = some directory := rfl
  obtain rfl := saveAll_place place saved
  refine ⟨?_, fun named => ?_⟩
  · rintro rfl
    have lost := findAll_of_nowhere place d₂
    exact ⟨lost, fun id => by rw [findByScript, lost]; rfl⟩
  obtain ⟨p, reaches⟩ := reaches_of_openAt rooted named opened
  obtain ⟨-, reaches₂, distinct₂, held⟩ :=
    saveAll_disk place reaches (distinct_of_openAt distinct opened) returns saved
  have found := findAll_of_reaches place reaches₂
  refine ⟨p, _, entries d₂ p, reaches.list, found, newestFirst_ordered _, newestFirst_perm _,
    entries_names_nodup distinct₂ p, ?_, ?_, ?_⟩
  · intro name r
    rw [mem_entries_iff, resultIn?_eq_some_iff]
  · intro name r
    rw [mem_entries_iff, held, heldAfter_eq_some_iff]
  · intro apart empty
    have same := entries_perm_of_apart distinct₂ apart fun name => by
      rw [held, heldAfter, resultIn?, file?, empty]
      cases lastIn saves name with
      | none => rfl
      | some last => exact if_pos (Disk.readable_of_none (empty name))
    have remembered := newestFirst_perm (saves.map Prod.snd)
    have order := (newestFirst_perm _).trans (same.trans remembered.symm)
    refine ⟨_, _, saveAll_memory [] d₁ saves, rfl,
      (newestFirst_ordered _).sameUpToTies (newestFirst_ordered _) order, fun id => ?_⟩
    refine ⟨_, _, by rw [findByScript, found]; rfl, rfl, ?_⟩
    exact ((newestFirst_ordered _).filter _).sameUpToTies ((newestFirst_ordered _).filter _)
      (order.filter _)

def sampleResult : RunResult :=
  ⟨"20260501120000", "a b", 1, 1, 0, 2, 2, 2, 2, .finite false ⟨0, by decide⟩, 1,
    ⟨1777636800, 1⟩, {}⟩

theorem sampleResult_returns : Returns sampleResult where
  rate := eq_ok_of_toOption (by decide +kernel)
  started := ⟨"2026-05-01T12:00:00.000000001Z", by rfl⟩

/-- Two results of one file name in a directory with a broken file: the second one is found. -/
theorem history_of_files_shared :
    let second : RunResult := { sampleResult with scriptId := "a_b", iterations := 7 }
    let broken : File := ⟨.text "nope", none, true, true, true⟩
    let d : Disk := .steady [([.text "drawer"], .directory),
      ([.text "drawer", .text "result-broken.json"], .file broken)] []
    let store : ResultStore := ⟨some "drawer", []⟩
    ∃ (d₂ : Disk) (found : List RunResult),
      openAt d "drawer" = (.ok store, d) ∧
      store.saveAll d [(0, sampleResult), (1, second)] = ⟨.ok (), store, d₂⟩ ∧
      store.findAll d₂ = .ok found ∧ second ∈ found ∧ sampleResult ∉ found := by
  intro second broken d store
  have reaches : d.Reaches "drawer" [.text "drawer"] :=
    ⟨by decide, by decide, .down (by decide) (by decide) rfl (.here _), rfl⟩
  have rooted : d.Rooted := .of_nodes rfl (by decide)
  have started := sampleResult_returns.started
  have returns : ∀ save ∈ [((0 : Int), sampleResult), (1, second)], Returns save.2 := by
    simp only [List.forall_mem_cons]
    exact ⟨sampleResult_returns, ⟨sampleResult_returns.rate, started⟩, by simp⟩
  obtain ⟨d₂, saved⟩ :
      ∃ d₂, store.saveAll d [(0, sampleResult), (1, second)] = ⟨.ok (), store, d₂⟩ := by
    have place : store.directory = some "drawer" := rfl
    have start := save_of_accepts (r := sampleResult) place reaches (by decide)
      (.of_none (by decide) rfl) 0
    have next := save_of_accepts (r := second) place (save_disk place reaches start).2.2 (by decide)
      ((Disk.Accepts.of_none (by decide) rfl).fill (by simp)) 1
    refine ⟨withResult (withResult d [.text "drawer"] 0 sampleResult) [.text "drawer"] 1 second, ?_⟩
    simp only [saveAll, start, next]
  obtain ⟨-, history⟩ :=
    history_of_files d d d₂ "drawer" store store _ (by decide) rooted rfl returns saved
  obtain ⟨p, found, files, listed, all, -, perm, -, -, held, -⟩ := history (by decide)
  obtain rfl : [FileName.text "drawer"] = p :=
    (Prod.mk.inj (Except.ok.inj (reaches.list.symm.trans listed))).1
  refine ⟨d₂, found, rfl, saved, all, perm.mem_iff.2 ?_, fun there => ?_⟩
  · have last : lastIn [(0, sampleResult), (1, second)] (fileOf second) = some second := by decide
    exact List.mem_map.2 ⟨_, (held (fileOf second) second).2 (.inl ⟨last, by decide⟩), rfl⟩
  · obtain ⟨⟨name, r⟩, entry, same⟩ := List.mem_map.1 (perm.mem_iff.1 there)
    obtain rfl : r = sampleResult := same
    obtain ⟨last, -⟩ | ⟨-, middle, text, f, -, file, -, content, document⟩ :=
      (held name sampleResult).1 entry
    · rw [(mem_of_lastIn last).2] at last
      exact absurd last (by decide)
    · have listed : ([.text "drawer", name], Node.file f) ∈ d.nodes := Disk.mem_of_find file
      obtain ⟨-, rfl⟩ : name = .text "result-broken.json" ∧ f = broken := by
        simpa [d, Disk.steady] using listed
      obtain rfl : "nope" = text := Content.text.inj content
      have refused : (readText RunResult.record.read "nope").toOption = none := by decide +kernel
      rw [document] at refused
      cases refused

/-- Not every store finds what it saved: one that was told the empty text opens and writes its file,
and no listing has it. -/
theorem history_lost_nowhere :
    let d : Disk := .steady [] []
    let store : ResultStore := ⟨some "", []⟩
    ∃ d₂ : Disk, openAt d "" = (.ok store, d) ∧
      store.saveAll d [(0, sampleResult)] = ⟨.ok (), store, d₂⟩ ∧
      d₂.readText (fileName sampleResult) = .ok sampleResult.toValue.pretty ∧
      store.findAll d₂ = .error ⟨"", .notFound⟩ := by
  intro d store
  have saved : store.saveAll d [(0, sampleResult)] =
      ⟨.ok (), store, d.fill 0 [fileOf sampleResult] (.text sampleResult.toValue.pretty)⟩ := by rfl
  exact ⟨_, rfl, saved, by rfl, findAll_of_nowhere rfl _⟩

end Barrage.ResultStore
