import Barrage.Command.Perform
import Barrage.Proofs.Confinement

/-! Which old results are removed.
A file goes if it belongs to the history, is known to be older than a point in time and can be
removed. Each file is judged by itself, so neither the order of a listing nor what happens to another
file makes a difference, and the number that is answered is the number of files that are gone. -/

namespace Barrage.ResultStore

/-- A regular file of a directory that is named `result-*.json`, was last changed at a time that can
be told, and can be removed. -/
def Erasable (d : Disk) (p q : Path) (changed : Int) : Prop :=
  ∃ (middle : String) (f : File), q = p ++ [.text ("result-" ++ middle ++ ".json")] ∧
    d.node? q = some (.file f) ∧ f.modified = some changed ∧ f.removable = true

def Goes (d : Disk) (p : Path) (before : Int) (q : Path) : Prop :=
  ∃ changed, Erasable d p q changed ∧ changed < before

def Gone (d e : Disk) (q : Path) : Prop := d.node? q ≠ none ∧ e.node? q = none

instance (d e : Disk) (q : Path) : Decidable (Gone d e q) := inferInstanceAs (Decidable (_ ∧ _))

/-- What a removal makes of a disk: some files are gone, as many as were counted, and all else is as
it was. -/
structure Cleaned (d : Disk) (p : Path) (before : Int) (n : Nat) (e : Disk) : Prop where
  home : e.home = d.home
  gone : ∀ q, Gone d e q ↔ Goes d p before q
  kept : ∀ q, ¬ Goes d p before q → e.node? q = d.node? q
  count : ∃ files : List Path, files.Nodup ∧ files.length = n ∧ ∀ q, q ∈ files ↔ Gone d e q

theorem Erasable.changed_eq {d : Disk} {p q : Path} {s t : Int} (h : Erasable d p q s)
    (g : Erasable d p q t) : s = t := by
  obtain ⟨-, f, -, file, changed, -⟩ := h
  obtain ⟨-, f', -, file', changed', -⟩ := g
  rw [file] at file'
  cases file'
  rw [changed] at changed'
  exact Option.some.inj changed'

theorem Goes.there {d : Disk} {p q : Path} {before : Int} (h : Goes d p before q) :
    d.node? q ≠ none := by
  obtain ⟨changed, ⟨-, f, -, file, -⟩, -⟩ := h
  simp [file]

theorem goes_congr {d d' : Disk} {p q : Path} (same : d'.node? q = d.node? q) (before : Int) :
    Goes d' p before q ↔ Goes d p before q := by
  simp only [Goes, Erasable, same]

theorem isOld_iff {d : Disk} {p : Path} {before : Int} {name : FileName} :
    isOld d p before name = true ↔ Goes d p before (p ++ [name]) := by
  constructor
  · intro aged
    obtain ⟨text, f, rfl, named, there⟩ := file_of_isOld aged
    obtain ⟨middle, named'⟩ := isResultName_iff.1 named
    have file : file? d p (.text text) = some f := by
      rw [file?, there]
      exact if_pos named
    rw [isOld, file] at aged
    cases changed : f.modified with
    | none => simp [changed] at aged
    | some t =>
      simp only [changed, Bool.and_eq_true, decide_eq_true_eq] at aged
      exact ⟨t, ⟨middle, f, by rw [named'], there, changed, aged.2⟩, aged.1⟩
  · rintro ⟨t, ⟨middle, f, place, there, changed, removable⟩, older⟩
    obtain ⟨-, last⟩ := List.append_inj' place rfl
    have named : isResultName name = true := isResultName_iff.2 ⟨middle, List.head_eq_of_cons_eq last⟩
    have file : file? d p name = some f := by
      rw [file?, there]
      exact if_pos named
    simp [isOld, file, changed, removable, older]

theorem isOld_erase {p : Path} {name other : FileName} (apart : other ≠ name) (d : Disk)
    (before : Int) : isOld (d.erase (p ++ [name])) p before other = isOld d p before other := by
  have elsewhere : p ++ [other] ≠ p ++ [name] := by simpa using apart
  rw [Bool.eq_iff_iff, isOld_iff, isOld_iff]
  exact goes_congr (d.node?_erase_ne elsewhere) before

theorem Goes.exists_child {d : Disk} {p q : Path} {before : Int} (h : Goes d p before q) :
    ∃ name ∈ d.children p, isOld d p before name = true ∧ q = p ++ [name] := by
  obtain ⟨changed, ⟨middle, f, rfl, there, -⟩, -⟩ := id h
  exact ⟨_, Disk.mem_children there, isOld_iff.2 h, rfl⟩

section Loop
variable (old : FileName → Bool) (p : Path)

theorem prune_count (names : List FileName) (d : Disk) :
    (prune old p names d).1 = names.countP old := by
  have counter : (prune old p names d).1 =
      names.foldl (fun n name => if old name then n + 1 else n) 0 := by
    refine (List.foldl_hom Prod.fst fun pair name => ?_).symm
    by_cases aged : old name = true
    · simp only [if_pos aged]
    · simp only [if_neg aged]
  suffices counted : ∀ n, names.foldl (fun n name => if old name then n + 1 else n) n =
      n + names.countP old by rw [counter, counted, Nat.zero_add]
  clear counter
  induction names with
  | nil => exact fun n => rfl
  | cons name rest ih =>
    intro n
    rw [List.foldl_cons, ih, List.countP_cons]
    split <;> omega

theorem node?_prune_of_old {names : List FileName} {name : FileName} (mem : name ∈ names)
    (aged : old name = true) (d : Disk) : (prune old p names d).2.node? (p ++ [name]) = none := by
  induction names generalizing d with
  | nil => cases mem
  | cons head rest ih =>
    have next : (prune old p (head :: rest) d).2 =
        (prune old p rest (if old head then d.erase (p ++ [head]) else d)).2 := by
      rw [prune_disk, prune_disk, List.foldl_cons]
    rw [next]
    rcases List.mem_cons.1 mem with rfl | later
    · -- erased here, and nothing comes back later
      rw [if_pos aged]
      rcases node?_prune old p rest (d.erase (p ++ [name])) (p ++ [name]) with kept | ⟨gone, -⟩
      · rw [kept, d.node?_erase_self (by simp)]
      · exact gone
    · exact ih later _

end Loop

/-- The loop that looks at each file in its turn, on the disk as it is then. -/
def pruneInTurn (p : Path) (before : Int) (names : List FileName) (d : Disk) : Nat × Disk :=
  names.foldl (fun (n, d) name =>
    if isOld d p before name then (n + 1, d.erase (p ++ [name])) else (n, d)) (0, d)

theorem pruneInTurn_eq {p : Path} {names : List FileName} (distinct : names.Nodup) (before : Int)
    (d : Disk) : pruneInTurn p before names d = prune (isOld d p before) p names d := by
  suffices turns : ∀ start : Nat × Disk,
      (∀ name ∈ names, isOld start.2 p before name = isOld d p before name) →
      names.foldl (fun (n, d) name =>
        if isOld d p before name then (n + 1, d.erase (p ++ [name])) else (n, d)) start =
      names.foldl (fun (n, e) name =>
        if isOld d p before name then (n + 1, e.erase (p ++ [name])) else (n, e)) start from
    turns (0, d) fun _ _ => rfl
  -- the files that are still to come look as they did at first
  induction names with
  | nil => exact fun start same => rfl
  | cons name rest ih =>
    obtain ⟨fresh, distinct⟩ := List.nodup_cons.1 distinct
    intro start same
    have later := fun other (mem : other ∈ rest) => same other (List.mem_cons_of_mem name mem)
    rw [List.foldl_cons, List.foldl_cons]
    simp only [same name List.mem_cons_self]
    refine ih distinct _ fun other mem => ?_
    split
    · have apart : other ≠ name := fun same => fresh (same ▸ mem)
      rw [isOld_erase apart, later other mem]
    · exact later other mem

theorem node?_prune_of_goes {d : Disk} {p q : Path} {names : List FileName} {before : Int}
    (order : names.Perm (d.children p)) (goes : Goes d p before q) :
    (prune (isOld d p before) p names d).2.node? q = none := by
  obtain ⟨name, child, aged, rfl⟩ := goes.exists_child
  exact node?_prune_of_old _ p (order.mem_iff.2 child) aged d

theorem node?_prune_of_not_goes {d : Disk} {p q : Path} {before : Int} (names : List FileName)
    (stays : ¬ Goes d p before q) :
    (prune (isOld d p before) p names d).2.node? q = d.node? q := by
  rcases node?_prune (isOld d p before) p names d q with kept | ⟨-, name, -, aged, rfl⟩
  · exact kept
  · exact absurd (isOld_iff.1 aged) stays

theorem gone_prune_iff {d : Disk} {p q : Path} {names : List FileName} {before : Int}
    (order : names.Perm (d.children p)) :
    Gone d (prune (isOld d p before) p names d).2 q ↔ Goes d p before q := by
  refine ⟨fun ⟨there, gone⟩ => ?_, fun goes => ⟨goes.there, node?_prune_of_goes order goes⟩⟩
  by_contra stays
  exact there ((node?_prune_of_not_goes names stays).symm.trans gone)

theorem cleaned_prune {d : Disk} {p : Path} {names : List FileName} (distinct : d.Distinct)
    (order : names.Perm (d.children p)) (before : Int) :
    Cleaned d p before (prune (isOld d p before) p names d).1
      (prune (isOld d p before) p names d).2 := by
  refine ⟨home_prune _ p names d, fun q => gone_prune_iff order,
    fun q => node?_prune_of_not_goes names,
    (names.filter (isOld d p before)).map fun name => p ++ [name], ?_, ?_, fun q => ?_⟩
  · have nodup := order.nodup_iff.2 (distinct.nodup_children p)
    exact (nodup.filter _).map fun a b same => by simpa using same
  · rw [List.length_map, prune_count, List.countP_eq_length_filter]
  · rw [gone_prune_iff order, List.mem_map]
    constructor
    · rintro ⟨name, aged, rfl⟩
      exact isOld_iff.1 (List.mem_filter.1 aged).2
    · intro goes
      obtain ⟨name, child, aged, rfl⟩ := goes.exists_child
      exact ⟨name, List.mem_filter.2 ⟨order.mem_iff.2 child, aged⟩, rfl⟩

theorem removeOlder_of_list {d : Disk} {directory : String} {p : Path} {names : List FileName}
    (listed : d.list directory = .ok (p, names)) (now : Int) (age : Duration) :
    removeOlder directory d now age = .ok (prune (isOld d p (cutoffOf now age)) p names d) := by
  rw [removeOlder, listed]
  rfl

theorem exists_cleaned {d : Disk} (distinct : d.Distinct) {directory : String} {p : Path}
    {names : List FileName} (listed : d.list directory = .ok (p, names)) (now : Int)
    (age : Duration) :
    ∃ n e, removeOlder directory d now age = .ok (n, e) ∧ Cleaned d p (cutoffOf now age) n e := by
  obtain ⟨-, rfl⟩ := Disk.list_eq_ok_iff.1 listed
  exact ⟨_, _, removeOlder_of_list listed now age, cleaned_prune distinct (.refl _) _⟩

theorem Cleaned.node?_eq {d d' e e' : Disk} {p : Path} {before : Int} {n n' : Nat}
    (h : Cleaned d p before n e) (h' : Cleaned d' p before n' e') {q : Path}
    (same : d'.node? q = d.node? q) : e'.node? q = e.node? q := by
  by_cases goes : Goes d p before q
  · rw [((h.gone q).2 goes).2, ((h'.gone q).2 ((goes_congr same before).2 goes)).2]
  · rw [h.kept q goes, h'.kept q fun goes' => goes ((goes_congr same before).1 goes'), same]

theorem Cleaned.count_eq {d d' e e' : Disk} {p : Path} {before : Int} {n n' : Nat}
    (h : Cleaned d p before n e) (h' : Cleaned d' p before n' e')
    (same : ∀ q, Goes d' p before q ↔ Goes d p before q) : n' = n := by
  obtain ⟨files, nodup, rfl, mem⟩ := h.count
  obtain ⟨files', nodup', rfl, mem'⟩ := h'.count
  refine ((List.perm_ext_iff_of_nodup nodup' nodup).2 fun q => ?_).length_eq
  rw [mem, mem', h.gone, h'.gone, same]

/-- Removing old results answers with how many are gone, or with the failure to list the directory.
For every listing order and every point in time, exactly the old files of the history that can be
removed are gone, also when each is looked at in its turn only, and what happens to one file makes no
difference to any other. A link to a file is looked at as that file, and goes without it. -/
theorem only_old_results_go (d : Disk) (distinct : d.Distinct) (directory : String) (now : Int)
    (age : Duration) :
    (∀ cause, d.list directory = .error cause →
      removeOlder directory d now age = .error ⟨directory, cause⟩) ∧
    ∀ p names, d.list directory = .ok (p, names) →
      (∀ before order, order.Perm names →
        prune (isOld d p before) p order d = pruneInTurn p before order d ∧
        Cleaned d p before (pruneInTurn p before order d).1 (pruneInTurn p before order d).2) ∧
      ∃ n e, removeOlder directory d now age = .ok (n, e) ∧
        Cleaned d p (cutoffOf now age) n e ∧
        ∀ (d' : Disk) (other : Path), d'.Distinct → d.SameDirectories d' →
          (∀ q, q ≠ other → d'.node? q = d.node? q) →
          ∃ n' e', removeOlder directory d' now age = .ok (n', e') ∧
            (∀ q, q ≠ other → e'.node? q = e.node? q) ∧
            ((Goes d' p (cutoffOf now age) other ↔ Goes d p (cutoffOf now age) other) →
              n' = n) := by
  refine ⟨fun cause listed => ?_, fun p names listed => ⟨fun before order perm => ?_, ?_⟩⟩
  · rw [removeOlder, listed]
    rfl
  · obtain ⟨-, rfl⟩ := Disk.list_eq_ok_iff.1 listed
    have nodup := perm.nodup_iff.2 (distinct.nodup_children p)
    have turns : pruneInTurn p before order d = _ := pruneInTurn_eq nodup before d
    rw [turns]
    exact ⟨rfl, cleaned_prune distinct perm before⟩
  obtain ⟨n, e, removed, cleaned⟩ := exists_cleaned distinct listed now age
  refine ⟨n, e, removed, cleaned, fun d' other distinct' same agree => ?_⟩
  obtain ⟨n', e', removed', cleaned'⟩ := exists_cleaned distinct' (same.list listed) now age
  refine ⟨n', e', removed', fun q apart => ?_, fun alike => ?_⟩
  · exact cleaned.node?_eq cleaned' (agree q apart)
  · refine cleaned.count_eq cleaned' fun q => ?_
    by_cases here : q = other
    · rw [here, alike]
    · exact goes_congr (agree q here) _

/-- Of two old results one cannot be removed; others are unknown, not old enough or no results. -/
theorem only_old_results_go_mixed :
    let file (changed : Option Int) (removable : Bool) : Node :=
      .file ⟨.text "x", changed, true, true, removable⟩
    let child (name : String) : Path := [.text "drawer", .text name]
    let d : Disk := .steady [([.text "drawer"], .directory),
      (child "result-a.json", file (some 4) false),
      (child "result-b.json", file (some 4) true), (child "result-c.json", file none true),
      (child "result-d.json", file (some 5) true), (child "result-e.json", .directory),
      (child "result-e.json" ++ [.text "result-f.json"], file (some 4) true),
      (child "notes.json", file (some 4) true)] []
    d.Distinct ∧ ∃ e, removeOlder "drawer" d 5 ⟨0, 0⟩ = .ok (1, e) ∧
      Gone d e (child "result-b.json") ∧
      ∀ q, q ≠ child "result-b.json" → e.node? q = d.node? q := by
  intro file child d
  have distinct : d.Distinct := by decide
  have value : removeOlder "drawer" d 5 ⟨0, 0⟩ = .ok (1, d.erase (child "result-b.json")) := by rfl
  have listed : d.list "drawer" = .ok ([.text "drawer"], d.children [.text "drawer"]) := by rfl
  obtain ⟨n, e, removed, cleaned, -⟩ :=
    ((only_old_results_go d distinct "drawer" 5 ⟨0, 0⟩).2 _ _ listed).2
  obtain ⟨rfl, rfl⟩ := Prod.mk.inj (Except.ok.inj (removed.symm.trans value))
  have gone : Gone d (d.erase (child "result-b.json")) (child "result-b.json") := by decide
  refine ⟨distinct, _, value, gone, fun q other => cleaned.kept q fun goes => other ?_⟩
  -- one file is gone, so no other one is
  obtain ⟨files, -, one, mem⟩ := cleaned.count
  obtain ⟨only, rfl⟩ := List.length_eq_one_iff.1 one
  have first := List.mem_singleton.1 ((mem q).2 ((cleaned.gone q).2 goes))
  have second := List.mem_singleton.1 ((mem _).2 gone)
  rw [first, second]

def ReachesBack (now : Int) (age : Duration) : Prop :=
  earliest ≤ (now - age.toNanos).fdiv 1000000000

/-- The files that are gone when results older than an age have been removed. -/
def RemovedBy (directory : String) (d : Disk) (now : Int) (age : Duration) (q : Path) : Prop :=
  ∃ n e, removeOlder directory d now age = .ok (n, e) ∧ Gone d e q

section Ages
variable {d : Disk} {directory : String} {p q : Path} {names : List FileName} {now : Int}
  {age older : Duration}

theorem cutoffOf_of_reachesBack (h : ReachesBack now age) :
    cutoffOf now age = now - age.toNanos := if_neg (Int.not_lt.2 h)

theorem cutoffOf_of_not_reachesBack (h : ¬ ReachesBack now age) : cutoffOf now age = 0 :=
  if_pos (Int.not_le.1 h)

theorem ReachesBack.mono (le : age.toNanos ≤ older.toNanos) (h : ReachesBack now older) :
    ReachesBack now age := by
  rw [ReachesBack, Int.fdiv_eq_ediv_of_nonneg _ (by decide)] at h ⊢
  omega

theorem reachesBack_of_le (since : 0 ≤ now) (le : age.toNanos ≤ 9223372036854775808000000000) :
    ReachesBack now age := by
  rw [ReachesBack, Int.fdiv_eq_ediv_of_nonneg _ (by decide), earliest]
  omega

theorem removedBy_iff (listed : d.list directory = .ok (p, names)) :
    RemovedBy directory d now age q ↔ Goes d p (cutoffOf now age) q := by
  obtain ⟨-, rfl⟩ := Disk.list_eq_ok_iff.1 listed
  rw [RemovedBy, removeOlder_of_list listed, ← gone_prune_iff (.refl _)]
  constructor
  · rintro ⟨n, e, removed, gone⟩
    obtain rfl : _ = e := congrArg Prod.snd (Except.ok.inj removed)
    exact gone
  · intro gone
    exact ⟨_, _, rfl, gone⟩

/-- Where files from before 1970 are taken for old, those of them that are not must be none. -/
theorem goes_of_before_epoch_iff {limit : Int} :
    (∀ q, Goes d p 0 q → Goes d p limit q) ↔
      ∀ q changed, Erasable d p q changed → 0 ≤ changed ∨ changed < limit := by
  constructor
  · intro law q changed erasable
    rw [or_iff_not_imp_left]
    intro before
    obtain ⟨changed', erasable', old⟩ := law q ⟨changed, erasable, Int.not_le.1 before⟩
    rwa [erasable.changed_eq erasable']
  · rintro old q ⟨changed, erasable, before⟩
    exact ⟨changed, erasable, (old q changed erasable).resolve_left (Int.not_le.2 before)⟩

theorem removed_older_iff (listed : d.list directory = .ok (p, names)) :
    (∀ q, RemovedBy directory d now age q → Goes d p (now - age.toNanos) q) ↔
      ReachesBack now age ∨
        ∀ q changed, Erasable d p q changed → 0 ≤ changed ∨ changed < now - age.toNanos := by
  simp only [removedBy_iff listed, ← goes_of_before_epoch_iff]
  by_cases back : ReachesBack now age
  · simp only [back, true_or, iff_true, cutoffOf_of_reachesBack back]
    exact fun q goes => goes
  · simp only [back, false_or, cutoffOf_of_not_reachesBack back]

theorem removed_subset_iff (listed : d.list directory = .ok (p, names))
    (le : age.toNanos ≤ older.toNanos) :
    (∀ q, RemovedBy directory d now older q → RemovedBy directory d now age q) ↔
      ReachesBack now older ∨ ¬ ReachesBack now age ∨
        ∀ q changed, Erasable d p q changed → 0 ≤ changed ∨ changed < now - age.toNanos := by
  simp only [removedBy_iff listed, ← goes_of_before_epoch_iff]
  by_cases far : ReachesBack now older
  · simp only [far, true_or, iff_true, cutoffOf_of_reachesBack far,
      cutoffOf_of_reachesBack (far.mono le)]
    rintro q ⟨changed, erasable, old⟩
    exact ⟨changed, erasable, by omega⟩
  -- clocks do not reach back so far, and files from before 1970 go
  rw [cutoffOf_of_not_reachesBack far]
  by_cases near : ReachesBack now age
  · simp only [far, near, not_true, false_or, cutoffOf_of_reachesBack near]
  · simp only [far, near, not_false_eq_true, true_or, or_true, iff_true,
      cutoffOf_of_not_reachesBack near]
    exact fun q goes => goes

end Ages

def dayAge (days : UInt64) : Duration := .ofSeconds (Settings.daySeconds days)

theorem toNanos_dayAge (days : UInt64) :
    (dayAge days).toNanos = min (days.toNat * 86400) (UInt64.size - 1) * 1000000000 := by
  have small : min (days.toNat * 86400) (UInt64.size - 1) < UInt64.size :=
    Nat.lt_of_le_of_lt (Nat.min_le_right _ _) (by decide)
  have seconds : (Settings.daySeconds days).toNat = min (days.toNat * 86400) (UInt64.size - 1) :=
    UInt64.toNat_ofNat_of_lt' small
  rw [dayAge, Duration.toNanos, Duration.ofSeconds, seconds, Nat.add_zero]

theorem dayAge_mono {days more : UInt64} (le : days ≤ more) :
    (dayAge days).toNanos ≤ (dayAge more).toNanos := by
  have le : days.toNat ≤ more.toNat := UInt64.le_iff_toNat_le.1 le
  rw [toNanos_dayAge, toNanos_dayAge]
  omega

theorem gone_cleanup_iff {s : Command.Surroundings} {settings : Settings} {store : ResultStore}
    {d : Disk} (opened : openAt s.disk settings.resultsDirectory = (.ok store, d)) (days : UInt64)
    (q : Path) :
    Gone d (s.cleanup settings days).disk q ↔
      RemovedBy settings.resultsDirectory d s.now (dayAge days) q := by
  simp only [Command.Surroundings.cleanup, Command.withResults, opened, cleanup, RemovedBy, dayAge]
  cases removeOlder settings.resultsDirectory d s.now (.ofSeconds (Settings.daySeconds days)) with
  | error fault => simp [Command.Ending.failure, Gone]
  | ok removed =>
    obtain ⟨n, e⟩ := removed
    simp [Command.Ending.success]

theorem gone_retention_iff (d : Disk) (settings : Settings) (now : Int) (q : Path) :
    Gone d (Command.prune d settings now) q ↔ ∃ days, settings.retentionDays = some days ∧
      RemovedBy settings.resultsDirectory d now (dayAge days) q := by
  cases limit : settings.retentionDays with
  | none => simp [Command.prune, Settings.retentionSeconds, limit, Gone]
  | some days =>
    simp only [Command.prune, Settings.retentionSeconds, limit, Option.map_some, cleanup,
      RemovedBy, dayAge, Option.some.injEq, exists_eq_left']
    cases removeOlder settings.resultsDirectory d now (.ofSeconds (Settings.daySeconds days)) with
    | error fault => simp [Gone]
    | ok removed =>
      obtain ⟨n, e⟩ := removed
      simp

/-- Results are removed for their age alone, and fewer for a greater age, as long as clocks reach
back by the age. Beyond that all files from before 1970 are removed; so both laws hold exactly if
there is no younger one among them. Ages in days are ages in order, and the removals by an order and
by the settings are those for them. -/
theorem removals_by_age (d : Disk) (directory : String) (p : Path) (names : List FileName)
    (listed : d.list directory = .ok (p, names)) (now : Int) :
    (∀ age : Duration,
      (∀ q, RemovedBy directory d now age q →
        ∃ changed, Erasable d p q changed ∧ changed < now - age.toNanos) ↔
      ReachesBack now age ∨
        ∀ q changed, Erasable d p q changed → 0 ≤ changed ∨ changed < now - age.toNanos) ∧
    (∀ age older : Duration, age.toNanos ≤ older.toNanos →
      ((∀ q, RemovedBy directory d now older q → RemovedBy directory d now age q) ↔
        ReachesBack now older ∨ ¬ ReachesBack now age ∨
          ∀ q changed, Erasable d p q changed → 0 ≤ changed ∨ changed < now - age.toNanos)) ∧
    (∀ age : Duration, 0 ≤ now → age.toNanos ≤ 9223372036854775808000000000 →
      ReachesBack now age) ∧
    (∀ days more : UInt64, days ≤ more → (dayAge days).toNanos ≤ (dayAge more).toNanos) ∧
    (∀ (s : Command.Surroundings) (settings : Settings) (store : ResultStore),
      s.now = now → settings.resultsDirectory = directory →
      openAt s.disk directory = (.ok store, d) → ∀ days q,
      Gone d (s.cleanup settings days).disk q ↔ RemovedBy directory d now (dayAge days) q) ∧
    (∀ settings : Settings, settings.resultsDirectory = directory → ∀ q,
      Gone d (Command.prune d settings now) q ↔ ∃ days, settings.retentionDays = some days ∧
        RemovedBy directory d now (dayAge days) q) := by
  refine ⟨fun age => removed_older_iff listed, fun age older => removed_subset_iff listed,
    fun age => reachesBack_of_le, fun days more => dayAge_mono, ?_, ?_⟩
  · rintro s settings store rfl rfl opened days q
    exact gone_cleanup_iff opened days q
  · rintro settings rfl q
    exact gone_retention_iff d settings now q

/-- In 2026, a result of 1969 is older than a day. -/
theorem removals_by_age_day :
    let q : Path := [.text "drawer", .text "result-a.json"]
    let d : Disk := .steady [([.text "drawer"], .directory),
      (q, .file ⟨.text "x", some (-86400000000000), true, true, true⟩)] []
    let now : Int := 1777636800000000000
    d.list "drawer" = .ok ([.text "drawer"], [.text "result-a.json"]) ∧
      RemovedBy "drawer" d now (dayAge 1) q ∧
      ∃ changed, Erasable d [.text "drawer"] q changed ∧ changed < now - (dayAge 1).toNanos := by
  intro q d now
  have listed : d.list "drawer" = .ok ([.text "drawer"], [.text "result-a.json"]) := by rfl
  obtain ⟨law, -, back, -⟩ := removals_by_age d "drawer" _ _ listed now
  have removed : RemovedBy "drawer" d now (dayAge 1) q := ⟨1, d.erase q, by rfl, by decide⟩
  exact ⟨listed, removed, (law _).2 (.inl (back _ (by decide) (by decide))) q removed⟩

/-- It is gone for any age that clocks do not reach back by, and stays for a hundred years. -/
theorem young_result_removed :
    let q : Path := [.text "drawer", .text "result-a.json"]
    let d : Disk := .steady [([.text "drawer"], .directory),
      (q, .file ⟨.text "x", some (-86400000000000), true, true, true⟩)] []
    let now : Int := 1777636800000000000
    let most : UInt64 := 18446744073709551615
    (RemovedBy "drawer" d now (dayAge most) q ∧
      ¬ ∃ changed, Erasable d [.text "drawer"] q changed ∧
        changed < now - (dayAge most).toNanos) ∧
    (36500 : UInt64) ≤ most ∧ ¬ RemovedBy "drawer" d now (dayAge 36500) q := by
  intro q d now most
  have listed : d.list "drawer" = .ok ([.text "drawer"], [.text "result-a.json"]) := by rfl
  have erasable : Erasable d [.text "drawer"] q (-86400000000000) :=
    ⟨"a", _, by decide, rfl, rfl, rfl⟩
  have young {days : UInt64} (many : 36500 ≤ days.toNat) :
      ¬ ∃ changed, Erasable d [.text "drawer"] q changed ∧
        changed < now - (dayAge days).toNanos := by
    rintro ⟨changed, erasable', old⟩
    rw [← erasable.changed_eq erasable', toNanos_dayAge] at old
    simp only [now, UInt64.size] at old
    omega
  have far : ¬ ReachesBack now (dayAge most) := by
    rw [ReachesBack, toNanos_dayAge]
    decide
  have near : ReachesBack now (dayAge 36500) := by
    rw [ReachesBack, toNanos_dayAge]
    decide
  refine ⟨⟨(removedBy_iff listed).2 ?_, young (by decide)⟩, by decide, fun removed => ?_⟩
  · rw [cutoffOf_of_not_reachesBack far]
    exact ⟨_, erasable, by decide⟩
  · have goes := (removedBy_iff listed).1 removed
    rw [cutoffOf_of_reachesBack near] at goes
    exact young (by decide) goes

end Barrage.ResultStore
