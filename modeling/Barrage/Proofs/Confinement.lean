import Barrage.Proofs.JoinedPaths
import Barrage.Proofs.ResultFiles
import Barrage.Workspace

/-! Which files the stores touch.
Whatever the identifiers of scripts are and whenever runs start, a save changes one file of the
store's own directory, whose name is put together from harmless characters, and the removal of old
results removes nothing but results. All else on the disk stays, also when an operation breaks
off. -/

namespace Barrage

def ScriptName (name : String) : Prop :=
  ∃ stem : List Char, (∀ c ∈ stem, c.isAlphanum = true ∨ c = '-' ∨ c = '_') ∧
    name.toList = stem ++ ".json".toList

structure ResultName (name : String) : Prop where
  start : "result-".toList <+: name.toList
  ending : ".json".toList <:+ name.toList
  whole : '/' ∉ name.toList

theorem mem_fileStem {id : String} {c : Char} (h : c ∈ fileStem id) :
    c.isAlphanum = true ∨ c = '-' ∨ c = '_' := by
  obtain ⟨d, -, rfl⟩ := List.mem_map.1 h
  by_cases plain : (d.isAlphanum || d == '-' || d == '_') = true
  · rw [if_pos plain]
    simpa [or_assoc] using plain
  · rw [if_neg plain]
    exact .inr (.inr rfl)

theorem Instant.mem_stamp {t : Instant} {c : Char} (h : c ∈ t.stamp) :
    c.isAlphanum = true ∨ c = '-' ∨ c = '+' := by
  have padded {width n : Nat} (part : c ∈ Decimal.padded width n) : c.isAlphanum = true := by
    have digit := (Decimal.spells_padded_width width n).digits c part
    simp [Char.isAlphanum, digit]
  have year (part : c ∈ yearText t.date.year) : c.isAlphanum = true ∨ c = '-' ∨ c = '+' := by
    rw [yearText] at part
    split at part
    · exact .inl (padded part)
    · rcases List.mem_cons.1 part with sign | part
      · rw [sign]
        split <;> simp
      · exact .inl (padded part)
  simp only [stamp, dateText, clockText, List.append_nil, List.mem_append, List.mem_cons] at h
  rcases h with ((h | h) | h) | h | (h | h) | h
  · exact year h
  all_goals first | exact .inl (padded h) | exact .inr (.inl h)

theorem scriptName_fileName (id : String) : ScriptName (ScriptStore.fileName id) :=
  ⟨fileStem id, fun _ => mem_fileStem, String.toList_ofList⟩

theorem ne_of_harmless {c : Char} (h : c.isAlphanum = true ∨ c = '-' ∨ c = '_' ∨ c = '+') :
    c ≠ '/' ∧ c ≠ '\x00' := by
  rcases h with letter | rfl | rfl | rfl
  · constructor <;> (rintro rfl; simp at letter)
  all_goals decide

theorem jsonName_of_harmless {stem : List Char} (harmless : ∀ c ∈ stem, c ≠ '/' ∧ c ≠ '\x00') :
    Disk.JsonName (String.ofList (stem ++ ".json".toList)) := by
  have mem {c : Char} (h : c ∈ stem ++ ".json".toList) : c ≠ '/' ∧ c ≠ '\x00' := by
    rcases List.mem_append.1 h with h | h
    · exact harmless c h
    · exact (by simp : ∀ c ∈ ".json".toList, c ≠ '/' ∧ c ≠ '\x00') c h
  rw [← String.toList_ofList (l := stem ++ ".json".toList)] at mem
  exact ⟨fun slash => (mem slash).1 rfl, fun zero => (mem zero).2 rfl,
    stem, String.toList_ofList.symm⟩

theorem ne_of_mem_fileStem {id : String} {c : Char} (h : c ∈ fileStem id) :
    c ≠ '/' ∧ c ≠ '\x00' := by
  apply ne_of_harmless
  rcases mem_fileStem h with letter | dash | low
  · exact .inl letter
  · exact .inr (.inl dash)
  · exact .inr (.inr (.inl low))

theorem jsonName_script (id : String) : Disk.JsonName (ScriptStore.fileName id) :=
  jsonName_of_harmless fun _ => ne_of_mem_fileStem

theorem jsonName_result (r : RunResult) : Disk.JsonName (ResultStore.fileName r) := by
  refine jsonName_of_harmless fun c h => ?_
  rcases List.mem_append.1 h with h | h
  · rcases List.mem_append.1 h with h | h
    · exact (by simp [ResultStore.start] : ∀ c ∈ ResultStore.start.toList, c ≠ '/' ∧ c ≠ '\x00') c h
    · exact ne_of_mem_fileStem h
  · apply ne_of_harmless
    rcases List.mem_cons.1 h with dash | h
    · exact .inr (.inl dash)
    · rcases Instant.mem_stamp h with letter | dash | plus
      · exact .inl letter
      · exact .inr (.inl dash)
      · exact .inr (.inr (.inr plus))

theorem ResultStore.isResultName_text {name : String} :
    isResultName (.text name) = true ↔
      "result-".toList <+: name.toList ∧ ".json".toList <:+ name.toList := by
  simp only [isResultName, Bool.and_eq_true, List.isPrefixOf_iff_prefix,
    List.isSuffixOf_iff_suffix]
  rfl

theorem resultName_fileName (r : RunResult) : ResultName (ResultStore.fileName r) := by
  have named := ResultStore.isResultName_text.1 (ResultStore.isResultName_fileOf r)
  exact ⟨named.1, named.2, (jsonName_result r).whole⟩

namespace ResultStore
variable (old : FileName → Bool) (p : Path) (names : List FileName)

theorem prune_disk (d : Disk) : (prune old p names d).2 =
    names.foldl (fun d name => if old name then d.erase (p ++ [name]) else d) d := by
  refine (List.foldl_hom Prod.snd fun pair name => ?_).symm
  by_cases aged : old name = true
  · simp only [if_pos aged]
  · simp only [if_neg aged]

theorem node?_prune (d : Disk) (q : Path) :
    (prune old p names d).2.node? q = d.node? q ∨
      (prune old p names d).2.node? q = none ∧
        ∃ name ∈ names, old name = true ∧ q = p ++ [name] := by
  rw [prune_disk]
  induction names generalizing d with
  | nil => exact .inl rfl
  | cons name rest ih =>
    rw [List.foldl_cons]
    rcases ih (if old name then d.erase (p ++ [name]) else d) with kept | ⟨gone, other, mem, h⟩
    · rw [kept]
      split
      · next aged =>
        by_cases same : q = p ++ [name]
        · right
          rw [same]
          exact ⟨d.node?_erase_self (by simp), name, by simp, aged, rfl⟩
        · exact .inl (d.node?_erase_ne same)
      · exact .inl rfl
    · exact .inr ⟨gone, other, List.mem_cons_of_mem _ mem, h⟩

theorem home_prune (d : Disk) : (prune old p names d).2.home = d.home := by
  rw [prune_disk]
  induction names generalizing d with
  | nil => rfl
  | cons name rest ih =>
    rw [List.foldl_cons, ih]
    split <;> rfl

theorem file_of_isOld {d : Disk} {p : Path} {before : Int} {name : FileName}
    (h : isOld d p before name = true) :
    ∃ (text : String) (f : File), name = .text text ∧ isResultName (.text text) = true ∧
      d.node? (p ++ [name]) = some (.file f) := by
  cases found : file? d p name with
  | none => simp [isOld, found] at h
  | some f =>
    rw [file?] at found
    split at found
    · next f' there =>
      split at found
      · next named =>
        cases name with
        | text text => exact ⟨text, f', rfl, named, there⟩
        | bytes b => cases named
      · cases found
    · cases found

theorem sameDirectories_prune (d : Disk) (p : Path) (before : Int) (names : List FileName) :
    d.SameDirectories (prune (isOld d p before) p names d).2 := by
  have home := home_prune (isOld d p before) p names d
  refine ⟨⟨home, fun q there => ?_⟩, ⟨home.symm, fun q there => ?_⟩⟩
  · rcases node?_prune (isOld d p before) p names d q with kept | ⟨-, name, -, aged, same⟩
    · rwa [kept]
    · -- what is removed was a file
      obtain ⟨text, f, -, -, file⟩ := file_of_isOld aged
      rw [same, file] at there
      cases there
  · rcases node?_prune (isOld d p before) p names d q with kept | ⟨gone, -⟩
    · rwa [← kept]
    · rw [gone] at there
      cases there

end ResultStore

inductive StoreOrder where
  | saveScript (now : Int) (s : Script)
  | saveResult (now : Int) (r : RunResult)
  | cleanup (now : Int) (seconds : UInt64)

namespace StoreOrder

def place? (w : Workspace) : StoreOrder → Option String
  | .saveScript .. => w.scripts.directory
  | .saveResult .. | .cleanup .. => w.results.directory

def writes? : StoreOrder → Option String
  | .saveScript _ s => some (ScriptStore.fileName s.id)
  | .saveResult _ r => some (ResultStore.fileName r)
  | .cleanup .. => none

def Named : StoreOrder → String → Prop
  | .saveScript .. => ScriptName
  | .saveResult .. | .cleanup .. => ResultName

/-- A path that an order may change: a child of the store's directory with a name of the right form,
where also the text of the file leads. -/
def Touches (w : Workspace) (o : StoreOrder) (q : Path) : Prop :=
  ∃ directory p name, o.place? w = some directory ∧ w.disk.directory directory = .ok p ∧
    q = p ++ [.text name] ∧ w.disk.resolve (joinPath directory name) = .ok q ∧ o.Named name

theorem jsonName {o : StoreOrder} {name : String} (h : o.writes? = some name) :
    Disk.JsonName name := by
  cases o with
  | saveScript now s =>
    cases h
    exact jsonName_script s.id
  | saveResult now r =>
    cases h
    exact jsonName_result r
  | cleanup now seconds => cases h

theorem named_of_writes? {o : StoreOrder} {name : String} (h : o.writes? = some name) :
    o.Named name := by
  cases o with
  | saveScript now s =>
    cases h
    exact scriptName_fileName s.id
  | saveResult now r =>
    cases h
    exact resultName_fileName r
  | cleanup now seconds => cases h

theorem ending_of_named {o : StoreOrder} {name : String} (h : o.Named name) :
    ".json".toList <:+ name.toList := by
  cases o with
  | saveScript now s =>
    obtain ⟨stem, -, parts⟩ := h
    exact ⟨stem, parts.symm⟩
  | saveResult now r => exact ResultName.ending h
  | cleanup now seconds => exact ResultName.ending h

end StoreOrder

namespace Workspace

/-- How a workspace gets on with an order: the store does as it is told, or fails, or breaks off. -/
inductive Step : Workspace → StoreOrder → Workspace → Prop
  | scriptSaved {w : Workspace} {now : Int} {s : Script} {outcome : Except StoreFault Unit}
      {scripts : ScriptStore} {disk : Disk}
      (done : w.scripts.save w.disk now s = ⟨outcome, scripts, disk⟩) :
      Step w (.saveScript now s) { w with scripts, disk }
  | resultSaved {w : Workspace} {now : Int} {r : RunResult} {outcome : Except StoreFault Unit}
      {results : ResultStore} {disk : Disk}
      (done : w.results.save w.disk now r = ⟨outcome, results, disk⟩) :
      Step w (.saveResult now r) { w with results, disk }
  | cleaned {w : Workspace} {now : Int} {seconds : UInt64} {directory : String} {n : Nat}
      {disk : Disk} (place : w.results.directory = some directory)
      (done : ResultStore.cleanup directory w.disk now seconds = .ok (n, disk)) :
      Step w (.cleanup now seconds) { w with disk }
  | failed (w : Workspace) (o : StoreOrder) : Step w o w
  /-- A write broke off after the file was opened, which holds anything now. -/
  | writeBroken {w : Workspace} {o : StoreOrder} {directory name : String} {p q : Path}
      (place : o.place? w = some directory) (there : w.disk.directory directory = .ok p)
      (writes : o.writes? = some name)
      (leads : w.disk.resolve (joinPath directory name) = .ok q)
      (free : w.disk.node? q ≠ some .directory) (f : File) :
      Step w o { w with disk := w.disk.put q (.file f) }
  /-- Only some of the old files were removed. -/
  | cleanupBroken {w : Workspace} {now : Int} {seconds : UInt64} {directory : String} {p : Path}
      {names part : List FileName} (place : w.results.directory = some directory)
      (listed : w.disk.list directory = .ok (p, names)) (some : part.Sublist names) :
      Step w (.cleanup now seconds)
        { w with disk := (ResultStore.prune (ResultStore.isOld w.disk p
            (ResultStore.cutoff now seconds)) p part w.disk).2 }

inductive Course (w : Workspace) : List StoreOrder → Workspace → Prop
  | start : Course w [] w
  | step {orders : List StoreOrder} {o : StoreOrder} {v u : Workspace} (h : Course w orders v)
      (s : Step v o u) : Course w (orders ++ [o]) u

inductive Change (w : Workspace) (o : StoreOrder) : Disk → Prop
  | nothing : Change w o w.disk
  | written {directory name : String} {p : Path} (place : o.place? w = some directory)
      (there : w.disk.directory directory = .ok p) (writes : o.writes? = some name)
      (short : ¬ FileName.longest < name.utf8ByteSize)
      (free : w.disk.node? (p ++ [.text name]) ≠ some .directory) (f : File) :
      Change w o (w.disk.put (p ++ [.text name]) (.file f))
  | removed {now : Int} {seconds : UInt64} {directory : String} {p : Path} {before : Int}
      (cleans : o = .cleanup now seconds) (place : w.results.directory = some directory)
      (there : w.disk.directory directory = .ok p) (names : List FileName) :
      Change w o (ResultStore.prune (ResultStore.isOld w.disk p before) p names w.disk).2

end Workspace

/-- What a save does to the disk and to the place of the store. -/
structure SavedAs (before after : Option String) (d e : Disk) (name : String) : Prop where
  place : after = before
  disk : e = d ∨ ∃ directory p f, before = some directory ∧ d.directory directory = .ok p ∧
    ¬ FileName.longest < name.utf8ByteSize ∧ d.node? (p ++ [.text name]) ≠ some .directory ∧
    e = d.put (p ++ [.text name]) (.file f)

theorem SavedAs.of_writeIn {before : Option String} {directory : String}
    (place : before = some directory) (d : Disk) (now : Int) (name text : String) :
    SavedAs before before d (d.writeIn now directory name text).2 name := by
  refine ⟨rfl, ?_⟩
  have wrote := d.wrote_writeIn now directory name text
  generalize d.writeIn now directory name text = done at wrote ⊢
  cases wrote with
  | nothing => exact .inl rfl
  | whole there short accepts =>
    exact .inr ⟨directory, _, _, place, there, short, accepts.free, rfl⟩
  | part cut => exact .inr ⟨directory, _, _, place, cut.there, cut.short, cut.free, rfl⟩

theorem ScriptStore.savedAs (store : ScriptStore) (d : Disk) (now : Int) (s : Script) :
    SavedAs store.directory (store.save d now s).store.directory d (store.save d now s).disk
      (fileName s.id) := by
  obtain memory | ⟨directory, place⟩ := Option.eq_none_or_eq_some store.directory
  · rw [save_of_memory memory]
    exact ⟨rfl, .inl rfl⟩
  · have written := SavedAs.of_writeIn place d now (fileName s.id) s.toValue.pretty
    rcases course : d.writeIn now directory (fileName s.id) s.toValue.pretty with ⟨_ | _, e⟩ <;>
      rw [course] at written
    · rwa [save_of_unwritten place course]
    · rwa [save_of_written place course]

theorem ResultStore.savedAs (store : ResultStore) (d : Disk) (now : Int) (r : RunResult) :
    SavedAs store.directory (store.save d now r).store.directory d (store.save d now r).disk
      (fileName r) := by
  obtain memory | ⟨directory, place⟩ := Option.eq_none_or_eq_some store.directory
  · rw [save_of_memory memory]
    exact ⟨rfl, .inl rfl⟩
  · rw [save_of_place place]
    exact .of_writeIn place ..

theorem Disk.directory_of_list {d : Disk} {s : String} {p : Path} {names : List FileName}
    (h : d.list s = .ok (p, names)) : d.directory s = .ok p := by
  have nonempty : s.isEmpty = false := by
    cases empty : s.isEmpty with
    | false => rfl
    | true =>
      rw [String.isEmpty_iff.1 empty] at h
      cases h
  obtain ⟨⟨resolved, there⟩, -⟩ := Disk.list_eq_ok_iff.1 h
  simp only [Disk.directory, nonempty, resolved, bind, Except.bind, there]
  rfl

theorem ResultStore.cleanup_eq_ok {directory : String} {d e : Disk} {now : Int} {seconds : UInt64}
    {n : Nat} (h : cleanup directory d now seconds = .ok (n, e)) :
    ∃ p names, d.directory directory = .ok p ∧
      e = (prune (isOld d p (cutoff now seconds)) p names d).2 := by
  cases listed : d.list directory with
  | error cause =>
    rw [cleanup, removeOlder, listed] at h
    cases h
  | ok found =>
    obtain ⟨p, names⟩ := found
    rw [cleanup, removeOlder, listed] at h
    have pruned := (congrArg Prod.snd (Except.ok.inj h)).symm
    exact ⟨p, names, Disk.directory_of_list listed, pruned⟩

namespace Workspace
variable {w v u : Workspace} {o : StoreOrder} {orders : List StoreOrder}

theorem Change.of_savedAs {name : String} {after : Option String} {e : Disk}
    (writes : o.writes? = some name) (saved : SavedAs (o.place? w) after w.disk e name) :
    Change w o e := by
  rcases saved.disk with rfl | ⟨directory, p, f, place, there, short, free, rfl⟩
  · exact .nothing
  · exact .written place there writes short free f

theorem Step.change (s : Step v o u) :
    Change v o u.disk ∧ ∀ o' : StoreOrder, o'.place? u = o'.place? v := by
  cases s with
  | @scriptSaved now s _ _ _ done =>
    have saved := v.scripts.savedAs v.disk now s
    rw [done] at saved
    refine ⟨.of_savedAs rfl saved, fun o' => ?_⟩
    cases o' with
    | saveScript => exact saved.place
    | saveResult | cleanup => rfl
  | @resultSaved now r _ _ _ done =>
    have saved := v.results.savedAs v.disk now r
    rw [done] at saved
    refine ⟨.of_savedAs rfl saved, fun o' => ?_⟩
    cases o' with
    | saveScript => rfl
    | saveResult | cleanup => exact saved.place
  | cleaned place done =>
    obtain ⟨p, names, there, rfl⟩ := ResultStore.cleanup_eq_ok done
    exact ⟨.removed rfl place there names, fun o' => by cases o' <;> rfl⟩
  | failed => exact ⟨.nothing, fun _ => rfl⟩
  | writeBroken place there writes leads free f =>
    rw [Disk.resolve_joinPath there (StoreOrder.jsonName writes)] at leads
    split at leads
    · cases leads
    · next short =>
      cases leads
      exact ⟨.written place there writes short free f, fun o' => by cases o' <;> rfl⟩
  | cleanupBroken place listed part =>
    have there := Disk.directory_of_list listed
    exact ⟨.removed rfl place there _, fun o' => by cases o' <;> rfl⟩

theorem Change.sameDirectories {e : Disk} (c : Change w o e) : w.disk.SameDirectories e := by
  cases c with
  | nothing => exact .refl _
  | written _ _ _ _ free f => exact Disk.sameDirectories_put free f
  | removed => exact ResultStore.sameDirectories_prune ..

/-- Names of files are as in every file system: without separators, and not too long. -/
def Plain (d : Disk) : Prop := ∀ q name n, d.node? (q ++ [.text name]) = some n →
  '/' ∉ name.toList ∧ '\x00' ∉ name.toList ∧ name.utf8ByteSize ≤ FileName.longest

theorem Change.plain {e : Disk} (c : Change w o e) (plain : Plain w.disk) : Plain e := by
  cases c with
  | nothing => exact plain
  | @written directory file p place there writes short free f =>
    intro q name n held
    by_cases same : q ++ [FileName.text name] = p ++ [.text file]
    · obtain ⟨-, last⟩ := List.append_inj' same rfl
      cases last
      have json := StoreOrder.jsonName writes
      exact ⟨json.whole, json.noZero, Nat.not_lt.1 short⟩
    · rw [Disk.node?_put_ne _ same] at held
      exact plain q name n held
  | @removed _ _ _ p before cleans place there names =>
    intro q name n held
    rcases ResultStore.node?_prune (ResultStore.isOld w.disk p before) p names w.disk
      (q ++ [.text name]) with kept | ⟨gone, -⟩
    · exact plain q name n (kept ▸ held)
    · rw [gone] at held
      cases held

theorem Change.touches {e : Disk} (c : Change w o e) (plain : Plain w.disk) {q : Path}
    (changed : e.node? q ≠ w.disk.node? q) :
    o.Touches w q ∧
      ((o.writes?.isSome ∧ ∃ f, e.node? q = some (.file f)) ∨
        ((∃ now seconds, o = .cleanup now seconds) ∧ e.node? q = none ∧
          ∃ f, w.disk.node? q = some (.file f))) := by
  cases c with
  | nothing => exact absurd rfl changed
  | @written directory name p place there writes short free f =>
    obtain rfl : q = p ++ [.text name] := by
      by_contra other
      exact changed (Disk.node?_put_ne _ other _)
    have leads := Disk.resolve_joinPath there (StoreOrder.jsonName writes)
    rw [if_neg short] at leads
    refine ⟨⟨directory, p, name, place, there, rfl, leads, StoreOrder.named_of_writes? writes⟩,
      .inl ⟨by rw [writes]; rfl, f, Disk.node?_put_self _ (by simp) _⟩⟩
  | @removed now seconds directory p before cleans place there names =>
    rcases ResultStore.node?_prune (ResultStore.isOld w.disk p before) p names w.disk q with
      kept | ⟨gone, name, -, aged, rfl⟩
    · exact absurd kept changed
    · obtain ⟨text, f, rfl, named, file⟩ := ResultStore.file_of_isOld aged
      obtain ⟨whole, noZero, short⟩ := plain p text _ file
      obtain ⟨start, ending⟩ := ResultStore.isResultName_text.1 named
      have leads := Disk.resolve_joinPath there ⟨whole, noZero, ending⟩
      rw [if_neg (Nat.not_lt.2 short)] at leads
      rw [cleans]
      exact ⟨⟨directory, p, text, place, there, rfl, leads, ⟨start, ending, whole⟩⟩,
        .inr ⟨⟨now, seconds, rfl⟩, gone, f, file⟩⟩

theorem touches_of_same (same : w.disk.SameDirectories v.disk)
    (places : ∀ o : StoreOrder, o.place? v = o.place? w) {q : Path} (h : o.Touches v q) :
    o.Touches w q := by
  obtain ⟨directory, p, name, place, there, child, leads, named⟩ := h
  refine ⟨directory, p, name, ?_, same.back.directory there, child, same.back.resolve leads, named⟩
  rw [← places o, place]

structure Course.Confined (w : Workspace) (orders : List StoreOrder) (v : Workspace) : Prop where
  same : w.disk.SameDirectories v.disk
  places : ∀ o : StoreOrder, o.place? v = o.place? w
  plain : Plain v.disk
  touched : ∀ q, v.disk.node? q ≠ w.disk.node? q → ∃ o ∈ orders, o.Touches w q

theorem Course.confined (h : Course w orders v) (plain : Plain w.disk) :
    Course.Confined w orders v := by
  induction h with
  | start =>
    exact ⟨.refl _, fun _ => rfl, plain, fun q changed => absurd rfl changed⟩
  | @step orders o v u h s ih =>
    obtain ⟨change, kept⟩ := s.change
    refine ⟨ih.same.trans change.sameDirectories, fun o' => (kept o').trans (ih.places o'),
      change.plain ih.plain, fun q changed => ?_⟩
    by_cases now : u.disk.node? q = v.disk.node? q
    · rw [now] at changed
      obtain ⟨o', earlier, touches⟩ := ih.touched q changed
      exact ⟨o', List.mem_append_left _ earlier, touches⟩
    · have touches := (change.touches ih.plain now).1
      exact ⟨o, by simp, touches_of_same ih.same ih.places touches⟩

end Workspace

open Workspace

/-- Over any series of saves and removals, of which any may fail or break off: what changes on the
disk are files that one of the orders may touch, in the store's own directory and with a name of its
form, and each further order changes such files only. A save leaves a file there, which for a result
is one of the history; a removal takes away files and does nothing else. -/
theorem stores_touch_only_their_files {w v : Workspace} {orders : List StoreOrder}
    (plain : Plain w.disk) (run : Course w orders v) :
    (∀ q, v.disk.node? q ≠ w.disk.node? q → ∃ o ∈ orders, o.Touches w q) ∧
    ∀ o u, Workspace.Step v o u → ∀ q, u.disk.node? q ≠ v.disk.node? q → o.Touches w q ∧
      match o with
      | .saveScript .. => ∃ f, u.disk.node? q = some (.file f)
      | .saveResult .. => ∃ p name f, q = p ++ [name] ∧
          ResultStore.file? u.disk p name = some f ∧ name ∈ u.disk.children p
      | .cleanup .. => u.disk.node? q = none ∧ ∃ f, v.disk.node? q = some (.file f) := by
  have confined := run.confined plain
  refine ⟨confined.touched, fun o u s q changed => ?_⟩
  obtain ⟨touches, done⟩ := s.change.1.touches confined.plain changed
  refine ⟨touches_of_same confined.same confined.places touches, ?_⟩
  cases o with
  | saveScript now s =>
    rcases done with ⟨-, f, held⟩ | ⟨⟨now, seconds, other⟩, -⟩
    · exact ⟨f, held⟩
    · cases other
  | saveResult now r =>
    rcases done with ⟨-, f, held⟩ | ⟨⟨now, seconds, other⟩, -⟩
    · obtain ⟨directory, p, name, -, -, rfl, -, named⟩ := touches
      refine ⟨p, .text name, f, rfl, ?_, Disk.mem_children held⟩
      rw [ResultStore.file?, held]
      exact if_pos (ResultStore.isResultName_text.2 ⟨named.start, named.ending⟩)
    · cases other
  | cleanup now seconds =>
    rcases done with ⟨written, -⟩ | ⟨-, removed⟩
    · cases written
    · exact removed

/-- A script whose identifier leads out of its directory, and the removal of an old result. -/
theorem stores_touch_only_their_files_passwd :
    let s : Script := ⟨"../passwd", [Barrage.Step.get "http://h/"]⟩
    let passwd : Path := [.text "passwd"]
    let old : Path := [.text "results", .text "result-a.json"]
    let f : File := ⟨.text "x", some 0, true, true, true⟩
    let disk : Disk := .steady [([.text "scripts"], .directory), ([.text "results"], .directory),
      (passwd, .file f), (old, .file f)] []
    let w : Workspace := ⟨⟨some "scripts", {}⟩, ⟨some "results", []⟩, disk⟩
    Plain disk ∧ ∃ v, Course w [.saveScript 5 s, .cleanup 5 0] v ∧
      (v.disk.node? [.text "scripts", .text "___passwd.json"]).isSome ∧
      v.disk.node? old = none ∧ v.disk.node? passwd = some (.file f) := by
  intro s passwd old f disk w
  have plain : Plain disk := by
    intro q name n held
    rw [Disk.node?, if_neg (by simp)] at held
    have listed := List.mem_map_of_mem (f := fun e => e.1.getLast?) (Disk.mem_of_find held)
    simp only [disk, Disk.steady, passwd, old, List.getLast?_concat, List.map_cons, List.map_nil,
      List.mem_cons, List.not_mem_nil, or_false] at listed
    rcases listed with h | h | h | h <;> cases h <;> decide
  have reaches : disk.Reaches "scripts" [.text "scripts"] :=
    ⟨by decide, by decide, .down (by decide) (by decide) rfl (.here _), rfl⟩
  have saved : w.scripts.save disk 5 s = ⟨.ok (),
      ⟨some "scripts", w.scripts.scripts.insert s.id s⟩,
      ScriptStore.withScript disk [.text "scripts"] 5 s⟩ :=
    ScriptStore.save_of_accepts rfl reaches (by decide) (.of_none (by decide) rfl) 5
  have cleaned :
      ResultStore.cleanup "results" (ScriptStore.withScript disk [.text "scripts"] 5 s) 5 0 =
        .ok (1, (ScriptStore.withScript disk [.text "scripts"] 5 s).erase old) := by rfl
  have run : Course w [.saveScript 5 s, .cleanup 5 0] _ :=
    .step (.step .start (.scriptSaved saved)) (.cleaned rfl cleaned)
  refine ⟨plain, _, run, by decide +kernel, by decide +kernel, ?_⟩
  by_contra changed
  obtain ⟨o, -, directory, p, name, -, -, child, -, named⟩ :=
    (stores_touch_only_their_files plain run).1 passwd changed
  have same : [] ++ [FileName.text "passwd"] = p ++ [.text name] := child
  obtain ⟨-, last⟩ := List.append_inj' same rfl
  cases last
  exact absurd (StoreOrder.ending_of_named named) (by decide)

end Barrage
