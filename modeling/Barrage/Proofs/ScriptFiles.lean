import Barrage.Proofs.Bindings
import Barrage.Proofs.ScriptDocuments
import Barrage.Proofs.Writes
import Barrage.Store.Scripts

/-! Directories as stores of scripts.
Opening a store reads the scripts of its directory, each under its own identifier, and a save
changes what one file holds and nothing else. The file is named for the identifier; the nameless
file of the empty identifier is never read. -/

namespace Barrage.ScriptStore
open Json

def fileOf (id : String) : FileName := .text (fileName id)

theorem isScriptFile_fileOf (id : String) : isScriptFile (fileOf id) = true ↔ id ≠ "" := by
  simp [isScriptFile, fileOf, fileName, endsIn, fileStem, List.length_pos_iff]

def withScript (d : Disk) (p : Path) (now : Int) (s : Script) : Disk :=
  d.fill now (p ++ [fileOf s.id]) (.text s.toValue.pretty)

theorem scriptIn?_put_ne (d : Disk) (p : Path) {name other : FileName} (h : other ≠ name)
    (n : Node) : scriptIn? (d.put (p ++ [name]) n) p other = scriptIn? d p other := by
  have apart : p ++ [other] ≠ p ++ [name] := by simpa using h
  rw [scriptIn?, d.node?_put_ne apart, scriptIn?]

theorem scriptIn?_withScript_self (d : Disk) (p : Path) (now : Int) (s : Script) :
    scriptIn? (withScript d p now s) p (fileOf s.id) =
      if s.id ≠ "" ∧ d.Readable (p ++ [fileOf s.id]) then some s else none := by
  have read : Script.ofText s.toValue.pretty = .ok s := (s.writtenAs_toValue.reads .pretty).text
  rw [scriptIn?, withScript, Disk.node?_fill_self (by simp), Option.bind_eq_bind, Option.bind_some]
  by_cases empty : s.id = ""
  · rw [if_neg fun h => (isScriptFile_fileOf s.id).1 h empty, if_neg fun h => h.1 empty]
  · rw [if_pos ((isScriptFile_fileOf s.id).2 empty)]
    by_cases readable : (d.fileAt (p ++ [fileOf s.id])).readable = true
    · rw [if_pos ⟨empty, readable⟩]
      simp [Disk.Node.text, File.holding, readable, Except.toOption, read]
    · rw [if_neg fun h => readable h.2]
      simp [Disk.Node.text, File.holding, readable, Except.toOption]

theorem scriptIn?_withScript (d : Disk) (p : Path) (now : Int) (s : Script) (name : FileName) :
    scriptIn? (withScript d p now s) p name =
      if name = fileOf s.id then
        (if s.id ≠ "" ∧ d.Readable (p ++ [fileOf s.id]) then some s else none)
      else scriptIn? d p name := by
  split
  · next same => rw [same, scriptIn?_withScript_self]
  · next other => exact scriptIn?_put_ne d p other _

theorem mem_children_of_scriptIn? {d : Disk} {p : Path} {name : FileName} {s : Script}
    (h : scriptIn? d p name = some s) : name ∈ d.children p := by
  obtain ⟨n, there, -⟩ := Option.bind_eq_some_iff.1 h
  exact Disk.mem_children there

theorem load_eq_ofList (d : Disk) (p : Path) (names : List FileName) :
    load d p names =
      Dict.ofList (names.filterMap fun name => (scriptIn? d p name).map fun s => (s.id, s)) := by
  rw [Dict.ofList, List.foldl_filterMap, load]
  congr 1
  funext scripts name
  cases scriptIn? d p name <;> rfl

theorem exists_of_get?_load {d : Disk} {p : Path} {names : List FileName} {id : String}
    {s : Script} (h : (load d p names).get? id = some s) :
    s.id = id ∧ ∃ name ∈ names, scriptIn? d p name = some s := by
  rw [load_eq_ofList] at h
  obtain ⟨name, listed, bound⟩ := List.mem_filterMap.1 (Dict.mem_of_get?_ofList h)
  obtain ⟨t, found, same⟩ := Option.map_eq_some_iff.1 bound
  cases same
  exact ⟨rfl, name, listed, found⟩

theorem get?_load_of_only {d : Disk} {p : Path} {names : List FileName} {name : FileName}
    {s : Script} (listed : name ∈ names) (found : scriptIn? d p name = some s)
    (only : ∀ other t, scriptIn? d p other = some t → t.id = s.id → t = s) :
    (load d p names).get? s.id = some s := by
  rw [load_eq_ofList]
  refine Dict.get?_ofList_of_mem (List.mem_filterMap.2 ⟨name, listed, by rw [found]; rfl⟩) ?_
  intro t bound
  obtain ⟨other, -, held⟩ := List.mem_filterMap.1 bound
  obtain ⟨u, found', same⟩ := Option.map_eq_some_iff.1 held
  obtain ⟨sameId, rfl⟩ := Prod.mk.inj same
  exact only other u found' sameId

theorem isSome_get?_load {d : Disk} {p : Path} {names : List FileName} {name : FileName}
    {s : Script} (listed : name ∈ names) (found : scriptIn? d p name = some s) :
    ((load d p names).get? s.id).isSome := by
  rw [load_eq_ofList, Dict.get?_ofList]
  refine Dict.isSome_find (v := s) (List.mem_reverse.2 (List.mem_filterMap.2 ⟨name, listed, ?_⟩))
  rw [found]
  rfl

theorem get?_load_last {d : Disk} {p : Path} {name : FileName} {s : Script}
    (names : List FileName) (found : scriptIn? d p name = some s) :
    (load d p (names ++ [name])).get? s.id = some s := by
  rw [load, List.foldl_append]
  simp [found]

/-- A directory gives back a script, in whatever order it is listed, exactly if some file holds it
and no file holds another one of the same identifier. -/
theorem get?_load_all_orders {d : Disk} {p : Path} (s : Script) :
    (∀ names : List FileName, names.Perm (d.children p) →
        (load d p names).get? s.id = some s) ↔
      (∃ name, scriptIn? d p name = some s) ∧
        ∀ name t, scriptIn? d p name = some t → t.id = s.id → t = s := by
  constructor
  · intro all
    obtain ⟨-, name, -, found⟩ := exists_of_get?_load (all _ (.refl _))
    refine ⟨⟨name, found⟩, fun other t held same => ?_⟩
    -- in some order the file of the other script is read last
    have listed := mem_children_of_scriptIn? held
    have order : ((d.children p).erase other ++ [other]).Perm (d.children p) :=
      List.perm_append_comm.trans (List.perm_cons_erase listed).symm
    have last := get?_load_last ((d.children p).erase other) held
    rw [same, all _ order] at last
    exact (Option.some.inj last).symm
  · rintro ⟨⟨name, found⟩, only⟩ names order
    exact get?_load_of_only (order.mem_iff.2 (mem_children_of_scriptIn? found)) found only

theorem openAt_of_reaches {d : Disk} {directory : String} {p : Path}
    (h : d.Reaches directory p) :
    openAt d directory = (.ok ⟨some directory, load d p (d.children p)⟩, d) := by
  simp only [openAt, h.makeDirectories, h.list]

theorem reaches_of_openAt {d e : Disk} {directory : String} {store : ScriptStore}
    (h : openAt d directory = (.ok store, e)) :
    ∃ p, e.Reaches directory p ∧ store = ⟨some directory, load e p (e.children p)⟩ := by
  rw [openAt] at h
  split at h
  · cases h
  · next made =>
    split at h
    · cases h
    · next p names listed =>
      cases h
      obtain ⟨reaches, rfl⟩ := Disk.reaches_of_makeDirectories made listed
      exact ⟨p, reaches, rfl⟩

/-- Every script is held under its own identifier. -/
def Own (store : ScriptStore) : Prop := ∀ id s, store.find? id = some s → s.id = id

theorem Own.insert {store : ScriptStore} (h : store.Own) (s : Script) :
    Own { store with scripts := store.scripts.insert s.id s } := by
  intro id r found
  rw [find?, Dict.get?_insert] at found
  split at found
  · next same =>
    cases found
    exact same
  · exact h id r found

theorem own_of_openAt {d e : Disk} {directory : String} {store : ScriptStore}
    (h : openAt d directory = (.ok store, e)) : store.Own := by
  obtain ⟨p, -, rfl⟩ := reaches_of_openAt h
  exact fun id s found => (exists_of_get?_load found).1

section
variable {store store' : ScriptStore} {d d' : Disk} {now : Int} {s : Script} {directory : String}
  {p : Path}

theorem save_of_memory (memory : store.directory = none) (d : Disk) (now : Int) (s : Script) :
    store.save d now s = ⟨.ok (), { store with scripts := store.scripts.insert s.id s }, d⟩ := by
  simp only [save, memory]

theorem save_of_written (place : store.directory = some directory)
    (written : d.writeIn now directory (fileName s.id) s.toValue.pretty = (.ok (), d')) :
    store.save d now s = ⟨.ok (), { store with scripts := store.scripts.insert s.id s }, d'⟩ := by
  simp only [save, place, written]

theorem save_of_unwritten {cause : DiskFault} (place : store.directory = some directory)
    (unwritten : d.writeIn now directory (fileName s.id) s.toValue.pretty = (.error cause, d')) :
    store.save d now s = ⟨.error ⟨joinPath directory (fileName s.id), cause⟩, store, d'⟩ := by
  simp only [save, place, unwritten]

theorem save_cases (store : ScriptStore) (d : Disk) (now : Int) (s : Script) :
    (∃ e, store.save d now s =
      ⟨.ok (), { store with scripts := store.scripts.insert s.id s }, e⟩) ∨
    ∃ fault e, store.save d now s = ⟨.error fault, store, e⟩ := by
  obtain place | ⟨directory, place⟩ := Option.eq_none_or_eq_some store.directory
  · exact .inl ⟨d, save_of_memory place d now s⟩
  · rcases written : d.writeIn now directory (fileName s.id) s.toValue.pretty with ⟨_ | _, e⟩
    · exact .inr ⟨_, e, save_of_unwritten place written⟩
    · exact .inl ⟨e, save_of_written place written⟩

theorem save_scripts (saved : store.save d now s = ⟨.ok (), store', d'⟩) :
    store' = { store with scripts := store.scripts.insert s.id s } := by
  rcases save_cases store d now s with ⟨e, h⟩ | ⟨fault, e, h⟩ <;> rw [h] at saved <;> cases saved
  rfl

theorem save_error_store {fault : StoreFault}
    (failed : store.save d now s = ⟨.error fault, store', d'⟩) : store' = store := by
  rcases save_cases store d now s with ⟨e, h⟩ | ⟨fault, e, h⟩ <;> rw [h] at failed <;> cases failed
  rfl

theorem save_of_accepts (place : store.directory = some directory) (h : d.Reaches directory p)
    (short : ¬ FileName.longest < (fileName s.id).utf8ByteSize)
    (accepts : d.Accepts (p ++ [fileOf s.id])) (now : Int) :
    store.save d now s =
      ⟨.ok (), { store with scripts := store.scripts.insert s.id s }, withScript d p now s⟩ := by
  refine save_of_written place ?_
  rw [h.writeIn, if_neg short]
  exact Disk.writeAt_of_accepts accepts

theorem save_of_cutOff {n : Nat} {cause : DiskFault} (place : store.directory = some directory)
    (cut : d.CutOff directory (fileName s.id) p n cause)
    (writable : (d.fileAt (p ++ [fileOf s.id])).writable = true) (now : Int) :
    store.save d now s = ⟨.error ⟨joinPath directory (fileName s.id), cause⟩, store,
      d.fill now (p ++ [fileOf s.id]) (.beginning n s.toValue.pretty)⟩ := by
  refine save_of_unwritten place ?_
  have free := cut.free
  have outage := cut.outage
  simp only [fileOf] at writable
  simp [Disk.writeIn, Disk.writeAt, cut.there, cut.short, free, outage, writable, fileOf]

theorem save_disk (place : store.directory = some directory) (h : d.Reaches directory p)
    (saved : store.save d now s = ⟨.ok (), store', d'⟩) :
    d.Accepts (p ++ [fileOf s.id]) ∧ d' = withScript d p now s ∧ d'.Reaches directory p := by
  have written : d.writeIn now directory (fileName s.id) s.toValue.pretty = (.ok (), d') := by
    rcases written : d.writeIn now directory (fileName s.id) s.toValue.pretty with ⟨_ | _, e⟩
    · rw [save_of_unwritten place written] at saved
      cases saved
    · rw [save_of_written place written] at saved
      cases saved
      rfl
  rw [h.writeIn] at written
  split at written
  · cases written
  · obtain ⟨accepts, rfl⟩ := Disk.accepts_of_writeAt written
    exact ⟨accepts, rfl,
      h.mono (Disk.keepsDirectories_put fun there => absurd there accepts.free)⟩

end

def drawer : Disk := .steady [([.text "drawer"], .directory)] []

theorem drawer_reaches : drawer.Reaches "drawer" [.text "drawer"] where
  nonempty := by decide
  noZero := by decide
  leads := .down (by decide) (by decide) rfl (.here _)
  there := rfl

theorem openAt_drawer : openAt drawer "drawer" = (.ok ⟨some "drawer", {}⟩, drawer) := rfl

theorem drawer_node? (name : FileName) : drawer.node? ([.text "drawer"] ++ [name]) = none := by
  simp [drawer, Disk.steady, Disk.node?, Disk.find]

theorem drawer_accepts (name : FileName) : drawer.Accepts ([.text "drawer"] ++ [name]) :=
  .of_none (drawer_node? name) rfl

theorem drawer_readable (name : FileName) : drawer.Readable ([.text "drawer"] ++ [name]) :=
  Disk.readable_of_none (drawer_node? name)

theorem scriptIn?_drawer (name : FileName) : scriptIn? drawer [.text "drawer"] name = none := by
  rw [scriptIn?, drawer_node?]
  rfl

end Barrage.ScriptStore
