import Barrage.Proofs.ByteOrder
import Barrage.Proofs.ScriptFiles

/-! What a store of scripts keeps through opens and saves.
A script stands under its own identifier, so the list of all scripts has each identifier once, in
the order of the encoded bytes, and agrees with every lookup. A save changes one identifier; a save
or an open that fails changes none. -/

namespace Barrage

namespace ScriptStore

theorem Own.find?_eq_some_iff {store : ScriptStore} (h : store.Own) (id : String) (s : Script) :
    store.find? id = some s ↔ s ∈ store.findAll ∧ s.id = id := by
  constructor
  · intro found
    exact ⟨List.mem_map.2 ⟨_, (Dict.get?_eq_some_iff _).1 found, rfl⟩, h id s found⟩
  · rintro ⟨listed, rfl⟩
    obtain ⟨⟨k, v⟩, bound, rfl⟩ := List.mem_map.1 listed
    have found : store.find? k = some v := (Dict.get?_eq_some_iff _).2 bound
    rwa [h k v found]

theorem Own.ascending {store : ScriptStore} (h : store.Own) :
    (store.findAll.map fun s => s.id.toUTF8.toList).Pairwise (· < ·) := by
  have ids := Dict.ascending_values store.scripts Script.id h
  rw [List.pairwise_map] at ids ⊢
  exact ids.imp bytes_lt

/-- Stores as they come about: a new one without a disk, one that was opened, and these after
saves. -/
inductive Reachable : ScriptStore → Prop
  | memory : Reachable memory
  | opened {store : ScriptStore} {d d' : Disk} {directory : String}
      (h : openAt d directory = (.ok store, d')) : Reachable store
  | saved {store store' : ScriptStore} {d d' : Disk} {now : Int} {s : Script}
      (h : Reachable store) (saved : store.save d now s = ⟨.ok (), store', d'⟩) : Reachable store'

theorem Reachable.own {store : ScriptStore} (h : Reachable store) : store.Own := by
  induction h with
  | memory => exact fun id s found => nomatch found
  | opened h => exact own_of_openAt h
  | saved h saved ih =>
    rw [save_scripts saved]
    exact ih.insert _

theorem Reachable.find?_of_mem {store : ScriptStore} (h : Reachable store) {s : Script}
    (stored : s ∈ store.findAll) : store.find? s.id = some s :=
  (h.own.find?_eq_some_iff s.id s).2 ⟨stored, rfl⟩

theorem Reachable.insert {scripts : Dict Script} (h : Reachable ⟨none, scripts⟩) (s : Script) :
    Reachable ⟨none, scripts.insert s.id s⟩ :=
  @saved _ _ (.steady [] []) (.steady [] []) 0 s h rfl

/-- What a program does with the store that it holds. Between two operations the disk may become
anything, and it lists the files of a directory in any order. -/
inductive Operation where
  | forget
  | openAt (d : Disk) (directory : String)
  | save (d : Disk) (now : Int) (s : Script)

/-- The store after an operation. Where no other one was opened it is the one before. -/
def after (store : ScriptStore) : Operation → ScriptStore
  | .forget => memory
  | .openAt d directory =>
    match ScriptStore.openAt d directory with
    | (.ok opened, _) => opened
    | (.error _, _) => store
  | .save d now s => (store.save d now s).store

def afterAll (operations : List Operation) : ScriptStore := operations.foldl after memory

def Takes (store : ScriptStore) (d : Disk) (now : Int) (s : Script) : Prop :=
  (store.save d now s).outcome = .ok ()

section
variable {store : ScriptStore} {d : Disk} {now : Int} {s : Script}

theorem after_save_of_takes (h : store.Takes d now s) :
    store.after (.save d now s) = { store with scripts := store.scripts.insert s.id s } := by
  rcases save_cases store d now s with ⟨e, saved⟩ | ⟨fault, e, failed⟩
  · rw [after, saved]
  · rw [Takes, failed] at h
    cases h

theorem after_save_of_not_takes (h : ¬ store.Takes d now s) :
    store.after (.save d now s) = store := by
  rcases save_cases store d now s with ⟨e, saved⟩ | ⟨fault, e, failed⟩
  · rw [Takes, saved] at h
    exact absurd rfl h
  · rw [after, failed]

theorem takes_iff : store.Takes d now s ↔ ∀ directory, store.directory = some directory →
    (d.writeIn now directory (fileName s.id) s.toValue.pretty).1 = .ok () := by
  obtain place | ⟨directory, place⟩ := Option.eq_none_or_eq_some store.directory
  · simp [Takes, save_of_memory place, place]
  · rcases written : d.writeIn now directory (fileName s.id) s.toValue.pretty with ⟨_ | _, e⟩
    · simp [Takes, save_of_unwritten place written, place, written]
    · simp [Takes, save_of_written place written, place, written]

end

theorem Reachable.after {store : ScriptStore} (h : Reachable store) (o : Operation) :
    Reachable (store.after o) := by
  cases o with
  | forget => exact .memory
  | openAt d directory =>
    rw [ScriptStore.after]
    split
    · next done => exact .opened done
    · exact h
  | save d now s =>
    rcases save_cases store d now s with ⟨e, saved⟩ | ⟨fault, e, failed⟩
    · rw [ScriptStore.after, saved]
      exact .saved h saved
    · rw [ScriptStore.after, failed]
      exact h

theorem reachable_afterAll (operations : List Operation) : Reachable (afterAll operations) := by
  have general (store : ScriptStore) (h : Reachable store) :
      Reachable (operations.foldl after store) := by
    induction operations generalizing store with
    | nil => exact h
    | cons o rest ih => exact ih _ (h.after o)
  exact general memory .memory

/-- After any opens and saves, on whatever disks and with whatever failures: every script is found
under its own identifier and no other, the list of all is strictly ascending in the bytes of the
identifiers, a save puts its script under one identifier, and one that fails leaves the store as it
was. A save fails only for its file. -/
theorem scripts_listed_as_found (operations : List Operation) :
    let store := afterAll operations
    (store.findAll.map fun s => s.id.toUTF8.toList).Pairwise (· < ·) ∧
    (∀ id s, store.find? id = some s ↔ s ∈ store.findAll ∧ s.id = id) ∧
    ∀ d now s,
      let next := store.after (.save d now s)
      (store.Takes d now s → next.find? s.id = some s ∧
        ∀ id, id ≠ s.id → next.find? id = store.find? id) ∧
      (¬ store.Takes d now s → next.findAll = store.findAll ∧
        ∀ id, next.find? id = store.find? id) ∧
      (store.Takes d now s ↔ ∀ directory, store.directory = some directory →
        (d.writeIn now directory (fileName s.id) s.toValue.pretty).1 = .ok ()) := by
  intro store
  have own : store.Own := (reachable_afterAll operations).own
  refine ⟨own.ascending, own.find?_eq_some_iff, fun d now s => ?_⟩
  intro next
  refine ⟨fun takes => ?_, fun fails => ?_, takes_iff⟩
  · have inserted : next = _ := after_save_of_takes takes
    rw [inserted]
    exact ⟨Dict.get?_insert_self .., fun id other => Dict.get?_insert_ne _ _ (Ne.symm other)⟩
  · have same : next = store := after_save_of_not_takes fails
    rw [same]
    exact ⟨rfl, fun _ => rfl⟩

end ScriptStore
end Barrage
