import Barrage.Proofs.ResultFiles

/-! The history and the histories of scripts.
A store without a disk remembers every result, and lists those that started together as they were
saved. Whatever a store lists, the history of a script is the part of it that belongs to the script,
in the same order, so the histories of all scripts together are the whole. -/

namespace Barrage.ResultStore
variable {store : ResultStore} {d : Disk} {found : List RunResult}

theorem findAll_eq_ok_iff : store.findAll d = .ok found ↔
    store.directory = none ∧ found = newestFirst store.results ∨
    ∃ directory p names, store.directory = some directory ∧ d.list directory = .ok (p, names) ∧
      found = newestFirst (names.filterMap (resultIn? d p)) := by
  cases place : store.directory with
  | none => simp [findAll, place, eq_comm]
  | some directory =>
    cases files : d.list directory with
    | error cause => simp [findAll, place, files, StoreFault.of, Except.mapError, bind, Except.bind]
    | ok pair =>
      obtain ⟨p, names⟩ := pair
      simp [findAll, place, files, StoreFault.of, Except.mapError, bind, Except.bind, eq_comm]

theorem findAll_ordered (listed : store.findAll d = .ok found) : NewestFirst found := by
  obtain ⟨-, rfl⟩ | ⟨directory, p, names, -, -, rfl⟩ := findAll_eq_ok_iff.1 listed
  · exact newestFirst_ordered _
  · exact newestFirst_ordered _

theorem exists_findAll_iff : (∃ found, store.findAll d = .ok found) ↔
    ∀ directory, store.directory = some directory →
      ∃ p names, d.list directory = .ok (p, names) := by
  simp only [findAll_eq_ok_iff]
  cases place : store.directory with
  | none => simp
  | some directory =>
    simp only [reduceCtorEq, false_and, false_or, Option.some.injEq, forall_eq']
    constructor
    · rintro ⟨found, there, p, names, rfl, files, -⟩
      exact ⟨p, names, files⟩
    · rintro ⟨p, names, files⟩
      exact ⟨_, directory, p, names, rfl, files, rfl⟩

theorem findByScript_of_findAll (listed : store.findAll d = .ok found) (id : String) :
    store.findByScript d id = .ok (found.filter (·.scriptId = id)) := by
  rw [findByScript, listed]
  rfl

/-- After any saves, a store without a disk lists all results and no others, the newest first, and
those with the same start in the order of their saves. Any store that can list its history at all
lists it from the newest on; the history of each script is what belongs to it there, and the
histories of all scripts put together have every entry as often as the whole. -/
theorem histories_part_the_whole :
    (∀ (d : Disk) (saves : List (Int × RunResult)), ∃ (store : ResultStore) (found : List RunResult),
      memory.saveAll d saves = ⟨.ok (), store, d⟩ ∧ store.findAll d = .ok found ∧
      found.Perm (saves.map Prod.snd) ∧ NewestFirst found ∧
      ∀ t, found.filter (·.startedAt = t) = (saves.map Prod.snd).filter (·.startedAt = t)) ∧
    ∀ (store : ResultStore) (d : Disk),
      ((∃ found, store.findAll d = .ok found) ↔ ∀ directory, store.directory = some directory →
        ∃ p names, d.list directory = .ok (p, names)) ∧
      (∀ fault, store.findAll d = .error fault → ∀ id, store.findByScript d id = .error fault) ∧
      ∀ found, store.findAll d = .ok found → NewestFirst found ∧
        ∃ part : String → List RunResult, (∀ id, store.findByScript d id = .ok (part id)) ∧
          (∀ id, part id = found.filter (·.scriptId = id)) ∧
          ∀ ids : List String, ids.Nodup → (∀ r ∈ found, r.scriptId ∈ ids) →
            (ids.flatMap part).Perm found := by
  refine ⟨fun d saves => ?_, fun store d => ⟨exists_findAll_iff, ?_, fun found listed => ?_⟩⟩
  · exact ⟨_, _, saveAll_memory [] d saves, rfl, newestFirst_perm _, newestFirst_ordered _,
      newestFirst_ties _⟩
  · intro fault failed id
    rw [findByScript, failed]
    rfl
  · refine ⟨findAll_ordered listed, _, findByScript_of_findAll listed, fun id => rfl, ?_⟩
    intro ids distinct covered
    have parts := flatMap_filter_perm found distinct
    rwa [List.filter_eq_self.2 fun r member => decide_eq_true (covered r member)] at parts

/-- Of three results of two scripts, two started together. -/
theorem histories_part_the_whole_tied :
    let first : RunResult := ⟨"1", "a", 1, 1, 0, 2, 2, 2, 2, .zero, 1, ⟨1777636800, 0⟩, {}⟩
    let tied : RunResult := { first with testId := "2", scriptId := "b" }
    let last : RunResult := { first with testId := "3", startedAt := ⟨1777636801, 0⟩ }
    let d : Disk := .steady [] []
    ∃ (store : ResultStore) (found : List RunResult) (part : String → List RunResult),
      memory.saveAll d [(0, first), (1, tied), (2, last)] = ⟨.ok (), store, d⟩ ∧
      store.findAll d = .ok found ∧
      found.filter (·.startedAt = first.startedAt) = [first, tied] ∧
      (∀ id, store.findByScript d id = .ok (part id)) ∧
      (part "a" ++ part "b").Perm found := by
  intro first tied last d
  obtain ⟨store, found, saved, listed, perm, -, ties⟩ :=
    histories_part_the_whole.1 d [(0, first), (1, tied), (2, last)]
  obtain ⟨-, part, histories, -, whole⟩ := (histories_part_the_whole.2 store d).2.2 _ listed
  have parts := whole ["a", "b"] (by decide) fun r member => by
    have saved := perm.mem_iff.1 member
    simp only [List.map_cons, List.map_nil, List.mem_cons, List.not_mem_nil, or_false] at saved
    rcases saved with rfl | rfl | rfl <;> decide
  refine ⟨store, found, part, saved, listed, (ties _).trans (by decide), histories, ?_⟩
  simpa using parts

end Barrage.ResultStore
