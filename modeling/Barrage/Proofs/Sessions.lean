import Barrage.FreshId
import Barrage.Proofs.ScriptFiles
import Barrage.Workspace

/-! Scripts that were created stay.
A session opens a directory of scripts with whatever is in it, creates scripts for URLs under fresh
identifiers, and is restarted at any moment. An order to create a script may be refused, and may be
cut short while its file is written. A script that was answered is in the store from then on, and in
its own file, which nothing else is ever written to. -/

namespace Barrage
open ScriptStore

def Generated (id : String) : Prop :=
  ∃ bytes : List UInt8, bytes.length = 16 ∧ id = FreshId.ofBytes bytes

theorem hexDigit_isAlphanum : ∀ n < 16, (Text.hexDigit false n).isAlphanum = true := by decide

theorem mem_hexText {bytes : List UInt8} {c : Char} (h : c ∈ FreshId.hexText bytes) :
    c.isAlphanum = true := by
  obtain ⟨b, -, digit⟩ := List.mem_flatMap.1 h
  have high : b.toNat / 16 < 16 := Nat.div_lt_of_lt_mul b.toNat_lt
  have low : b.toNat % 16 < 16 := Nat.mod_lt _ (by decide)
  simp only [List.mem_cons, List.not_mem_nil, or_false] at digit
  rcases digit with rfl | rfl
  · exact hexDigit_isAlphanum _ high
  · exact hexDigit_isAlphanum _ low

theorem mem_ofBytes {bytes : List UInt8} {c : Char} (h : c ∈ (FreshId.ofBytes bytes).toList) :
    c.isAlphanum = true ∨ c = '-' := by
  have digit {start length : Nat}
      (part : c ∈ ((FreshId.hexText (FreshId.marked bytes)).drop start).take length) :
      c.isAlphanum = true := mem_hexText (List.mem_of_mem_drop (List.mem_of_mem_take part))
  simp only [FreshId.ofBytes, String.toList_ofList, List.mem_append, List.mem_cons] at h
  rcases h with (((h | rfl | h) | rfl | h) | rfl | h) | rfl | h <;>
    first | exact .inl (digit h) | exact .inr rfl

theorem Generated.fileStem {id : String} (h : Generated id) : fileStem id = id.toList := by
  obtain ⟨bytes, -, rfl⟩ := h
  refine (List.map_congr_left fun c part => ?_).trans (List.map_id _)
  rcases mem_ofBytes part with letter | rfl
  · simp [letter]
  · rfl

theorem Generated.ne_empty {id : String} (h : Generated id) : id ≠ "" := by
  obtain ⟨bytes, -, rfl⟩ := h
  refine fun none => absurd (congrArg String.toList none) ?_
  simp [FreshId.ofBytes]

theorem Generated.fileOf_inj {id other : String} (h : Generated id) (g : Generated other) :
    fileOf id = fileOf other ↔ id = other := by
  refine ⟨fun same => ?_, congrArg fileOf⟩
  have names := congrArg String.toList (FileName.text.inj same)
  simp only [fileName, String.toList_ofList, h.fileStem, g.fileStem] at names
  exact String.toList_inj.1 (List.append_cancel_right names)

theorem Script.ofUrl_eq_ok_iff {id text : String} {s : Script} :
    Script.ofUrl id text = .ok s ↔
      (∃ u, hostedUrl (Text.trim text) = .ok u) ∧ s = ⟨id, [Step.get (Text.trim text)]⟩ := by
  rw [Script.ofUrl]
  cases hostedUrl (Text.trim text) <;> simp [eq_comm]

namespace Workspace
variable {w w' : Workspace} {now : Int} {id url : String} {s : Script} {scripts : ScriptStore}
  {disk : Disk}

theorem createScript_of_refused {refusal : UrlRefusal}
    (refused : Script.ofUrl id url = .error refusal) :
    w.createScript now id url = (.error (.url refusal), w) := by
  simp only [createScript, refused]

theorem createScript_of_saved (made : Script.ofUrl id url = .ok s)
    (saved : w.scripts.save w.disk now s = ⟨.ok (), scripts, disk⟩) :
    w.createScript now id url = (.ok s, { w with scripts, disk }) := by
  simp only [createScript, made, saved]

theorem createScript_of_unsaved {f : StoreFault} (made : Script.ofUrl id url = .ok s)
    (failed : w.scripts.save w.disk now s = ⟨.error f, scripts, disk⟩) :
    w.createScript now id url = (.error (.store f), { w with scripts, disk }) := by
  simp only [createScript, made, failed]

theorem createScript_eq_ok_iff :
    w.createScript now id url = (.ok s, w') ↔ Script.ofUrl id url = .ok s ∧
      ∃ scripts disk, w.scripts.save w.disk now s = ⟨.ok (), scripts, disk⟩ ∧
        w' = { w with scripts, disk } := by
  constructor
  · intro done
    cases made : Script.ofUrl id url with
    | error refusal =>
      rw [createScript_of_refused made] at done
      cases done
    | ok r =>
      rcases saved : w.scripts.save w.disk now r with ⟨_ | _, scripts, disk⟩
      · rw [createScript_of_unsaved made saved] at done
        cases done
      · rw [createScript_of_saved made saved] at done
        cases done
        exact ⟨rfl, scripts, disk, saved, rfl⟩
  · rintro ⟨made, scripts, disk, saved, rfl⟩
    exact createScript_of_saved made saved

theorem createScript_eq_error_iff {fault : WorkspaceFault} :
    w.createScript now id url = (.error fault, w') ↔
      (∃ refusal, Script.ofUrl id url = .error refusal ∧ fault = .url refusal ∧ w' = w) ∨
      ∃ s f scripts disk, Script.ofUrl id url = .ok s ∧
        w.scripts.save w.disk now s = ⟨.error f, scripts, disk⟩ ∧ fault = .store f ∧
        w' = { w with scripts, disk } := by
  constructor
  · intro failed
    cases made : Script.ofUrl id url with
    | error refusal =>
      rw [createScript_of_refused made] at failed
      cases failed
      exact .inl ⟨refusal, rfl, rfl, rfl⟩
    | ok r =>
      rcases saved : w.scripts.save w.disk now r with ⟨f | _, scripts, disk⟩
      · rw [createScript_of_unsaved made saved] at failed
        cases failed
        exact .inr ⟨r, f, scripts, disk, rfl, saved, rfl, rfl⟩
      · rw [createScript_of_saved made saved] at failed
        cases failed
  · rintro (⟨refusal, refused, rfl, rfl⟩ | ⟨s, f, scripts, disk, made, failed, rfl, rfl⟩)
    · exact createScript_of_refused refused
    · exact createScript_of_unsaved made failed

end Workspace

structure Session where
  workspace : Workspace
  /-- The identifiers that were generated. -/
  ids : List String
  /-- The scripts that were answered. -/
  answered : List Script

namespace Session

/-- An identifier that was not there before: neither in the directory, of which `first` is what it
held when it was opened first, nor among those generated since. What its file gets can be read. -/
structure Fresh (directory : String) (first : ScriptStore) (t : Session) (id : String) : Prop where
  generated : Generated id
  unused : id ∉ t.ids
  foreign : first.find? id = none
  readable : ∀ p, t.workspace.disk.directory directory = .ok p →
    t.workspace.disk.Readable (p ++ [fileOf id])

inductive Step (directory : String) (first : ScriptStore) : Session → Session → Prop
  /-- A script was created and answered. -/
  | created {t : Session} {now : Int} {id url : String} {s : Script} {w : Workspace}
      (fresh : Fresh directory first t id)
      (done : t.workspace.createScript now id url = (.ok s, w)) :
      Step directory first t ⟨w, id :: t.ids, s :: t.answered⟩
  /-- The URL was refused, or the save before anything was written. -/
  | refused {t : Session} {now : Int} {id url : String} {fault : WorkspaceFault}
      (fresh : Fresh directory first t id)
      (failed : t.workspace.createScript now id url = (.error fault, t.workspace)) :
      Step directory first t ⟨t.workspace, id :: t.ids, t.answered⟩
  /-- The save failed while the file was written, which now holds anything but another's script. -/
  | cutShort {t : Session} {id : String} {p : Path} {names : List FileName} {f : File}
      (fresh : Fresh directory first t id)
      (listed : t.workspace.disk.list directory = .ok (p, names))
      (free : t.workspace.disk.node? (p ++ [fileOf id]) ≠ some .directory)
      (rest : ∀ s, scriptIn? (t.workspace.disk.put (p ++ [fileOf id]) (.file f)) p (fileOf id) =
        some s → s.id = id) :
      Step directory first t
        ⟨{ t.workspace with disk := t.workspace.disk.put (p ++ [fileOf id]) (.file f) },
          id :: t.ids, t.answered⟩
  /-- The directory was opened again and listed in any order. -/
  | restarted {t : Session} {p : Path} {names order : List FileName} {results : ResultStore}
      (listed : t.workspace.disk.list directory = .ok (p, names)) (any : order.Perm names) :
      Step directory first t
        ⟨⟨⟨some directory, load t.workspace.disk p order⟩, results, t.workspace.disk⟩,
          t.ids, t.answered⟩

/-- Sessions on a directory that was opened at some time, whatever was in it. -/
inductive Reachable (directory : String) (first : ScriptStore) : Session → Prop
  | opened {d e : Disk} {results : ResultStore} (h : openAt d directory = (.ok first, e)) :
      Reachable directory first ⟨⟨first, results, e⟩, [], []⟩
  | step {t u : Session} (h : Reachable directory first t) (s : Step directory first t u) :
      Reachable directory first u

/-- What holds all the time: the answered scripts are in the store and in their files, and whatever
else is in the directory has an identifier of its own. -/
structure Safe (directory : String) (first : ScriptStore) (p : Path) (t : Session) : Prop where
  place : t.workspace.scripts.directory = some directory
  reaches : t.workspace.disk.Reaches directory p
  generated : ∀ id ∈ t.ids, Generated id ∧ first.find? id = none
  issued : ∀ s ∈ t.answered, s.id ∈ t.ids
  /-- Every file holds a script of the first opening's identifiers or of a generated one. -/
  known : ∀ name s, scriptIn? t.workspace.disk p name = some s →
    (first.find? s.id).isSome ∨ s.id ∈ t.ids
  filed : ∀ s ∈ t.answered, scriptIn? t.workspace.disk p (fileOf s.id) = some s
  alone : ∀ s ∈ t.answered, ∀ name u, scriptIn? t.workspace.disk p name = some u →
    u.id = s.id → u = s
  own : ∀ id s, t.workspace.scripts.find? id = some s → s.id = id
  kept : ∀ s ∈ t.answered, t.workspace.scripts.find? s.id = some s

section
variable {directory : String} {first : ScriptStore} {p : Path} {t u : Session} {id : String}

theorem safe_opened {d e : Disk} {results : ResultStore}
    (h : openAt d directory = (.ok first, e)) :
    ∃ p, Safe directory first p ⟨⟨first, results, e⟩, [], []⟩ := by
  obtain ⟨p, reaches, rfl⟩ := reaches_of_openAt h
  refine ⟨p, rfl, reaches, by simp, by simp, fun name s found => .inl ?_, by simp, by simp, ?_,
    by simp⟩
  · exact isSome_get?_load (mem_children_of_scriptIn? found) found
  · exact fun id s found => (exists_of_get?_load found).1

theorem Safe.unheld (h : Safe directory first p t) (fresh : Fresh directory first t id)
    {name : FileName} {s : Script} (found : scriptIn? t.workspace.disk p name = some s) :
    s.id ≠ id := by
  rintro rfl
  rcases h.known name s found with old | new
  · simp [fresh.foreign] at old
  · exact fresh.unused new

theorem Safe.apart (h : Safe directory first p t) (fresh : Fresh directory first t id) {s : Script}
    (answered : s ∈ t.answered) : fileOf s.id ≠ fileOf id := by
  have issued := h.issued s answered
  rw [Ne, (h.generated _ issued).1.fileOf_inj fresh.generated]
  exact fun same => fresh.unused (same ▸ issued)

theorem Safe.put (h : Safe directory first p t) (fresh : Fresh directory first t id) {f : File}
    (free : t.workspace.disk.node? (p ++ [fileOf id]) ≠ some .directory)
    (rest : ∀ s, scriptIn? (t.workspace.disk.put (p ++ [fileOf id]) (.file f)) p (fileOf id) =
      some s → s.id = id) :
    Safe directory first p
      ⟨{ t.workspace with disk := t.workspace.disk.put (p ++ [fileOf id]) (.file f) },
        id :: t.ids, t.answered⟩ where
  place := h.place
  reaches := h.reaches.mono (Disk.keepsDirectories_put fun there => absurd there free)
  generated := by
    intro other mem
    rcases List.mem_cons.1 mem with rfl | mem
    · exact ⟨fresh.generated, fresh.foreign⟩
    · exact h.generated other mem
  issued s answered := List.mem_cons_of_mem _ (h.issued s answered)
  known := by
    intro name s found
    by_cases same : name = fileOf id
    · exact .inr (by simp [rest s (same ▸ found)])
    · rw [scriptIn?_put_ne _ _ same] at found
      exact (h.known name s found).imp_right (List.mem_cons_of_mem _)
  filed := by
    intro s answered
    rw [scriptIn?_put_ne _ _ (h.apart fresh answered)]
    exact h.filed s answered
  alone := by
    intro s answered name u found same
    by_cases here : name = fileOf id
    · -- the file holds the fresh identifier or nothing, and `s` was issued before
      have issued := h.issued s answered
      rw [← same, rest u (here ▸ found)] at issued
      exact absurd issued fresh.unused
    · rw [scriptIn?_put_ne _ _ here] at found
      exact h.alone s answered name u found same
  own := h.own
  kept := h.kept

theorem Safe.answer (h : Safe directory first p t) {s : Script} (new : s.id ∈ t.ids)
    (unanswered : ∀ r ∈ t.answered, r.id ≠ s.id)
    (filed : scriptIn? t.workspace.disk p (fileOf s.id) = some s)
    (alone : ∀ name u, scriptIn? t.workspace.disk p name = some u → u.id = s.id → u = s) :
    Safe directory first p
      ⟨{ t.workspace with
          scripts := { t.workspace.scripts with
            scripts := t.workspace.scripts.scripts.insert s.id s } },
        t.ids, s :: t.answered⟩ where
  place := h.place
  reaches := h.reaches
  generated := h.generated
  issued := List.forall_mem_cons.2 ⟨new, h.issued⟩
  known := h.known
  filed := List.forall_mem_cons.2 ⟨filed, h.filed⟩
  alone := List.forall_mem_cons.2 ⟨alone, h.alone⟩
  own := Own.insert h.own s
  kept := by
    refine List.forall_mem_cons.2 ⟨Dict.get?_insert_self .., fun r answered => ?_⟩
    rw [find?, Dict.get?_insert_ne _ _ (unanswered r answered).symm]
    exact h.kept r answered

theorem Safe.created (h : Safe directory first p t) (fresh : Fresh directory first t id) {now : Int}
    {url : String} {s : Script} {w : Workspace}
    (done : t.workspace.createScript now id url = (.ok s, w)) :
    Safe directory first p ⟨w, id :: t.ids, s :: t.answered⟩ := by
  obtain ⟨made, scripts, disk, saved, rfl⟩ := Workspace.createScript_eq_ok_iff.1 done
  obtain rfl : s.id = id := by rw [(Script.ofUrl_eq_ok_iff.1 made).2]
  obtain rfl := save_scripts saved
  obtain ⟨accepts, rfl, -⟩ := save_disk h.place h.reaches saved
  have filed := scriptIn?_withScript_self t.workspace.disk p now s
  rw [if_pos ⟨fresh.generated.ne_empty, fresh.readable p h.reaches.directory⟩] at filed
  -- first the file, then the answer
  have held := h.put fresh accepts.free fun r found => by
    rw [← Option.some.inj (filed.symm.trans found)]
  refine held.answer (s := s) (by simp) (fun r answered same => ?_) filed ?_
  · exact fresh.unused (same ▸ h.issued r answered)
  · intro name r found same
    by_cases here : name = fileOf s.id
    · exact Option.some.inj ((here ▸ found).symm.trans filed)
    · have old := scriptIn?_put_ne t.workspace.disk p here _ ▸ found
      exact absurd same (h.unheld fresh old)

theorem Step.safe (step : Step directory first t u) (h : Safe directory first p t) :
    Safe directory first p u := by
  cases step with
  | created fresh done => exact h.created fresh done
  | refused fresh failed =>
    exact {
      h with
      generated := List.forall_mem_cons.2 ⟨⟨fresh.generated, fresh.foreign⟩, h.generated⟩
      issued := fun s answered => List.mem_cons_of_mem _ (h.issued s answered)
      known := fun name s found => (h.known name s found).imp_right (List.mem_cons_of_mem _) }
  | cutShort fresh listed free rest =>
    rw [h.reaches.list] at listed
    cases listed
    exact h.put fresh free rest
  | restarted listed any =>
    rw [h.reaches.list] at listed
    cases listed
    exact {
      h with
      place := rfl
      own := fun id s found => (exists_of_get?_load found).1
      kept := fun s answered => get?_load_of_only
        (any.mem_iff.2 (mem_children_of_scriptIn? (h.filed s answered))) (h.filed s answered)
        (h.alone s answered) }

theorem Reachable.safe (h : Reachable directory first t) : ∃ p, Safe directory first p t := by
  induction h with
  | opened h => exact safe_opened h
  | step _ step ih =>
    obtain ⟨p, safe⟩ := ih
    exact ⟨p, step.safe safe⟩

end
end Session

open Session

end Barrage
