import Barrage.Proofs.Confinement
import Barrage.Proofs.Exchanges

/-! Scripts created for URLs.
An order to create a script is carried out as a whole or not at all. The URL is taken without the
blanks around it, which is how the check looks at it too; and since the empty text is no URL, what
is left is not blank, so that a script that was created is fit to run. It is added to the store
under its identifier. A URL that is refused leaves the workspace as it was, and a save that fails
leaves the store as it was, whatever it has done to the one file it was writing. -/

namespace Barrage

theorem hostedUrl_empty : hostedUrl "" = .error .noBase := by rfl

theorem ne_empty_of_hostedUrl {text : String} {u : Url} (accepted : hostedUrl text = .ok u) :
    text ≠ "" := by
  rintro rfl
  rw [hostedUrl_empty] at accepted
  cases accepted

theorem Step.isComplete_get_trim {text : String} (left : Text.trim text ≠ "") :
    (Step.get (Text.trim text)).isComplete = true := by
  have url : Text.isBlankText (Text.trim text) = false := by
    rw [← Text.isEmpty_trim, Text.trim_trim, ← Bool.not_eq_true, String.isEmpty_iff]
    exact left
  have method : Text.isBlankText "GET" = false := by decide
  exact Step.isComplete_iff.2 ⟨url, method⟩

theorem Script.ofUrl_eq_error_iff {id text : String} {r : UrlRefusal} :
    Script.ofUrl id text = .error r ↔
      ∃ cause, hostedUrl (Text.trim text) = .error cause ∧ r = ⟨text, cause⟩ := by
  rw [Script.ofUrl]
  cases hostedUrl (Text.trim text) <;> simp [eq_comm]

theorem Script.check_of_ofUrl {id text : String} {s : Script}
    (made : Script.ofUrl id text = .ok s) : s.check = .ok () := by
  obtain ⟨⟨u, accepted⟩, rfl⟩ := Script.ofUrl_eq_ok_iff.1 made
  have complete := Step.isComplete_get_trim (ne_empty_of_hostedUrl accepted)
  exact Script.check_eq_ok_iff.2 ⟨by simp, by simpa using complete⟩

namespace Workspace
variable {w w' : Workspace} {now : Int} {id url : String} {s : Script}

/-- A script is not created exactly if its URL is refused or its save fails. Then there is what the
save left. -/
theorem createScript_error_iff {fault : WorkspaceFault} :
    w.createScript now id url = (.error fault, w') ↔
      (∃ cause, hostedUrl (Text.trim url) = .error cause ∧ fault = .url ⟨url, cause⟩ ∧ w' = w) ∨
      ∃ u f scripts disk, hostedUrl (Text.trim url) = .ok u ∧
        w.scripts.save w.disk now ⟨id, [Step.get (Text.trim url)]⟩ = ⟨.error f, scripts, disk⟩ ∧
        fault = .store f ∧ w' = { w with scripts, disk } := by
  rw [createScript_eq_error_iff]
  refine or_congr ⟨?_, ?_⟩ ⟨?_, ?_⟩
  · rintro ⟨refusal, refused, told, left⟩
    obtain ⟨cause, reason, shape⟩ := Script.ofUrl_eq_error_iff.1 refused
    rw [shape] at told
    exact ⟨cause, reason, told, left⟩
  · rintro ⟨cause, reason, told, left⟩
    exact ⟨_, Script.ofUrl_eq_error_iff.2 ⟨cause, reason, rfl⟩, told, left⟩
  · rintro ⟨s, f, scripts, disk, made, failed, told, left⟩
    obtain ⟨⟨u, accepted⟩, single⟩ := Script.ofUrl_eq_ok_iff.1 made
    rw [single] at failed
    exact ⟨u, f, scripts, disk, accepted, failed, told, left⟩
  · rintro ⟨u, f, scripts, disk, accepted, failed, told, left⟩
    exact ⟨_, f, scripts, disk, Script.ofUrl_eq_ok_iff.2 ⟨⟨u, accepted⟩, rfl⟩, failed, told, left⟩

/-- An order to create a script that fails leaves all that can be looked up, and on the disk all but
the file of the fresh identifier. -/
theorem unchanged_of_createScript_error {fault : WorkspaceFault}
    (failed : w.createScript now id url = (.error fault, w')) :
    w'.scripts = w.scripts ∧ w'.results = w.results ∧
    ∀ q, w'.disk.node? q ≠ w.disk.node? q → ∃ directory p,
      w.scripts.directory = some directory ∧ w.disk.directory directory = .ok p ∧
      q = p ++ [ScriptStore.fileOf id] := by
  obtain ⟨-, -, -, same⟩ | ⟨s, f, scripts, disk, made, failed, -, left⟩ :=
    createScript_eq_error_iff.1 failed
  · rw [same]
    exact ⟨rfl, rfl, fun q changed => absurd rfl changed⟩
  · obtain ⟨-, single⟩ := Script.ofUrl_eq_ok_iff.1 made
    have named : s.id = id := by rw [single]
    rw [left]
    refine ⟨ScriptStore.save_error_store failed, rfl, fun q changed => ?_⟩
    have saved := w.scripts.savedAs w.disk now s
    rw [failed] at saved
    obtain same | ⟨directory, p, file, place, there, -, -, filed⟩ := saved.disk
    · exact absurd (congrArg (Disk.node? · q) same) changed
    · refine ⟨directory, p, place, there, ?_⟩
      by_contra other
      refine changed ?_
      rw [← named] at other
      dsimp only at filed
      rw [filed]
      exact Disk.node?_put_ne _ other _

theorem runTest_ne_refused {p : Plan} (found : w.scripts.find? p.scriptId = some s)
    (accepted : s.check = .ok ()) (e : Engine) (startedAt : Instant) (fault : ScriptFault) :
    (w.runTest e startedAt now p).1 ≠ .refused fault := by
  rw [runTest_of_check found accepted]
  cases e.run startedAt s p <;> simp [finishRun]

end Workspace

namespace Web

structure OrdersScript (r : Request) (url : String) : Prop where
  path : Endpoint.ofPath? r.path = some .scripts
  method : r.method = "POST"
  body : readBody createRecord.read r = .ok url

theorem handle_of_ordersScript {w : Workspace} {m : Moment} {r : Request} {url : String}
    (h : OrdersScript r url) :
    handle w m r =
      match w.createScript m.now m.freshId url with
      | (.ok s, w') => (some ⟨.document s.toValue, true⟩, w')
      | (.error fault, w') => (some ⟨refuse fault, true⟩, w') := by
  simp only [handle, h.path, h.method, Endpoint.methods, createScript, h.body]
  rcases w.createScript m.now m.freshId url with ⟨_ | _, w'⟩ <;> rfl

end Web

/-- If a script is created for a text, it has one step, which asks for that text without the blanks
around it, it is fit to run, and an order to run it is never refused; the store has it under its
fresh identifier besides all that it had. Otherwise the text is no URL with a host, or the save
failed, and then all lookups give what they gave; a save that was cut off leaves a part of one file,
that of the fresh identifier. The server shows the script in the first case, and tells why there is
none in the second. -/
theorem creations_whole_or_nothing {w : Workspace} {id : String}
    (fresh : w.scripts.find? id = none) (now : Int) (url : String) :
    (∀ s w', w.createScript now id url = (.ok s, w') →
      s = ⟨id, [⟨.http, "GET", Text.trim url, {}, none⟩]⟩ ∧ s.check = .ok () ∧
      (∀ other, w'.scripts.find? other = if id = other then some s else w.scripts.find? other) ∧
      w'.scripts.findAll.Perm (s :: w.scripts.findAll) ∧
      w'.scripts.directory = w.scripts.directory ∧ w'.results = w.results ∧
      ∀ p : Plan, p.scriptId = id → ∀ (e : Engine) (startedAt : Instant) (later : Int),
        w'.runTest e startedAt later p = w'.finishRun later (e.run startedAt s p) ∧
        ∀ fault, (w'.runTest e startedAt later p).1 ≠ .refused fault) ∧
    (∀ fault w', w.createScript now id url = (.error fault, w') →
      (∀ other, w'.scripts.find? other = w.scripts.find? other) ∧
      w'.scripts.findAll = w.scripts.findAll ∧ w'.scripts.directory = w.scripts.directory ∧
      w'.results = w.results ∧
      ∀ q, w'.disk.node? q ≠ w.disk.node? q → ∃ directory p,
        w.scripts.directory = some directory ∧ w.disk.directory directory = .ok p ∧
        q = p ++ [ScriptStore.fileOf id]) ∧
    (∀ fault w', w.createScript now id url = (.error fault, w') ↔
      (∃ cause, hostedUrl (Text.trim url) = .error cause ∧ fault = .url ⟨url, cause⟩ ∧ w' = w) ∨
      ∃ u f scripts disk, hostedUrl (Text.trim url) = .ok u ∧
        w.scripts.save w.disk now ⟨id, [Step.get (Text.trim url)]⟩ = ⟨.error f, scripts, disk⟩ ∧
        fault = .store f ∧ w' = { w with scripts, disk }) ∧
    ∀ (m : Web.Moment) (r : Web.Request), m.now = now → m.freshId = id → Web.OrdersScript r url →
      (∀ s w', w.createScript now id url = (.ok s, w') →
        Web.handle w m r = (some ⟨.document s.toValue, true⟩, w')) ∧
      ∀ fault w', w.createScript now id url = (.error fault, w') →
        Web.handle w m r = (some ⟨Web.refuse fault, true⟩, w') := by
  refine ⟨fun s w' done => ?_, fun fault w' failed => ?_,
    fun fault w' => Workspace.createScript_error_iff, ?_⟩
  · obtain ⟨made, scripts, disk, saved, after⟩ := Workspace.createScript_eq_ok_iff.1 done
    obtain ⟨-, single⟩ := Script.ofUrl_eq_ok_iff.1 made
    have accepted := Script.check_of_ofUrl made
    obtain rfl : s.id = id := by rw [single]
    obtain rfl := ScriptStore.save_scripts saved
    have lookups (other : String) :
        w'.scripts.find? other = if s.id = other then some s else w.scripts.find? other := by
      rw [after]
      exact Dict.get?_insert _ _ _ _
    have listed : w'.scripts.findAll.Perm (s :: w.scripts.findAll) := by
      rw [after]
      exact Dict.values_insert_perm fresh s
    refine ⟨single, accepted, lookups, listed, by rw [after], by rw [after],
      fun p named e startedAt later => ?_⟩
    have found : w'.scripts.find? p.scriptId = some s := by rw [lookups, named, if_pos rfl]
    exact ⟨Workspace.runTest_of_check found accepted e startedAt later,
      Workspace.runTest_ne_refused found accepted e startedAt⟩
  · obtain ⟨scripts, results, disk⟩ := Workspace.unchanged_of_createScript_error failed
    rw [scripts]
    exact ⟨fun _ => rfl, rfl, rfl, results, disk⟩
  · rintro m r rfl rfl order
    rw [Web.handle_of_ordersScript order]
    exact ⟨fun s w' done => by rw [done], fun fault w' failed => by rw [failed]⟩

/-- A script is created for a URL between blanks, and the server shows it. A text without a host is
refused, and so is a URL where the disk is full when the save has begun; the file that this leaves
is no script to anyone. -/
theorem creations_whole_or_nothing_blanks :
    let old : Script := ⟨"s", [Step.get "http://h/"]⟩
    let w : Workspace := ⟨⟨none, .ofList [("s", old)]⟩, .memory, .steady [] []⟩
    let full : DiskFault := .other "No space left on device (os error 28)"
    let drawer : Disk := ⟨[([.text "d"], .directory)], [], fun _ => some (.cutOff 8 full)⟩
    let crowded : Workspace := ⟨⟨some "d", .ofList [("s", old)]⟩, .memory, drawer⟩
    let m : Web.Moment := ⟨Engine.scripted 0 (fun _ _ => none) 0, ⟨0, 0⟩, 0, "t"⟩
    let order : Web.Request := ⟨"POST", "/scripts".toList, [], some "application/json",
      Symbol.ofText "\x7b\"url\": \" x://h \"\x7d"⟩
    let new : Script := ⟨"t", [Step.get "x://h"]⟩
    let failed : WorkspaceFault := .store ⟨"d/t.json", full⟩
    (∃ w', w.createScript 0 "t" " x://h " = (.ok new, w') ∧ new.check = .ok () ∧
      w'.scripts.find? "t" = some new ∧ w'.scripts.find? "s" = some old ∧
      Web.handle w m order = (some ⟨.document new.toValue, true⟩, w')) ∧
    w.createScript 0 "t" "x:h" = (.error (.url ⟨"x:h", .noHost⟩), w) ∧
    ∃ w', crowded.createScript 0 "t" " x://h " = (.error failed, w') ∧
      w'.scripts.find? "t" = none ∧ w'.scripts.find? "s" = some old ∧
      w'.disk.node? [.text "d", .text "t.json"] =
        some (.file ⟨.text "\x7b\n  \"id\"", some 0, true, true, true⟩) ∧
      Web.handle crowded m order = (some ⟨Web.refuse failed, true⟩, w') := by
  intro old w full drawer crowded m order new failed
  have orders : Web.OrdersScript order " x://h " := by
    have path : Web.Endpoint.ofPath? "/scripts".toList = some .scripts := by decide
    exact ⟨path, rfl, rfl⟩
  have made : Script.ofUrl "t" " x://h " = .ok new := by rfl
  obtain ⟨⟨u, url⟩, -⟩ := Script.ofUrl_eq_ok_iff.1 made
  have fresh : w.scripts.find? "t" = none := by rfl
  have alsoFresh : crowded.scripts.find? "t" = none := by rfl
  have inMemory := creations_whole_or_nothing fresh 0
  have onDisk := creations_whole_or_nothing alsoFresh 0 " x://h "
  have done : w.createScript 0 "t" " x://h " = (.ok new, _) :=
    Workspace.createScript_of_saved made (ScriptStore.save_of_memory rfl _ _ _)
  -- the file that the full disk leaves
  have beginning : Content.beginning 8 new.toValue.pretty = .text "\x7b\n  \"id\"" := by
    decide +kernel
  have path : joinPath "d" (ScriptStore.fileName new.id) = "d/t.json" := by decide +kernel
  have name : ScriptStore.fileOf new.id = .text "t.json" := by decide +kernel
  have cut : drawer.CutOff "d" (ScriptStore.fileName new.id) [.text "d"] 8 full :=
    ⟨by rfl, by decide, by decide, rfl⟩
  have unsaved : crowded.scripts.save drawer 0 new = _ :=
    ScriptStore.save_of_cutOff rfl cut rfl 0
  rw [beginning, path, name] at unsaved
  have refused : crowded.createScript 0 "t" " x://h " = (.error failed, _) :=
    Workspace.createScript_of_unsaved made unsaved
  obtain ⟨-, accepted, lookups, -⟩ := (inMemory " x://h ").1 _ _ done
  obtain ⟨kept, -⟩ := onDisk.2.1 _ _ refused
  refine ⟨⟨_, done, accepted, lookups "t", lookups "s", ?_⟩, ?_,
    _, refused, kept "t", kept "s", by rfl, ?_⟩
  · exact ((inMemory " x://h ").2.2.2 m order rfl rfl orders).1 _ _ done
  · exact ((inMemory "x:h").2.2.1 _ _).2 (.inl ⟨_, rfl, rfl, rfl⟩)
  · exact (onDisk.2.2.2 m order rfl rfl orders).2 _ _ refused

end Barrage
