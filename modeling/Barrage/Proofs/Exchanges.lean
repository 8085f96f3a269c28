import Barrage.Proofs.ResultFiles
import Barrage.Proofs.RunOrders
import Barrage.Proofs.Sessions

/-! What one request makes of a workspace.
Some requests are answered at once; an order to run is answered when its run is over. A script is
added exactly by an order to create one that is answered with it, a result exactly by an order to
run that is answered with it, and nothing else changes the stores. -/

namespace Barrage.Web
open Json

/-- A request and what it was answered with, if anything. -/
structure Exchange where
  request : Request
  answer : Option Answer

namespace Exchange

/-- An order to an endpoint that was carried out. -/
def succeeded (e : Endpoint) (x : Exchange) : Bool :=
  x.request.method == "POST" && Endpoint.ofPath? x.request.path == some e &&
    x.answer.any fun a => a.response.status == 200

def Shows (v : Value) (x : Exchange) : Prop := x.answer = some ⟨.document v, true⟩

/-- What an exchange makes of a workspace without a disk. -/
inductive Effect (w : Workspace) (x : Exchange) : Workspace → Prop
  | created {s : Script} (order : x.succeeded .scripts = true) (shown : x.Shows s.toValue)
      (single : s.steps.length = 1) (new : w.scripts.find? s.id = none) :
      Effect w x
        { w with scripts := { w.scripts with scripts := w.scripts.scripts.insert s.id s } }
  | ran {result : RunResult} (order : x.succeeded .run = true) (shown : x.Shows result.toValue) :
      Effect w x { w with results := { w.results with results := w.results.results ++ [result] } }
  | nothing (created : x.succeeded .scripts = false) (ran : x.succeeded .run = false) :
      Effect w x w

theorem succeeded_elsewhere {e f : Endpoint} {x : Exchange} (h : x.succeeded e = true)
    (apart : e ≠ f) : x.succeeded f = false := by
  simp only [succeeded, Bool.and_eq_true, beq_iff_eq] at h
  simp [succeeded, h.1.2, apart]

namespace Effect
variable {w : Workspace} {r : Request} {answer : Option Answer}

theorem of_method (h : r.method ≠ "POST") : Effect w ⟨r, answer⟩ w :=
  .nothing (by simp [succeeded, h]) (by simp [succeeded, h])

theorem of_status {response : Response} {hasBody : Bool} (h : response.status ≠ 200) :
    Effect w ⟨r, some ⟨response, hasBody⟩⟩ w :=
  .nothing (by simp [succeeded, h]) (by simp [succeeded, h])

theorem of_no_answer : Effect w ⟨r, none⟩ w := .nothing (by simp [succeeded]) (by simp [succeeded])

theorem eq_of_failed {w w' : Workspace} {x : Exchange} (effect : Effect w x w')
    (failed : x.request.method ≠ "POST" ∨ ∀ a, x.answer = some a → a.response.status ≠ 200) :
    w' = w := by
  have never (e : Endpoint) : x.succeeded e = false := by
    refine Bool.eq_false_iff.2 fun order => ?_
    simp only [succeeded, Bool.and_eq_true, beq_iff_eq, Option.any_eq_true] at order
    obtain ⟨⟨posted, -⟩, a, answered, status⟩ := order
    exact failed.elim (fun other => other posted) fun refused => refused a answered status
  cases effect with
  | created order => simp [never] at order
  | ran order => simp [never] at order
  | nothing => rfl

end Effect
end Exchange

open Exchange

theorem toRun?_eq_some_iff {w : Workspace} {r : Request} {s : Script} {p : Plan} :
    toRun? w r = some (s, p) ↔ OrdersRun r p ∧ w.runnable p = .ok s := by
  rw [toRun?]
  constructor
  · intro h
    by_cases other : Endpoint.ofPath? r.path ≠ some .run ∨ r.method ≠ "POST"
    · rw [if_pos other] at h
      cases h
    rw [if_neg other] at h
    obtain ⟨path, method⟩ : Endpoint.ofPath? r.path = some .run ∧ r.method = "POST" := by
      simpa using other
    cases read : readBody Plan.record.read r with
    | error refusal => simp [read, Except.toOption] at h
    | ok q =>
      cases runnable : w.runnable q with
      | error fault => simp [read, runnable, Except.toOption] at h
      | ok t =>
        obtain ⟨rfl, rfl⟩ : t = s ∧ q = p := by simpa [read, runnable, Except.toOption] using h
        exact ⟨⟨path, method, read⟩, runnable⟩
  · rintro ⟨order, runnable⟩
    simp [order.path, order.method, order.body, runnable, Except.toOption]

theorem readBody_error_status {α : Type} {read : Reader α} {r : Request} {refusal : Response}
    (h : readBody read r = .error refusal) : refusal.status ≠ 200 := by
  rw [readBody] at h
  split at h
  · cases h
    simp
  split at h
  · cases h
    simp
  split at h
  · cases h
  · split at h <;> cases h <;> simp

theorem refuse_status (f : WorkspaceFault) : (refuse f).status ≠ 200 := by
  cases f <;> simp [refuse]

theorem effect_createScript {w w' : Workspace} {m : Moment} {r : Request} {response : Response}
    (memory : w.scripts.directory = none) (fresh : w.scripts.find? m.freshId = none)
    (path : Endpoint.ofPath? r.path = some .scripts) (method : r.method = "POST")
    (done : createScript w m r = (response, w')) : Effect w ⟨r, some ⟨response, true⟩⟩ w' := by
  rw [createScript] at done
  split at done
  · next refusal refused =>
    cases done
    exact .of_status (readBody_error_status refused)
  next url read =>
    split at done
    · next s w'' made =>
      cases done
      obtain ⟨accepted, scripts, disk, saved, rfl⟩ := Workspace.createScript_eq_ok_iff.1 made
      obtain ⟨-, single⟩ := Script.ofUrl_eq_ok_iff.1 accepted
      rw [ScriptStore.save_of_memory memory] at saved
      cases saved
      have order : succeeded .scripts ⟨r, some ⟨.document s.toValue, true⟩⟩ = true := by
        simp [succeeded, path, method]
      exact .created order rfl (by rw [single]; rfl) (by rw [single, fresh])
    · next fault w'' failed =>
      cases done
      have same : w' = w := by
        obtain ⟨-, -, -, same⟩ | ⟨s, f, scripts, disk, -, saved, -⟩ :=
          Workspace.createScript_eq_error_iff.1 failed
        · exact same
        · -- without a disk no save fails
          rw [ScriptStore.save_of_memory memory] at saved
          cases saved
      rw [same]
      exact .of_status (refuse_status fault)

theorem effect_refusedRun {w : Workspace} {m : Moment} {r : Request}
    (path : Endpoint.ofPath? r.path = some .run) (method : r.method = "POST")
    (idle : toRun? w r = none) :
    Effect w ⟨r, (runTest w m r).1.map (⟨·, true⟩)⟩ (runTest w m r).2 := by
  rw [runTest]
  split
  · next refusal refused =>
    exact .of_status (readBody_error_status refused)
  · next p read =>
    have refused : ∃ fault, w.runnable p = .error fault := by
      cases runnable : w.runnable p with
      | error fault => exact ⟨fault, rfl⟩
      | ok s =>
        rw [toRun?_eq_some_iff.2 ⟨⟨path, method, read⟩, runnable⟩] at idle
        cases idle
    obtain ⟨fault, refused⟩ := refused
    rw [Workspace.runTest, refused]
    exact .of_status (by simp)

theorem effect_receive {w w' : Workspace} {m : Moment} {r : Request} {answer : Option Answer}
    (memory : w.scripts.directory = none) (fresh : w.scripts.find? m.freshId = none)
    (done : receive w m r = (.inl answer, w')) : Effect w ⟨r, answer⟩ w' := by
  rw [receive] at done
  split at done
  · cases done
  next idle =>
    cases handled : handle w m r with
    | mk answer' w'' =>
      rw [handled] at done
      cases done
      rw [handle] at handled
      split at handled
      · next options =>
        cases handled
        exact .of_method (by simp [options])
      split at handled
      · cases handled
        exact .of_status (by simp)
      next endpoint path =>
        split at handled
        · cases handled
          exact .of_status (by simp)
        next allowed =>
          split at handled
          · next method =>
            cases handled
            exact effect_createScript memory fresh path method rfl
          · next method =>
            have method : r.method = "POST" := by simpa [Endpoint.methods] using allowed
            cases handled
            exact effect_refusedRun path method idle
          · next e _ _ notRun notCreate =>
            cases handled
            have method : r.method ≠ "POST" := by
              rintro order
              cases e <;> simp_all [Endpoint.methods]
            exact .of_method method

theorem job_of_receive {w w' : Workspace} {m : Moment} {r : Request} {s : Script} {p : Plan}
    (begun : receive w m r = (.inr (s, p), w')) : w' = w ∧ OrdersRun r p := by
  rw [receive] at begun
  split at begun
  · next job found =>
    cases begun
    exact ⟨rfl, (toRun?_eq_some_iff.1 found).1⟩
  · cases begun

theorem effect_conclude {w : Workspace} {r : Request} {p : Plan}
    (memory : w.results.directory = none) (order : OrdersRun r p) (now : Int)
    (result : Option RunResult) :
    Effect w ⟨r, (conclude w now result).1⟩ (conclude w now result).2 := by
  cases result with
  | none => exact .of_no_answer
  | some result =>
    have kept : w.keepResult now result =
        { w with results := { w.results with results := w.results.results ++ [result] } } := by
      rw [Workspace.keepResult, ResultStore.save_of_memory memory]
    have ended : conclude w now (some result) =
        (some ⟨.document result.toValue, true⟩, w.keepResult now result) := rfl
    rw [ended, kept]
    exact .ran (by simp [succeeded, order.path, order.method]) rfl

/-- A request that makes the server run something is answered in the end as if nothing else had
happened meanwhile. -/
theorem handle_eq_conclude {w w' : Workspace} {m : Moment} {r : Request} {s : Script} {p : Plan}
    (begun : receive w m r = (.inr (s, p), w')) :
    handle w m r = conclude w m.now (m.engine.run m.startedAt s p) := by
  rw [receive] at begun
  split at begun
  · next job found =>
    cases begun
    obtain ⟨order, runnable⟩ := toRun?_eq_some_iff.1 found
    rw [handle_of_ordersRun order, Workspace.runTest, runnable]
    rfl
  · cases begun

theorem receive_of_get (w : Workspace) (m : Moment) {r : Request} {e : Endpoint}
    (method : r.method = "GET") (path : Endpoint.ofPath? r.path = some e) (shows : e ≠ .run) :
    receive w m r = (.inl (some ⟨look w r e, true⟩), w) := by
  have idle : toRun? w r = none := by
    rw [toRun?, if_pos (.inl (by simpa [path] using shows))]
    rfl
  have handled : handle w m r = (some ⟨look w r e, true⟩, w) := by
    rw [handle, method, path]
    cases e with
    | run => exact absurd rfl shows
    | _ => rfl
  rw [receive, idle, handled]

end Barrage.Web
