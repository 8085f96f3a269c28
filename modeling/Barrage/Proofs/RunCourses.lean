import Barrage.Proofs.ResultFiles
import Barrage.Proofs.RunOrders

/-! Orders to run a plan from their beginning to their end.
An order is refused before any request is made, or its users make their moves until all of them have
ended and the result is kept. The end of every such course is what the workspace computes, and
whatever the workspace computes from a run is the end of a course. -/

namespace Barrage
open Workspace

/-- The step whose reply a user waits for. -/
def Place.asked : Place → List Step
  | .waiting step _ => [step]
  | .deciding | .counting | .left | .crashed _ _ => []

/-- The steps for which a move makes a request: that of a user who waits for a reply from then
on. -/
def Run.called (after : Run) : Move → List Step
  | .look u | .reply u _ => (after.users[u]?.map fun user => user.place.asked).getD []
  | .expire | .crash _ | .count _ => []

def Run.begun (r : Run) : Nat := (r.users.map User.begun).sum

inductive Phase where
  | asked
  | running (s : Script) (r : Run)
  | settled (e : RunEnd)

structure Progress where
  workspace : Workspace
  /-- The steps handed to the network, in order. -/
  calls : List Step
  phase : Phase

namespace Progress

inductive Next (uptime : Nat) (p : Plan) : Progress → Progress → Prop
  | refuse {w : Workspace} {calls : List Step} {f : ScriptFault} (unfit : w.runnable p = .error f) :
      Next uptime p ⟨w, calls, .asked⟩ ⟨w, calls, .settled (.refused f)⟩
  | giveUp {w : Workspace} {calls : List Step} {s : Script} (fit : w.runnable p = .ok s)
      (beyond : ¬ uptime + p.seconds.toNat < Engine.clockEnd) :
      Next uptime p ⟨w, calls, .asked⟩ ⟨w, calls, .settled .beyondClock⟩
  | begin {w : Workspace} {calls : List Step} {s : Script} (fit : w.runnable p = .ok s)
      (within : uptime + p.seconds.toNat < Engine.clockEnd) :
      Next uptime p ⟨w, calls, .asked⟩ ⟨w, calls, .running s (.start p.users.toNat)⟩
  | move {w : Workspace} {calls : List Step} {s : Script} {r after : Run} (m : Move)
      (made : r.move? s.steps m = some after) :
      Next uptime p ⟨w, calls, .running s r⟩ ⟨w, calls ++ after.called m, .running s after⟩
  /-- All users have ended, and what they recorded is the result. -/
  | finish {w : Workspace} {calls : List Step} {s : Script} {r : Run}
      (ended : ∀ user ∈ r.users, user.ended) (elapsed : Duration) (startedAt : Instant)
      (now : Int) :
      Next uptime p ⟨w, calls, .running s r⟩
        ⟨w.keepResult now (.ofMetrics p r.metrics r.iterations elapsed startedAt), calls,
          .settled (.done (.ofMetrics p r.metrics r.iterations elapsed startedAt))⟩

inductive Reachable (uptime : Nat) (p : Plan) (w : Workspace) : Progress → Prop
  | asked : Reachable uptime p w ⟨w, [], .asked⟩
  | next {a b : Progress} (h : Reachable uptime p w a) (n : Next uptime p a b) :
      Reachable uptime p w b

/-- What an order has done so far: nothing before its run, requests during the run, and the result
after it. -/
inductive Sound (uptime : Nat) (p : Plan) (w : Workspace) : Progress → Prop
  | asked : Sound uptime p w ⟨w, [], .asked⟩
  | refused {f : ScriptFault} (unfit : w.runnable p = .error f) :
      Sound uptime p w ⟨w, [], .settled (.refused f)⟩
  | gaveUp {s : Script} (fit : w.runnable p = .ok s)
      (beyond : ¬ uptime + p.seconds.toNat < Engine.clockEnd) :
      Sound uptime p w ⟨w, [], .settled .beyondClock⟩
  | running {calls : List Step} {s : Script} {r : Run} (fit : w.runnable p = .ok s)
      (within : uptime + p.seconds.toNat < Engine.clockEnd)
      (reached : Run.Reachable s.steps p.users.toNat r) (logged : calls.length = r.begun) :
      Sound uptime p w ⟨w, calls, .running s r⟩
  | finished {calls : List Step} {s : Script} {r : Run} (fit : w.runnable p = .ok s)
      (within : uptime + p.seconds.toNat < Engine.clockEnd)
      (reached : Run.Reachable s.steps p.users.toNat r) (logged : calls.length = r.begun)
      (ended : ∀ user ∈ r.users, user.ended) (elapsed : Duration) (startedAt : Instant)
      (now : Int) :
      Sound uptime p w
        ⟨w.keepResult now (.ofMetrics p r.metrics r.iterations elapsed startedAt), calls,
          .settled (.done (.ofMetrics p r.metrics r.iterations elapsed startedAt))⟩

theorem begun_start (users : Nat) : (Run.start users).begun = 0 := by
  simp [Run.begun, Run.start, User.begun, User.initial]

theorem begun_performing (r : Run) {u : Nat} {user : User} (found : r.users[u]? = some user)
    (l sent : List Step) (recorded : user.begun = sent.length) (m : Move)
    (goes : m = .look u ∨ ∃ sample, m = .reply u sample) (after : Run)
    (users : after.users = r.users.set u ⟨.performing l, sent⟩) :
    after.begun = r.begun + (after.called m).length := by
  have moved := sum_map_set User.begun ⟨.performing l, sent⟩ found
  have bound : u < r.users.length := (List.getElem?_eq_some_iff.1 found).1
  have here : after.users[u]? = some ⟨.performing l, sent⟩ := by
    rw [users, List.getElem?_set_self bound]
  have called : after.called m = (Place.performing l).asked := by
    rcases goes with rfl | ⟨sample, rfl⟩ <;> simp [Run.called, here]
  rw [called, Run.begun, users, Run.begun]
  cases l <;> simp [Place.performing, Place.asked, User.begun] at moved recorded ⊢ <;> omega

theorem length_called {steps : List Step} {r after : Run} {m : Move}
    (made : r.move? steps m = some after) :
    after.begun = r.begun + (after.called m).length := by
  have moved := Run.move?_eq_some_iff.1 made
  cases moved with
  | expire => rfl
  | @look u sent found =>
    by_cases expired : r.expired = true
    · have bound : u < r.users.length := (List.getElem?_eq_some_iff.1 found).1
      have moved := sum_map_set User.begun ⟨.left, sent⟩ found
      simp [Run.called, Place.asked, Run.begun, User.begun, expired, bound] at moved ⊢
      omega
    · refine begun_performing r found steps sent rfl _ (.inl rfl) _ ?_
      simp [expired]
  | reply sample found =>
    refine begun_performing r found _ _ ?_ _ (.inr ⟨sample, rfl⟩) _ rfl
    simp [User.begun]
  | @crash u step rest sent found =>
    have moved := sum_map_set User.begun ⟨.crashed step rest, sent⟩ found
    simp [Run.called, Run.begun, User.begun] at moved ⊢
    omega
  | @count u sent found =>
    have moved := sum_map_set User.begun ⟨.deciding, sent⟩ found
    simp [Run.called, Run.begun, User.begun] at moved ⊢
    omega

section
variable {uptime : Nat} {p : Plan} {w : Workspace} {a b : Progress}

theorem Sound.next (h : Sound uptime p w a) (n : Next uptime p a b) : Sound uptime p w b := by
  cases n with
  | refuse unfit =>
    cases h
    exact .refused unfit
  | giveUp fit beyond =>
    cases h
    exact .gaveUp fit beyond
  | begin fit within =>
    cases h
    exact .running fit within .start (begun_start _).symm
  | move m made =>
    cases h with
    | running fit within reached logged =>
      refine .running fit within (.move m reached made) ?_
      rw [List.length_append, logged, length_called made]
  | finish ended elapsed startedAt now =>
    cases h with
    | running fit within reached logged =>
      exact .finished fit within reached logged ended elapsed startedAt now

theorem Reachable.sound (h : Reachable uptime p w a) : Sound uptime p w a := by
  induction h with
  | asked => exact .asked
  | next _ n ih => exact ih.next n

end
end Progress

namespace Workspace
variable {w : Workspace} {p : Plan}

/-- Why an order is refused: there is no such script, or it is found unfit. -/
def Refuses (w : Workspace) (p : Plan) (f : ScriptFault) : Prop :=
  (w.scripts.find? p.scriptId = none ∧ f = .scriptNotFound p.scriptId) ∨
    ∃ s, w.scripts.find? p.scriptId = some s ∧ s.check = .error f

theorem runnable_eq_error_iff {f : ScriptFault} : w.runnable p = .error f ↔ w.Refuses p f :=
  checkFound_eq_error_iff

theorem runTest_of_refuses {f : ScriptFault} (h : w.Refuses p f) (e : Engine)
    (startedAt : Instant) (now : Int) : w.runTest e startedAt now p = (.refused f, w) := by
  rw [runTest, runnable_eq_error_iff.2 h]

theorem not_refuses {s : Script} (fit : w.runnable p = .ok s) (f : ScriptFault) :
    ¬ w.Refuses p f := by
  rw [← runnable_eq_error_iff, fit]
  exact fun h => nomatch h

theorem refuses_inj {f g : ScriptFault} (h : w.Refuses p f) (h' : w.Refuses p g) : f = g := by
  rw [← runnable_eq_error_iff] at h h'
  exact Except.error.inj (h.symm.trans h')

/-- What one save of a result makes of a workspace, by its outcome. -/
inductive Kept (w : Workspace) (now : Int) (r : RunResult) :
    Except StoreFault Unit → Workspace → Prop
  | remembered (memory : w.results.directory = none) :
      Kept w now r (.ok ())
        { w with results := { w.results with results := w.results.results ++ [r] } }
  | written {directory : String} {p : Path} (place : w.results.directory = some directory)
      (there : w.disk.directory directory = .ok p) :
      Kept w now r (.ok ())
        { w with disk := w.disk.fill now (p ++ [ResultStore.fileOf r]) (.text r.toValue.pretty) }
  | refused (fault : StoreFault) : Kept w now r (.error fault) w
  /-- The file of the result has the beginning of it, and nothing of what it held before. -/
  | cutOff {directory : String} {p : Path} {n : Nat} {fault : StoreFault}
      (place : w.results.directory = some directory)
      (cut : w.disk.CutOff directory (ResultStore.fileName r) p n fault.cause) :
      Kept w now r (.error fault)
        { w with
          disk := w.disk.fill now (p ++ [ResultStore.fileOf r]) (.beginning n r.toValue.pretty) }

namespace Kept
variable {now : Int} {r : RunResult} {after : Workspace} {outcome : Except StoreFault Unit}

theorem failed {fault : StoreFault} (h : w.Kept now r (.error fault) after) :
    after.results = w.results ∧
    (after = w ∨ ∃ directory here n, w.results.directory = some directory ∧
      w.disk.CutOff directory (ResultStore.fileName r) here n fault.cause ∧
      ∀ q, q ≠ here ++ [ResultStore.fileOf r] → after.disk.node? q = w.disk.node? q) := by
  cases h with
  | refused => exact ⟨rfl, .inl rfl⟩
  | cutOff place cut =>
    exact ⟨rfl, .inr ⟨_, _, _, place, cut, fun q other => Disk.node?_fill_ne other⟩⟩

end Kept
end Workspace

namespace Progress
variable {uptime : Nat} {p : Plan} {w : Workspace} {t : Progress}

theorem Sound.refusal (h : Sound uptime p w t) {f : ScriptFault} (refuses : w.Refuses p f) :
    t.workspace = w ∧ t.calls = [] ∧ (t.phase = .asked ∨ t.phase = .settled (.refused f)) := by
  cases h with
  | asked => exact ⟨rfl, rfl, .inl rfl⟩
  | refused unfit =>
    rw [refuses_inj refuses (runnable_eq_error_iff.1 unfit)]
    exact ⟨rfl, rfl, .inr rfl⟩
  | gaveUp fit | running fit | finished fit => exact absurd refuses (not_refuses fit f)

theorem Sound.refuses (h : Sound uptime p w t) {f : ScriptFault}
    (settled : t.phase = .settled (.refused f)) : w.Refuses p f := by
  cases h with
  | refused unfit =>
    cases settled
    exact runnable_eq_error_iff.1 unfit
  | asked | gaveUp | running | finished => cases settled

theorem Sound.result (h : Sound uptime p w t) {result : RunResult}
    (settled : t.phase = .settled (.done result)) :
    ∃ s r elapsed startedAt, w.runnable p = .ok s ∧ Run.Reachable s.steps p.users.toNat r ∧
      (∀ user ∈ r.users, user.ended) ∧ t.calls.length = r.begun ∧
      result = .ofMetrics p r.metrics r.iterations elapsed startedAt := by
  cases h with
  | finished fit within reached logged ended elapsed startedAt now =>
    cases settled
    exact ⟨_, _, elapsed, startedAt, fit, reached, ended, logged, rfl⟩
  | asked | refused | gaveUp | running => cases settled

/-- The end of a course, computed: the engine goes through the same run. -/
theorem Sound.computed (h : Sound uptime p w t) {e : RunEnd} (settled : t.phase = .settled e) :
    ∃ (engine : Engine) (startedAt : Instant) (now : Int),
      engine.uptime = uptime ∧ w.runTest engine startedAt now p = (e, t.workspace) := by
  cases h with
  | asked | running => cases settled
  | refused unfit =>
    cases settled
    refine ⟨⟨uptime, fun _ _ _ => .start 0, ⟨0, 0⟩⟩, ⟨0, 0⟩, 0, rfl, ?_⟩
    exact runTest_of_refuses (runnable_eq_error_iff.1 unfit) ..
  | gaveUp fit beyond =>
    cases settled
    let engine : Engine := ⟨uptime, fun _ _ _ => .start 0, ⟨0, 0⟩⟩
    have silent : ¬ engine.Reaches p := beyond
    refine ⟨engine, ⟨0, 0⟩, 0, rfl, ?_⟩
    rw [runTest_of_run fit, Engine.run_of_not_reaches silent]
    rfl
  | @finished calls s r fit within reached logged ended elapsed startedAt now =>
    cases settled
    refine ⟨⟨uptime, fun _ _ _ => r, elapsed⟩, startedAt, now, rfl, ?_⟩
    rw [runTest_of_run fit, Engine.run, Engine.play, if_pos within]
    rfl

end Progress

end Barrage
