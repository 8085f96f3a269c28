import Barrage.Proofs.Deadline
import Barrage.Proofs.FirstFaults
import Barrage.Proofs.ScriptDocuments
import Barrage.Web.Router

/-! What becomes of orders to run a plan.
A plan may ask for any number of users and seconds. The deadline is the time of the steady clock at
the start and those seconds together, and the clock has an end: within it the order gives a result,
which is kept and answered, and beyond it nothing at all. Once the deadline has passed every user
ends, whatever the network does, so that a run that has a deadline is over at some time. -/

namespace Barrage
open Json

theorem Script.nonempty_of_check {s : Script} (accepted : s.check = .ok ()) : s.steps ≠ [] :=
  (Script.check_eq_ok_iff.1 accepted).1

namespace Run
variable {steps : List Step} {t : Transport} {users : Nat}

theorem countdown_ending (steps : List Step) (t : Transport) :
    Countdown steps t true (fun _ => true) (fun _ => True) User.closing where
  keep _ _ _ _ _ := trivial
  fall u _ _ _ active := User.closing_step_lt steps t u active

theorem ended_of_turns (nonempty : steps ≠ []) (t : Transport) (before after : List Turn)
    (enough : ∀ u < users, steps.length + 2 ≤ after.count (.user u)) :
    ∀ final ∈ (((start users).turns steps t before).turns steps t (.deadline :: after)).users,
      final.ended := by
  intro final member
  obtain ⟨u, found⟩ := List.mem_iff_getElem?.1 member
  have bound : u < users := by
    have inside := (List.getElem?_eq_some_iff.1 found).1
    rwa [length_users_turns, length_users_turns, start, List.length_replicate] at inside
  rw [getElem?_turns_deadline] at found
  obtain ⟨user, huser, rfl⟩ := Option.map_eq_some_iff.1 found
  -- the user was in order when the deadline passed, so few of its moves were left
  have ordered := (reachable_turns steps t users before).consistent.ordered user
    (List.mem_of_getElem? huser)
  exact (ended_iterate (countdown_ending steps t) u trivial
    ((ordered.closing_le nonempty).trans (enough u bound))).1

end Run

namespace Engine

def Reaches (e : Engine) (p : Plan) : Prop := e.uptime + p.seconds.toNat < clockEnd

instance (e : Engine) (p : Plan) : Decidable (e.Reaches p) :=
  inferInstanceAs (Decidable (e.uptime + p.seconds.toNat < clockEnd))

theorem run_of_reaches {e : Engine} {p : Plan} (h : e.Reaches p) (startedAt : Instant)
    (s : Script) : ∃ result, e.run startedAt s p = some result ∧ result.scriptId = p.scriptId := by
  simp only [run, play, if_pos (show e.uptime + p.seconds.toNat < clockEnd from h)]
  exact ⟨_, rfl, rfl⟩

theorem run_of_not_reaches {e : Engine} {p : Plan} (h : ¬ e.Reaches p) (startedAt : Instant)
    (s : Script) : e.run startedAt s p = none := by
  simp only [run, play, if_neg (show ¬ e.uptime + p.seconds.toNat < clockEnd from h)]
  rfl

theorem not_reaches_of_long {p : Plan} (long : clockEnd ≤ p.seconds.toNat) (e : Engine) :
    ¬ e.Reaches p := by
  simp only [Reaches]
  omega

end Engine

namespace Workspace
variable {w : Workspace} {p : Plan}

theorem runnable_eq_ok_iff {s : Script} :
    w.runnable p = .ok s ↔ w.scripts.find? p.scriptId = some s ∧ s.check = .ok () :=
  checkFound_eq_ok_iff

theorem runTest_of_run {s : Script} (fit : w.runnable p = .ok s) (e : Engine)
    (startedAt : Instant) (now : Int) :
    w.runTest e startedAt now p = w.finishRun now (e.run startedAt s p) := by
  rw [runTest, fit]

theorem runTest_of_check {s : Script} (found : w.scripts.find? p.scriptId = some s)
    (accepted : s.check = .ok ()) (e : Engine) (startedAt : Instant) (now : Int) :
    w.runTest e startedAt now p = w.finishRun now (e.run startedAt s p) :=
  runTest_of_run (runnable_eq_ok_iff.2 ⟨found, accepted⟩) e startedAt now

end Workspace

namespace Web

structure OrdersRun (r : Request) (p : Plan) : Prop where
  path : Endpoint.ofPath? r.path = some .run
  method : r.method = "POST"
  body : readBody Plan.record.read r = .ok p

def runRequest (l : Layout) (p : Plan) : Request :=
  ⟨"POST", "/tests/run".toList, [], some "application/json", Symbol.ofText (p.toValue.text l)⟩

theorem body_runRequest (l : Layout) (p : Plan) :
    (runRequest l p).body = (p.toValue.write l 0).map .char := Symbol.ofText_ofList _

theorem ordersRun_runRequest {l : Layout} {p : Plan}
    (fits : Symbol.bytes (runRequest l p).body ≤ bodyLimit) : OrdersRun (runRequest l p) p where
  path := by
    have path : Endpoint.ofPath? "/tests/run".toList = some .run := by decide
    exact path
  method := rfl
  body := by
    have document : ((runRequest l p).contentType.map MediaType.isDocument).getD false = true := by
      rfl
    have read : readDocument Plan.record.read (runRequest l p).body = .ok p :=
      (p.reads_toValue l).text
    simp only [readBody, document, read, if_neg (Nat.not_lt.2 fits)]
    rfl

theorem handle_of_ordersRun {w : Workspace} {m : Moment} {r : Request} {p : Plan}
    (h : OrdersRun r p) :
    handle w m r =
      ((runResponse (w.runTest m.engine m.startedAt m.now p).1).map (⟨·, true⟩),
        (w.runTest m.engine m.startedAt m.now p).2) := by
  simp only [handle, h.path, h.method, Endpoint.methods, runTest, h.body]
  rfl

theorem runResponse_eq_none_iff {w : Workspace} {e : Engine} {startedAt : Instant} {now : Int}
    {p : Plan} :
    runResponse (w.runTest e startedAt now p).1 = none ↔
      ∃ s, w.runnable p = .ok s ∧ ¬ e.Reaches p := by
  rw [Workspace.runTest]
  cases w.runnable p with
  | error fault => simp [runResponse]
  | ok s =>
    by_cases within : e.Reaches p
    · obtain ⟨result, ran, -⟩ := Engine.run_of_reaches within startedAt s
      simp [ran, Workspace.finishRun, runResponse, within]
    · simp [Engine.run_of_not_reaches within, Workspace.finishRun, runResponse, within]

/-- An order to run a plan whose deadline is beyond the clock is the only request that breaks down. -/
theorem handle_eq_none_iff {w : Workspace} {m : Moment} {r : Request} :
    (handle w m r).1 = none ↔
      ∃ p s, OrdersRun r p ∧ w.runnable p = .ok s ∧ ¬ m.engine.Reaches p := by
  constructor
  · intro broken
    rw [handle] at broken
    split at broken
    · cases broken
    split at broken
    · cases broken
    next endpoint path =>
      split at broken
      · cases broken
      next allowed =>
        split at broken
        · cases broken
        · next method =>
          have method : r.method = "POST" := by simpa [Endpoint.methods] using allowed
          cases body : readBody Plan.record.read r with
          | error refusal => simp [runTest, body] at broken
          | ok p =>
            simp only [runTest, body, Option.map_eq_none_iff] at broken
            obtain ⟨s, runnable, beyond⟩ := runResponse_eq_none_iff.1 broken
            exact ⟨p, s, ⟨path, method, body⟩, runnable, beyond⟩
        · cases broken
  · rintro ⟨p, s, order, runnable, beyond⟩
    rw [handle_of_ordersRun order, runResponse_eq_none_iff.2 ⟨s, runnable, beyond⟩]
    rfl

end Web

/-- For a script that is fit to run, and a plan of any number of users and seconds: the order gives
a result in the engine, in the workspace and over the network if its deadline is within the clock,
and nothing, not even a change, if it is beyond. No clock reaches the longest durations. A deadline
once passed, every user ends. -/
theorem order_gives_result_within_clock {s : Script} (accepted : s.check = .ok ()) (p : Plan) :
    (∀ (m : Web.Moment) (w : Workspace) (r : Web.Request),
      w.scripts.find? p.scriptId = some s → Web.OrdersRun r p →
      (m.engine.Reaches p → ∃ result, result.scriptId = p.scriptId ∧
        m.engine.run m.startedAt s p = some result ∧
        w.runTest m.engine m.startedAt m.now p = (.done result, w.keepResult m.now result) ∧
        Web.handle w m r = (some ⟨.document result.toValue, true⟩, w.keepResult m.now result)) ∧
      (¬ m.engine.Reaches p →
        m.engine.run m.startedAt s p = none ∧
        w.runTest m.engine m.startedAt m.now p = (.beyondClock, w) ∧
        Web.handle w m r = (none, w))) ∧
    (∀ l : Layout, Symbol.bytes (Web.runRequest l p).body ≤ Web.bodyLimit →
      Web.OrdersRun (Web.runRequest l p) p) ∧
    (Engine.clockEnd ≤ p.seconds.toNat → ∀ e : Engine, ¬ e.Reaches p) ∧
    ∀ (t : Transport) (before after : List Turn),
      (∀ u < p.users.toNat, s.steps.length + 2 ≤ after.count (.user u)) →
      ∀ user ∈ (((Run.start p.users.toNat).turns s.steps t before).turns s.steps t
        (.deadline :: after)).users, user.ended := by
  refine ⟨fun m w r found order => ⟨fun within => ?_, fun beyond => ?_⟩,
    fun l fits => Web.ordersRun_runRequest fits, Engine.not_reaches_of_long,
    fun t before after => Run.ended_of_turns (Script.nonempty_of_check accepted) t before after⟩
  · obtain ⟨result, ran, named⟩ := Engine.run_of_reaches within m.startedAt s
    have done := w.runTest_of_check found accepted m.engine m.startedAt m.now
    rw [ran, Workspace.finishRun] at done
    refine ⟨result, named, ran, done, ?_⟩
    rw [Web.handle_of_ordersRun order, done]
    rfl
  · have ran := Engine.run_of_not_reaches beyond m.startedAt s
    have done := w.runTest_of_check found accepted m.engine m.startedAt m.now
    rw [ran, Workspace.finishRun] at done
    refine ⟨ran, done, ?_⟩
    rw [Web.handle_of_ordersRun order, done]
    rfl

/-- One user for a minute on a clock that has run for an hour, and the longest duration there is. -/
theorem order_gives_result_within_clock_minute :
    let s : Script := ⟨"s", [Step.get "http://h/"]⟩
    let e := Engine.scripted 3600 (fun _ _ => none) 0
    let w : Workspace := ⟨⟨none, .ofList [("s", s)]⟩, .memory, .steady [] []⟩
    let m : Web.Moment := ⟨e, ⟨0, 0⟩, 0, "new"⟩
    s.check = .ok () ∧
      (∃ result, result.scriptId = "s" ∧ w.runTest e ⟨0, 0⟩ 0 ⟨"s", .load, 1, 60⟩ =
        (.done result, w.keepResult 0 result)) ∧
      w.runTest e ⟨0, 0⟩ 0 ⟨"s", .load, 1, 18446744073709551615⟩ = (.beyondClock, w) ∧
      Web.handle w m (Web.runRequest .compact ⟨"s", .load, 1, 18446744073709551615⟩) =
        (none, w) := by
  intro s e w m
  have accepted : s.check = .ok () := by rfl
  have minute : Web.OrdersRun _ _ := Web.ordersRun_runRequest (l := .compact)
    (p := ⟨"s", .load, 1, 60⟩) (by rw [Web.body_runRequest]; decide)
  have longest : Web.OrdersRun _ _ := Web.ordersRun_runRequest (l := .compact)
    (p := ⟨"s", .load, 1, 18446744073709551615⟩) (by rw [Web.body_runRequest]; decide)
  obtain ⟨result, named, -, done, -⟩ :=
    ((order_gives_result_within_clock accepted _).1 m w _ rfl minute).1 (by decide)
  obtain ⟨-, beyond, silent⟩ :=
    ((order_gives_result_within_clock accepted _).1 m w _ rfl longest).2 (by decide)
  exact ⟨accepted, ⟨result, named, done⟩, beyond, silent⟩

theorem not_all_orders_give_results :
    ¬ ∀ (e : Engine) (startedAt : Instant) (s : Script) (p : Plan), s.check = .ok () →
      (e.run startedAt s p).isSome := by
  intro all
  have given := all (Engine.scripted 0 (fun _ _ => none) 0) ⟨0, 0⟩ ⟨"s", [Step.get "http://h/"]⟩
    ⟨"s", .load, 0, 18446744073709551615⟩ rfl
  rw [Engine.run_of_not_reaches (Engine.not_reaches_of_long (by decide) _)] at given
  cases given

end Barrage
