import Barrage.Load.Engine
import Barrage.Proofs.Endings

/-! Runs whose users are brought down by a request.
Each user gets the same replies in order, and the request after the last of them brings it down. All
replies stand in the counts, the request that has none does not, and of iterations those count that
were done as a whole. -/

namespace Barrage

namespace Delivery

def succeeds : Delivery → Bool
  | .ok status => status < 400
  | .error _ => false

def category? : Delivery → Option String
  | .ok status => if status < 400 then none else some "http"
  | .error f => some f.category

theorem isOk_outcome (d : Delivery) : (outcome d).isOk = d.succeeds := by
  cases d with
  | ok status =>
    by_cases low : status < 400 <;> simp [outcome, succeeds, low, Except.isOk, Except.toBool]
  | error f => rfl

theorem failsAs_outcome (d : Delivery) (c : String) :
    (outcome d).failsAs c = decide (d.category? = some c) := by
  rw [Bool.eq_iff_iff, decide_eq_true_iff]
  cases d with
  | ok status =>
    by_cases low : status < 400
    · simp [outcome, category?, low, Outcome.failsAs]
    · simp only [outcome, category?, low, if_false, Outcome.failsAs, decide_eq_true_iff,
        Option.some.injEq]
      exact Iff.rfl
  | error f => simp [outcome, category?, Outcome.failsAs]

end Delivery

/-- Each user gets the same deliveries in order, with latencies of its own, and then none. -/
def Transport.ofReplies (millis : Nat → Nat → UInt64) (replies : List Delivery) : Transport :=
  fun u k => replies[k]?.map fun d => ⟨millis u k, Delivery.outcome d⟩

section Replies
variable (millis : Nat → Nat → UInt64) (replies : List Delivery)

theorem Transport.map_outcome_samples (u n : Nat) :
    ((ofReplies millis replies).samples u n).map (·.outcome) =
      (replies.take n).map Delivery.outcome := by
  induction n with
  | zero => rfl
  | succ n ih =>
    rw [samples, List.range_succ, List.filterMap_append, ← samples, List.map_append, ih,
      List.take_add_one, List.map_append]
    cases found : replies[n]? <;> simp [ofReplies, found]

theorem Transport.countP_samples (u : Nat) (kind : Outcome → Bool) :
    ((ofReplies millis replies).samples u replies.length).countP (fun s => kind s.outcome) =
      replies.countP (fun d => kind (Delivery.outcome d)) := by
  have outcomes := map_outcome_samples millis replies u replies.length
  rw [List.take_length] at outcomes
  have same := congrArg (List.countP kind) outcomes
  rwa [List.countP_map, List.countP_map] at same

end Replies

namespace User

def Within (n : Nat) (user : User) : Prop :=
  user.sent.length ≤ n ∧ (user.isDown → user.sent.length = n)

variable {millis : Nat → Nat → UInt64} {replies : List Delivery}

theorem Within.step (steps : List Step) (expired : Bool) (u : Nat) {user : User}
    (h : user.Within replies.length) :
    (user.step steps (.ofReplies millis replies) expired u).Within replies.length := by
  obtain ⟨place, sent⟩ := user
  obtain ⟨room, full⟩ := h
  cases place with
  | deciding =>
    refine ⟨room, fun down => ?_⟩
    cases expired <;> cases steps <;> simp [User.step, Place.performing, isDown] at down
  | counting => exact ⟨room, by simp [User.step, isDown]⟩
  | left | crashed => exact ⟨room, full⟩
  | waiting step rest =>
    by_cases more : sent.length < replies.length
    · have answer : (Transport.ofReplies millis replies u sent.length).isSome := by
        simp [Transport.ofReplies, more]
      simp only [User.step, answer, if_true]
      refine ⟨?_, fun down => ?_⟩
      · rw [List.length_append, List.length_singleton]
        exact more
      · cases rest <;> simp [Place.performing, isDown] at down
    · have all : sent.length = replies.length := Nat.le_antisymm room (Nat.le_of_not_lt more)
      simp [User.step, Transport.ofReplies, all, Within]

/-- The moves that a user makes at most until it is down. -/
def remaining (n : Nat) (user : User) : Nat :=
  3 * (n - user.sent.length) + match user.place with
    | .deciding => 2
    | .waiting _ _ => 1
    | .counting => 3
    | .left | .crashed _ _ => 0

theorem countdown_remaining {steps : List Step} (nonempty : steps ≠ [])
    (millis : Nat → Nat → UInt64) (replies : List Delivery) :
    Countdown steps (.ofReplies millis replies) false (fun _ => true)
      (fun user => user.Within replies.length ∧ user.place ≠ .left)
      (remaining replies.length) where
  keep u user h _ active := by
    refine ⟨h.1.step steps false u, ?_⟩
    obtain ⟨place, sent⟩ := user
    cases place with
    | deciding => simp [User.step]
    | counting => simp [User.step]
    | left => simp at h
    | crashed step rest => simp [ended] at active
    | waiting step rest =>
      simp only [User.step]
      split <;> simp
  fall u user h _ active := by
    obtain ⟨place, sent⟩ := user
    obtain ⟨⟨room, -⟩, stays⟩ := h
    cases place with
    | deciding =>
      obtain ⟨step, rest, rfl⟩ := List.exists_cons_of_ne_nil nonempty
      simp [User.step, Place.performing, remaining]
    | counting => simp [User.step, remaining]
    | left => simp at stays
    | crashed step rest => simp [ended] at active
    | waiting step rest =>
      by_cases more : sent.length < replies.length
      · cases rest <;>
          simp [User.step, Transport.ofReplies, more, Place.performing, remaining] <;> omega
      · simp [User.step, Transport.ofReplies, more, remaining]

theorem ended_of_isDown {user : User} (down : user.isDown) : user.ended := by
  obtain ⟨place, sent⟩ := user
  cases place <;> simp [isDown] at down
  rfl

theorem isDown_of_ended {user : User} (done : user.ended) (stays : user.place ≠ .left) :
    user.isDown := by
  by_contra up
  exact stays (place_eq_left done (by simpa using up))

theorem Ordered.recorded_of_isDown {steps : List Step} {user : User} (h : user.Ordered steps)
    (down : user.isDown) :
    user.place.recorded steps = user.sent.length % steps.length := by
  obtain ⟨place, sent⟩ := user
  obtain ⟨k, done, hsent, hdone⟩ := h
  cases place with
  | deciding | waiting | counting | left => simp [isDown] at down
  | crashed step rest =>
    have parts := congrArg List.length hdone
    have size := congrArg List.length hsent
    simp only [List.length_append, Place.toDo, List.length_cons, List.length_flatten,
      List.map_replicate, List.sum_replicate_nat] at parts size
    have first : done.length < steps.length := by omega
    rw [size, Nat.mul_add_mod_self_right, Nat.mod_eq_of_lt first]
    simp only [Place.recorded, Place.toDo, List.length_cons]
    omega

end User

structure Run.Tallies (steps : List Step) (users : Nat) (replies : List Delivery) (r : Run) :
    Prop where
  total : r.metrics.total = users * replies.length
  iterations : r.iterations = users * (replies.length / steps.length)
  success : r.metrics.success = users * replies.countP Delivery.succeeds
  failure : r.metrics.failure = users * replies.countP (!Delivery.succeeds ·)
  categories : ∀ c, let n := users * replies.countP (Delivery.category? · = some c)
    r.metrics.categories.get? c = if n = 0 then none else some n

structure RunResult.Tallies (steps : List Step) (users : Nat) (replies : List Delivery)
    (result : RunResult) : Prop where
  totalRequests : result.totalRequests = UInt64.ofNat (users * replies.length)
  iterations : result.iterations = UInt64.ofNat (users * (replies.length / steps.length))
  success : result.success = UInt64.ofNat (users * replies.countP Delivery.succeeds)
  failure : result.failure = UInt64.ofNat (users * replies.countP (!Delivery.succeeds ·))
  errors : ∀ c, let n := users * replies.countP (Delivery.category? · = some c)
    result.errors.get? c = if n = 0 then none else some (UInt64.ofNat n)

namespace Run
variable {steps : List Step} {users : Nat} {millis : Nat → Nat → UInt64} {replies : List Delivery}

theorem Tallies.ofMetrics {r : Run} (h : r.Tallies steps users replies) (p : Plan)
    (elapsed : Duration) (startedAt : Instant) :
    (RunResult.ofMetrics p r.metrics r.iterations elapsed startedAt).Tallies steps users
      replies where
  totalRequests := congrArg UInt64.ofNat h.total
  iterations := congrArg UInt64.ofNat h.iterations
  success := congrArg UInt64.ofNat h.success
  failure := congrArg UInt64.ofNat h.failure
  errors c := by
    have count := h.categories c
    dsimp only [RunResult.ofMetrics] at count ⊢
    rw [Dict.get?_map, count]
    split <;> rfl

theorem Tallies.result {s : Script} {p : Plan} {r : Run}
    (h : r.Tallies s.steps p.users.toNat replies) (e : Engine) (startedAt : Instant)
    (course : e.course s.steps p.users.toNat p.seconds.toNat = r)
    (fits : e.uptime + p.seconds.toNat < Engine.clockEnd) :
    ∃ result, e.run startedAt s p = some result ∧
      result.Tallies s.steps p.users.toNat replies := by
  refine ⟨_, ?_, h.ofMetrics p e.elapsed startedAt⟩
  rw [Engine.run, Engine.play, if_pos fits, course, Option.map_some]

theorem ready_start (replies : List Delivery) (user : User) (member : user ∈ (start users).users) :
    (user.Within replies.length ∧ user.place ≠ .left) ∧
      user.remaining replies.length = 3 * replies.length + 2 := by
  rw [List.eq_of_mem_replicate member]
  exact ⟨⟨⟨Nat.zero_le _, by simp [User.initial, User.isDown]⟩, by simp [User.initial]⟩, rfl⟩

theorem within_turns (steps : List Step) (millis : Nat → Nat → UInt64) (replies : List Delivery)
    (users : Nat) (schedule : List Turn) :
    ∀ user ∈ ((start users).turns steps (.ofReplies millis replies) schedule).users,
      user.Within replies.length := by
  refine forall_users_turns (fun expired u _ h => h.step steps expired u) (fun user member => ?_) _
  exact (ready_start replies user member).1.1

theorem countP_log {r : Run} (size : r.users.length = users)
    (all : ∀ user ∈ r.users, user.sent.length = replies.length) {log : List (Nat × Sample)}
    (order : Interleaves log fun u => (Transport.ofReplies millis replies).samples u (r.sentBy u))
    (kind : Outcome → Bool) :
    (log.map (·.2)).countP (fun s => kind s.outcome) =
      users * replies.countP (fun d => kind (Delivery.outcome d)) := by
  have none (u : Nat) (outside : users ≤ u) :
      (Transport.ofReplies millis replies).samples u (r.sentBy u) = [] := by
    rw [sentBy, List.getElem?_eq_none (size ▸ outside)]
    rfl
  have own (u : Nat) (inside : u < users) : r.sentBy u = replies.length := by
    have found := List.getElem?_eq_getElem (l := r.users) (i := u) (size ▸ inside)
    rw [sentBy, found]
    exact all _ (List.mem_of_getElem? found)
  calc (log.map (·.2)).countP (fun s => kind s.outcome)
      = ∑ u ∈ Finset.range users, ((Transport.ofReplies millis replies).samples u
          (r.sentBy u)).countP (fun s => kind s.outcome) := order.countP none _
    _ = (Finset.range users).card * replies.countP (fun d => kind (Delivery.outcome d)) := by
        refine Finset.sum_const_nat fun u member => ?_
        rw [own u (Finset.mem_range.1 member), Transport.countP_samples]
    _ = users * replies.countP (fun d => kind (Delivery.outcome d)) := by
        rw [Finset.card_range]

theorem tallies_of_down (nonempty : steps ≠ []) (schedule : List Turn)
    (down : ∀ user ∈ ((start users).turns steps (.ofReplies millis replies) schedule).users,
      user.isDown) :
    ((start users).turns steps (.ofReplies millis replies) schedule).Tallies steps users
      replies := by
  have h := (reachable_turns steps (.ofReplies millis replies) users schedule).consistent
  have within := within_turns steps millis replies users schedule
  have logged := (logged_start (.ofReplies millis replies) users).turns steps schedule
  generalize (start users).turns steps (.ofReplies millis replies) schedule = r at *
  have all : ∀ user ∈ r.users, user.sent.length = replies.length :=
    fun user member => (within user member).2 (down user member)
  obtain ⟨log, recorded, order⟩ := logged
  have count := countP_log h.size all order
  have total : r.metrics.total = users * replies.length := by rw [h.sent, h.sum_users all]
  refine ⟨total, ?_, ?_, ?_, fun c => ?_⟩
  · have positive : 0 < steps.length := List.length_pos_of_ne_nil nonempty
    have parts : ∀ user ∈ r.users,
        user.place.recorded steps = replies.length % steps.length := fun user member => by
      rw [(h.ordered user member).recorded_of_isDown (down user member), all user member]
    have sum := h.iterations
    rw [h.sum_users parts, total] at sum
    have split := congrArg (users * ·) (Nat.div_add_mod' replies.length steps.length)
    simp only [Nat.mul_add, ← Nat.mul_assoc] at split
    exact Nat.eq_of_mul_eq_mul_right positive (by omega)
  · rw [recorded, Metrics.success_recordAll, count (·.isOk)]
    simp only [Delivery.isOk_outcome]
    exact Nat.zero_add _
  · rw [recorded, Metrics.failure_recordAll, count (!·.isOk)]
    simp only [Delivery.isOk_outcome]
    exact Nat.zero_add _
  · rw [recorded, Metrics.get?_categories_recordAll, count (·.failsAs c)]
    simp only [Delivery.failsAs_outcome]
    split
    · rfl
    · exact congrArg some (Nat.zero_add _)

theorem down_of_turns (nonempty : steps ≠ []) (schedule : List Turn)
    (enough : ∀ u < users,
      3 * replies.length + 2 ≤ (schedule.takeWhile (· ≠ .deadline)).count (.user u)) :
    ∀ user ∈ ((start users).turns steps (.ofReplies millis replies) schedule).users,
      user.isDown := by
  have cut := List.takeWhile_append_dropWhile (p := (· ≠ Turn.deadline)) (l := schedule)
  have steady : Turn.deadline ∉ schedule.takeWhile (· ≠ .deadline) := fun member => by
    simpa using List.all_eq_true.1 List.all_takeWhile _ member
  generalize schedule.takeWhile (· ≠ .deadline) = before at *
  rw [← cut, turns_append]
  refine forall_users_turns (fun expired u user down => ?_) (fun user member => ?_) _
  · rwa [User.step_of_ended (User.ended_of_isDown down)]
  · obtain ⟨u, found⟩ := List.mem_iff_getElem?.1 member
    have bound : u < users := by
      have inside := (List.getElem?_eq_some_iff.1 found).1
      rwa [(reachable_turns steps _ users before).consistent.size] at inside
    rw [getElem?_turns _ _ _ (.inr steady)] at found
    obtain ⟨first, hfirst, rfl⟩ := Option.map_eq_some_iff.1 found
    obtain ⟨ready, moves⟩ := ready_start replies first (List.mem_of_getElem? hfirst)
    have final := ended_iterate (User.countdown_remaining nonempty millis replies) u ready
      (moves.le.trans (enough u bound))
    exact User.isDown_of_ended final.1 final.2.2

theorem toEnd_eq_turns (nonempty : steps ≠ []) (users : Nat) (millis : Nat → Nat → UInt64)
    (replies : List Delivery) : ∃ schedule,
      toEnd steps (.ofReplies millis replies) users replies.length =
        (start users).turns steps (.ofReplies millis replies) schedule ∧
      ∀ user ∈ ((start users).turns steps (.ofReplies millis replies) schedule).users,
        user.isDown := by
  obtain ⟨schedule, -, turned, stopped⟩ :=
    advanceAll_eq_turns (User.countdown_remaining nonempty millis replies)
      (3 * replies.length + 6) (r := start users) rfl fun user member =>
        ⟨(ready_start replies user member).1,
          (ready_start replies user member).2.le.trans (by omega)⟩
  refine ⟨schedule, turned, fun user member => ?_⟩
  rw [← turned] at member
  exact User.isDown_of_ended ((stopped user member).2 rfl) (stopped user member).1.2

/-- A run whose users are all down has a result, and it counts all replies of all users. Users are
down under every schedule that gives them the turns for it, and no user is before it has all. -/
theorem crash_isolation (s : Script) (nonempty : s.steps ≠ []) (p : Plan)
    (replies : List Delivery) (millis : Nat → Nat → UInt64) (schedule : List Turn) :
    let users := p.users.toNat
    let t := Transport.ofReplies millis replies
    let r := (start users).turns s.steps t schedule
    (∀ user ∈ r.users, user.Within replies.length) ∧
    ((∀ u < users,
        3 * replies.length + 2 ≤ (schedule.takeWhile (· ≠ .deadline)).count (.user u)) →
      ∀ user ∈ r.users, user.isDown) ∧
    ((∀ user ∈ r.users, user.isDown) → r.Tallies s.steps users replies ∧
      ∀ (e : Engine) (startedAt : Instant), e.course s.steps users p.seconds.toNat = r →
        e.uptime + p.seconds.toNat < Engine.clockEnd →
        ∃ result, e.run startedAt s p = some result ∧ result.Tallies s.steps users replies) ∧
    (p.seconds ≠ 0 → ∀ (uptime : Nat) (startedAt : Instant),
      uptime + p.seconds.toNat < Engine.clockEnd →
      ∃ result, (Engine.scripted uptime t replies.length).run startedAt s p = some result ∧
        result.Tallies s.steps users replies) := by
  intro users t r
  refine ⟨within_turns s.steps millis replies users schedule, down_of_turns nonempty schedule,
    fun down => ?_, fun lasts uptime startedAt fits => ?_⟩
  · have tallies := tallies_of_down nonempty schedule down
    exact ⟨tallies, tallies.result⟩
  · obtain ⟨turns, ends, down⟩ := toEnd_eq_turns nonempty users millis replies
    have later : p.seconds.toNat ≠ 0 := fun zero => lasts (UInt64.toNat_inj.1 zero)
    have course : (Engine.scripted uptime t replies.length).course s.steps users
        p.seconds.toNat = (start users).turns s.steps t turns := by
      rw [← ends]
      exact if_neg later
    exact (tallies_of_down nonempty turns down).result _ startedAt course fits

/-- Two users in turn get a response, an error of the server and no answer in time; their fourth
request, the second of an iteration of two, brings them down. -/
theorem crash_isolation_two_users :
    let s : Script := ⟨"s", [Step.get "/a", Step.get "/b"]⟩
    let p : Plan := ⟨"s", .load, 2, 60⟩
    let replies : List Delivery := [.ok 200, .ok 503, .error .timeout]
    let t := Transport.ofReplies (fun u k => UInt64.ofNat (5 + u + k)) replies
    let schedule := (List.replicate 11 [Turn.user 1, .user 0]).flatten ++ [.deadline]
    ∃ r result, r = (start 2).turns s.steps t schedule ∧
      (∀ user ∈ r.users, user.isDown) ∧ r.metrics.total = 6 ∧ r.iterations = 2 ∧
      (Engine.mk 0 (fun _ _ _ => r) ⟨9, 0⟩).run ⟨0, 0⟩ s p = some result ∧
      result.totalRequests = 6 ∧ result.iterations = 2 ∧ result.success = 2 ∧
      result.errors.get? "http" = some 2 ∧ result.errors.get? "timeout" = some 2 ∧
      result.errors.get? "connection" = none := by
  intro s p replies t schedule
  have nonempty : s.steps ≠ [] := by decide
  have enough : ∀ u < 2,
      3 * replies.length + 2 ≤ (schedule.takeWhile (· ≠ .deadline)).count (.user u) := by decide
  have fits : 0 + p.seconds.toNat < Engine.clockEnd := by decide
  have whole : p.users.toNat * (replies.length / s.steps.length) = 2 := by decide
  have isolated := crash_isolation s nonempty p replies (fun u k => UInt64.ofNat (5 + u + k))
    schedule
  dsimp only at isolated
  generalize final : (start p.users.toNat).turns s.steps _ schedule = r at isolated
  obtain ⟨-, ends, counted, -⟩ := isolated
  have down := ends enough
  obtain ⟨tallies, results⟩ := counted down
  obtain ⟨result, finished, counts⟩ :=
    results (.mk 0 (fun _ _ _ => r) ⟨9, 0⟩) ⟨0, 0⟩ rfl fits
  exact ⟨r, result, final.symm, down, tallies.total, tallies.iterations.trans whole, finished,
    counts.totalRequests, counts.iterations.trans (congrArg UInt64.ofNat whole), counts.success,
    counts.errors "http", counts.errors "timeout", counts.errors "connection"⟩

end Run
end Barrage
