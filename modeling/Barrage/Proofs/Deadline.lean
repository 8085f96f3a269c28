import Mathlib.Algebra.BigOperators.Ring.List
import Mathlib.Algebra.Order.Floor.Div
import Mathlib.GroupTheory.GroupAction.Ring
import Barrage.Proofs.Endings

/-! What the deadline does to users.
Nobody stops in the middle: whoever has begun an iteration when the deadline passes has its steps
due, and what was sent together with what is due never changes from then on. It is a whole number of
iterations, the number of requests begun divided by the number of steps and rounded up. -/

namespace Barrage

/-- The steps that are left of an iteration that was begun. -/
def Place.due : Place → List Step
  | .waiting step rest | .crashed step rest => step :: rest
  | .deciding | .counting | .left => []

namespace User

/-- How many requests a user has begun: those recorded, and the one that is or was under way. -/
def begun (user : User) : Nat :=
  match user.place with
  | .waiting _ _ | .crashed _ _ => user.sent.length + 1
  | .deciding | .counting | .left => user.sent.length

theorem ceilDiv_eq_succ {n k size : Nat} (above : k * size < n) (within : n ≤ (k + 1) * size) :
    n ⌈/⌉ size = k + 1 := by
  have positive : 0 < size := by
    rcases Nat.eq_zero_or_pos size with rfl | h
    · omega
    · exact h
  rw [Nat.ceilDiv_eq_add_pred_div]
  refine Nat.div_eq_of_lt_le ?_ ?_
  · rw [Nat.succ_mul]
    omega
  · simp only [Nat.succ_mul] at within ⊢
    omega

theorem mul_ceilDiv {size : Nat} (positive : 0 < size) (k : Nat) : (k * size) ⌈/⌉ size = k := by
  rw [Nat.ceilDiv_eq_add_pred_div, Nat.add_sub_assoc positive, Nat.add_comm,
    Nat.add_mul_div_right _ _ positive, Nat.div_eq_of_lt (by omega), Nat.zero_add]

theorem append_due {steps done due : List Step} {k n : Nat} (parts : done ++ due = steps)
    (above : k * steps.length < n) (within : n ≤ (k + 1) * steps.length) :
    (List.replicate k steps).flatten ++ done ++ due =
      (List.replicate (n ⌈/⌉ steps.length) steps).flatten := by
  rw [ceilDiv_eq_succ above within, List.append_assoc, parts, List.replicate_succ',
    List.flatten_append]
  simp

theorem Ordered.sent_due {steps : List Step} (nonempty : steps ≠ []) {user : User}
    (h : user.Ordered steps) :
    user.sent ++ user.place.due =
      (List.replicate (user.begun ⌈/⌉ steps.length) steps).flatten := by
  have positive : 0 < steps.length := List.length_pos_of_ne_nil nonempty
  obtain ⟨place, sent⟩ := user
  obtain ⟨k, done, hsent, hdone⟩ := h
  dsimp only at hsent hdone
  have size : sent.length = k * steps.length + done.length := by
    rw [hsent]
    simp
  have parts := congrArg List.length hdone
  rw [List.length_append] at parts
  have next : (k + 1) * steps.length = k * steps.length + steps.length := Nat.succ_mul _ _
  -- between iterations nothing is due
  have idle (nothing : done = []) :
      sent = (List.replicate (sent.length ⌈/⌉ steps.length) steps).flatten := by
    have count : sent.length = k * steps.length := by simp [size, nothing]
    rw [count, mul_ceilDiv positive, hsent, nothing, List.append_nil]
  cases place with
  | deciding => simpa [Place.due, begun] using idle (by simpa [Place.toDo] using hdone)
  | left => simpa [Place.due, begun] using idle (by simpa [Place.toDo] using hdone)
  | counting =>
    simp only [Place.toDo, List.length_nil] at parts
    have made := append_due (k := k) (n := sent.length) hdone (by omega) (by omega)
    rwa [← hsent] at made
  | waiting step rest =>
    simp only [Place.toDo, List.length_cons] at parts
    have made := append_due (k := k) (n := sent.length + 1) hdone (by omega) (by omega)
    rwa [← hsent] at made
  | crashed step rest =>
    simp only [Place.toDo, List.length_cons] at parts
    have made := append_due (k := k) (n := sent.length + 1) hdone (by omega) (by omega)
    rwa [← hsent] at made

theorem step_sent_due (steps : List Step) (t : Transport) (u : Nat) (user : User) :
    (user.step steps t true u).sent ++ (user.step steps t true u).place.due =
      user.sent ++ user.place.due := by
  obtain ⟨place, sent⟩ := user
  cases place with
  | deciding | counting | left | crashed => rfl
  | waiting step rest =>
    simp only [User.step]
    split
    · cases rest <;> simp [Place.performing, Place.due]
    · rfl

theorem iterate_sent_due (steps : List Step) (t : Transport) (u k : Nat) (user : User) :
    ((User.step steps t true u)^[k] user).sent ++
        ((User.step steps t true u)^[k] user).place.due = user.sent ++ user.place.due := by
  induction k with
  | zero => rfl
  | succ k ih => rw [Function.iterate_succ_apply', step_sent_due, ih]

theorem step_isDown {steps : List Step} {t : Transport} (answered : ∀ u k, (t u k).isSome)
    (expired : Bool) (u : Nat) {user : User} (up : user.isDown = false) :
    (user.step steps t expired u).isDown = false := by
  obtain ⟨place, sent⟩ := user
  cases place with
  | deciding => cases expired <;> cases steps <;> rfl
  | counting | left => rfl
  | crashed step rest => simp [isDown] at up
  | waiting step rest => cases rest <;> simp [User.step, answered, Place.performing, isDown]

/-- How many moves a user makes at most when the deadline has passed. -/
def closing (user : User) : Nat :=
  match user.place with
  | .waiting _ rest => rest.length + 3
  | .counting => 2
  | .deciding => 1
  | .left | .crashed _ _ => 0

theorem Ordered.closing_le {steps : List Step} (nonempty : steps ≠ []) {user : User}
    (h : user.Ordered steps) : user.closing ≤ steps.length + 2 := by
  have positive : 0 < steps.length := List.length_pos_of_ne_nil nonempty
  have room := h.toDo_le
  obtain ⟨place, sent⟩ := user
  cases place with
  | waiting step rest =>
    simp only [Place.toDo, List.length_cons] at room
    simp only [closing]
    omega
  | deciding | counting | left | crashed => simp [closing]

theorem closing_step_lt (steps : List Step) (t : Transport) (u : Nat) {user : User}
    (active : user.ended = false) : (user.step steps t true u).closing < user.closing := by
  obtain ⟨place, sent⟩ := user
  cases place with
  | deciding => simp [User.step, closing]
  | counting => simp [User.step, closing]
  | left => simp [ended] at active
  | crashed step rest => simp [ended] at active
  | waiting step rest =>
    cases answer : t u sent.length with
    | none => simp [User.step, answer, closing]
    | some sample => cases rest <;> simp [User.step, answer, Place.performing, closing]

theorem countdown_closing (steps : List Step) {t : Transport}
    (answered : ∀ u k, (t u k).isSome) :
    Countdown steps t true (fun _ => true) (fun user => user.isDown = false) closing where
  keep u _ up _ _ := step_isDown answered true u up
  fall u _ _ _ active := closing_step_lt steps t u active

end User
namespace Run
variable {steps : List Step} {t : Transport} {users : Nat}

theorem getElem?_turns_deadline (r : Run) (schedule : List Turn) (u : Nat) :
    (r.turns steps t (.deadline :: schedule)).users[u]? =
      r.users[u]?.map (User.step steps t true u)^[schedule.count (.user u)] := by
  rw [turns_cons]
  exact getElem?_turns _ schedule u (.inl rfl)

theorem sent_due_of_deadline (nonempty : steps ≠ []) {r : Run}
    (reached : Reachable steps users r) {u : Nat} {user : User} (found : r.users[u]? = some user)
    (k : Nat) :
    ((User.step steps t true u)^[k] user).sent ++
        ((User.step steps t true u)^[k] user).place.due =
      (List.replicate (user.begun ⌈/⌉ steps.length) steps).flatten := by
  rw [User.iterate_sent_due]
  exact (reached.consistent.ordered user (List.mem_of_getElem? found)).sent_due nonempty

theorem users_of_deadline (nonempty : steps ≠ []) {r : Run} (reached : Reachable steps users r)
    (schedule : List Turn)
    (left : ∀ final ∈ (r.turns steps t (.deadline :: schedule)).users, final.place = .left) :
    (r.turns steps t (.deadline :: schedule)).users = r.users.map fun user =>
      ⟨.left, (List.replicate (user.begun ⌈/⌉ steps.length) steps).flatten⟩ := by
  refine List.ext_getElem? fun u => ?_
  rw [List.getElem?_map, getElem?_turns_deadline]
  cases found : r.users[u]? with
  | none => rfl
  | some user =>
    have sent := sent_due_of_deadline (t := t) nonempty reached found (schedule.count (.user u))
    have final := left ((User.step steps t true u)^[schedule.count (.user u)] user) (by
      refine List.mem_of_getElem? (i := u) ?_
      rw [getElem?_turns_deadline, found, Option.map_some])
    rw [Option.map_some, Option.map_some]
    generalize (User.step steps t true u)^[schedule.count (.user u)] user = last at sent final ⊢
    obtain ⟨place, own⟩ := last
    obtain rfl : place = .left := final
    simpa [Place.due] using sent

theorem iterations_of_deadline (nonempty : steps ≠ []) {r : Run}
    (reached : Reachable steps users r) (schedule : List Turn)
    (left : ∀ final ∈ (r.turns steps t (.deadline :: schedule)).users, final.place = .left) :
    (r.turns steps t (.deadline :: schedule)).iterations =
      (r.users.map fun user => user.begun ⌈/⌉ steps.length).sum := by
  have positive : 0 < steps.length := List.length_pos_of_ne_nil nonempty
  have after := (reached.turns (t := t) (.deadline :: schedule)).consistent
  have total := after.total_of_left left
  rw [after.sent, users_of_deadline nonempty reached schedule left] at total
  simp only [List.map_map, Function.comp_def, List.length_flatten, List.map_replicate,
    List.sum_replicate, smul_eq_mul, List.sum_map_mul_right] at total
  exact (Nat.eq_of_mul_eq_mul_right positive total).symm

theorem counts_of_begun (nonempty : steps ≠ []) {r : Run} (reached : Reachable steps users r)
    (schedule : List Turn)
    (left : ∀ final ∈ (r.turns steps t (.deadline :: schedule)).users, final.place = .left)
    {n : Nat} (begun : ∀ user ∈ r.users, user.begun = n) :
    (r.turns steps t (.deadline :: schedule)).iterations = users * (n ⌈/⌉ steps.length) ∧
      (r.turns steps t (.deadline :: schedule)).metrics.total =
        users * (n ⌈/⌉ steps.length) * steps.length := by
  have each : ∀ user ∈ r.users, user.begun ⌈/⌉ steps.length = n ⌈/⌉ steps.length :=
    fun user member => by rw [begun user member]
  have iterations := iterations_of_deadline nonempty reached schedule left
  rw [reached.consistent.sum_users each] at iterations
  have total := (reached.turns (t := t) (.deadline :: schedule)).consistent.total_of_left left
  exact ⟨iterations, by rw [total, iterations]⟩

theorem up_of_answered (steps : List Step) (answered : ∀ u k, (t u k).isSome) (users : Nat)
    (schedule : List Turn) :
    ∀ user ∈ ((start users).turns steps t schedule).users, user.isDown = false := by
  refine forall_users_turns (fun expired u _ up => User.step_isDown answered expired u up) ?_ _
  intro user member
  rw [List.eq_of_mem_replicate member]
  rfl

theorem left_of_turns (nonempty : steps ≠ []) (answered : ∀ u k, (t u k).isSome)
    (before after : List Turn) {u : Nat} {final : User}
    (found : (((start users).turns steps t before).turns steps t (.deadline :: after)).users[u]? =
      some final)
    (enough : steps.length + 2 ≤ after.count (.user u)) : final.place = .left := by
  rw [getElem?_turns_deadline] at found
  obtain ⟨user, huser, rfl⟩ := Option.map_eq_some_iff.1 found
  have member := List.mem_of_getElem? huser
  have up := up_of_answered steps answered users before user member
  have ordered := (reachable_turns steps t users before).consistent.ordered user member
  have finished := ended_iterate (User.countdown_closing steps answered) u up
    ((ordered.closing_le nonempty).trans enough)
  exact User.place_eq_left finished.1 finished.2

def approach (n : Nat) (user : User) : Nat :=
  3 * (n - user.sent.length) + match user.place with
    | .deciding => 1
    | .counting => 2
    | .waiting _ _ | .left | .crashed _ _ => 0

theorem countdown_approach (nonempty : steps ≠ []) (answered : ∀ u k, (t u k).isSome) (n : Nat) :
    Countdown steps t false (before n)
      (fun user => user.sent.length < n ∧ user.ended = false) (approach n) where
  keep u user room goes active := by
    obtain ⟨place, sent⟩ := user
    cases place with
    | deciding => cases steps <;> simp_all [User.step, Place.performing, User.ended]
    | counting => simpa [User.step, User.ended] using room.1
    | left => simp [User.ended] at active
    | crashed step rest => simp [User.ended] at active
    | waiting step rest =>
      have early : sent.length + 1 < n := by simpa [before] using goes
      cases rest <;> simp [User.step, answered, Place.performing, User.ended, early]
  fall u user room goes active := by
    obtain ⟨place, sent⟩ := user
    cases place with
    | deciding => cases steps <;> simp_all [User.step, Place.performing, approach]
    | counting => simp [User.step, approach]
    | left => simp [User.ended] at active
    | crashed step rest => simp [User.ended] at active
    | waiting step rest =>
      have early : sent.length + 1 < n := by simpa [before] using goes
      cases rest <;> simp [User.step, answered, Place.performing, approach] <;> omega

theorem begun_of_stopped {n : Nat} {user : User}
    (room : user.sent.length < n ∧ user.ended = false)
    (stopped : before n user → user.ended) : user.begun = n := by
  obtain ⟨early, active⟩ := room
  obtain ⟨place, sent⟩ := user
  cases place with
  | waiting step rest =>
    have late : ¬ sent.length + 1 < n := fun h => by
      simp [User.ended, before, h] at stopped
    simp only [User.begun] at early ⊢
    omega
  | deciding | counting | left | crashed => simp_all [before, User.ended]

theorem exists_turns_begun (nonempty : steps ≠ []) (answered : ∀ u k, (t u k).isSome)
    (users n : Nat) {fuel : Nat} (enough : 3 * n + 1 ≤ fuel) :
    ∃ schedule, (if n = 0 then start users
        else advanceAll steps t (before n) fuel (start users)) =
        (start users).turns steps t schedule ∧
      ∀ user ∈ ((start users).turns steps t schedule).users, user.begun = n := by
  have initial (user : User) (h : user ∈ (start users).users) : user = User.initial :=
    List.eq_of_mem_replicate h
  by_cases zero : n = 0
  · refine ⟨[], by simp [zero], fun user member => ?_⟩
    rw [initial user member, zero]
    rfl
  · obtain ⟨schedule, -, turned, stopped⟩ :=
      advanceAll_eq_turns (countdown_approach nonempty answered n) fuel (r := start users) rfl
        (fun user member => by
          rw [initial user member]
          exact ⟨⟨Nat.pos_of_ne_zero zero, rfl⟩, by simpa [approach, User.initial] using enough⟩)
    refine ⟨schedule, by rw [if_neg zero, turned], fun user member => ?_⟩
    rw [← turned] at member
    exact begun_of_stopped (stopped user member).1 (stopped user member).2

theorem untilDeadline_eq_turns (nonempty : steps ≠ []) (answered : ∀ u k, (t u k).isSome)
    (users n : Nat) : ∃ before after,
      (∀ user ∈ ((start users).turns steps t before).users, user.begun = n) ∧
      untilDeadline steps t users n =
        ((start users).turns steps t before).turns steps t (.deadline :: after) ∧
      ∀ final ∈ (untilDeadline steps t users n).users, final.place = .left := by
  obtain ⟨before, turned, begun⟩ := exists_turns_begun nonempty answered users n
    (show 3 * n + 1 ≤ 3 * (n + steps.length) + 3 by omega)
  rw [untilDeadline, turned]
  have ordered := (reachable_turns steps t users before).consistent.ordered
  have up := up_of_answered steps answered users before
  obtain ⟨after, -, finished, stopped⟩ :=
    advanceAll_eq_turns (User.countdown_closing steps answered) (3 * (n + steps.length) + 3)
      (r := { (start users).turns steps t before with expired := true }) rfl
      (fun user member => ⟨up user member,
        ((ordered user member).closing_le nonempty).trans (by omega)⟩)
  refine ⟨before, after, begun, finished, fun final member => ?_⟩
  exact User.place_eq_left ((stopped final member).2 rfl) (stopped final member).1

/-- The iterations that users have begun when the deadline passes are the ones that they make, be
the deadline and the turns of all users in any order; and so in the run that brings the deadline
while every user's request number `n` is under way. -/
theorem deadline_discipline {steps : List Step} (nonempty : steps ≠ []) {t : Transport}
    (answered : ∀ u k, (t u k).isSome) (users : Nat) (before after : List Turn) :
    let r := (start users).turns steps t before
    let s := r.turns steps t (.deadline :: after)
    let whole (n : Nat) := (List.replicate (n ⌈/⌉ steps.length) steps).flatten
    (∀ u user, r.users[u]? = some user → ∃ final, s.users[u]? = some final ∧
      final.sent ++ final.place.due = whole user.begun ∧
      (steps.length + 2 ≤ after.count (.user u) → final = ⟨.left, whole user.begun⟩)) ∧
    ((∀ u < users, steps.length + 2 ≤ after.count (.user u)) →
      s.iterations = (r.users.map fun user => user.begun ⌈/⌉ steps.length).sum ∧
      s.metrics.total = s.iterations * steps.length ∧
      ∀ n, (∀ user ∈ r.users, user.begun = n) →
        s.iterations = users * (n ⌈/⌉ steps.length) ∧
        s.metrics.total = users * (n ⌈/⌉ steps.length) * steps.length) ∧
    ∀ n, let q := untilDeadline steps t users n
      q.users = List.replicate users ⟨.left, whole n⟩ ∧
      q.iterations = users * (n ⌈/⌉ steps.length) ∧
      q.metrics.total = users * (n ⌈/⌉ steps.length) * steps.length := by
  intro r s whole
  have reached := reachable_turns steps t users before
  refine ⟨fun u user found => ?_, fun enough => ?_, fun n => ?_⟩
  · have sent := sent_due_of_deadline (t := t) nonempty reached found (after.count (.user u))
    have final : s.users[u]? = some ((User.step steps t true u)^[after.count (.user u)] user) := by
      rw [getElem?_turns_deadline, found, Option.map_some]
    refine ⟨_, final, sent, fun enough => ?_⟩
    have left := left_of_turns nonempty answered before after final enough
    generalize (User.step steps t true u)^[after.count (.user u)] user = last at sent left ⊢
    obtain ⟨place, own⟩ := last
    obtain rfl : place = .left := left
    simpa [Place.due] using sent
  · have size := (reached.turns (t := t) (.deadline :: after)).consistent.size
    have left : ∀ final ∈ s.users, final.place = .left := by
      intro final member
      obtain ⟨u, found⟩ := List.mem_iff_getElem?.1 member
      have bound := (List.getElem?_eq_some_iff.1 found).1
      exact left_of_turns nonempty answered before after found (enough u (size ▸ bound))
    exact ⟨iterations_of_deadline nonempty reached after left,
      (reached.turns (.deadline :: after)).consistent.total_of_left left,
      fun n begun => counts_of_begun nonempty reached after left begun⟩
  · obtain ⟨before, after, begun, turned, left⟩ :=
      untilDeadline_eq_turns nonempty answered users n
    have reached := reachable_turns steps t users before
    dsimp only
    rw [turned] at left ⊢
    refine ⟨?_, counts_of_begun nonempty reached after left begun⟩
    rw [users_of_deadline nonempty reached after left]
    exact reached.consistent.map_users fun user member => by rw [begun user member]

/-- Two users in their second iteration of two steps when the deadline passes. -/
theorem deadline_discipline_two_users :
    let steps := [Step.get "/a", Step.get "/b"]
    let t : Transport := fun _ _ => some ⟨5, .ok ()⟩
    let before := (List.replicate 5 [Turn.user 0, .user 1]).flatten
    let after := (List.replicate 4 [Turn.user 1, .user 0]).flatten
    ∃ r s, r = (start 2).turns steps t before ∧ s = r.turns steps t (.deadline :: after) ∧
      (∀ user ∈ r.users, user.begun = 3) ∧ (∀ u < 2, steps.length + 2 ≤ after.count (.user u)) ∧
      s.iterations = 4 ∧ s.metrics.total = 8 := by
  intro steps t before after
  have nonempty : steps ≠ [] := by decide
  have answered : ∀ u k, (t u k).isSome := fun _ _ => rfl
  have begun : ∀ user ∈ ((start 2).turns steps t before).users, user.begun = 3 := by decide
  have enough : ∀ u < 2, steps.length + 2 ≤ after.count (.user u) := by decide
  have whole := (deadline_discipline nonempty answered 2 before after).2.1 enough
  have counts := whole.2.2 3 begun
  have iterations : 2 * (3 ⌈/⌉ steps.length) = 4 := by decide
  have requests : 2 * (3 ⌈/⌉ steps.length) * steps.length = 8 := by decide
  exact ⟨_, _, rfl, rfl, begun, enough, counts.1.trans iterations, counts.2.trans requests⟩

end Run
end Barrage
