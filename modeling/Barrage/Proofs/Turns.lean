import Mathlib.Logic.Function.Iterate
import Barrage.Proofs.Invariant

/-! Runs under a schedule.
With a given transport, all that is left open in a run is whose turn it is and when the deadline
passes. A schedule settles that, and every interleaving of the users' moves is one. What a user does
at its turns depends on nobody else: after any schedule it stands where it would stand alone after
as many moves. -/

namespace Barrage

inductive Turn where
  | deadline
  | user (u : Nat)
  deriving DecidableEq

def Transport.samples (t : Transport) (u n : Nat) : List Sample :=
  (List.range n).filterMap (t u)

theorem Transport.samples_succ {t : Transport} {u n : Nat} {sample : Sample}
    (answer : t u n = some sample) : t.samples u (n + 1) = t.samples u n ++ [sample] := by
  simp [Transport.samples, List.range_succ, answer]

namespace User

def ended (user : User) : Bool :=
  match user.place with
  | .left | .crashed _ _ => true
  | _ => false

/-- A user after its next move; one that has ended stays as it is. -/
def step (steps : List Step) (t : Transport) (expired : Bool) (u : Nat) (user : User) : User :=
  match user.place with
  | .deciding => ⟨if expired then .left else .performing steps, user.sent⟩
  | .waiting step rest =>
    if (t u user.sent.length).isSome then ⟨.performing rest, user.sent ++ [step]⟩
    else ⟨.crashed step rest, user.sent⟩
  | .counting => ⟨.deciding, user.sent⟩
  | .left | .crashed _ _ => user

theorem step_of_ended {user : User} (h : user.ended) (steps : List Step) (t : Transport)
    (expired : Bool) (u : Nat) : user.step steps t expired u = user := by
  obtain ⟨place, sent⟩ := user
  cases place <;> simp [ended] at h <;> rfl

end User

namespace Run

/-- The state after a turn; the turn of a user that has ended changes nothing. -/
def turn (steps : List Step) (t : Transport) (r : Run) : Turn → Run
  | .deadline => { r with expired := true }
  | .user u => ((r.users[u]?.bind (next? t u)).bind (r.move? steps)).getD r

def turns (steps : List Step) (t : Transport) (r : Run) (schedule : List Turn) : Run :=
  schedule.foldl (turn steps t) r

variable {steps : List Step} {t : Transport}

@[simp] theorem turns_nil (r : Run) : r.turns steps t [] = r := rfl

@[simp] theorem turns_cons (r : Run) (a : Turn) (l : List Turn) :
    r.turns steps t (a :: l) = (r.turn steps t a).turns steps t l := rfl

theorem turns_append (r : Run) (a b : List Turn) :
    r.turns steps t (a ++ b) = (r.turns steps t a).turns steps t b := List.foldl_append

/-- What the turn of a user does, by the place where it stands. -/
inductive Turned (steps : List Step) (t : Transport) (r : Run) (u : Nat) : Run → Prop where
  | absent (found : r.users[u]? = none) : Turned steps t r u r
  | ended {user : User} (found : r.users[u]? = some user) (h : user.ended) : Turned steps t r u r
  | look {sent : List Step} (found : r.users[u]? = some ⟨.deciding, sent⟩) :
      Turned steps t r u { r with
        users := r.users.set u ⟨if r.expired then .left else .performing steps, sent⟩ }
  | reply {step : Step} {rest sent : List Step} {sample : Sample}
      (found : r.users[u]? = some ⟨.waiting step rest, sent⟩)
      (answer : t u sent.length = some sample) :
      Turned steps t r u { r with
        metrics := r.metrics.record sample
        users := r.users.set u ⟨.performing rest, sent ++ [step]⟩ }
  | crash {step : Step} {rest sent : List Step}
      (found : r.users[u]? = some ⟨.waiting step rest, sent⟩) (answer : t u sent.length = none) :
      Turned steps t r u { r with users := r.users.set u ⟨.crashed step rest, sent⟩ }
  | count {sent : List Step} (found : r.users[u]? = some ⟨.counting, sent⟩) :
      Turned steps t r u { r with
        iterations := r.iterations + 1
        users := r.users.set u ⟨.deciding, sent⟩ }

theorem turned_turn (steps : List Step) (t : Transport) (r : Run) (u : Nat) :
    Turned steps t r u (r.turn steps t (.user u)) := by
  cases found : r.users[u]? with
  | none => simpa [turn, found] using (.absent found : Turned steps t r u _)
  | some user =>
    obtain ⟨place, sent⟩ := user
    cases place with
    | deciding =>
      simpa [turn, found, next?, move?, setPlace] using (.look found : Turned steps t r u _)
    | counting =>
      simpa [turn, found, next?, move?, setPlace] using (.count found : Turned steps t r u _)
    | left => simpa [turn, found, next?] using (.ended found rfl : Turned steps t r u _)
    | crashed step rest =>
      simpa [turn, found, next?] using (.ended found rfl : Turned steps t r u _)
    | waiting step rest =>
      cases answer : t u sent.length with
      | some sample =>
        simpa [turn, found, next?, move?, answer] using
          (.reply found answer : Turned steps t r u _)
      | none =>
        simpa [turn, found, next?, move?, setPlace, answer] using
          (.crash found answer : Turned steps t r u _)

theorem Reachable.turn {users : Nat} {r : Run} (h : Reachable steps users r) (a : Turn) :
    Reachable steps users (r.turn steps t a) := by
  cases a with
  | deadline => exact .move .expire h rfl
  | user u =>
    rw [Run.turn]
    cases made : (r.users[u]?.bind (next? t u)).bind (r.move? steps) with
    | none => exact h
    | some s =>
      obtain ⟨m, -, step⟩ := Option.bind_eq_some_iff.1 made
      exact .move m h step

theorem Reachable.turns {users : Nat} {r : Run} (h : Reachable steps users r)
    (schedule : List Turn) : Reachable steps users (r.turns steps t schedule) := by
  induction schedule generalizing r with
  | nil => exact h
  | cons a l ih => exact ih (h.turn a)

theorem reachable_turns (steps : List Step) (t : Transport) (users : Nat)
    (schedule : List Turn) : Reachable steps users ((start users).turns steps t schedule) :=
  Reachable.start.turns schedule

theorem expired_turn (r : Run) (u : Nat) : (r.turn steps t (.user u)).expired = r.expired := by
  have turned := turned_turn steps t r u
  generalize r.turn steps t (.user u) = s at turned ⊢
  cases turned <;> rfl

theorem expired_turns (r : Run) {schedule : List Turn} (steady : Turn.deadline ∉ schedule) :
    (r.turns steps t schedule).expired = r.expired := by
  induction schedule generalizing r with
  | nil => rfl
  | cons a l ih =>
    rw [List.mem_cons, not_or] at steady
    rw [turns_cons, ih _ steady.2]
    cases a with
    | deadline => exact absurd rfl steady.1
    | user u => exact expired_turn r u

/-- A turn changes the user whose turn it is, and as it would change alone. -/
theorem users_turn (r : Run) (u : Nat) :
    (r.turn steps t (.user u)).users = r.users.modify u (User.step steps t r.expired u) := by
  have turned := turned_turn steps t r u
  generalize r.turn steps t (.user u) = s at turned ⊢
  rw [List.modify_eq_set_getElem?]
  cases turned with
  | absent found => simp [found]
  | ended found h =>
    obtain ⟨bound, rfl⟩ := List.getElem?_eq_some_iff.1 found
    rw [found]
    simp [User.step_of_ended h]
  | look found => simp [found, User.step]
  | reply found answer => simp [found, User.step, answer]
  | crash found answer => simp [found, User.step, answer]
  | count found => simp [found, User.step]

theorem getElem?_turns (r : Run) (schedule : List Turn) (u : Nat)
    (steady : r.expired = true ∨ Turn.deadline ∉ schedule) :
    (r.turns steps t schedule).users[u]? =
      r.users[u]?.map (User.step steps t r.expired u)^[schedule.count (.user u)] := by
  induction schedule generalizing r with
  | nil => simp
  | cons a l ih =>
    rw [turns_cons]
    cases a with
    | deadline =>
      have expired : r.expired = true := by simpa using steady
      rw [ih _ (.inl rfl)]
      simp [turn, expired]
    | user v =>
      have later : (r.turn steps t (.user v)).expired = true ∨ Turn.deadline ∉ l := by
        rw [expired_turn]
        exact steady.imp_right fun h => fun hl => h (List.mem_cons_of_mem _ hl)
      rw [ih _ later, expired_turn, users_turn, List.getElem?_modify]
      by_cases hv : v = u
      · subst hv
        simp [Function.comp_def]
      · simp [hv]

theorem forall_users_turns {I : User → Prop}
    (kept : ∀ expired u user, I user → I (user.step steps t expired u)) {r : Run}
    (h : ∀ user ∈ r.users, I user) (schedule : List Turn) :
    ∀ user ∈ (r.turns steps t schedule).users, I user := by
  induction schedule generalizing r with
  | nil => exact h
  | cons a l ih =>
    rw [turns_cons]
    refine ih fun user member => ?_
    cases a with
    | deadline => exact h user member
    | user u =>
      rw [users_turn] at member
      obtain ⟨v, found⟩ := List.mem_iff_getElem?.1 member
      rw [List.getElem?_modify] at found
      obtain ⟨before, hbefore, rfl⟩ := Option.map_eq_some_iff.1 found
      have old := h before (List.mem_of_getElem? hbefore)
      split
      · exact kept _ _ _ old
      · exact old

theorem length_users_turns (r : Run) (schedule : List Turn) :
    (r.turns steps t schedule).users.length = r.users.length := by
  induction schedule generalizing r with
  | nil => rfl
  | cons a l ih =>
    rw [turns_cons, ih]
    cases a with
    | deadline => rfl
    | user u => rw [users_turn, List.length_modify]

def sentBy (r : Run) (u : Nat) : Nat := (r.users[u]?.map (·.sent.length)).getD 0

/-- The metrics hold what a log of the users' own samples has recorded. -/
def Logged (t : Transport) (r : Run) : Prop :=
  ∃ log, r.metrics = Metrics.empty.recordAll (log.map (·.2)) ∧
    Interleaves log (fun u => t.samples u (r.sentBy u))

theorem sentBy_start (users u : Nat) : (start users).sentBy u = 0 := by
  by_cases h : u < users <;> simp [sentBy, start, User.initial, h]

theorem logged_start (t : Transport) (users : Nat) : Logged t (start users) :=
  ⟨[], rfl, fun u => by simp [sentBy_start, Transport.samples]⟩

theorem sentBy_set {r : Run} {u : Nat} {user : User} (found : r.users[u]? = some user)
    (m : Metrics) (iterations : Nat) (next : User) (v : Nat) :
    (Run.mk m iterations r.expired (r.users.set u next)).sentBy v =
      if v = u then next.sent.length else r.sentBy v := by
  obtain ⟨bound, -⟩ := List.getElem?_eq_some_iff.1 found
  by_cases h : u = v
  · subst h
    simp [sentBy, bound]
  · simp [sentBy, h, Ne.symm h]

theorem Logged.silent {r : Run} (h : Logged t r) {u : Nat} {place : Place} {sent : List Step}
    (found : r.users[u]? = some ⟨place, sent⟩) (iterations : Nat) (next : Place) :
    Logged t ⟨r.metrics, iterations, r.expired, r.users.set u ⟨next, sent⟩⟩ := by
  obtain ⟨log, recorded, order⟩ := h
  refine ⟨log, recorded, fun v => ?_⟩
  dsimp only
  rw [sentBy_set found, order v]
  split
  · next hv => simp [hv, sentBy, found]
  · rfl

theorem Logged.turn {r : Run} (h : Logged t r) (steps : List Step) (a : Turn) :
    Logged t (r.turn steps t a) := by
  cases a with
  | deadline => exact h
  | user u =>
    have turned := turned_turn steps t r u
    generalize r.turn steps t (.user u) = s at turned ⊢
    cases turned with
    | absent => exact h
    | ended => exact h
    | look found => exact h.silent found _ _
    | crash found => exact h.silent found _ _
    | count found => exact h.silent found _ _
    | @reply step rest sent sample found answer =>
      obtain ⟨log, recorded, order⟩ := h
      have size : r.sentBy u = sent.length := by simp [sentBy, found]
      refine ⟨log ++ [(u, sample)], ?_, fun v => ?_⟩
      · rw [List.map_append, List.map_singleton, Metrics.recordAll_concat, ← recorded]
      · have extended := order.concat u sample v
        dsimp only at extended ⊢
        rw [extended, sentBy_set found]
        by_cases hv : v = u
        · rw [if_pos hv, if_pos hv, hv, size, List.length_append, List.length_singleton,
            Transport.samples_succ answer]
        · rw [if_neg hv, if_neg hv]

theorem Logged.turns {r : Run} (h : Logged t r) (steps : List Step) (schedule : List Turn) :
    Logged t (r.turns steps t schedule) := by
  induction schedule generalizing r with
  | nil => exact h
  | cons a l ih => exact ih (h.turn steps a)

end Run
end Barrage
