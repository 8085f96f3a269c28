import Mathlib.Data.List.Basic
import Barrage.Load.Engine
import Barrage.Proofs.Recording

/-! What all states of a run have in common.
The shared counts are tied to the private place of every user: each recorded request is one of a
counted iteration or of the iteration that its user is in, and each user's requests are the steps of
the script over and over. One lemma says this of a single move, and induction over the moves says it
of every state that they lead to. -/

namespace Barrage

def Place.toDo (steps : List Step) : Place → List Step
  | .deciding | .left => steps
  | .waiting step rest | .crashed step rest => step :: rest
  | .counting => []

/-- How many steps a user at a place has recorded of its current iteration, not yet counted. -/
def Place.recorded (steps : List Step) (p : Place) : Nat :=
  steps.length - (p.toDo steps).length

@[simp] theorem Place.toDo_performing (steps l : List Step) :
    (Place.performing l).toDo steps = l := by
  cases l <;> rfl

/-- A user's requests are whole iterations, and then the part of one that is not to be done. -/
def User.Ordered (steps : List Step) (user : User) : Prop :=
  ∃ k done, user.sent = (List.replicate k steps).flatten ++ done ∧
    done ++ user.place.toDo steps = steps

theorem sum_map_set {α : Type} (f : α → Nat) {l : List α} {i : Nat} {a : α} (b : α)
    (h : l[i]? = some a) : ((l.set i b).map f).sum + f a = (l.map f).sum + f b := by
  induction l generalizing i with
  | nil => simp at h
  | cons c l ih =>
    cases i with
    | zero =>
      obtain rfl : c = a := by simpa using h
      simp only [List.set_cons_zero, List.map_cons, List.sum_cons]
      omega
    | succ i =>
      have tail := ih (i := i) (by simpa using h)
      simp only [List.set_cons_succ, List.map_cons, List.sum_cons]
      omega

namespace User

theorem ordered_initial (steps : List Step) : User.initial.Ordered steps :=
  ⟨0, [], rfl, rfl⟩

theorem Ordered.place {steps : List Step} {p q : Place} {sent : List Step}
    (h : Ordered steps ⟨p, sent⟩) (same : q.toDo steps = p.toDo steps) :
    Ordered steps ⟨q, sent⟩ := by
  obtain ⟨k, done, hsent, hdone⟩ := h
  exact ⟨k, done, hsent, by simpa [same] using hdone⟩

theorem Ordered.reply {steps rest sent : List Step} {step : Step}
    (h : Ordered steps ⟨.waiting step rest, sent⟩) :
    Ordered steps ⟨.performing rest, sent ++ [step]⟩ := by
  obtain ⟨k, done, hsent, hdone⟩ := h
  refine ⟨k, done ++ [step], ?_, ?_⟩
  · rw [show sent = _ from hsent, List.append_assoc]
  · rw [Place.toDo_performing, List.append_assoc]
    exact hdone

theorem Ordered.count {steps sent : List Step} (h : Ordered steps ⟨.counting, sent⟩) :
    Ordered steps ⟨.deciding, sent⟩ := by
  obtain ⟨k, done, hsent, hdone⟩ := h
  have whole : done = steps := by simpa [Place.toDo] using hdone
  refine ⟨k + 1, [], ?_, rfl⟩
  rw [show sent = _ from hsent, whole, List.replicate_succ', List.flatten_append]
  simp

theorem Ordered.toDo_le {steps : List Step} {user : User} (h : user.Ordered steps) :
    (user.place.toDo steps).length ≤ steps.length := by
  obtain ⟨k, done, -, hdone⟩ := h
  have lengths := congrArg List.length hdone
  rw [List.length_append] at lengths
  omega

theorem Ordered.sent_eq {steps : List Step} {user : User} (h : user.Ordered steps) :
    ∃ k, user.sent =
      (List.replicate k steps).flatten ++ steps.take (user.place.recorded steps) := by
  obtain ⟨k, done, hsent, hdone⟩ := h
  have lengths := congrArg List.length hdone
  rw [List.length_append] at lengths
  have size : user.place.recorded steps = done.length := by
    unfold Place.recorded
    omega
  refine ⟨k, ?_⟩
  rw [hsent, size]
  nth_rewrite 3 [← hdone]
  rw [List.take_left]

end User

namespace Run

/-- What each kind of move asks for and does. -/
inductive Moved (steps : List Step) (r : Run) : Move → Run → Prop where
  | expire : Moved steps r .expire { r with expired := true }
  | look {u : Nat} {sent : List Step} (found : r.users[u]? = some ⟨.deciding, sent⟩) :
      Moved steps r (.look u) { r with
        users := r.users.set u ⟨if r.expired then .left else .performing steps, sent⟩ }
  | reply {u : Nat} {step : Step} {rest sent : List Step} (sample : Sample)
      (found : r.users[u]? = some ⟨.waiting step rest, sent⟩) :
      Moved steps r (.reply u sample) { r with
        metrics := r.metrics.record sample
        users := r.users.set u ⟨.performing rest, sent ++ [step]⟩ }
  | crash {u : Nat} {step : Step} {rest sent : List Step}
      (found : r.users[u]? = some ⟨.waiting step rest, sent⟩) :
      Moved steps r (.crash u) { r with users := r.users.set u ⟨.crashed step rest, sent⟩ }
  | count {u : Nat} {sent : List Step} (found : r.users[u]? = some ⟨.counting, sent⟩) :
      Moved steps r (.count u) { r with
        iterations := r.iterations + 1
        users := r.users.set u ⟨.deciding, sent⟩ }

theorem move?_eq_some_iff {steps : List Step} {r s : Run} {m : Move} :
    r.move? steps m = some s ↔ Moved steps r m s := by
  constructor
  · intro h
    cases m with
    | expire =>
      obtain rfl : _ = s := by simpa [move?] using h
      exact .expire
    | look u =>
      obtain ⟨⟨place, sent⟩, hu, h⟩ := Option.bind_eq_some_iff.1 h
      cases place <;> simp [setPlace] at h
      exact h ▸ .look hu
    | reply u sample =>
      obtain ⟨⟨place, sent⟩, hu, h⟩ := Option.bind_eq_some_iff.1 h
      cases place <;> simp at h
      exact h ▸ .reply sample hu
    | crash u =>
      obtain ⟨⟨place, sent⟩, hu, h⟩ := Option.bind_eq_some_iff.1 h
      cases place <;> simp [setPlace] at h
      exact h ▸ .crash hu
    | count u =>
      obtain ⟨⟨place, sent⟩, hu, h⟩ := Option.bind_eq_some_iff.1 h
      cases place <;> simp [setPlace] at h
      exact h ▸ .count hu
  · intro h
    cases h with
    | expire => rfl
    | look hu | reply _ hu | crash hu | count hu => simp [move?, hu, setPlace]

def moves? (steps : List Step) (r : Run) (ms : List Move) : Option Run :=
  ms.foldlM (move? steps) r

theorem moves?_cons (steps : List Step) (r : Run) (m : Move) (ms : List Move) :
    r.moves? steps (m :: ms) = (r.move? steps m).bind fun s => s.moves? steps ms := rfl

theorem Reachable.moves {steps : List Step} {users : Nat} {r s : Run}
    (h : Reachable steps users r) (ms : List Move) (made : r.moves? steps ms = some s) :
    Reachable steps users s := by
  induction ms generalizing r with
  | nil =>
    obtain rfl : r = s := by simpa [moves?] using made
    exact h
  | cons m ms ih =>
    obtain ⟨next, step, rest⟩ := Option.bind_eq_some_iff.1 (moves?_cons steps r m ms ▸ made)
    exact ih (.move m h step) rest

/-- The state of a run as its users' places and the shared counts tell it alike. -/
structure Consistent (steps : List Step) (users : Nat) (r : Run) : Prop where
  size : r.users.length = users
  balanced : r.metrics.Balanced
  ordered : ∀ user ∈ r.users, user.Ordered steps
  sent : r.metrics.total = (r.users.map (·.sent.length)).sum
  iterations : r.metrics.total =
    r.iterations * steps.length + (r.users.map (·.place.recorded steps)).sum

theorem consistent_start (steps : List Step) (users : Nat) :
    Consistent steps users (start users) where
  size := List.length_replicate
  balanced := Metrics.balanced_empty
  ordered := fun user h => List.eq_of_mem_replicate h ▸ User.ordered_initial steps
  sent := by simp [start, User.initial, Metrics.empty]
  iterations := by simp [start, User.initial, Metrics.empty, Place.recorded, Place.toDo]

theorem Consistent.update {steps : List Step} {users : Nat} {r : Run}
    (h : Consistent steps users r) {u : Nat} {user next : User} (found : r.users[u]? = some user)
    (ordered : next.Ordered steps) {m : Metrics} (balanced : m.Balanced) {iterations : Nat}
    (sent : m.total + user.sent.length = r.metrics.total + next.sent.length)
    (recorded : m.total + r.iterations * steps.length + user.place.recorded steps =
      r.metrics.total + iterations * steps.length + next.place.recorded steps) :
    Consistent steps users ⟨m, iterations, r.expired, r.users.set u next⟩ where
  size := by simpa using h.size
  balanced := balanced
  ordered := fun other hother => by
    rcases List.mem_or_eq_of_mem_set hother with old | rfl
    · exact h.ordered other old
    · exact ordered
  sent := by
    have before := h.sent
    have change := sum_map_set (·.sent.length) next found
    dsimp only at change ⊢
    omega
  iterations := by
    have before := h.iterations
    have change := sum_map_set (·.place.recorded steps) next found
    dsimp only at change ⊢
    omega

theorem Consistent.move {steps : List Step} {users : Nat} {r s : Run} {m : Move}
    (h : Consistent steps users r) (step : r.move? steps m = some s) :
    Consistent steps users s := by
  cases move?_eq_some_iff.1 step with
  | expire => exact ⟨h.size, h.balanced, h.ordered, h.sent, h.iterations⟩
  | look found =>
    have ordered := h.ordered _ (List.mem_of_getElem? found)
    refine h.update found (ordered.place ?_) h.balanced rfl ?_
    · split
      · rfl
      · exact Place.toDo_performing steps steps
    · split
      · rfl
      · simp only [Place.recorded, Place.toDo_performing]
        rfl
  | reply sample found =>
    have ordered := h.ordered _ (List.mem_of_getElem? found)
    have room := ordered.toDo_le
    refine h.update found ordered.reply (h.balanced.record sample) ?_ ?_
    · simp
      omega
    · -- one step less to do is one more recorded, since no more than all were to be done
      simp only [Place.toDo, List.length_cons] at room
      simp only [Metrics.total_record, Place.recorded, Place.toDo_performing]
      simp only [Place.toDo, List.length_cons]
      omega
  | crash found =>
    have ordered := h.ordered _ (List.mem_of_getElem? found)
    exact h.update found (ordered.place (q := .crashed _ _) rfl) h.balanced rfl rfl
  | count found =>
    have ordered := h.ordered _ (List.mem_of_getElem? found)
    refine h.update found ordered.count h.balanced rfl ?_
    simp only [Place.recorded, Place.toDo, List.length_nil, Nat.succ_mul]
    omega

theorem Reachable.consistent {steps : List Step} {users : Nat} {r : Run}
    (h : Reachable steps users r) : Consistent steps users r := by
  induction h with
  | start => exact consistent_start steps users
  | move m _ step ih => exact ih.move step

theorem Consistent.map_users {steps : List Step} {users : Nat} {r : Run}
    (h : Consistent steps users r) {α : Type} {f : User → α} {a : α}
    (same : ∀ user ∈ r.users, f user = a) : r.users.map f = List.replicate users a := by
  rw [List.map_eq_replicate_iff.2 same, h.size]

theorem Consistent.sum_users {steps : List Step} {users : Nat} {r : Run}
    (h : Consistent steps users r) {f : User → Nat} {n : Nat}
    (same : ∀ user ∈ r.users, f user = n) : (r.users.map f).sum = users * n := by
  rw [h.map_users same, List.sum_replicate_nat]

theorem Consistent.total_of_left {steps : List Step} {users : Nat} {r : Run}
    (h : Consistent steps users r) (left : ∀ user ∈ r.users, user.place = .left) :
    r.metrics.total = r.iterations * steps.length := by
  have none : ∀ user ∈ r.users, user.place.recorded steps = 0 := by
    intro user member
    simp [left user member, Place.recorded, Place.toDo]
  rw [h.iterations, h.sum_users none, Nat.mul_zero, Nat.add_zero]

end Run
end Barrage
