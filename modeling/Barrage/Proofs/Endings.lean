import Barrage.Proofs.Turns

/-! How users come to their end.
A number that falls with every move of a user bounds the moves that it still makes. So a schedule
that gives it as many turns sees it end, and so does letting it go on for as many steps: going on,
for one user or for all in turn, is a schedule of its own. -/

namespace Barrage

@[simp] theorem Place.performing_ne_left (l : List Step) : Place.performing l ≠ .left := by
  cases l <;> simp [Place.performing]

namespace User

def isDown (user : User) : Bool :=
  match user.place with
  | .crashed _ _ => true
  | _ => false

theorem place_eq_left {user : User} (done : user.ended) (up : user.isDown = false) :
    user.place = .left := by
  obtain ⟨place, sent⟩ := user
  cases place <;> simp [ended, isDown] at done up ⊢

end User

/-- A number that falls with each move of users that keep a property and may go on. -/
structure Countdown (steps : List Step) (t : Transport) (expired : Bool) (may : User → Bool)
    (I : User → Prop) (number : User → Nat) : Prop where
  keep : ∀ u user, I user → may user → user.ended = false → I (user.step steps t expired u)
  fall : ∀ u user, I user → may user → user.ended = false →
    number (user.step steps t expired u) < number user

namespace Run
variable {steps : List Step} {t : Transport} {expired : Bool} {may : User → Bool}
  {I : User → Prop} {number : User → Nat}

theorem ended_iterate (h : Countdown steps t expired (fun _ => true) I number) (u : Nat)
    {user : User} (start : I user) {k : Nat} (enough : number user ≤ k) :
    ((User.step steps t expired u)^[k] user).ended ∧
      I ((User.step steps t expired u)^[k] user) := by
  induction k generalizing user with
  | zero =>
    by_cases done : user.ended
    · exact ⟨done, start⟩
    · have less := h.fall u user start rfl (by simpa using done)
      omega
  | succ k ih =>
    rw [Function.iterate_succ_apply]
    by_cases done : user.ended
    · rw [User.step_of_ended done, Function.iterate_fixed (User.step_of_ended done _ _ _ _)]
      exact ⟨done, start⟩
    · have less := h.fall u user start rfl (by simpa using done)
      exact ih (h.keep u user start rfl (by simpa using done)) (by omega)

theorem advance_stop {r : Run} {u : Nat} (fuel : Nat)
    (h : ∀ user, r.users[u]? = some user → may user → user.ended) :
    advance steps t may u fuel r = r := by
  cases fuel with
  | zero => rfl
  | succ fuel =>
    rw [advance]
    cases found : r.users[u]? with
    | none => rfl
    | some user =>
      by_cases goes : may user
      · have done := h user found goes
        obtain ⟨place, sent⟩ := user
        cases place <;> simp [User.ended] at done <;> simp [goes, next?]
      · simp [goes]

theorem advance_go {r : Run} {u : Nat} {user : User} (found : r.users[u]? = some user)
    (goes : may user) (active : user.ended = false) (fuel : Nat) :
    advance steps t may u (fuel + 1) r =
      advance steps t may u fuel (r.turn steps t (.user u)) := by
  rw [advance, turn]
  obtain ⟨place, sent⟩ := user
  cases place with
  | left => simp [User.ended] at active
  | crashed step rest => simp [User.ended] at active
  | deciding => simp [found, goes, next?, move?]
  | counting => simp [found, goes, next?, move?]
  | waiting step rest =>
    cases answer : t u sent.length <;> simp [found, goes, next?, move?, answer]

theorem advance_eq_turns (h : Countdown steps t expired may I number) (u fuel : Nat) {r : Run}
    (same : r.expired = expired) {user : User} (found : r.users[u]? = some user)
    (start : I user) (enough : number user ≤ fuel) :
    ∃ k, advance steps t may u fuel r = r.turns steps t (List.replicate k (.user u)) ∧
      ∀ final, (advance steps t may u fuel r).users[u]? = some final →
        I final ∧ (may final → final.ended) := by
  induction fuel generalizing r user with
  | zero =>
    refine ⟨0, rfl, fun final hfinal => ?_⟩
    obtain rfl : user = final := Option.some.inj (found.symm.trans hfinal)
    refine ⟨start, fun goes => ?_⟩
    by_contra active
    have less := h.fall u user start goes (by simpa using active)
    omega
  | succ fuel ih =>
    by_cases stopped : may user → user.ended
    · have stay : advance steps t may u (fuel + 1) r = r := by
        refine advance_stop _ fun other hother => ?_
        rwa [← Option.some.inj (found.symm.trans hother)]
      rw [stay]
      refine ⟨0, rfl, fun final hfinal => ?_⟩
      obtain rfl : user = final := Option.some.inj (found.symm.trans hfinal)
      exact ⟨start, stopped⟩
    · obtain ⟨goes, active⟩ := Classical.not_imp.1 stopped
      have active : user.ended = false := by simpa using active
      have less := h.fall u user start goes active
      have next : (r.turn steps t (.user u)).users[u]? =
          some (user.step steps t expired u) := by
        rw [users_turn, List.getElem?_modify, found, same]
        simp
      rw [advance_go found goes active]
      obtain ⟨k, turned, final⟩ :=
        ih ((expired_turn r u).trans same) next (h.keep u user start goes active) (by omega)
      exact ⟨k + 1, turned, final⟩

theorem not_mem_replicate (u k : Nat) : Turn.deadline ∉ List.replicate k (Turn.user u) := by
  simp [List.mem_replicate]

theorem getElem?_turns_other (r : Run) {u v : Nat} (h : u ≠ v) (k : Nat) :
    (r.turns steps t (List.replicate k (.user u))).users[v]? = r.users[v]? := by
  rw [getElem?_turns r _ v (.inr (not_mem_replicate u k)), List.count_replicate]
  simp [h]

theorem advanceAll_eq_turns (h : Countdown steps t expired may I number) (fuel : Nat) {r : Run}
    (same : r.expired = expired) (ready : ∀ user ∈ r.users, I user ∧ number user ≤ fuel) :
    ∃ schedule, Turn.deadline ∉ schedule ∧
      advanceAll steps t may fuel r = r.turns steps t schedule ∧
      ∀ final ∈ (advanceAll steps t may fuel r).users, I final ∧ (may final → final.ended) := by
  have upTo (n : Nat) (hn : n ≤ r.users.length) : ∃ schedule, Turn.deadline ∉ schedule ∧
      let s := (List.range n).foldl (fun s u => advance steps t may u fuel s) r
      s = r.turns steps t schedule ∧ ∀ v final, s.users[v]? = some final →
        (v < n → I final ∧ (may final → final.ended)) ∧ (n ≤ v → r.users[v]? = some final) := by
    induction n with
    | zero => exact ⟨[], by simp, rfl, fun v final found => ⟨by simp, fun _ => found⟩⟩
    | succ n ih =>
      obtain ⟨schedule, steady, turned, places⟩ := ih (by omega)
      rw [List.range_succ, List.foldl_append, List.foldl_cons, List.foldl_nil]
      generalize (List.range n).foldl (fun s u => advance steps t may u fuel s) r = s at *
      have bound : n < s.users.length := by
        rw [turned, length_users_turns]
        omega
      have found := List.getElem?_eq_getElem bound
      have waiting := List.mem_of_getElem? ((places n _ found).2 le_rfl)
      obtain ⟨k, goes, stops⟩ := advance_eq_turns h n fuel
        ((congrArg Run.expired turned).trans ((expired_turns r steady).trans same)) found
        (ready _ waiting).1 (ready _ waiting).2
      refine ⟨schedule ++ List.replicate k (.user n), ?_, ?_, fun v final hv => ?_⟩
      · simp [steady]
      · rw [turns_append, ← turned, goes]
      · by_cases hvn : v = n
        · subst hvn
          exact ⟨fun _ => stops final hv, fun hlt => absurd hlt (by omega)⟩
        · rw [goes, getElem?_turns_other s (Ne.symm hvn)] at hv
          have before := places v final hv
          exact ⟨fun hlt => before.1 (by omega), fun hle => before.2 (by omega)⟩
  obtain ⟨schedule, steady, turned, places⟩ := upTo r.users.length le_rfl
  refine ⟨schedule, steady, turned, fun final member => ?_⟩
  obtain ⟨v, found⟩ := List.mem_iff_getElem?.1 member
  have bound : v < r.users.length := by
    have inside := (List.getElem?_eq_some_iff.1 found).1
    rwa [show advanceAll steps t may fuel r = _ from turned, length_users_turns] at inside
  exact (places v final found).1 bound

end Run
end Barrage
