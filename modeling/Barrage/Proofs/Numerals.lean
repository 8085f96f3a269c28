import Barrage.Proofs.Reading

/-! Numbers of any writing inside of documents.
A number is read up to the first character that is none of its own, so what is behind it in a
document does not change what it is read as. A number that comes back from its own digits comes back
from every document. -/

namespace Barrage.Json

/-- What stands behind a value is passed on. -/
def PassesOn (read : Reader α) : Prop :=
  ∀ {s after rest : List Symbol} {a : α}, Ends rest → read s = .ok (a, after) →
    read (s ++ rest) = .ok (a, after ++ rest)

section
variable {rest : List Symbol} (ends : Ends rest)
include ends

theorem digit?_of_ends : ∀ a ∈ rest.head?, digit? a = none := by
  intro a ha
  rcases ends a ha with rfl | rfl | rfl | rfl <;> rfl

theorem startsWithDigit_append (s : List Symbol) :
    startsWithDigit (s ++ rest) = startsWithDigit s := by
  cases s with
  | nil => exact ends.startsWithDigit
  | cons a s => rfl

theorem skipDigits_append (s : List Symbol) : skipDigits (s ++ rest) = skipDigits s ++ rest := by
  induction s with
  | nil =>
    cases rest with
    | nil => rfl
    | cons a rest => simp [skipDigits, digit?_of_ends ends a rfl]
  | cons a s ih =>
    cases digit : digit? a with
    | none => simp [skipDigits, digit]
    | some d => simpa [skipDigits, digit] using ih

theorem takeDigits_append_ends (bound acc count : Nat) (s : List Symbol) :
    takeDigits bound acc count (s ++ rest) =
      ((takeDigits bound acc count s).1, (takeDigits bound acc count s).2.1,
        (takeDigits bound acc count s).2.2 ++ rest) := by
  induction s generalizing acc count with
  | nil =>
    cases rest with
    | nil => rfl
    | cons a rest => simp [takeDigits, digit?_of_ends ends a rfl]
  | cons a s ih =>
    rw [List.cons_append, takeDigits, takeDigits]
    cases digit? a with
    | none => rfl
    | some d =>
      dsimp only
      split
      · rw [ih]
      · rfl

end

theorem passesOn_decimal (negative : Bool) (significand : Nat) (exponent : Int) :
    PassesOn (decimal negative significand exponent) := by
  intro s after rest a _ h
  unfold decimal at h ⊢
  split at h
  · cases h
    rfl
  · cases h

theorem passesOn_readPower (negative : Bool) (significand : Nat) (start : Int) (up : Bool) :
    PassesOn (readPower negative significand start up) := by
  intro s after rest a ends h
  cases s with
  | nil => cases h
  | cons b s =>
    simp only [List.cons_append, readPower] at h ⊢
    cases digit : digit? b with
    | none => simp [digit] at h
    | some d =>
      simp only [digit, takeDigits_append_ends ends, startsWithDigit_append ends,
        skipDigits_append ends] at h ⊢
      split at h
      · next more =>
        rw [if_pos more]
        split at h
        · cases h
        · next small =>
          cases h
          rw [if_neg small]
      · next whole =>
        rw [if_neg whole]
        exact passesOn_decimal _ _ _ ends h

theorem passesOn_readExponent (negative : Bool) (significand : Nat) (start : Int) :
    PassesOn (readExponent negative significand start) := by
  intro s after rest a ends h
  cases s with
  | nil => cases h
  | cons b s =>
    have sign : exponentSign (b :: s ++ rest) =
        ((exponentSign (b :: s)).1, (exponentSign (b :: s)).2 ++ rest) := by
      simp only [List.cons_append, exponentSign]
      split <;> simp_all
    simp only [readExponent, sign] at h ⊢
    exact passesOn_readPower _ _ _ _ ends h

/-- A rest that begins neither with a point nor with the letter of an exponent. -/
def NoPart (s : List Symbol) : Prop :=
  ∀ a ∈ s.head?, a ≠ .char '.' ∧ a ≠ .char 'e' ∧ a ≠ .char 'E'

theorem Ends.noPart {rest : List Symbol} (ends : Ends rest) : NoPart rest := by
  intro a ha
  rcases ends a ha with rfl | rfl | rfl | rfl <;> decide

theorem NoPart.append {s rest : List Symbol} (h : NoPart s) (ends : Ends rest) :
    NoPart (s ++ rest) := by
  cases s with
  | nil => exact ends.noPart
  | cons b s => exact h

theorem NoPart.readScale {s : List Symbol} (h : NoPart s) (negative : Bool) (significand : Nat)
    (exponent : Int) :
    readScale negative significand exponent s = decimal negative significand exponent s := by
  unfold Json.readScale
  split
  · exact absurd rfl (h _ rfl).2.1
  · exact absurd rfl (h _ rfl).2.2
  · rfl

theorem noPart_or (s : List Symbol) : NoPart s ∨
    ∃ t, s = .char '.' :: t ∨ s = .char 'e' :: t ∨ s = .char 'E' :: t := by
  rcases s with _ | ⟨b, t⟩
  · exact .inl (by simp [NoPart])
  · by_cases part : b = .char '.' ∨ b = .char 'e' ∨ b = .char 'E'
    · refine .inr ⟨t, ?_⟩
      rcases part with rfl | rfl | rfl <;> simp
    · refine .inl fun a ha => ?_
      obtain rfl : b = a := by simpa using ha
      simpa only [not_or] using part

theorem passesOn_readScale (negative : Bool) (significand : Nat) (exponent : Int) :
    PassesOn (readScale negative significand exponent) := by
  intro s after rest a ends h
  rcases noPart_or s with plain | ⟨t, rfl | rfl | rfl⟩
  · rw [plain.readScale] at h
    rw [(plain.append ends).readScale]
    exact passesOn_decimal _ _ _ ends h
  · exact passesOn_decimal _ _ _ (s := .char '.' :: t) ends h
  · exact passesOn_readExponent _ _ _ (s := t) ends h
  · exact passesOn_readExponent _ _ _ (s := t) ends h

theorem passesOn_readFraction (negative : Bool) (significand : Nat) (exponent : Int) :
    PassesOn (readFraction negative significand exponent) := by
  intro s after rest a ends h
  simp only [readFraction, takeDigits_append_ends ends, startsWithDigit_append ends,
    skipDigits_append ends] at h ⊢
  split at h
  · next more =>
    rw [if_pos more]
    exact passesOn_readScale _ _ _ ends h
  · next whole =>
    rw [if_neg whole]
    split at h
    · split at h <;> cases h
    · next some =>
      rw [if_neg some]
      exact passesOn_readScale _ _ _ ends h

theorem NoPart.readWhole {s : List Symbol} (h : NoPart s) (negative : Bool) (n : Nat) :
    readWhole negative n s =
      if negative then
        if n = 0 ∨ 9223372036854775808 < n then .ok (.real ((Binary64.ofNat n).withSign true), s)
        else .ok (.negative n, s)
      else .ok (.natural (UInt64.ofNat n), s) := by
  unfold Json.readWhole
  split
  · exact absurd rfl (h _ rfl).1
  · exact absurd rfl (h _ rfl).2.1
  · exact absurd rfl (h _ rfl).2.2
  · rfl

theorem passesOn_readWhole (negative : Bool) (n : Nat) : PassesOn (readWhole negative n) := by
  intro s after rest a ends h
  rcases noPart_or s with plain | ⟨t, rfl | rfl | rfl⟩
  · rw [plain.readWhole] at h
    rw [(plain.append ends).readWhole]
    split at h
    · next below =>
      rw [if_pos below]
      split at h
      · next great =>
        cases h
        rw [if_pos great]
      · next small =>
        cases h
        rw [if_neg small]
    · next above =>
      cases h
      rw [if_neg above]
  · exact passesOn_readFraction _ _ _ (s := t) ends h
  · exact passesOn_readExponent _ _ _ (s := t) ends h
  · exact passesOn_readExponent _ _ _ (s := t) ends h

theorem passesOn_readLong (negative : Bool) (n : Nat) : PassesOn (readLong negative n) := by
  intro s after rest a ends h
  have exponent : (s ++ rest).length - (skipDigits s ++ rest).length =
      s.length - (skipDigits s).length := by
    rw [List.length_append, List.length_append, Nat.add_sub_add_right]
  simp only [readLong, skipDigits_append ends, exponent] at h ⊢
  generalize skipDigits s = t at h ⊢
  split at h
  · exact passesOn_readFraction _ _ _ ends h
  · next other =>
    split
    · next u point =>
      -- the point is neither in the number nor behind it
      cases t with
      | nil =>
        rw [List.nil_append] at point
        exact absurd rfl (ends.noPart (.char '.') (by simp [point])).1
      | cons b t =>
        obtain ⟨rfl, -⟩ := List.cons.inj point
        exact (other t rfl).elim
    · exact passesOn_readScale _ _ _ ends h

theorem passesOn_readNumeral (negative : Bool) : PassesOn (readNumeral negative) := by
  intro s after rest a ends h
  cases s with
  | nil => cases h
  | cons b s =>
    rw [List.cons_append]
    simp only [readNumeral] at h ⊢
    cases first : digit? b with
    | none => simp [first] at h
    | some d =>
      simp only [first] at h ⊢
      cases d with
      | zero =>
        simp only [startsWithDigit_append ends] at h ⊢
        split at h
        · cases h
        · next last =>
          rw [if_neg last]
          exact passesOn_readWhole _ _ ends h
      | succ d =>
        simp only [takeDigits_append_ends ends, startsWithDigit_append ends] at h ⊢
        split at h
        · next long =>
          rw [if_pos long]
          exact passesOn_readLong _ _ ends h
        · next short =>
          rw [if_neg short]
          exact passesOn_readWhole _ _ ends h

theorem PassesOn.convert {read : Reader α} (passes : PassesOn read)
    (convert : α → Except Reason β) :
    PassesOn fun s => read s >>= fun r =>
      match convert r.1 with
      | .ok b => .ok (b, r.2)
      | .error reason => .error (.here reason r.2) := by
  intro s after rest b ends h
  obtain ⟨⟨n, left⟩, found, h⟩ := bind_eq_ok h
  dsimp only at h ⊢
  rw [passes ends found, ok_bind]
  dsimp only
  split at h
  · cases h
    rfl
  · cases h

theorem passesOn_readNumber {expected : String} {convert : Numeral → Except Reason α} {c : Char}
    (solid : c ∉ between) {t after rest : List Symbol} {a : α} (ends : Ends rest)
    (h : readNumber expected convert (.char c :: t) = .ok (a, after)) :
    readNumber expected convert (.char c :: (t ++ rest)) = .ok (a, after ++ rest) := by
  unfold readNumber at h ⊢
  rw [skipBlanks_of_not_mem solid] at h ⊢
  by_cases sign : c = '-'
  · subst sign
    exact PassesOn.convert (passesOn_readNumeral true) convert ends h
  · have digit : startsWithDigit (.char c :: (t ++ rest)) = startsWithDigit (.char c :: t) := rfl
    split at h
    · cases h
    · next same => simp_all
    · split at h
      · next first =>
        split
        · simp_all
        · simp_all
        · rw [digit, if_pos first]
          exact PassesOn.convert (passesOn_readNumeral false) convert ends h
      · cases h

end Barrage.Json

namespace Barrage
open Json

def Binary64.ReadsBack (x : Binary64) : Prop :=
  readReal ((realText x).map .char) = .ok (x, [])

theorem Binary64.ReadsBack.reads {x : Binary64} (h : x.ReadsBack) (l : Layout) :
    Reads readReal l (.real x) x := by
  intro depth s rest ends text
  obtain ⟨c, ds, writing, solid⟩ := (Value.real x).exists_write l depth
  rw [writing, List.map_cons, List.cons_append] at text
  rw [Value.write] at writing
  rw [ReadsBack, writing] at h
  have passed := passesOn_readNumber solid ends h
  rw [List.nil_append, readNumber, skipBlanks_of_not_mem solid] at passed
  rw [readReal, readNumber, text]
  exact passed

end Barrage
