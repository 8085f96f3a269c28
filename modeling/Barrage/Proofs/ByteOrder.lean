import Barrage.Proofs.Encodings

/-! The order of texts is that of their bytes.
Texts are compared character by character. In their encoding the bytes of a character decide against
those of a later one, whatever follows them, so the bytes of two texts are in the same order. -/

namespace Barrage

theorem cons_lt_of_lt {a b : Nat} (h : a < b) (small : b < 256) (rest more : List UInt8) :
    UInt8.ofNat a :: rest < UInt8.ofNat b :: more := by
  have left : (UInt8.ofNat a).toNat = a := UInt8.toNat_ofNat_of_lt' (Nat.lt_trans h small)
  have right : (UInt8.ofNat b).toNat = b := UInt8.toNat_ofNat_of_lt' small
  refine List.cons_lt_cons_iff.2 (.inl ?_)
  rwa [UInt8.lt_iff_toNat_lt, left, right]

theorem cons_lt_of_eq {a b : Nat} (h : a = b) {rest more : List UInt8} (later : rest < more) :
    UInt8.ofNat a :: rest < UInt8.ofNat b :: more :=
  List.cons_lt_cons_iff.2 (.inr ⟨congrArg _ h, later⟩)

theorem utf8EncodeChar_append_lt {c d : Char} (h : c < d) (rest more : List UInt8) :
    String.utf8EncodeChar c ++ rest < String.utf8EncodeChar d ++ more := by
  have less : c.val.toNat < d.val.toNat := UInt32.lt_iff_toNat_lt.1 h
  have bound : d.val.toNat < 0x110000 := by
    have valid : d.val.toNat < 0xD800 ∨ 0xDFFF < d.val.toNat ∧ d.val.toNat < 0x110000 := by
      simpa [UInt32.isValidChar, Nat.isValidChar] using d.valid
    omega
  unfold String.utf8EncodeChar
  generalize c.val.toNat = n at *
  generalize d.val.toNat = m at *
  -- with as many bytes, the groups of six bits decide from the highest on
  have last : n / 64 < m / 64 ∨ n / 64 = m / 64 ∧ n % 64 < m % 64 := by omega
  have third : n / 64 < m / 64 →
      n / 4096 < m / 4096 ∨ n / 4096 = m / 4096 ∧ n / 64 % 64 < m / 64 % 64 := by omega
  have second : n / 4096 < m / 4096 →
      n / 262144 < m / 262144 ∨ n / 262144 = m / 262144 ∧ n / 4096 % 64 < m / 4096 % 64 := by
    omega
  by_cases one : n ≤ 0x7F
  · simp only [if_pos one]
    split
    · exact cons_lt_of_lt less (by omega) _ _
    · split
      · exact cons_lt_of_lt (by omega) (by omega) _ _
      · split <;> exact cons_lt_of_lt (by omega) (by omega) _ _
  have one' : ¬ m ≤ 0x7F := by omega
  by_cases two : n ≤ 0x7FF
  · simp only [if_neg one, if_pos two, if_neg one']
    split
    · rcases last with high | ⟨same, low⟩
      · exact cons_lt_of_lt (by omega) (by omega) _ _
      · exact cons_lt_of_eq (by omega) (cons_lt_of_lt (by omega) (by omega) _ _)
    · split <;> exact cons_lt_of_lt (by omega) (by omega) _ _
  have two' : ¬ m ≤ 0x7FF := by omega
  by_cases three : n ≤ 0xFFFF
  · simp only [if_neg one, if_neg two, if_pos three, if_neg one', if_neg two']
    split
    · rcases last with high | ⟨same, low⟩
      · rcases third high with high | ⟨same, low⟩
        · exact cons_lt_of_lt (by omega) (by omega) _ _
        · exact cons_lt_of_eq (by omega) (cons_lt_of_lt (by omega) (by omega) _ _)
      · exact cons_lt_of_eq (by omega)
          (cons_lt_of_eq (by omega) (cons_lt_of_lt (by omega) (by omega) _ _))
    · exact cons_lt_of_lt (by omega) (by omega) _ _
  have three' : ¬ m ≤ 0xFFFF := by omega
  simp only [if_neg one, if_neg two, if_neg three, if_neg one', if_neg two', if_neg three']
  rcases last with high | ⟨same, low⟩
  · rcases third high with high | ⟨same, low⟩
    · rcases second high with high | ⟨same, low⟩
      · exact cons_lt_of_lt (by omega) (by omega) _ _
      · exact cons_lt_of_eq (by omega) (cons_lt_of_lt (by omega) (by omega) _ _)
    · exact cons_lt_of_eq (by omega)
        (cons_lt_of_eq (by omega) (cons_lt_of_lt (by omega) (by omega) _ _))
  · exact cons_lt_of_eq (by omega) (cons_lt_of_eq (by omega)
      (cons_lt_of_eq (by omega) (cons_lt_of_lt (by omega) (by omega) _ _)))

theorem utf8_lt {l m : List Char} (h : l < m) : Percent.utf8 l < Percent.utf8 m := by
  rw [Percent.utf8_eq, Percent.utf8_eq]
  induction h with
  | @nil c m =>
    obtain ⟨x, later, bytes⟩ := Symbol.exists_utf8EncodeChar c
    rw [List.flatMap_nil, List.flatMap_cons, bytes]
    exact List.nil_lt_cons _ _
  | cons _ ih =>
    rw [List.flatMap_cons, List.flatMap_cons]
    exact List.append_left_lt ih
  | rel first =>
    rw [List.flatMap_cons, List.flatMap_cons]
    exact utf8EncodeChar_append_lt first _ _

theorem bytes_lt {s t : String} (h : s < t) : s.toUTF8.toList < t.toUTF8.toList := by
  have less := utf8_lt (l := s.toList) (m := t.toList) h
  rwa [Percent.utf8, Percent.utf8, String.ofList_toList, String.ofList_toList] at less

end Barrage
