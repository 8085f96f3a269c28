import Barrage.Text.Percent

/-! Texts through their encodings.
The bytes of a text decode to its characters and nothing is replaced in them. Percent-encoding goes
back to the same bytes, whatever is encoded besides the percent sign. -/

namespace Barrage

theorem toList_loop (b : ByteArray) (i : Nat) (taken : List UInt8) :
    ByteArray.toList.loop b i taken = taken.reverse ++ b.data.toList.drop i := by
  fun_induction ByteArray.toList.loop b i taken with
  | case1 i taken within ih =>
    have bound : i < b.data.toList.length := by simpa using within
    have next : b.get! i = b.data[i] := getElem!_pos b.data i within
    rw [ih, List.drop_eq_getElem_cons bound, next]
    simp
  | case2 i taken beyond =>
    have none : b.data.toList.drop i = [] :=
      List.drop_eq_nil_of_le (by simpa using Nat.le_of_not_lt beyond)
    simp [none]

namespace Text

theorem splitAt_of_not_mem {c : Char} {cs : List Char} (h : c ∉ cs) : splitAt c cs = [cs] := by
  induction cs with
  | nil => rfl
  | cons d cs ih =>
    rw [List.mem_cons, not_or] at h
    rw [splitAt, if_neg (Ne.symm h.1), ih h.2]

theorem splitAt_ne_nil (c : Char) (cs : List Char) : splitAt c cs ≠ [] := by
  cases cs with
  | nil => simp [splitAt]
  | cons d cs =>
    rw [splitAt]
    split
    · simp
    · split <;> simp

theorem splitAt_append_cons (c : Char) (cs rest : List Char) :
    splitAt c (cs ++ c :: rest) = splitAt c cs ++ splitAt c rest := by
  induction cs with
  | nil => exact if_pos rfl
  | cons d cs ih =>
    rw [List.cons_append, splitAt, splitAt, ih]
    split
    · rfl
    · obtain ⟨piece, pieces, first⟩ := List.exists_cons_of_ne_nil (splitAt_ne_nil c cs)
      rw [first]
      rfl

theorem splitAt_append {c : Char} {cs : List Char} (h : c ∉ cs) (rest : List Char) :
    splitAt c (cs ++ c :: rest) = cs :: splitAt c rest := by
  rw [splitAt_append_cons, splitAt_of_not_mem h]
  rfl

end Text

namespace Percent

theorem utf8_eq (cs : List Char) : utf8 cs = cs.flatMap String.utf8EncodeChar := by
  have bytes : (String.ofList cs).toUTF8 = (cs.flatMap String.utf8EncodeChar).toByteArray := rfl
  rw [utf8, bytes, ByteArray.toList, toList_loop]
  simp

end Percent

namespace Symbol

def Continues (b : UInt8) : Prop := 0x80 ≤ b.toNat ∧ b.toNat ≤ 0xBF

theorem Continues.isContinuation {b : UInt8} (h : Continues b) : isContinuation b = true := by
  unfold Continues at h
  simpa [Symbol.isContinuation, UInt8.le_iff_toNat_le] using h

theorem headChar?_one {a : UInt8} (first : a.toNat < 0x80) (rest : List UInt8) :
    headChar? (a :: rest) = some (Char.ofNat a.toNat, 1) := by
  unfold headChar?
  exact if_pos (UInt8.lt_iff_toNat_lt.2 first)

theorem headChar?_two {a b : UInt8} (first : 0xC2 ≤ a.toNat ∧ a.toNat ≤ 0xDF)
    (second : Continues b) (rest : List UInt8) :
    headChar? (a :: b :: rest) = some (Char.ofNat (a.toNat % 32 * 64 + b.toNat % 64), 2) := by
  have one : ¬ a < 0x80 := by
    simp [UInt8.le_iff_toNat_le]
    omega
  have two : (0xC2 ≤ a && a ≤ 0xDF) = true := by
    simpa [UInt8.le_iff_toNat_le] using first
  unfold headChar?
  exact (if_neg one).trans <| (if_pos two).trans <| if_pos second.isContinuation

theorem headChar?_three {a b c : UInt8} (first : 0xE0 ≤ a.toNat ∧ a.toNat ≤ 0xEF)
    (second : Continues b) (third : Continues c) (short : a.toNat = 0xE0 → 0xA0 ≤ b.toNat)
    (surrogate : a.toNat = 0xED → b.toNat ≤ 0x9F) (rest : List UInt8) :
    headChar? (a :: b :: c :: rest) =
      some (Char.ofNat (a.toNat % 16 * 4096 + b.toNat % 64 * 64 + c.toNat % 64), 3) := by
  have one : ¬ a < 0x80 := by
    simp [UInt8.le_iff_toNat_le]
    omega
  have two : ¬ (0xC2 ≤ a && a ≤ 0xDF) = true := by
    simp [UInt8.le_iff_toNat_le]
    omega
  have three : (0xE0 ≤ a && a ≤ 0xEF) = true := by
    simpa [UInt8.le_iff_toNat_le] using first
  have bounds : (isContinuation b && isContinuation c && (a != 0xE0 || 0xA0 ≤ b) &&
      (a != 0xED || b ≤ 0x9F)) = true := by
    simp [second.isContinuation, third.isContinuation, UInt8.le_iff_toNat_le, ← UInt8.toNat_inj]
    omega
  unfold headChar?
  exact (if_neg one).trans <| (if_neg two).trans <| (if_pos three).trans <| if_pos bounds

theorem headChar?_four {a b c d : UInt8} (first : 0xF0 ≤ a.toNat ∧ a.toNat ≤ 0xF4)
    (second : Continues b) (third : Continues c) (fourth : Continues d)
    (short : a.toNat = 0xF0 → 0x90 ≤ b.toNat) (long : a.toNat = 0xF4 → b.toNat ≤ 0x8F)
    (rest : List UInt8) :
    headChar? (a :: b :: c :: d :: rest) = some (Char.ofNat (a.toNat % 8 * 262144 +
      b.toNat % 64 * 4096 + c.toNat % 64 * 64 + d.toNat % 64), 4) := by
  have one : ¬ a < 0x80 := by
    simp [UInt8.le_iff_toNat_le]
    omega
  have two : ¬ (0xC2 ≤ a && a ≤ 0xDF) = true := by
    simp [UInt8.le_iff_toNat_le]
    omega
  have three : ¬ (0xE0 ≤ a && a ≤ 0xEF) = true := by
    simp [UInt8.le_iff_toNat_le]
    omega
  have four : (0xF0 ≤ a && a ≤ 0xF4) = true := by
    simpa [UInt8.le_iff_toNat_le] using first
  have bounds : (isContinuation b && isContinuation c && isContinuation d &&
      (a != 0xF0 || 0x90 ≤ b) && (a != 0xF4 || b ≤ 0x8F)) = true := by
    simp [second.isContinuation, third.isContinuation, fourth.isContinuation,
      UInt8.le_iff_toNat_le, ← UInt8.toNat_inj]
    omega
  unfold headChar?
  exact (if_neg one).trans <| (if_neg two).trans <| (if_neg three).trans <| (if_pos four).trans <|
    if_pos bounds

theorem headChar?_utf8EncodeChar (c : Char) (rest : List UInt8) :
    headChar? (String.utf8EncodeChar c ++ rest) = some (c, (String.utf8EncodeChar c).length) := by
  have valid : c.toNat < 0xD800 ∨ 0xDFFF < c.toNat ∧ c.toNat < 0x110000 := by
    simpa [UInt32.isValidChar, Nat.isValidChar] using c.valid
  have back : Char.ofNat c.toNat = c := c.ofNat_toNat
  have value : c.val.toNat = c.toNat := rfl
  have ofByte {n : Nat} (small : n < 256) : (UInt8.ofNat n).toNat = n :=
    UInt8.toNat_ofNat_of_lt' small
  have low (n : Nat) : (UInt8.ofNat (n % 64 + 0x80)).toNat = n % 64 + 0x80 :=
    ofByte (by omega)
  have continues (n : Nat) : Continues (UInt8.ofNat (n % 64 + 0x80)) := by
    rw [Continues, low]
    omega
  unfold String.utf8EncodeChar
  rw [value]
  generalize c.toNat = n at *
  -- one case for each number of bytes; that there is no surrogate matters for three of them
  by_cases one : n ≤ 0x7F
  · have first : (UInt8.ofNat n).toNat = n := ofByte (by omega)
    simp only [if_pos one]
    exact (headChar?_one (by omega) rest).trans (by rw [first, back]; rfl)
  by_cases two : n ≤ 0x7FF
  · have first : (UInt8.ofNat (n / 64 % 32 + 0xC0)).toNat = n / 64 % 32 + 0xC0 :=
      ofByte (by omega)
    have whole : (n / 64 % 32 + 0xC0) % 32 * 64 + (n % 64 + 0x80) % 64 = n := by omega
    simp only [if_neg one, if_pos two]
    refine (headChar?_two (by omega) (continues _) rest).trans ?_
    rw [first, low, whole, back]
    rfl
  by_cases three : n ≤ 0xFFFF
  · have first : (UInt8.ofNat (n / 4096 % 16 + 0xE0)).toNat = n / 4096 % 16 + 0xE0 :=
      ofByte (by omega)
    have whole : (n / 4096 % 16 + 0xE0) % 16 * 4096 + (n / 64 % 64 + 0x80) % 64 * 64 +
        (n % 64 + 0x80) % 64 = n := by omega
    have second := low (n / 64)
    simp only [if_neg one, if_neg two, if_pos three]
    refine (headChar?_three (by omega) (continues _) (continues _) (by omega) (by omega)
      rest).trans ?_
    rw [first, second, low, whole, back]
    rfl
  · have first : (UInt8.ofNat (n / 262144 % 8 + 0xF0)).toNat = n / 262144 % 8 + 0xF0 :=
      ofByte (by omega)
    have whole : (n / 262144 % 8 + 0xF0) % 8 * 262144 + (n / 4096 % 64 + 0x80) % 64 * 4096 +
        (n / 64 % 64 + 0x80) % 64 * 64 + (n % 64 + 0x80) % 64 = n := by omega
    have second := low (n / 4096)
    have third := low (n / 64)
    simp only [if_neg one, if_neg two, if_neg three]
    refine (headChar?_four (by omega) (continues _) (continues _) (continues _) (by omega)
      (by omega) rest).trans ?_
    rw [first, second, third, low, whole, back]
    rfl

theorem exists_utf8EncodeChar (c : Char) :
    ∃ a later, String.utf8EncodeChar c = a :: later :=
  List.exists_cons_of_length_pos (String.length_utf8EncodeChar c ▸ c.utf8Size_pos)

theorem decode_skip (acc : List Symbol) (taken rest : List UInt8) :
    decode acc taken.length (taken ++ rest) = decode acc 0 rest := by
  induction taken with
  | nil => rfl
  | cons a taken ih => exact ih

theorem replaceBroken_skip (acc : List Char) (taken rest : List UInt8) :
    replaceBroken acc taken.length (taken ++ rest) = replaceBroken acc 0 rest := by
  induction taken with
  | nil => rfl
  | cons a taken ih => exact ih

theorem decode_utf8EncodeChar (acc : List Symbol) (c : Char) (rest : List UInt8) :
    decode acc 0 (String.utf8EncodeChar c ++ rest) = decode (.char c :: acc) 0 rest := by
  have head := headChar?_utf8EncodeChar c rest
  obtain ⟨a, later, bytes⟩ := exists_utf8EncodeChar c
  rw [bytes] at head ⊢
  rw [List.cons_append] at head ⊢
  rw [decode, head]
  exact decode_skip _ later rest

theorem replaceBroken_utf8EncodeChar (acc : List Char) (c : Char) (rest : List UInt8) :
    replaceBroken acc 0 (String.utf8EncodeChar c ++ rest) = replaceBroken (c :: acc) 0 rest := by
  have head := headChar?_utf8EncodeChar c rest
  obtain ⟨a, later, bytes⟩ := exists_utf8EncodeChar c
  rw [bytes] at head ⊢
  rw [List.cons_append] at head ⊢
  rw [replaceBroken, head]
  exact replaceBroken_skip _ later rest

theorem decode_utf8 (acc : List Symbol) (cs : List Char) :
    decode acc 0 (Percent.utf8 cs) = acc.reverse ++ cs.map .char := by
  rw [Percent.utf8_eq]
  induction cs generalizing acc with
  | nil => simp [decode]
  | cons c cs ih =>
    rw [List.flatMap_cons, decode_utf8EncodeChar, ih]
    simp

theorem replaceBroken_utf8 (acc cs : List Char) :
    replaceBroken acc 0 (Percent.utf8 cs) = acc.reverse ++ cs := by
  rw [Percent.utf8_eq]
  induction cs generalizing acc with
  | nil => simp [replaceBroken]
  | cons c cs ih =>
    rw [List.flatMap_cons, replaceBroken_utf8EncodeChar, ih]
    simp

theorem text?_char (cs : List Char) : text? (cs.map .char) = some (String.ofList cs) := by
  have all : (cs.map Symbol.char).mapM char? = some cs := by
    induction cs with
    | nil => rfl
    | cons c cs ih => simp [ih, char?]
  rw [text?, all]
  rfl

theorem textOfBytes?_utf8 (cs : List Char) :
    textOfBytes? (Percent.utf8 cs) = some (String.ofList cs) := by
  rw [textOfBytes?, ofBytes, decode_utf8]
  exact text?_char cs

end Symbol

namespace Percent

theorem hexValue?_capital : ∀ n < 16, Text.hexValue? (Text.hexDigit true n) = some n := by
  decide

theorem capital_isAlphanum : ∀ n < 16, (Text.hexDigit true n).isAlphanum = true := by decide

theorem decode_encodeByte (b : UInt8) (rest : List Char) :
    decode (encodeByte b ++ rest) = b :: decode rest := by
  have small := b.toNat_lt
  have high := hexValue?_capital (b.toNat / 16) (by omega)
  have low := hexValue?_capital (b.toNat % 16) (by omega)
  have whole : b.toNat / 16 * 16 + b.toNat % 16 = b.toNat := by omega
  rw [encodeByte, List.cons_append, List.cons_append, List.cons_append, decode, high, low]
  simp [whole]

theorem decode_encodeBytes (bytes : List UInt8) (rest : List Char) :
    decode (bytes.flatMap encodeByte ++ rest) = bytes ++ decode rest := by
  induction bytes with
  | nil => rfl
  | cons b bytes ih =>
    rw [List.flatMap_cons, List.append_assoc, decode_encodeByte, ih]
    rfl

theorem decode_plain {c : Char} (h : c ≠ '%') (rest : List Char) :
    decode (c :: rest) = utf8 [c] ++ decode rest := by
  rw [decode]
  exact fun _ _ _ same => absurd same h

theorem utf8_nil : utf8 [] = [] := by rw [utf8_eq, List.flatMap_nil]

theorem utf8_cons (c : Char) (cs : List Char) : utf8 (c :: cs) = utf8 [c] ++ utf8 cs := by
  simp [utf8_eq]

variable {special : Char → Bool}

theorem encode_cons (c : Char) (cs : List Char) :
    encode special (c :: cs) = (if special c || 127 ≤ c.toNat || c.toNat < 32 then
      (utf8 [c]).flatMap encodeByte else [c]) ++ encode special cs :=
  List.flatMap_cons

theorem decode_encode (percent : special '%' = true) (cs : List Char) :
    decode (encode special cs) = utf8 cs := by
  induction cs with
  | nil => exact utf8_nil.symm
  | cons c cs ih =>
    rw [encode_cons, utf8_cons c cs]
    split
    · rw [decode_encodeBytes, ih]
    · next plain =>
      have other : c ≠ '%' := by
        rintro rfl
        simp [percent] at plain
      exact (decode_plain other _).trans (congrArg _ ih)

theorem decodeText?_encode (percent : special '%' = true) (cs : List Char) :
    decodeText? (encode special cs) = some (String.ofList cs) := by
  rw [decodeText?, decode_encode percent, Symbol.textOfBytes?_utf8]

theorem mem_encode {c : Char} {cs : List Char} (h : c ∈ encode special cs) :
    c = '%' ∨ c.isAlphanum = true ∨ special c = false := by
  obtain ⟨d, -, piece⟩ := List.mem_flatMap.1 h
  split at piece
  · obtain ⟨b, -, digit⟩ := List.mem_flatMap.1 piece
    have small := b.toNat_lt
    simp only [encodeByte, List.mem_cons, List.not_mem_nil, or_false] at digit
    obtain rfl | rfl | rfl := digit
    · exact .inl rfl
    · exact .inr (.inl (capital_isAlphanum _ (by omega)))
    · exact .inr (.inl (capital_isAlphanum _ (by omega)))
  · next plain =>
    obtain rfl := List.mem_singleton.1 piece
    simp only [Bool.or_eq_true, not_or] at plain
    exact .inr (.inr (Bool.eq_false_iff.2 plain.1.1))

theorem not_mem_encode {c : Char} (sign : c ≠ '%') (other : c.isAlphanum = false)
    (encoded : special c = true) (cs : List Char) : c ∉ encode special cs := by
  intro member
  obtain same | letter | plain := mem_encode member
  · exact sign same
  · simp [other] at letter
  · simp [encoded] at plain

theorem encode_eq_nil_iff (cs : List Char) : encode special cs = [] ↔ cs = [] := by
  refine ⟨fun empty => ?_, by rintro rfl; rfl⟩
  cases cs with
  | nil => rfl
  | cons c cs =>
    obtain ⟨a, later, bytes⟩ := Symbol.exists_utf8EncodeChar c
    rw [encode_cons] at empty
    split at empty
    · simp [utf8_eq, bytes, encodeByte] at empty
    · cases empty

theorem decodeForm_encode (percent : special '%' = true) (plus : special '+' = true)
    (cs : List Char) : decodeForm (encode special cs) = String.ofList cs := by
  have absent : '+' ∉ encode special cs := not_mem_encode (by decide) (by decide) plus cs
  have same : (encode special cs).map (fun c => if c = '+' then ' ' else c) =
      encode special cs := by
    refine (List.map_congr_left fun c member => ?_).trans (List.map_id _)
    refine if_neg ?_
    rintro rfl
    exact absent member
  rw [decodeForm, same, decode_encode percent, Symbol.replaceBroken_utf8]
  rfl

theorem formPairs_encode (percent : special '%' = true) (plus : special '+' = true)
    (ampersand : special '&' = true) {name : List Char} (whole : '&' ∉ name) (plain : '=' ∉ name)
    (cs : List Char) :
    formPairs (name ++ '=' :: encode special cs) = [(decodeForm name, String.ofList cs)] := by
  have absent : '&' ∉ name ++ '=' :: encode special cs := by
    simpa [whole] using not_mem_encode (by decide) (by decide) ampersand cs
  have ahead : ∀ c ∈ name, decide (c ≠ '=') = true := fun c member => by
    refine decide_eq_true ?_
    rintro rfl
    exact plain member
  have key : (name ++ '=' :: encode special cs).takeWhile (· ≠ '=') = name :=
    (List.takeWhile_append_of_pos ahead).trans (by simp)
  have value : (name ++ '=' :: encode special cs).dropWhile (· ≠ '=') =
      '=' :: encode special cs :=
    (List.dropWhile_append_of_pos ahead).trans (by simp)
  have kept : [name ++ '=' :: encode special cs].filter (· ≠ []) =
      [name ++ '=' :: encode special cs] := by simp
  rw [formPairs, Text.splitAt_of_not_mem absent, kept, List.map_singleton, key, value,
    List.drop_one, List.tail_cons, decodeForm_encode percent plus]

end Percent
end Barrage
