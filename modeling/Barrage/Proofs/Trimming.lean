import Mathlib.Data.List.DropRight
import Barrage.Text.Blank

/-! What trimming leaves.
Trimming takes blanks from both ends until there are none, so it leaves nothing exactly of a text
that is all blanks, and what it leaves has nothing more to trim. -/

namespace Barrage.Text

theorem length_dropRight_le (p : Char → Bool) (cs : List Char) :
    (dropRight p cs).length ≤ cs.length :=
  (List.rdropWhile_prefix p cs).length_le

theorem dropWhile_trimChars (cs : List Char) :
    (trimChars cs).dropWhile isBlank = trimChars cs := by
  refine List.dropWhile_eq_self_iff.2 fun some => ?_
  -- the first character of all that is left is the first one that is not dropped
  have left : trimChars cs <+: cs.dropWhile isBlank := List.rdropWhile_prefix isBlank _
  rw [left.getElem some]
  exact List.dropWhile_get_zero_not isBlank cs _

theorem trimChars_trimChars (cs : List Char) : trimChars (trimChars cs) = trimChars cs := by
  rw [trimChars, dropWhile_trimChars]
  exact List.rdropWhile_idempotent isBlank _

theorem trim_trim (s : String) : trim (trim s) = trim s := by
  refine String.toList_inj.1 ?_
  rw [toList_trim, toList_trim, trimChars_trimChars]

theorem trimChars_eq_nil_iff {cs : List Char} : trimChars cs = [] ↔ cs.all isBlank = true := by
  have last : trimChars cs = [] ↔ ∀ c ∈ cs.dropWhile isBlank, isBlank c = true :=
    List.rdropWhile_eq_nil_iff
  rw [last, List.all_eq_true]
  constructor
  · intro rest c member
    rw [← List.takeWhile_append_dropWhile (p := isBlank) (l := cs)] at member
    exact (List.mem_append.1 member).elim List.mem_takeWhile_imp (rest c)
  · intro all c member
    exact all c ((List.dropWhile_suffix _).subset member)

theorem isEmpty_trim (s : String) : (trim s).isEmpty = isBlankText s := by
  rw [Bool.eq_iff_iff, String.isEmpty_iff, ← String.toList_eq_nil_iff, toList_trim, isBlankText]
  exact trimChars_eq_nil_iff

theorem trimChars_eq_of_length {cs : List Char} (h : (trimChars cs).length = cs.length) :
    trimChars cs = cs := by
  have inner := length_dropRight_le isBlank (cs.dropWhile isBlank)
  have outer : (cs.dropWhile isBlank).length ≤ cs.length := (List.dropWhile_sublist _).length_le
  rw [trimChars] at h ⊢
  have left : cs.dropWhile isBlank = cs :=
    (List.dropWhile_suffix _).eq_of_length (by omega)
  rw [left] at h ⊢
  exact (List.rdropWhile_prefix isBlank cs).eq_of_length h

end Barrage.Text
