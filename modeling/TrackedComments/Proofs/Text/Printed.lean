import Mathlib.Data.List.Basic

/-!
# Printed characters

What the printed forms of numbers and strings have in common in all formats: the digits of a number
have no needless zero in front, and a text does not get shorter when its characters are escaped.

## Main results

* `not_leading_zero_toDigits`: no number but zero begins with a zero.
* `length_le_length_flatMap`: the length of escaped characters.
-/

namespace TrackedComments

/-- A list does not get shorter if each of its members is replaced by some members. -/
theorem length_le_length_flatMap {α β : Type} {f : α → List β} (h : ∀ a, f a ≠ [])
    (members : List α) : members.length ≤ (members.flatMap f).length := by
  induction members with
  | nil => simp
  | cons a members ih =>
    have ha := List.length_pos_iff.mpr (h a)
    simp only [List.flatMap_cons, List.length_append, List.length_cons]
    omega

/-! ### Digits -/

/-- A number is printed in decimal digits. -/
theorem isDigit_of_mem_toDigits {n : Nat} {c : Char} (h : c ∈ Nat.toDigits 10 n) : c.isDigit :=
  Nat.isDigit_of_mem_toDigits (by decide) (by decide) h

/-- No number is printed as nothing. -/
theorem toDigits_ne_nil (n : Nat) : Nat.toDigits 10 n ≠ [] := by
  rw [Nat.toDigits_eq_if (by decide)]
  split <;> simp

/-- Only zero is printed as the digit zero. -/
theorem digitChar_ne_zero : ∀ n < 10, n ≠ 0 → Nat.digitChar n ≠ '0' := by
  decide

/-- No number but zero is printed with a zero in front. -/
theorem head?_toDigits_ne {n : Nat} (h : n ≠ 0) : (Nat.toDigits 10 n).head? ≠ some '0' := by
  induction n using Nat.strongRecOn with
  | ind n ih =>
    rw [Nat.toDigits_eq_if (by decide)]
    split
    next hlt => simpa using digitChar_ne_zero n hlt h
    next hge =>
      rw [List.head?_append_of_ne_nil _ (toDigits_ne_nil _)]
      exact ih (n / 10) (by omega) (by omega)

/-- The digits of a number have no needless zero in front. -/
theorem not_leading_zero_toDigits (n : Nat) :
    ¬ ((Nat.toDigits 10 n).head? = some '0' ∧ (Nat.toDigits 10 n).length ≠ 1) := by
  rintro ⟨hhead, hlen⟩
  rcases Nat.eq_zero_or_pos n with rfl | hpos
  · exact hlen (by simp)
  · exact head?_toDigits_ne (by omega) hhead

end TrackedComments
