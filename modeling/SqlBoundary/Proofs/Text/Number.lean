import SqlBoundary.Text.Basic
import Mathlib.Data.Nat.Digits.Defs

/-! # Numbers in a text

A number is written in digits only, and differently from any other. It can be told from what follows
it in a text, unless that begins with a digit.
-/

namespace SqlBoundary.Text

theorem all_isDigit_ofNat (n : ℕ) : (ofNat n).all Char.isDigit = true :=
  List.all_eq_true.2 fun _ hc => Nat.isDigit_of_mem_toDigits (by decide) (by decide) hc

theorem ofNat_ne_nil (n : ℕ) : ofNat n ≠ [] := Nat.toDigits_ne_nil

theorem ofDigitChars_ofNat (n : ℕ) : Nat.ofDigitChars 10 (ofNat n) 0 = n :=
  Nat.ofDigitChars_ten_toDigits

theorem ofNat_injective : Function.Injective ofNat :=
  Function.LeftInverse.injective ofDigitChars_ofNat

theorem takeWhile_isDigit_ofNat_append (n : ℕ) {s : Text}
    (hs : s.head?.any Char.isDigit = false) : (ofNat n ++ s).takeWhile Char.isDigit = ofNat n := by
  have hnone : s.takeWhile Char.isDigit = [] := by
    cases s with
    | nil => rfl
    | cons c s => exact List.takeWhile_cons_of_neg (by simpa using hs)
  rw [List.takeWhile_append_of_pos (List.all_eq_true.1 (all_isDigit_ofNat n)), hnone,
    List.append_nil]

/-- A number and the text after it are told apart. -/
theorem ofNat_append_inj {m n : ℕ} {s t : Text} (hs : s.head?.any Char.isDigit = false)
    (ht : t.head?.any Char.isDigit = false) (h : ofNat m ++ s = ofNat n ++ t) :
    m = n ∧ s = t := by
  have hdigits := congrArg (List.takeWhile Char.isDigit) h
  rw [takeWhile_isDigit_ofNat_append m hs, takeWhile_isDigit_ofNat_append n ht] at hdigits
  rw [hdigits] at h
  exact ⟨ofNat_injective hdigits, List.append_cancel_left h⟩

end SqlBoundary.Text
