import SqlBoundary.Proofs.Duration.Rounding
import SqlBoundary.Proofs.Lex.Reader
import SqlBoundary.Proofs.Text.Number

/-! # Durations as they are written

A reader of plain decimal numbers takes a written duration back to the thousandths it was rounded
to. What is written is therefore the exact duration rounded half to even, as long as it has at most
28 digits, and a longer duration is never written as a smaller number.
-/

namespace SqlBoundary.Duration

open Text

/-- The value of digits, a point and more digits. -/
def magnitude? (t : Text) : Option ℚ :=
  let whole := t.takeWhile Char.isDigit
  match t.dropWhile Char.isDigit with
  | '.' :: decimals =>
    if whole ≠ [] ∧ decimals ≠ [] ∧ decimals.all Char.isDigit then
      some ((Nat.ofDigitChars 10 whole 0 : ℚ) +
        (Nat.ofDigitChars 10 decimals 0 : ℚ) / 10 ^ decimals.length)
    else none
  | _ => none

/-- The value of a plain decimal number, which may have a minus sign. -/
def value? : Text → Option ℚ
  | '-' :: t => (magnitude? t).map (-·)
  | t => magnitude? t

/-- A number is written in plain decimal: digits without a zero in front, a point, and so many
decimals. -/
def IsPlain (places : ℕ) (t : Text) : Prop :=
  ∃ whole decimals, t = whole ++ '.' :: decimals ∧ whole ≠ [] ∧
    (whole.head? = some '0' → whole = ['0']) ∧ decimals.length = places ∧
    ∀ c ∈ whole ++ decimals, c.isDigit = true

theorem digitChar_eq_zero : ∀ n < 10, Nat.digitChar n = '0' → n = 0 := by decide

theorem eq_zero_of_head? {n : ℕ} (h : (Text.ofNat n).head? = some '0') : n = 0 := by
  induction n using Nat.strongRecOn with
  | _ n ih =>
    rw [Text.ofNat] at h
    by_cases hn : n < 10
    · rw [Nat.toDigits_of_lt_base hn] at h
      exact digitChar_eq_zero n hn (Option.some.inj h)
    · rw [Nat.toDigits_of_base_le (by decide) (not_lt.1 hn),
        List.head?_append_of_ne_nil _ Nat.toDigits_ne_nil] at h
      have := ih (n / 10) (by omega) h
      omega

/-- The last three digits of a number, with the zeros in front. -/
theorem decimal_eq (k : ℕ) :
    ∃ decimals : Text, decimal k = Text.ofNat (k / 1000) ++ '.' :: decimals ∧
      decimals.length = 3 ∧ (∀ c ∈ decimals, c.isDigit = true) ∧
      Nat.ofDigitChars 10 decimals 0 = k % 1000 := by
  refine ⟨List.replicate (3 - (Text.ofNat (k % 1000)).length) '0' ++ Text.ofNat (k % 1000),
    by simp [decimal], ?_, ?_, ?_⟩
  · have hlength : (Text.ofNat (k % 1000)).length ≤ 3 :=
      (length_ofNat_le_iff (by decide)).2 (Nat.mod_lt k (by decide))
    rw [List.length_append, List.length_replicate, Nat.sub_add_cancel hlength]
  · intro c hc
    rcases List.mem_append.1 hc with hzero | hdigit
    · rw [List.eq_of_mem_replicate hzero]
      rfl
    · exact List.all_eq_true.1 (all_isDigit_ofNat _) c hdigit
  · rw [Nat.ofDigitChars_append, Nat.ofDigitChars_replicate_zero, Nat.mul_zero, ofDigitChars_ofNat]

theorem isPlain_decimal (k : ℕ) : IsPlain 3 (decimal k) := by
  obtain ⟨decimals, hdecimal, hlength, hdigits, -⟩ := decimal_eq k
  refine ⟨Text.ofNat (k / 1000), decimals, hdecimal, ofNat_ne_nil _, fun hzero => ?_, hlength,
    fun c hc => ?_⟩
  · rw [eq_zero_of_head? hzero]
    rfl
  · rcases List.mem_append.1 hc with hwhole | hc
    · exact List.all_eq_true.1 (all_isDigit_ofNat _) c hwhole
    · exact hdigits c hc

theorem magnitude?_decimal (k : ℕ) : magnitude? (decimal k) = some ((k : ℚ) / 10 ^ 3) := by
  obtain ⟨decimals, hdecimal, hlength, hdigits, hvalue⟩ := decimal_eq k
  obtain ⟨htake, hdrop⟩ := takeWhile_dropWhile_append_cons (all_isDigit_ofNat (k / 1000))
    (by decide : '.'.isDigit = false) decimals
  have hne : decimals ≠ [] := List.ne_nil_of_length_pos (by omega)
  have hsum : (k : ℚ) = (k / 1000 : ℕ) * 1000 + (k % 1000 : ℕ) := by
    exact_mod_cast (Nat.div_add_mod' k 1000).symm
  have hquotient : ((k / 1000 : ℕ) : ℚ) + (k % 1000 : ℕ) / 10 ^ 3 = k / 10 ^ 3 := by
    rw [hsum]
    ring
  simp only [magnitude?, hdecimal, htake, hdrop]
  rw [if_pos ⟨ofNat_ne_nil _, hne, List.all_eq_true.2 hdigits⟩, hvalue, ofDigitChars_ofNat,
    hlength, hquotient]

theorem value?_of_head? {t : Text} (h : t.head? ≠ some '-') : value? t = magnitude? t := by
  cases t with
  | nil => rfl
  | cons c t =>
    rw [value?]
    exact fun rest hrest => h (congrArg List.head? hrest)

theorem head?_decimal_ne (k : ℕ) : (decimal k).head? ≠ some '-' := by
  intro h
  obtain ⟨decimals, hdecimal, -⟩ := decimal_eq k
  rw [hdecimal, List.head?_append_of_ne_nil _ (ofNat_ne_nil _)] at h
  exact absurd (List.all_eq_true.1 (all_isDigit_ofNat _) _ (List.mem_of_mem_head? h)) (by decide)

/-- A written duration is read as what it was rounded to. -/
theorem value?_milliseconds (ns : ℤ) :
    value? (milliseconds ns) = some ((thousandths ns : ℚ) / 10 ^ 3) := by
  simp only [milliseconds, thousandths]
  split
  next =>
    rw [value?, magnitude?_decimal, Option.map_some, Int.cast_neg, Int.cast_natCast, neg_div]
  next => rw [value?_of_head? (head?_decimal_ne _), magnitude?_decimal, Int.cast_natCast]

/-- A duration is written as its exact quotient rounded half to even, in plain decimal with three
decimals and a sign exactly if it is negative. Beyond 28 digits a written duration does not decrease
where the duration grows. -/
theorem milliseconds_spec :
    (∀ ns : ℤ, |ns| < 10 ^ 28 → ∃ (digits : Text) (k : ℤ),
      milliseconds ns = (if ns < 0 then '-' :: digits else digits) ∧ IsPlain 3 digits ∧
        value? (milliseconds ns) = some ((k : ℚ) / 10 ^ 3) ∧
        IsNearest ((ns : ℚ) / 10 ^ 6 * 10 ^ 3) k) ∧
    ∀ a b : ℤ, |a| < 10 ^ 999999 → |b| < 10 ^ 999999 → a ≤ b →
      ∃ x y, value? (milliseconds a) = some x ∧ value? (milliseconds b) = some y ∧ x ≤ y := by
  refine ⟨fun ns hns => ?_, fun a b _ _ hab => ?_⟩
  · exact ⟨_, thousandths ns, rfl, isPlain_decimal _, value?_milliseconds ns,
      isNearest_thousandths hns⟩
  · refine ⟨_, _, value?_milliseconds a, value?_milliseconds b, ?_⟩
    exact div_le_div_of_nonneg_right (Int.cast_le.2 (thousandths_mono hab)) (by positivity)

/-- A tie goes to the even thousandth; rounding may bring two numbers of digits together. -/
theorem milliseconds_spec_tie :
    |(-2500 : ℤ)| < 10 ^ 28 ∧ milliseconds (-2500) = "-0.002".toList ∧
      (∃ (digits : Text) (k : ℤ),
        milliseconds (-2500) = (if (-2500 : ℤ) < 0 then '-' :: digits else digits) ∧
          IsPlain 3 digits ∧ value? (milliseconds (-2500)) = some ((k : ℚ) / 10 ^ 3) ∧
          IsNearest (((-2500 : ℤ) : ℚ) / 10 ^ 6 * 10 ^ 3) k) ∧
      |(99999999999999999999999999995 : ℤ)| < 10 ^ 999999 ∧ |(10 ^ 29 : ℤ)| < 10 ^ 999999 ∧
      (99999999999999999999999999995 : ℤ) ≤ 10 ^ 29 ∧
      milliseconds 99999999999999999999999999995 = "100000000000000000000000.000".toList ∧
      ∃ x y, value? (milliseconds 99999999999999999999999999995) = some x ∧
        value? (milliseconds (10 ^ 29)) = some y ∧ x ≤ y := by
  have hsmall : |(-2500 : ℤ)| < 10 ^ 28 := by decide
  have hbound : (10 ^ 30 : ℤ) ≤ 10 ^ 999999 := pow_le_pow_right₀ (by decide) (by decide)
  have ha : |(99999999999999999999999999995 : ℤ)| < 10 ^ 999999 :=
    lt_of_lt_of_le (by decide) hbound
  have hb : |(10 ^ 29 : ℤ)| < 10 ^ 999999 := lt_of_lt_of_le (by decide) hbound
  have hab : (99999999999999999999999999995 : ℤ) ≤ 10 ^ 29 := by decide
  exact ⟨hsmall, by decide +kernel, milliseconds_spec.1 _ hsmall, ha, hb, hab, by decide +kernel,
    milliseconds_spec.2 _ _ ha hb hab⟩

end SqlBoundary.Duration
