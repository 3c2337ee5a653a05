import SqlBoundary.Duration
import Mathlib.Algebra.Order.Field.Basic
import Mathlib.Algebra.Order.Field.Rat
import Mathlib.Algebra.Ring.Int.Parity
import Mathlib.Tactic.FieldSimp
import Mathlib.Tactic.Linarith
import Mathlib.Tactic.Ring

/-! # Rounding of durations

The nearest whole number, the even one of two that are equally near, is unique and grows with what
is rounded. A duration of at most 28 digits is rounded once, to thousandths; both roundings of a
longer one keep the order of durations, also where the number of digits changes.
-/

namespace SqlBoundary.Duration

/-- A whole number is the nearest to a quotient, and even if another is as near. -/
structure IsNearest (q : ℚ) (k : ℤ) : Prop where
  near : |q - k| ≤ 1 / 2
  even : |q - k| = 1 / 2 → Even k

theorem IsNearest.le {q r : ℚ} {k l : ℤ} (h : IsNearest q k) (h' : IsNearest r l) (hqr : q ≤ r) :
    k ≤ l := by
  by_contra hlt
  have hgap : (l : ℚ) + 1 ≤ k := by exact_mod_cast not_le.1 hlt
  obtain ⟨hq, -⟩ := abs_le.1 h.near
  obtain ⟨-, hr⟩ := abs_le.1 h'.near
  -- The two quotients are one, halfway between two numbers that are both even.
  have hk : k = l + 1 := by
    have : (k : ℚ) = l + 1 := by linarith
    exact_mod_cast this
  have hqk : q - k = -(1 / 2) := by linarith
  have hrl : r - l = 1 / 2 := by linarith
  have hkeven := h.even (by rw [hqk, abs_neg, abs_of_pos (half_pos one_pos)])
  have hleven := h'.even (by rw [hrl, abs_of_pos (half_pos one_pos)])
  rw [hk] at hkeven
  exact Int.even_add_one.1 hkeven hleven

theorem IsNearest.neg {q : ℚ} {k : ℤ} (h : IsNearest q k) : IsNearest (-q) (-k) := by
  have habs : |-q - (-k : ℤ)| = |q - k| := by
    rw [Int.cast_neg, neg_sub_neg, abs_sub_comm]
  exact ⟨habs ▸ h.near, fun heq => (h.even (habs ▸ heq)).neg⟩

section
variable {n m k d : ℕ}

theorem isNearest_div {k twice : ℤ} (hd : 0 < d) (htwice : 2 * (n - k * d) = twice)
    (hnear : |twice| ≤ d) (heven : |twice| = d → Even k) : IsNearest ((n : ℚ) / d) k := by
  have hpos : (0 : ℚ) < d := Nat.cast_pos.2 hd
  have habs : |(n : ℚ) / d - k| = (|twice| : ℤ) / (2 * d) := by
    have hdiff : (n : ℚ) / d - k = 2 * (n - k * d) / (2 * d) := by field_simp
    rw [hdiff, abs_div, abs_of_pos (mul_pos two_pos hpos), ← htwice]
    push_cast
    rfl
  constructor
  · have hcast : ((|twice| : ℤ) : ℚ) ≤ d := by exact_mod_cast hnear
    rw [habs, div_le_div_iff₀ (mul_pos two_pos hpos) two_pos]
    linarith
  · intro hhalf
    rw [habs, div_eq_div_iff (mul_pos two_pos hpos).ne' two_ne_zero] at hhalf
    have hcast : ((|twice| : ℤ) : ℚ) = d := by linarith
    exact heven (by exact_mod_cast hcast)

theorem isNearest_roundDiv (hd : 0 < d) (n : ℕ) : IsNearest ((n : ℚ) / d) (roundDiv n d) := by
  have hsum : (n : ℤ) = (n / d : ℕ) * d + (n % d : ℕ) := by
    exact_mod_cast (Nat.div_add_mod' n d).symm
  have hlt := Nat.mod_lt n hd
  simp only [roundDiv]
  generalize n / d = quotient at hsum ⊢
  generalize n % d = excess at hsum hlt ⊢
  split
  next hup =>
    have htwice : 2 * ((n : ℤ) - (quotient + 1 : ℕ) * d) = 2 * excess - 2 * d := by
      rw [hsum]
      push_cast
      ring
    simp only [Bool.or_eq_true, Bool.and_eq_true, decide_eq_true_eq] at hup
    refine isNearest_div hd htwice (by rw [abs_le]; omega) fun htie => ?_
    rw [abs_of_nonpos (by omega)] at htie
    rw [Int.even_iff]
    omega
  next hdown =>
    have htwice : 2 * ((n : ℤ) - quotient * d) = 2 * excess := by
      rw [hsum]
      ring
    simp only [Bool.or_eq_true, Bool.and_eq_true, decide_eq_true_eq] at hdown
    refine isNearest_div hd htwice (by rw [abs_le]; omega) fun htie => ?_
    rw [abs_of_nonneg (by omega)] at htie
    rw [Int.even_iff]
    omega

theorem roundDiv_mono (hd : 0 < d) (h : n ≤ m) : roundDiv n d ≤ roundDiv m d := by
  have hdiv : (n : ℚ) / d ≤ m / d :=
    div_le_div_of_nonneg_right (Nat.cast_le.2 h) (Nat.cast_nonneg d)
  exact_mod_cast (isNearest_roundDiv hd n).le (isNearest_roundDiv hd m) hdiv

theorem roundDiv_mul (hd : 0 < d) (k : ℕ) : roundDiv (k * d) d = k := by
  simp [roundDiv, Nat.mul_div_cancel k hd, hd.ne]

/-- Rounding to multiples of a unit does not pass over a multiple. -/
theorem roundDiv_mul_le (hd : 0 < d) (hk : d ∣ k) (h : n ≤ k) : roundDiv n d * d ≤ k := by
  obtain ⟨j, rfl⟩ := hk
  rw [mul_comm d j] at h ⊢
  exact Nat.mul_le_mul_right d ((roundDiv_mono hd h).trans_eq (roundDiv_mul hd j))

theorem le_roundDiv_mul (hd : 0 < d) (hk : d ∣ k) (h : k ≤ n) : k ≤ roundDiv n d * d := by
  obtain ⟨j, rfl⟩ := hk
  rw [mul_comm d j] at h ⊢
  exact Nat.mul_le_mul_right d ((roundDiv_mul hd j).ge.trans (roundDiv_mono hd h))

theorem length_ofNat_le_iff (hk : 0 < k) : (Text.ofNat n).length ≤ k ↔ n < 10 ^ k :=
  Nat.length_toDigits_le_iff (by decide) hk

/-- A number of at most 28 digits is kept. -/
theorem leading_eq_self (h : n < 10 ^ precision) : leading n = n := by
  have hlength : (Text.ofNat n).length - precision = 0 :=
    Nat.sub_eq_zero_of_le ((length_ofNat_le_iff (by decide)).2 h)
  have hround : roundDiv n 1 = n := by simpa using roundDiv_mul one_pos n
  simp only [leading, hlength, Nat.pow_eq, pow_zero, mul_one, hround]

theorem leading_mono (h : n ≤ m) : leading n ≤ leading m := by
  have hlength : (Text.ofNat n).length ≤ (Text.ofNat m).length :=
    (length_ofNat_le_iff Nat.length_toDigits_pos).2
      (h.trans_lt ((length_ofNat_le_iff Nat.length_toDigits_pos).1 le_rfl))
  simp only [leading, Nat.pow_eq]
  have hn : n < 10 ^ (Text.ofNat n).length :=
    (length_ofNat_le_iff Nat.length_toDigits_pos).1 le_rfl
  have hm (hk : 0 < (Text.ofNat m).length - 1) : 10 ^ ((Text.ofNat m).length - 1) ≤ m :=
    not_lt.1 (mt (length_ofNat_le_iff hk).2 (by omega))
  generalize (Text.ofNat n).length = i at *
  generalize (Text.ofNat m).length = j at *
  have hpos (e : ℕ) : 0 < 10 ^ e := Nat.pow_pos (by decide)
  by_cases hunit : i - precision = j - precision
  · rw [hunit]
    exact Nat.mul_le_mul_right _ (roundDiv_mono (hpos _) h)
  · -- A power of ten lies between them, and is a multiple of both units.
    have hij : i ≤ j - 1 ∧ precision < j := by omega
    calc
      roundDiv n (10 ^ (i - precision)) * 10 ^ (i - precision) ≤ 10 ^ i :=
        roundDiv_mul_le (hpos _) (Nat.pow_dvd_pow 10 (Nat.sub_le i _)) hn.le
      _ ≤ 10 ^ (j - 1) := Nat.pow_le_pow_right (by decide) hij.1
      _ ≤ roundDiv m (10 ^ (j - precision)) * 10 ^ (j - precision) := by
        refine le_roundDiv_mul (hpos _) (Nat.pow_dvd_pow 10 (Nat.sub_le_sub_left (by decide) j)) ?_
        exact hm (Nat.sub_pos_of_lt ((by decide : 1 < precision).trans hij.2))

end

/-- A duration in nanoseconds as it is rounded, in thousandths of a millisecond. -/
def thousandths (nanoseconds : ℤ) : ℤ :=
  if nanoseconds < 0 then -roundDiv (leading nanoseconds.natAbs) 1000
  else roundDiv (leading nanoseconds.natAbs) 1000

theorem roundDiv_leading_mono {n m : ℕ} (h : n ≤ m) :
    roundDiv (leading n) 1000 ≤ roundDiv (leading m) 1000 :=
  roundDiv_mono (by decide) (leading_mono h)

theorem thousandths_mono {a b : ℤ} (h : a ≤ b) : thousandths a ≤ thousandths b := by
  unfold thousandths
  split <;> split
  next ha hb =>
    have := roundDiv_leading_mono (n := b.natAbs) (m := a.natAbs) (by omega)
    omega
  next => omega
  next => omega
  next ha hb =>
    have := roundDiv_leading_mono (n := a.natAbs) (m := b.natAbs) (by omega)
    omega

/-- A duration of at most 28 digits is rounded to the nearest thousandth of a millisecond. -/
theorem isNearest_thousandths {ns : ℤ} (h : |ns| < 10 ^ 28) :
    IsNearest ((ns : ℚ) / 10 ^ 6 * 10 ^ 3) (thousandths ns) := by
  have hleading : leading ns.natAbs = ns.natAbs := leading_eq_self (by
    rw [Int.abs_eq_natAbs] at h
    exact_mod_cast h)
  have hnearest := isNearest_roundDiv (d := 1000) (by decide) ns.natAbs
  have hquotient : (ns : ℚ) / 10 ^ 6 * 10 ^ 3 = ns / (1000 : ℕ) := by
    norm_num
    ring
  rw [thousandths, hleading, hquotient]
  split
  next hneg =>
    have hcast : (ns : ℚ) = -(ns.natAbs : ℚ) := by
      rw [← Int.cast_natCast, Int.ofNat_natAbs_of_nonpos hneg.le, Int.cast_neg, neg_neg]
    rw [hcast, neg_div]
    exact hnearest.neg
  next hpos =>
    have hcast : (ns : ℚ) = (ns.natAbs : ℚ) := by
      rw [← Int.cast_natCast, Int.natAbs_of_nonneg (not_lt.1 hpos)]
    rw [hcast]
    exact hnearest

end SqlBoundary.Duration
