import SqlBoundary.Text.Utf8

/-! # UTF-8 read back

Bytes are decoded piece by piece with the same result, wherever the pieces end. What a text is
encoded to is decoded to it.
-/

namespace SqlBoundary.Utf8

/-- What is pending where decoding ends, unless it ends at a wrong byte. -/
def Ending.pending? : Ending → Option (Option Partial)
  | complete => some none
  | truncated pending => some (some pending)
  | invalid _ => none

/-- The text of bytes that may begin inside a character and end after one. -/
def finish? (pending : Option Partial) : List UInt8 → Option Text
  | [] => if pending.isNone then some [] else none
  | b :: rest =>
    match pending.elim start resume b.toNat with
    | .char c => (finish? none rest).map (c :: ·)
    | .more p => finish? (some p) rest
    | .invalid => none

/-- Decoding goes on behind some bytes with what they leave pending. -/
theorem finish?_append (index : Nat) (pending : Option Partial) (bytes more : List UInt8) :
    finish? pending (bytes ++ more) =
      (decodeFrom index pending bytes).ending.pending?.bind fun p =>
        (finish? p more).map ((decodeFrom index pending bytes).chars.map (·.1) ++ ·) := by
  induction bytes generalizing index pending with
  | nil => cases pending <;> simp [decodeFrom, Ending.pending?]
  | cons b bytes ih =>
    rw [List.cons_append, finish?, decodeFrom]
    cases pending.elim start resume b.toNat with
    | char c =>
      dsimp only
      rw [ih (index + 1) none, Option.map_bind]
      simp [Function.comp_def]
    | more p => exact ih (index + 1) (some p)
    | invalid => rfl

theorem eq_nil_of_finish?_nil {pending : Option Partial} {t : Text}
    (h : finish? pending [] = some t) : t = [] := by
  rw [finish?, Option.ite_none_right_eq_some, Option.some.injEq] at h
  exact h.2.symm

theorem eq_none_of_finish?_nil {pending : Option Partial} {t : Text}
    (h : finish? pending [] = some t) : pending = none := by
  rw [finish?, Option.ite_none_right_eq_some] at h
  exact Option.isNone_iff_eq_none.1 h.1

theorem decode?_eq_finish? (bytes : List UInt8) : decode? bytes = finish? none bytes := by
  have happend := finish?_append 0 none bytes []
  rw [List.append_nil] at happend
  rw [happend, decode?, decode]
  cases (decodeFrom 0 none bytes).ending <;> simp [Ending.pending?, finish?]

/-- A character takes at least a byte. -/
theorem length_le_of_finish? {pending : Option Partial} {bytes : List UInt8} {t : Text}
    (h : finish? pending bytes = some t) : t.length ≤ bytes.length := by
  induction bytes generalizing pending t with
  | nil => exact Nat.le_of_eq (congrArg List.length (eq_nil_of_finish?_nil h))
  | cons b bytes ih =>
    rw [finish?] at h
    split at h
    next c _ =>
      obtain ⟨rest, hrest, rfl⟩ := Option.map_eq_some_iff.1 h
      exact Nat.succ_le_succ (ih hrest)
    next => exact Nat.le_succ_of_le (ih h)
    next => cases h

/-- A byte that goes on with a character adds six bits to it. -/
theorem resume_tail {missing low high : Nat} (value : Nat) (hlow : low ≤ value % 64 + 0x80)
    (hhigh : value % 64 + 0x80 ≤ high) :
    resume ⟨missing, low, high, value / 64⟩ (UInt8.ofNat (value % 64 + 0x80)).toNat =
      if missing ≤ 1 then .char (Char.ofNat value)
      else .more ⟨missing - 1, 0x80, 0xbf, value⟩ := by
  have hbyte : (UInt8.ofNat (value % 64 + 0x80)).toNat = value % 64 + 0x80 :=
    Nat.mod_eq_of_lt (by omega)
  have hrange : ¬(value % 64 + 0x80 < low ∨ high < value % 64 + 0x80) := by omega
  have hvalue : value / 64 * 64 + (value % 64 + 0x80 - 0x80) = value := by omega
  simp only [resume, hbyte, Bool.or_eq_true, decide_eq_true_eq, if_neg hrange, hvalue]

theorem finish?_last {low high : Nat} (value : Nat) (hlow : low ≤ value % 64 + 0x80)
    (hhigh : value % 64 + 0x80 ≤ high) (rest : List UInt8) :
    finish? (some ⟨1, low, high, value / 64⟩) (UInt8.ofNat (value % 64 + 0x80) :: rest) =
      (finish? none rest).map (Char.ofNat value :: ·) := by
  rw [finish?, Option.elim_some, resume_tail value hlow hhigh]
  rfl

theorem finish?_next {missing low high : Nat} (value : Nat) (hlow : low ≤ value % 64 + 0x80)
    (hhigh : value % 64 + 0x80 ≤ high) (rest : List UInt8) :
    finish? (some ⟨missing + 2, low, high, value / 64⟩)
        (UInt8.ofNat (value % 64 + 0x80) :: rest) =
      finish? (some ⟨missing + 1, 0x80, 0xbf, value⟩) rest := by
  rw [finish?, Option.elim_some, resume_tail value hlow hhigh]
  rfl

/-- The first of two bytes. -/
theorem start_two {v : Nat} (hlow : 0x7f < v) (hhigh : v ≤ 0x7ff) :
    start (UInt8.ofNat (v / 64 % 32 + 0xc0)).toNat = .more ⟨1, 0x80, 0xbf, v / 64⟩ := by
  have hbyte : (UInt8.ofNat (v / 64 % 32 + 0xc0)).toNat = v / 64 + 0xc0 := by
    rw [UInt8.toNat_ofNat']
    omega
  rw [hbyte]
  unfold start
  grind

/-- The first of three bytes, and the range of the second. -/
theorem start_three {v : Nat} (hlow : 0x7ff < v) (hhigh : v ≤ 0xffff)
    (hvalid : v < 0xd800 ∨ 0xdfff < v) :
    ∃ low high, start (UInt8.ofNat (v / 4096 % 16 + 0xe0)).toNat =
        .more ⟨2, low, high, v / 4096⟩ ∧
      low ≤ v / 64 % 64 + 0x80 ∧ v / 64 % 64 + 0x80 ≤ high := by
  have hbyte : (UInt8.ofNat (v / 4096 % 16 + 0xe0)).toNat = v / 4096 + 0xe0 := by
    rw [UInt8.toNat_ofNat']
    omega
  refine ⟨if v / 4096 = 0 then 0xa0 else 0x80, if v / 4096 = 0xd then 0x9f else 0xbf, ?_,
    by split <;> omega, by split <;> omega⟩
  rw [hbyte]
  unfold start
  grind

/-- The first of four bytes, and the range of the second. -/
theorem start_four {v : Nat} (hlow : 0xffff < v) (hhigh : v < 0x110000) :
    ∃ low high, start (UInt8.ofNat (v / 262144 % 8 + 0xf0)).toNat =
        .more ⟨3, low, high, v / 262144⟩ ∧
      low ≤ v / 4096 % 64 + 0x80 ∧ v / 4096 % 64 + 0x80 ≤ high := by
  have hbyte : (UInt8.ofNat (v / 262144 % 8 + 0xf0)).toNat = v / 262144 + 0xf0 := by
    rw [UInt8.toNat_ofNat']
    omega
  refine ⟨if v / 262144 = 0 then 0x90 else 0x80, if v / 262144 = 4 then 0x8f else 0xbf, ?_,
    by split <;> omega, by split <;> omega⟩
  rw [hbyte]
  unfold start
  grind

/-- The bytes of a character are read as that character. -/
theorem finish?_utf8EncodeChar (c : Char) (rest : List UInt8) :
    finish? none (String.utf8EncodeChar c ++ rest) = (finish? none rest).map (c :: ·) := by
  obtain ⟨v, hv⟩ : ∃ v, c.val.toNat = v := ⟨_, rfl⟩
  have hvalid : v < 0xd800 ∨ 0xdfff < v ∧ v < 0x110000 := hv ▸ c.valid
  obtain rfl : Char.ofNat v = c := hv ▸ Char.ofNat_toNat c
  have hsecond : v / 64 / 64 = v / 4096 := Nat.div_div_eq_div_mul v 64 64
  have hthird : v / 4096 / 64 = v / 262144 := Nat.div_div_eq_div_mul v 4096 64
  -- The last byte of two or more.
  have hlast : finish? (some ⟨1, 0x80, 0xbf, v / 64⟩) (UInt8.ofNat (v % 64 + 0x80) :: rest) =
        (finish? none rest).map (Char.ofNat v :: ·) :=
    finish?_last v (by omega) (by omega) rest
  unfold String.utf8EncodeChar
  rw [hv]
  dsimp only
  split
  next hone =>
    have hbyte : (UInt8.ofNat v).toNat = v := Nat.mod_eq_of_lt (by omega)
    rw [List.singleton_append, finish?, Option.elim_none, hbyte, start, if_pos (by omega)]
  next hone =>
    split
    next htwo =>
      rw [List.cons_append, finish?, Option.elim_none, start_two (by omega) htwo]
      exact hlast
    next htwo =>
      split
      next hthree =>
        obtain ⟨low, high, hstart, hlow, hhigh⟩ := start_three (by omega) hthree (by omega)
        rw [List.cons_append, finish?, Option.elim_none, hstart, ← hsecond]
        exact (finish?_next (v / 64) hlow hhigh _).trans hlast
      next hthree =>
        obtain ⟨low, high, hstart, hlow, hhigh⟩ := start_four (v := v) (by omega) (by omega)
        rw [List.cons_append, finish?, Option.elim_none, hstart, ← hthird]
        refine (finish?_next (v / 4096) hlow hhigh _).trans ?_
        rw [← hsecond]
        exact (finish?_next (v / 64) (by omega) (by omega) _).trans hlast

theorem decode?_encode (t : Text) : decode? (encode t) = some t := by
  rw [decode?_eq_finish?]
  induction t with
  | nil => rfl
  | cons c t ih =>
    rw [encode, List.flatMap_cons, finish?_utf8EncodeChar, ← encode, ih]
    rfl

theorem encode_injective : Function.Injective encode := by
  intro s t h
  have hdecoded := congrArg decode? h
  rw [decode?_encode, decode?_encode] at hdecoded
  exact Option.some.inj hdecoded

end SqlBoundary.Utf8
