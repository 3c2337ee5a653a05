import SqlBoundary.Text.Basic
import Mathlib.Data.List.DropRight

/-! # Trimmed texts

A text is its trimmed text between two margins of white space.
-/

namespace SqlBoundary.Text

/-- Neither end of a text is white space. -/
structure IsTrimmed (t : Text) : Prop where
  first : ∀ c, t.head? = some c → isSpace c = false
  last : ∀ c, t.getLast? = some c → isSpace c = false

theorem isBlank_iff {s : Text} : isBlank s = true ↔ ∀ c ∈ s, isSpace c = true :=
  List.all_eq_true

theorem isBlank_append_eq (v w : Text) : isBlank (v ++ w) = (isBlank v && isBlank w) :=
  List.all_append

theorem isBlank_append {v w : Text} :
    isBlank (v ++ w) = true ↔ isBlank v = true ∧ isBlank w = true := by
  rw [isBlank_append_eq, Bool.and_eq_true]

theorem isBlank_takeWhile (s : Text) : isBlank (s.takeWhile isSpace) = true := List.all_takeWhile

theorem trimEnd_eq_rdropWhile (s : Text) : trimEnd s = s.rdropWhile isSpace := rfl

theorem takeWhile_append_trimStart (s : Text) : s.takeWhile isSpace ++ trimStart s = s :=
  List.takeWhile_append_dropWhile

theorem exists_trimEnd_append (s : Text) : ∃ w, isBlank w = true ∧ s = trimEnd s ++ w :=
  ⟨s.rtakeWhile isSpace, isBlank_iff.2 fun _ hc => List.mem_rtakeWhile_imp hc,
    List.rdropWhile_append_rtakeWhile.symm⟩

/-- A text without the white space in front of it is its trimmed text with white space after it. -/
theorem exists_trim_append (s : Text) : ∃ w, isBlank w = true ∧ trimStart s = trim s ++ w :=
  exists_trimEnd_append (trimStart s)

/-- The white space that a text begins with leaves a text that does not begin with white space. -/
theorem head?_trimStart {s : Text} {c : Char} (h : (trimStart s).head? = some c) :
    isSpace c = false := by
  have := List.head?_dropWhile_not isSpace s
  rwa [show (s.dropWhile isSpace).head? = some c from h] at this

theorem isTrimmed_trim (s : Text) : IsTrimmed (trim s) where
  first c hc := by
    obtain ⟨w, -, hw⟩ := exists_trim_append s
    refine head?_trimStart (s := s) ?_
    rw [hw, List.head?_append, hc]
    rfl
  last c hc := by
    have hne : (trimStart s).rdropWhile isSpace ≠ [] := by
      rintro hnil
      rw [trim, trimEnd_eq_rdropWhile, hnil] at hc
      cases hc
    have hlast := List.rdropWhile_last_not isSpace _ hne
    rw [trim, trimEnd_eq_rdropWhile, List.getLast?_eq_some_getLast hne] at hc
    rw [Option.some.inj hc] at hlast
    simpa using hlast

theorem trimStart_append_of_isBlank {w : Text} (hw : isBlank w = true) (s : Text) :
    trimStart (w ++ s) = trimStart s :=
  List.dropWhile_append_of_pos (isBlank_iff.1 hw)

theorem trimEnd_append_of_isBlank {w : Text} (hw : isBlank w = true) (s : Text) :
    trimEnd (s ++ w) = trimEnd s := by
  rw [trimEnd, List.reverse_append, List.dropWhile_append_of_pos]
  · rfl
  · simpa using isBlank_iff.1 hw

theorem trim_append_of_isBlank {w : Text} (hw : isBlank w = true) (s : Text) :
    trim (s ++ w) = trim s := by
  rw [trim, trim, trimStart, List.dropWhile_append]
  split
  next h =>
    have hs : trimStart s = [] := List.isEmpty_iff.1 h
    have hw' : w.dropWhile isSpace = [] := List.dropWhile_eq_nil_iff.2 (isBlank_iff.1 hw)
    rw [hw', hs]
  next => exact trimEnd_append_of_isBlank hw _

theorem trim_blank_append {w : Text} (hw : isBlank w = true) (s : Text) :
    trim (w ++ s) = trim s := by
  rw [trim, trimStart_append_of_isBlank hw, trim]

/-- A text begins as its first part does, and ends as its last part does. -/
theorem isTrimmed_append {v t : Text} (hv : v ≠ []) (ht : t ≠ [])
    (hfirst : ∀ c, v.head? = some c → isSpace c = false)
    (hlast : ∀ c, t.getLast? = some c → isSpace c = false) : IsTrimmed (v ++ t) where
  first c hc := by
    rw [List.head?_append_of_ne_nil _ hv] at hc
    exact hfirst c hc
  last c hc := by
    rw [List.getLast?_append_of_ne_nil _ ht] at hc
    exact hlast c hc

theorem isTrimmed_between {c d : Char} (hc : isSpace c = false) (hd : isSpace d = false)
    (t : Text) : IsTrimmed (c :: t ++ [d]) :=
  isTrimmed_append (List.cons_ne_nil c t) (List.cons_ne_nil d [])
    (fun _ hx => Option.some.inj hx ▸ hc) fun _ hx => Option.some.inj hx ▸ hd

theorem IsTrimmed.trimStart_eq {t : Text} (h : IsTrimmed t) : trimStart t = t := by
  rw [trimStart, List.dropWhile_eq_self_iff]
  intro hlength
  have := h.first t[0] (by simp [List.head?_eq_getElem?])
  simp [this]

theorem IsTrimmed.trim_eq {t : Text} (h : IsTrimmed t) : trim t = t := by
  rw [trim, h.trimStart_eq, trimEnd_eq_rdropWhile, List.rdropWhile_eq_self_iff]
  intro hne
  have := h.last _ (List.getLast?_eq_some_getLast hne)
  simp [this]

theorem trim_eq_nil_iff {s : Text} : trim s = [] ↔ isBlank s = true := by
  constructor
  · intro h
    obtain ⟨w, hw, hs⟩ := exists_trim_append s
    rw [h, List.nil_append] at hs
    rw [← takeWhile_append_trimStart s, hs]
    exact isBlank_append.2 ⟨isBlank_takeWhile s, hw⟩
  · intro h
    rw [← List.nil_append s, trim_append_of_isBlank h, trim_nil]

end SqlBoundary.Text
