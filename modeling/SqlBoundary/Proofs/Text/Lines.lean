import SqlBoundary.Text.Lines

/-! # Lines of texts

Line ends can be unified piece by piece, unless a piece ends between the two characters of one line
end. The lines of a text are its first line and the lines of the rest.
-/

namespace SqlBoundary.Text

theorem unifyLineEnds_return {s : Text} (h : s.head? ≠ some '\n') :
    unifyLineEnds ('\r' :: s) = '\n' :: unifyLineEnds s := by
  cases s with
  | nil => rfl
  | cons c s =>
    rw [unifyLineEnds]
    intro rest hrest
    exact h (congrArg List.head? hrest)

theorem unifyLineEnds_cons {c : Char} (h : c ≠ '\r') (s : Text) :
    unifyLineEnds (c :: s) = c :: unifyLineEnds s := by
  rw [unifyLineEnds]
  · exact fun rest hc _ => h hc
  · exact h

theorem unifyLineEnds_of_not_mem {s : Text} (h : '\r' ∉ s) : unifyLineEnds s = s := by
  induction s with
  | nil => rfl
  | cons c s ih =>
    rw [List.mem_cons, not_or] at h
    rw [unifyLineEnds_cons (Ne.symm h.1), ih h.2]

theorem getLast?_ne_of_cons {c d : Char} {s : Text} (h : (c :: s).getLast? ≠ some d) :
    s.getLast? ≠ some d := by
  intro hs
  rw [List.getLast?_cons, hs] at h
  exact h rfl

theorem unifyLineEnds_append {s t : Text} (h : s.getLast? ≠ some '\r' ∨ t.head? ≠ some '\n') :
    unifyLineEnds (s ++ t) = unifyLineEnds s ++ unifyLineEnds t := by
  induction s using unifyLineEnds.induct with
  | case1 rest ih =>
    have hrest := h.imp_left fun hlast => getLast?_ne_of_cons (getLast?_ne_of_cons hlast)
    exact congrArg ('\n' :: ·) (ih hrest)
  | case2 rest hnext ih =>
    have hhead : rest.head? ≠ some '\n' := fun hhead => by
      obtain ⟨tail, rfl⟩ := List.head?_eq_some_iff.1 hhead
      exact hnext tail rfl
    have happend : (rest ++ t).head? ≠ some '\n' := by
      cases rest with
      | nil => exact h.resolve_left fun hlast => hlast rfl
      | cons c rest => exact hhead
    rw [List.cons_append, unifyLineEnds_return happend, unifyLineEnds_return hhead,
      ih (h.imp_left getLast?_ne_of_cons), List.cons_append]
  | case3 c rest _ hc ih =>
    rw [List.cons_append, unifyLineEnds_cons hc, unifyLineEnds_cons hc,
      ih (h.imp_left getLast?_ne_of_cons), List.cons_append]
  | case4 => rfl

/-- A carriage return at the end of a piece can be left to the piece after it. -/
theorem unifyLineEnds_hold {s t : Text} {waits : Bool}
    (hlast : waits = true → s.getLast? = some '\r')
    (h : waits = false → s.getLast? ≠ some '\r' ∨ t.head? ≠ some '\n') :
    unifyLineEnds (if waits then s.dropLast else s) ++
        unifyLineEnds ((if waits then ['\r'] else []) ++ t) = unifyLineEnds (s ++ t) := by
  cases waits with
  | true =>
    obtain ⟨s, rfl⟩ := List.getLast?_eq_some_iff.1 (hlast rfl)
    rw [if_pos rfl, if_pos rfl, List.dropLast_concat, List.append_assoc]
    exact (unifyLineEnds_append (.inr (by simp))).symm
  | false => exact (unifyLineEnds_append (h rfl)).symm

theorem length_unifyLineEnds_le (s : Text) : (unifyLineEnds s).length ≤ s.length := by
  induction s using unifyLineEnds.induct with
  | case1 rest ih =>
    simp only [unifyLineEnds, List.length_cons]
    omega
  | case2 rest hrest ih =>
    rw [unifyLineEnds]
    · exact Nat.succ_le_succ ih
    · exact hrest
  | case3 c rest hreturn hboth ih =>
    rw [unifyLineEnds]
    · exact Nat.succ_le_succ ih
    · exact hreturn
    · exact hboth
  | case4 => exact Nat.le_refl 0

theorem segments_ne_nil (separator : Char) (s : Text) : segments separator s ≠ [] := by
  cases s with
  | nil => exact List.cons_ne_nil _ _
  | cons c s =>
    rw [segments]
    split
    next => exact List.cons_ne_nil _ _
    next => split <;> exact List.cons_ne_nil _ _

theorem segments_separator (separator : Char) (s : Text) :
    segments separator (separator :: s) = [] :: segments separator s := by
  rw [segments]
  split
  next hnil => exact absurd hnil (segments_ne_nil separator s)
  next piece pieces hpieces => rw [if_pos rfl, hpieces]

theorem segments_append {separator : Char} {piece : Text} (h : separator ∉ piece) (s : Text) :
    segments separator (piece ++ separator :: s) = piece :: segments separator s := by
  induction piece with
  | nil => exact segments_separator separator s
  | cons c piece ih =>
    obtain ⟨hc, hpiece⟩ := not_or.1 (mt List.mem_cons.2 h)
    rw [List.cons_append, segments, ih hpiece]
    exact if_neg fun hcs => hc hcs.symm

theorem segments_of_not_mem {separator : Char} {piece : Text} (h : separator ∉ piece) :
    segments separator piece = [piece] := by
  induction piece with
  | nil => rfl
  | cons c piece ih =>
    obtain ⟨hc, hpiece⟩ := not_or.1 (mt List.mem_cons.2 h)
    rw [segments, ih hpiece]
    exact if_neg fun hcs => hc hcs.symm

theorem lines_append {line : Text} (h : '\n' ∉ line) (s : Text) :
    lines (line ++ '\n' :: s) = line :: lines s := by
  have hsegments := segments_ne_nil '\n' s
  rw [lines, lines, segments_append h]
  cases hpieces : segments '\n' s with
  | nil => exact absurd hpieces hsegments
  | cons piece pieces =>
    rw [List.getLast?_cons_cons]
    split <;> rfl

theorem lines_of_not_mem {line : Text} (h : '\n' ∉ line) (hne : line ≠ []) :
    lines line = [line] := by
  rw [lines, segments_of_not_mem h]
  exact if_neg fun hlast => hne (Option.some.inj hlast)

/-- Every line has an end or a character. -/
theorem length_lines_le (s : Text) : s.lines.length ≤ s.length := by
  by_cases h : '\n' ∈ s
  · obtain ⟨line, rest, hs, hline⟩ := List.eq_append_cons_of_mem h
    have hlength : s.length = line.length + (rest.length + 1) := by
      rw [hs, List.length_append, List.length_cons]
    have hrest := length_lines_le rest
    rw [hs, lines_append hline, List.length_cons, ← hs]
    omega
  · cases s with
    | nil => exact Nat.le_refl 0
    | cons c s =>
      rw [lines_of_not_mem h (List.cons_ne_nil c s)]
      exact Nat.succ_le_succ (Nat.zero_le _)
termination_by s.length

end SqlBoundary.Text
