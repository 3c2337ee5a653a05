import Mathlib.Data.List.Basic
import SqlBoundary.Report
import SqlBoundary.Proofs.Text.Number

/-! # Positions are told apart

A record begins with the kind of its split point, and a number in it ends where no digit comes next.
So a record shows its split point and where it ends, whatever the separators are, and a report of
positions shows its split points.
-/

namespace SqlBoundary.Report

open Text

/-- A text before which a number can be told. -/
def BeginsNoDigit (t : Text) : Prop := t.head?.any Char.isDigit = false

theorem BeginsNoDigit.append {s t : Text} (hs : BeginsNoDigit s) (ht : BeginsNoDigit t) :
    BeginsNoDigit (s ++ t) := by
  cases s with
  | nil => exact ht
  | cons c s => exact hs

section
variable {settings : Settings}

theorem position_semicolon_append (n : ℕ) (s : Text) :
    position settings (.semicolon n) ++ s =
      "semicolon".toList ++ (settings.fieldSeparator ++ (ofNat n ++
        (settings.recordSeparator ++ s))) := by
  simp only [position, fields, joinWith_cons_cons, joinWith_singleton, List.append_assoc]

theorem position_comment_append (m n : ℕ) (s : Text) :
    position settings (.comment m n) ++ s =
      "comment".toList ++ (settings.fieldSeparator ++ (ofNat m ++
        (settings.fieldSeparator ++ (ofNat n ++ (settings.recordSeparator ++ s))))) := by
  simp only [position, fields, joinWith_cons_cons, joinWith_singleton, List.append_assoc]

theorem head?_position_append (p : SplitPoint) (s : Text) :
    (position settings p ++ s).head? = some (if p.isSemicolon then 's' else 'c') := by
  cases p with
  | semicolon n => rw [position_semicolon_append]; rfl
  | comment m n => rw [position_comment_append]; rfl

theorem beginsNoDigit_positions (points : List SplitPoint) :
    BeginsNoDigit (positions settings points) := by
  cases points with
  | nil => rfl
  | cons p points =>
    rw [positions, List.flatMap_cons, BeginsNoDigit, head?_position_append]
    cases p <;> rfl

/-- A record shows its split point and where it ends. -/
theorem position_append_inj (hne : settings.fieldSeparator ≠ [])
    (hfield : BeginsNoDigit settings.fieldSeparator)
    (hrecord : BeginsNoDigit settings.recordSeparator) {p q : SplitPoint} {s t : Text}
    (hs : BeginsNoDigit s) (ht : BeginsNoDigit t)
    (h : position settings p ++ s = position settings q ++ t) : p = q ∧ s = t := by
  have hseparated (u : Text) : BeginsNoDigit (settings.fieldSeparator ++ u) := by
    rw [BeginsNoDigit, List.head?_append_of_ne_nil _ hne]
    exact hfield
  have hkind := congrArg List.head? h
  rw [head?_position_append, head?_position_append] at hkind
  cases p with
  | semicolon m =>
    cases q with
    | semicolon n =>
      rw [position_semicolon_append, position_semicolon_append, List.append_cancel_left_eq,
        List.append_cancel_left_eq] at h
      obtain ⟨rfl, hrest⟩ := ofNat_append_inj (hrecord.append hs) (hrecord.append ht) h
      exact ⟨rfl, List.append_cancel_left hrest⟩
    | comment start stop => cases hkind
  | comment start stop =>
    cases q with
    | semicolon n => cases hkind
    | comment start' stop' =>
      rw [position_comment_append, position_comment_append, List.append_cancel_left_eq,
        List.append_cancel_left_eq] at h
      obtain ⟨rfl, hstop⟩ := ofNat_append_inj (hseparated _) (hseparated _) h
      rw [List.append_cancel_left_eq] at hstop
      obtain ⟨rfl, hrest⟩ := ofNat_append_inj (hrecord.append hs) (hrecord.append ht) hstop
      exact ⟨rfl, List.append_cancel_left hrest⟩

theorem positions_ne_nil (p : SplitPoint) (points : List SplitPoint) :
    positions settings (p :: points) ≠ [] := by
  intro h
  have hhead : (positions settings (p :: points)).head? =
      some (if p.isSemicolon then 's' else 'c') :=
    head?_position_append p (positions settings points)
  rw [h] at hhead
  cases hhead

/-- Different lists of split points are written differently, as long as fields are separated and no
separator begins with a digit. -/
theorem positions_injective (hne : settings.fieldSeparator ≠ [])
    (hfield : BeginsNoDigit settings.fieldSeparator)
    (hrecord : BeginsNoDigit settings.recordSeparator) :
    Function.Injective (positions settings) := by
  intro points points' h
  induction points generalizing points' with
  | nil =>
    cases points' with
    | nil => rfl
    | cons q points' => exact absurd h.symm (positions_ne_nil q points')
  | cons p points ih =>
    cases points' with
    | nil => exact absurd h (positions_ne_nil p points)
    | cons q points' =>
      rw [positions, positions, List.flatMap_cons, List.flatMap_cons] at h
      obtain ⟨rfl, hrest⟩ := position_append_inj hne hfield hrecord
        (beginsNoDigit_positions points) (beginsNoDigit_positions points') h
      rw [ih hrest]

/-- The field separator may be what a record begins with, and the records need not be separated. -/
theorem positions_injective_comment :
    let settings : Settings := { fieldSeparator := "comment", recordSeparator := [] }
    settings.fieldSeparator ≠ [] ∧ BeginsNoDigit settings.fieldSeparator ∧
      BeginsNoDigit settings.recordSeparator ∧
      positions settings [.semicolon 1, .comment 2 13] =
        "semicoloncomment1commentcomment2comment13".toList ∧
      ∀ points, positions settings points = "semicoloncomment1commentcomment2comment13".toList →
        points = [.semicolon 1, .comment 2 13] := by
  intro settings
  have hne : settings.fieldSeparator ≠ [] := by decide
  have hfield : BeginsNoDigit settings.fieldSeparator := by rfl
  have hrecord : BeginsNoDigit settings.recordSeparator := by rfl
  have hwritten : positions settings [.semicolon 1, .comment 2 13] =
      "semicoloncomment1commentcomment2comment13".toList := by decide +kernel
  exact ⟨hne, hfield, hrecord, hwritten,
    fun points h => positions_injective hne hfield hrecord (h.trans hwritten.symm)⟩

end

end SqlBoundary.Report
