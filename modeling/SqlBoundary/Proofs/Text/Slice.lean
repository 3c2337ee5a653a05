import SqlBoundary.Text.Basic

/-! # Slices

A slice ends at the end of the text if it would reach past it.
-/

namespace SqlBoundary.Text

theorem slice_of_drop_eq {s pending rest : Text} {start : Nat}
    (h : s.drop start = pending ++ rest) : s.slice start (start + pending.length) = pending := by
  rw [slice, h, Nat.add_sub_cancel_left, List.take_left]

theorem slice_append (head t rest : Text) :
    slice (head ++ (t ++ rest)) head.length (head ++ t).length = t := by
  rw [List.length_append]
  exact slice_of_drop_eq List.drop_left

theorem slice_zero_length (s : Text) : s.slice 0 s.length = s := List.take_length

theorem slice_eq_nil {s : Text} {start stop : Nat} (h : stop ≤ start) :
    s.slice start stop = [] := by
  rw [slice, Nat.sub_eq_zero_of_le h, List.take_zero]

theorem length_slice {s : Text} {start stop : Nat} (h : stop ≤ s.length) :
    (s.slice start stop).length = stop - start := by
  rw [slice, List.length_take, List.length_drop]
  omega

theorem slice_append_drop {s : Text} {start stop : Nat} (h : start ≤ stop) :
    s.slice start stop ++ s.drop stop = s.drop start := by
  rw [slice, ← Nat.add_sub_cancel' h, ← List.drop_drop, Nat.add_sub_cancel_left,
    List.take_append_drop]

theorem slice_succ {s : Text} {start stop : Nat} (h : start ≤ stop) :
    s.slice start (stop + 1) = s.slice start stop ++ s[stop]?.toList := by
  rw [slice, Nat.succ_sub h, List.take_add_one, List.getElem?_drop, Nat.add_sub_cancel' h, slice]

end SqlBoundary.Text
