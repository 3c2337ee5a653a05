import SqlBoundary.Proofs.Lex.Boundary

/-! # A scan restarts after every split point

The text after a split point is scanned on its own: neither what stands before the split point nor
its position plays a part.
-/

namespace SqlBoundary

theorem ne_plain_of_point? {l : Lexeme} {k : Nat} {x : SplitPoint} (hx : l.point? k = some x)
    (t : Text) : l ≠ .plain t := by
  rintro rfl
  cases hx

/-- A lexeme that has a split point, at its place among the lexemes, was read off the text there,
and the lexemes after it are those of the rest of the text. -/
theorem exists_reading_of_points_eq {s : Text} {standardStrings : Bool}
    {before after : List SplitPoint} {x : SplitPoint}
    (h : (scan s standardStrings).points = before ++ x :: after) :
    ∃ head l previous mark rest rest' post, l.point? head.length = some x ∧
      readLexeme standardStrings previous mark rest = .ok (l, rest') ∧
      s = head ++ (l.text ++ rest') ∧ x.stop = (head ++ l.text).length ∧
      pointsFrom x.stop post = after ∧
      lex rest' standardStrings = ⟨post, (lex s standardStrings).unfinished⟩ := by
  have hpoints : pointsFrom 0 (lex s standardStrings).lexemes = before ++ x :: after := h
  obtain ⟨pre, l, post, hls, -, hx, hafter⟩ := exists_lexeme_of_pointsFrom hpoints
  rw [Nat.zero_add] at hx
  obtain ⟨previous, mark, rest, rest', hl, hs, hrest⟩ :=
    exists_readLexeme_of_lexemes_eq (ne_plain_of_point? hx) hls
  refine ⟨spelling pre, l, previous, mark, rest, rest', post, hx, hl, hs, ?_, hafter, ?_⟩
  · rw [Lexeme.stop_of_point? hx, List.length_append]
  · rw [lex, ← lexFrom_after_point hx hl, hrest]
    rfl

/-- The split points after a given one are those of the text after it, moved to their place, and
the same construct is left open. -/
theorem scan_drop_stop {s : Text} {standardStrings : Bool} {before after : List SplitPoint}
    {x : SplitPoint} (h : (scan s standardStrings).points = before ++ x :: after) :
    (scan (s.drop x.stop) standardStrings).points.map (SplitPoint.shift x.stop) = after ∧
      (scan (s.drop x.stop) standardStrings).unterminated =
        (scan s standardStrings).unterminated := by
  obtain ⟨head, l, previous, mark, rest, rest', post, -, -, hs, hstop, hafter, hlex⟩ :=
    exists_reading_of_points_eq h
  have hdrop : s.drop x.stop = rest' := by
    rw [hs, hstop, ← List.append_assoc, List.drop_left]
  rw [hdrop, scan, hlex]
  constructor
  · rw [← pointsFrom_add, Nat.zero_add]
    exact hafter
  · rfl

/-- A separator between two texts with dollar signs, of which the first is quoted. -/
theorem scan_drop_stop_dollar :
    (scan "$a$;$a$;$$;$$--'\n/*" true).points = [] ++ .semicolon 7 :: [.comment 13 17] ∧
      (scan (List.drop 8 "$a$;$a$;$$;$$--'\n/*".toList) true).points.map
        (SplitPoint.shift 8) = [.comment 13 17] ∧
      (scan (List.drop 8 "$a$;$a$;$$;$$--'\n/*".toList) true).unterminated =
        (scan "$a$;$a$;$$;$$--'\n/*" true).unterminated := by
  have h : (scan "$a$;$a$;$$;$$--'\n/*" true).points =
      [] ++ .semicolon 7 :: [.comment 13 17] := by
    decide +kernel
  exact ⟨h, scan_drop_stop h⟩

end SqlBoundary
