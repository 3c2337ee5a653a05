import SqlBoundary.SplitPoint

/-! # Where split points lie

A split point covers the text of the lexeme it comes from. The points of consecutive lexemes are
therefore in order and apart, and they move with the position of the first lexeme.
-/

namespace SqlBoundary

namespace SplitPoint

def start : SplitPoint → Nat
  | semicolon position => position
  | comment start _ => start

/-- The position just past a split point. -/
def stop : SplitPoint → Nat
  | semicolon position => position + 1
  | comment _ stop => stop

/-- The same split point in a text that has `k` more characters in front. -/
def shift (k : Nat) : SplitPoint → SplitPoint
  | semicolon position => semicolon (position + k)
  | comment start stop => comment (start + k) (stop + k)

end SplitPoint

/-- The text of consecutive lexemes. -/
def spelling (ls : List Lexeme) : Text := ls.flatMap Lexeme.text

@[simp] theorem spelling_nil : spelling [] = [] := rfl

@[simp] theorem spelling_cons (l : Lexeme) (ls : List Lexeme) :
    spelling (l :: ls) = l.text ++ spelling ls := rfl

@[simp] theorem spelling_append (ls ms : List Lexeme) :
    spelling (ls ++ ms) = spelling ls ++ spelling ms := by simp [spelling]

theorem Lexeme.start_of_point? {l : Lexeme} {k : Nat} {x : SplitPoint} (h : l.point? k = some x) :
    x.start = k := by
  cases l <;> simp [point?] at h <;> subst x <;> rfl

theorem Lexeme.stop_of_point? {l : Lexeme} {k : Nat} {x : SplitPoint} (h : l.point? k = some x) :
    x.stop = k + l.text.length := by
  cases l <;> simp [point?] at h <;> subst x <;> rfl

theorem Lexeme.point?_add (l : Lexeme) (k n : Nat) :
    l.point? (k + n) = (l.point? k).map (SplitPoint.shift n) := by
  cases l <;> simp [point?, SplitPoint.shift]
  omega

theorem pointsFrom_append (k : Nat) (ls ms : List Lexeme) :
    pointsFrom k (ls ++ ms) =
      pointsFrom k ls ++ pointsFrom (k + (spelling ls).length) ms := by
  induction ls generalizing k with
  | nil => simp [pointsFrom]
  | cons l ls ih => simp [pointsFrom, ih, Nat.add_assoc]

theorem pointsFrom_add (k n : Nat) (ls : List Lexeme) :
    pointsFrom (k + n) ls = (pointsFrom k ls).map (SplitPoint.shift n) := by
  induction ls generalizing k with
  | nil => rfl
  | cons l ls ih =>
    rw [pointsFrom, pointsFrom, Nat.add_right_comm, ih, Lexeme.point?_add, List.map_append]
    cases l.point? k <;> rfl

/-- A list of split points that is cut at one of them comes from lexemes cut at its lexeme. -/
theorem exists_lexeme_of_pointsFrom {k : Nat} {ls : List Lexeme} {before after : List SplitPoint}
    {x : SplitPoint} (h : pointsFrom k ls = before ++ x :: after) :
    ∃ pre l post, ls = pre ++ l :: post ∧ pointsFrom k pre = before ∧
      l.point? (k + (spelling pre).length) = some x ∧ pointsFrom x.stop post = after := by
  induction ls generalizing k before with
  | nil => simp [pointsFrom] at h
  | cons l ls ih =>
    have deeper {rest : List SplitPoint}
        (hrest : pointsFrom (k + l.text.length) ls = rest ++ x :: after)
        (hbefore : before = (l.point? k).toList ++ rest) :
        ∃ pre m post, l :: ls = pre ++ m :: post ∧ pointsFrom k pre = before ∧
          m.point? (k + (spelling pre).length) = some x ∧ pointsFrom x.stop post = after := by
      obtain ⟨pre, m, post, rfl, rfl, hm, hpost⟩ := ih hrest
      exact ⟨l :: pre, m, post, rfl, hbefore.symm, by simpa [Nat.add_assoc] using hm, hpost⟩
    rw [pointsFrom] at h
    cases hl : l.point? k with
    | none => exact deeper (by rw [hl] at h; exact h) (by simp [hl])
    | some y =>
      rw [hl] at h
      cases before with
      | nil =>
        obtain ⟨rfl, rfl⟩ : y = x ∧ pointsFrom (k + l.text.length) ls = after := by simpa using h
        exact ⟨[], l, ls, rfl, rfl, hl, by rw [Lexeme.stop_of_point? hl]⟩
      | cons z before =>
        obtain ⟨rfl, hrest⟩ := List.cons.inj h
        exact deeper hrest (by simp [hl])

theorem exists_lexeme_of_mem_pointsFrom {k : Nat} {ls : List Lexeme} {x : SplitPoint}
    (h : x ∈ pointsFrom k ls) :
    ∃ pre l post, ls = pre ++ l :: post ∧ l.point? (k + (spelling pre).length) = some x := by
  obtain ⟨before, after, h⟩ := List.append_of_mem h
  obtain ⟨pre, l, post, hls, -, hl, -⟩ := exists_lexeme_of_pointsFrom h
  exact ⟨pre, l, post, hls, hl⟩

theorem bounds_of_mem_pointsFrom {k : Nat} {ls : List Lexeme} {x : SplitPoint}
    (h : x ∈ pointsFrom k ls) :
    k ≤ x.start ∧ x.start ≤ x.stop ∧ x.stop ≤ k + (spelling ls).length := by
  obtain ⟨pre, l, post, rfl, hl⟩ := exists_lexeme_of_mem_pointsFrom h
  rw [Lexeme.start_of_point? hl, Lexeme.stop_of_point? hl]
  simp only [spelling_append, spelling_cons, List.length_append]
  omega

/-- Each split point starts at or after the end of every one before it. -/
theorem pairwise_pointsFrom (k : Nat) (ls : List Lexeme) :
    (pointsFrom k ls).Pairwise fun x y => x.stop ≤ y.start := by
  induction ls generalizing k with
  | nil => exact .nil
  | cons l ls ih =>
    rw [pointsFrom, List.pairwise_append]
    refine ⟨by cases l.point? k <;> simp, ih _, ?_⟩
    intro x hx y hy
    rw [Lexeme.stop_of_point? (Option.mem_toList.1 hx)]
    exact (bounds_of_mem_pointsFrom hy).1

end SqlBoundary
