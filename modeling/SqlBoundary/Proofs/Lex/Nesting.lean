import SqlBoundary.Proofs.Lex.Reader

/-! # Nested block comments

The delimiters of block comments are found from left to right without overlap. A comment ends at
the first delimiter at which as many comments were closed as were opened.
-/

namespace SqlBoundary

/-- The delimiters of a text that is at a given position, each with the position just past it. -/
def delimitersFrom (k : Nat) : Text → List (BlockDelimiter × Nat)
  | '/' :: '*' :: s => (.opener, k + 2) :: delimitersFrom (k + 2) s
  | '*' :: '/' :: s => (.closer, k + 2) :: delimitersFrom (k + 2) s
  | _ :: s => delimitersFrom (k + 1) s
  | [] => []

def opened (ds : List (BlockDelimiter × Nat)) : Nat := ds.countP (·.1 = .opener)

def closed (ds : List (BlockDelimiter × Nat)) : Nat := ds.countP (·.1 = .closer)

@[simp] theorem opened_nil : opened [] = 0 := rfl

@[simp] theorem closed_nil : closed [] = 0 := rfl

@[simp] theorem opened_opener (k : Nat) (ds : List (BlockDelimiter × Nat)) :
    opened ((.opener, k) :: ds) = opened ds + 1 := by simp [opened]

@[simp] theorem opened_closer (k : Nat) (ds : List (BlockDelimiter × Nat)) :
    opened ((.closer, k) :: ds) = opened ds := by simp [opened]

@[simp] theorem closed_opener (k : Nat) (ds : List (BlockDelimiter × Nat)) :
    closed ((.opener, k) :: ds) = closed ds := by simp [closed]

@[simp] theorem closed_closer (k : Nat) (ds : List (BlockDelimiter × Nat)) :
    closed ((.closer, k) :: ds) = closed ds + 1 := by simp [closed]

@[simp] theorem opened_append (ds es : List (BlockDelimiter × Nat)) :
    opened (ds ++ es) = opened ds + opened es := List.countP_append

@[simp] theorem closed_append (ds es : List (BlockDelimiter × Nat)) :
    closed (ds ++ es) = closed ds + closed es := List.countP_append

/-- Just before `stop` the delimiters balance for the first time. -/
def BalancesAt (ds : List (BlockDelimiter × Nat)) (stop : Nat) : Prop :=
  ∃ before last after, ds = before ++ (last, stop) :: after ∧
    opened (before ++ [(last, stop)]) = closed (before ++ [(last, stop)]) ∧
    ∀ es, es <+: before → es ≠ [] → opened es ≠ closed es

theorem delimitersFrom_cons_of_read?_eq_none {c : Char} {s : Text}
    (h : BlockDelimiter.read? (c :: s) = none) (k : Nat) :
    delimitersFrom k (c :: s) = delimitersFrom (k + 1) s := by
  rw [delimitersFrom.eq_def]
  split
  next heq => simp [heq, BlockDelimiter.read?] at h
  next heq => simp [heq, BlockDelimiter.read?] at h
  next heq => rw [(List.cons.inj heq).2]
  next heq => cases heq

/-- A search finds the first delimiter. -/
theorem delimitersFrom_of_search_eq_some {s : Text} {f : Found BlockDelimiter}
    (h : search BlockDelimiter.read? s = some f) (k : Nat) :
    delimitersFrom k s =
      (f.value, k + (f.skipped ++ f.value.text).length) ::
        delimitersFrom (k + (f.skipped ++ f.value.text).length) f.rest := by
  induction search_eq_some_iff.1 h generalizing k with
  | @here s rest value hread =>
    rw [← BlockDelimiter.read?_spells _ _ _ hread]
    cases value <;> rfl
  | skip hc hf ih =>
    rw [delimitersFrom_cons_of_read?_eq_none hc, ih (search_eq_some_iff.2 hf)]
    simp only [Found.skip, List.cons_append, List.length_cons, Nat.add_assoc, Nat.add_comm 1]

/-- The reader of a comment that encloses `inner` more open ones stops at the first closer that
leaves no comment open. -/
theorem readBlock?_delimiters {inner : Nat} {s body rest : Text}
    (h : readBlock? inner s = some (body, rest)) (k : Nat) :
    ∃ before after, delimitersFrom k s = before ++ (.closer, k + body.length) :: after ∧
      closed before = opened before + inner ∧
      ∀ es, es <+: before → closed es ≤ opened es + inner := by
  fun_induction readBlock? inner s generalizing body rest k with
  | case1 => cases h
  | case2 s f hf hvalue =>
    cases h
    refine ⟨[], _, by rw [delimitersFrom_of_search_eq_some hf, hvalue]; rfl, rfl, ?_⟩
    intro es hes
    rw [List.prefix_nil.1 hes]
    exact Nat.le_refl 0
  | case3 s f hf inner hvalue ih =>
    obtain ⟨tail, hread, rfl⟩ := prepend_eq_some.1 h
    obtain ⟨before, after, hds, hbefore, hprefix⟩ :=
      ih hread (k + (f.skipped ++ f.value.text).length)
    refine ⟨(.closer, k + (f.skipped ++ f.value.text).length) :: before, after, ?_, ?_, ?_⟩
    · rw [delimitersFrom_of_search_eq_some hf, hds, hvalue]
      simp only [List.length_append, List.cons_append, Nat.add_assoc]
    · rw [opened_closer, closed_closer, hbefore, Nat.add_assoc]
    · intro es hes
      obtain rfl | ⟨es', rfl, hes'⟩ := List.prefix_cons_iff.1 hes
      · exact Nat.zero_le _
      · rw [opened_closer, closed_closer]
        have := hprefix es' hes'
        omega
  | case4 s f hf inner hvalue ih =>
    obtain ⟨tail, hread, rfl⟩ := prepend_eq_some.1 h
    obtain ⟨before, after, hds, hbefore, hprefix⟩ :=
      ih hread (k + (f.skipped ++ f.value.text).length)
    refine ⟨(.opener, k + (f.skipped ++ f.value.text).length) :: before, after, ?_, ?_, ?_⟩
    · rw [delimitersFrom_of_search_eq_some hf, hds, hvalue]
      simp only [List.length_append, List.cons_append, Nat.add_assoc]
    · rw [opened_opener, closed_opener, hbefore]
      omega
    · intro es hes
      obtain rfl | ⟨es', rfl, hes'⟩ := List.prefix_cons_iff.1 hes
      · exact Nat.zero_le _
      · rw [opened_opener, closed_opener]
        have := hprefix es' hes'
        omega

theorem delimitersFrom_of_search_eq_none {s : Text} (h : search BlockDelimiter.read? s = none)
    (k : Nat) : delimitersFrom k s = [] := by
  induction s generalizing k with
  | nil => rfl
  | cons c s ih =>
    obtain ⟨hc, hs⟩ := search_cons_eq_none.1 h
    rw [delimitersFrom_cons_of_read?_eq_none hc, ih hs]

/-- Where the reader finds no end, no delimiter closes the comment. -/
theorem closed_le_of_readBlock?_eq_none {inner : Nat} {s : Text} (h : readBlock? inner s = none)
    (k : Nat) : ∀ es, es <+: delimitersFrom k s → closed es ≤ opened es + inner := by
  fun_induction readBlock? inner s generalizing k with
  | case1 inner s hs =>
    intro es hes
    rw [delimitersFrom_of_search_eq_none hs, List.prefix_nil] at hes
    rw [hes]
    exact Nat.zero_le _
  | case2 => cases h
  | case3 s f hf inner hvalue ih =>
    intro es hes
    rw [delimitersFrom_of_search_eq_some hf, hvalue] at hes
    obtain rfl | ⟨es', rfl, hes'⟩ := List.prefix_cons_iff.1 hes
    · exact Nat.zero_le _
    · rw [opened_closer, closed_closer]
      have := ih (Option.map_eq_none_iff.1 h) _ es' hes'
      omega
  | case4 s f hf inner hvalue ih =>
    intro es hes
    rw [delimitersFrom_of_search_eq_some hf, hvalue] at hes
    obtain rfl | ⟨es', rfl, hes'⟩ := List.prefix_cons_iff.1 hes
    · exact Nat.zero_le _
    · rw [opened_opener, closed_opener]
      have := ih (Option.map_eq_none_iff.1 h) _ es' hes'
      omega

/-- A block comment ends where its delimiters balance for the first time. -/
theorem balancesAt_of_readBlock? {s body rest : Text} (h : readBlock? 0 s = some (body, rest))
    (k : Nat) :
    BalancesAt (delimitersFrom k ('/' :: '*' :: s)) (k + ('/' :: '*' :: body).length) := by
  obtain ⟨before, after, hds, hbefore, hprefix⟩ := readBlock?_delimiters h (k + 2)
  have hstop : k + 2 + body.length = k + ('/' :: '*' :: body).length := by
    simp only [List.length_cons]
    omega
  refine ⟨(.opener, k + 2) :: before, .closer, after, ?_, ?_, ?_⟩
  · rw [delimitersFrom, hds, hstop]
    rfl
  · simp [hbefore]
  · intro es hes hne
    obtain rfl | ⟨es', rfl, hes'⟩ := List.prefix_cons_iff.1 hes
    · exact absurd rfl hne
    · rw [opened_opener, closed_opener]
      have := hprefix es' hes'
      omega

theorem BalancesAt.unique {ds : List (BlockDelimiter × Nat)} {i j : Nat} (hi : BalancesAt ds i)
    (hj : BalancesAt ds j) : i = j := by
  -- Of two such places the earlier one would be in front of the other.
  have earlier {before before' after after' : List (BlockDelimiter × Nat)}
      {x x' : BlockDelimiter × Nat} (h : before ++ x :: after = before' ++ x' :: after')
      (hbalanced : opened (before ++ [x]) = closed (before ++ [x]))
      (hfirst : ∀ es, es <+: before' → es ≠ [] → opened es ≠ closed es) :
      before'.length ≤ before.length := by
    by_contra hlt
    have hwhole : before ++ [x] <+: before' ++ x' :: after' :=
      ⟨after, by rw [List.append_assoc, ← h, List.singleton_append]⟩
    refine hfirst (before ++ [x]) ?_ (by simp) hbalanced
    refine List.prefix_of_prefix_length_le hwhole (List.prefix_append _ _) ?_
    rw [List.length_append, List.length_singleton]
    omega
  obtain ⟨before, last, after, hds, hbalanced, hfirst⟩ := hi
  obtain ⟨before', last', after', hds', hbalanced', hfirst'⟩ := hj
  have hsame : before ++ (last, i) :: after = before' ++ (last', j) :: after' :=
    hds.symm.trans hds'
  have hlength := Nat.le_antisymm (earlier hsame.symm hbalanced' hfirst)
    (earlier hsame hbalanced hfirst')
  obtain ⟨-, hafter⟩ := List.append_inj hsame hlength
  exact (Prod.mk.inj (List.cons.inj hafter).1).2

/-- Where the delimiters of a comment balance for the first time, its reader stops. -/
theorem readBlock?_of_balancesAt {s : Text} {k stop : Nat}
    (h : BalancesAt (delimitersFrom k ('/' :: '*' :: s)) stop) :
    ∃ body rest, readBlock? 0 s = some (body, rest) ∧
      stop = k + ('/' :: '*' :: body).length := by
  cases hread : readBlock? 0 s with
  | some r => exact ⟨r.1, r.2, rfl, h.unique (balancesAt_of_readBlock? hread k)⟩
  | none =>
    obtain ⟨before, last, after, hds, hbalanced, -⟩ := h
    have hall : before ++ [(last, stop)] <+: delimitersFrom k ('/' :: '*' :: s) :=
      ⟨after, by rw [hds, List.append_assoc, List.singleton_append]⟩
    rw [delimitersFrom] at hall
    obtain hnil | ⟨es, hes, hprefix⟩ := List.prefix_cons_iff.1 hall
    · simp at hnil
    · rw [hes, opened_opener, closed_opener] at hbalanced
      have := closed_le_of_readBlock?_eq_none hread (k + 2) es hprefix
      omega

end SqlBoundary
