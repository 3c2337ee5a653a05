import SqlBoundary.Proofs.Lex.Growth

/-! # Reading in front of another text

What a reader of literals or comments took is read again in front of other texts: in front of any
text when its end is marked, and in front of a text that does not go on with it when its end is seen
in what follows.
-/

namespace SqlBoundary

namespace Reader.Short
variable {α : Type} {read : Reader α} {spell : α → Text}

/-- A search finds the same in front of any other text. -/
theorem search_replace (short : read.Short spell) {s : Text} {f : Found α}
    (h : search read s = some f) (t : Text) :
    search read (f.skipped ++ (spell f.value ++ t)) = some { f with rest := t } := by
  rw [search_eq_some_iff] at h ⊢
  induction h with
  | here hread => exact .here (short.stable _ _ _ hread t)
  | @skip c s f hc hf ih =>
    refine .skip (s := f.skipped ++ (spell f.value ++ t)) ?_ ih
    cases hu : read (c :: (f.skipped ++ (spell f.value ++ t))) with
    | none => rfl
    | some found =>
      -- What is found here fits into the part that both texts share, where nothing was found.
      have hspell : spell found.1 ++ found.2 = c :: (f.skipped ++ (spell f.value ++ t)) :=
        short.spells _ _ _ hu
      have hwidth := short.width found.1 f.value
      have hshared : spell found.1 <+: c :: (f.skipped ++ spell f.value) := by
        have hwhole : c :: (f.skipped ++ spell f.value) <+:
            c :: (f.skipped ++ (spell f.value ++ t)) := ⟨t, by simp⟩
        refine List.prefix_of_prefix_length_le ⟨_, hspell⟩ hwhole ?_
        simp only [List.length_cons, List.length_append]
        omega
      have hs := search_spells short.spells (search_eq_some_iff.2 hf)
      obtain ⟨rest, hrest⟩ : spell found.1 <+: c :: s :=
        hshared.trans ⟨f.rest, by rw [List.cons_append, hs]⟩
      rw [← hrest, short.stable _ _ _ hu] at hc
      cases hc

/-- Nothing is found in what a search passes over. -/
theorem search_skipped (short : read.Short spell) {s : Text} {f : Found α}
    (h : search read s = some f) : search read f.skipped = none := by
  cases hg : search read f.skipped with
  | none => rfl
  | some g =>
    have hspell := congrArg List.length (search_spells short.spells hg)
    have hlonger := short.search_append hg (spell f.value ++ f.rest)
    rw [← List.append_assoc, search_spells short.spells h, h] at hlonger
    have hf := Option.some.inj hlonger
    have hskipped : f.skipped = g.skipped := by rw [hf]
    have := List.length_pos_iff.2 (short.nonempty g.value)
    simp only [hskipped, List.length_append] at hspell
    omega

end Reader.Short

theorem prepend_prepend (v w : Text) (r : Option (Text × Text)) :
    prepend v (prepend w r) = prepend (v ++ w) r := by
  cases r <;> simp [prepend]

section Readers
variable {quote : Quote} {escapes : Bool} {s t body rest : Text}

/-- A literal that was read through a closing quote goes on through a joint, or it ends there. -/
def closeQuoted? (quote : Quote) (escapes : Bool) (body t : Text) : Option (Text × Text) :=
  match readJoint? quote t with
  | some (joint, rest) => prepend (body ++ joint) (readQuoted? quote escapes rest)
  | none => some (body, t)

theorem prepend_closeQuoted? (v w t : Text) :
    prepend v (closeQuoted? quote escapes w t) = closeQuoted? quote escapes (v ++ w) t := by
  unfold closeQuoted?
  cases readJoint? quote t with
  | none => rfl
  | some r => simp only [prepend_prepend, List.append_assoc]

theorem closeQuoted?_of_readJoint?_eq_none (h : readJoint? quote t = none) :
    closeQuoted? quote escapes body t = some (body, t) := by
  rw [closeQuoted?, h]

/-- What was read of a literal is read again in front of any text that does not double its closing
quote. -/
theorem readQuoted?_replace (h : readQuoted? quote escapes s = some (body, rest))
    (ht : Text.afterPrefix? [quote.char] t = none) :
    readQuoted? quote escapes (body ++ t) = closeQuoted? quote escapes body t := by
  have short := readChar?_short (quote.isDelimiter escapes)
  fun_induction readQuoted? quote escapes s generalizing body rest with
  | case1 | case2 => cases h
  | case3 s f hf hvalue c rest' hrest ih =>
    obtain ⟨tail, hread, rfl⟩ := prepend_eq_some.1 h
    have hsearch := short.search_replace hf (c :: (tail ++ t))
    rw [← prepend_closeQuoted?, ← ih hread, show f.skipped ++ ['\\', c] ++ tail ++ t =
      f.skipped ++ ([f.value] ++ c :: (tail ++ t)) by simp [hvalue], readQuoted?_eq hsearch,
      if_pos hvalue]
  | case4 s f hf hvalue rest' hrest ih =>
    obtain ⟨tail, hread, rfl⟩ := prepend_eq_some.1 h
    have hchar := eq_char_of_search hf hvalue
    have hsearch := short.search_replace hf (quote.char :: (tail ++ t))
    have hdoubled : Text.afterPrefix? [quote.char] (quote.char :: (tail ++ t)) =
        some (tail ++ t) := Text.afterPrefix?_eq_some.2 rfl
    rw [← prepend_closeQuoted?, ← ih hread,
      show f.skipped ++ [quote.char, quote.char] ++ tail ++ t =
        f.skipped ++ ([f.value] ++ quote.char :: (tail ++ t)) by simp [hchar],
      readQuoted?_eq hsearch, if_neg hvalue]
    simp only [hdoubled]
  | case5 s f hf hvalue hrest joint rest' hjoint ih =>
    obtain ⟨tail, hread, rfl⟩ := prepend_eq_some.1 h
    have hchar := eq_char_of_search hf hvalue
    have hsearch := short.search_replace hf (joint ++ (tail ++ t))
    have hspell : joint ++ rest' = f.rest := readJoint?_spells quote _ _ _ hjoint
    have hne : joint ≠ [] := by
      rintro rfl
      have := length_rest_lt_of_readJoint? hjoint
      rw [← hspell] at this
      exact Nat.lt_irrefl _ this
    have hundoubled : Text.afterPrefix? [quote.char] (joint ++ (tail ++ t)) = none := by
      rw [afterPrefix?_eq_none] at hrest ⊢
      rwa [singleton_prefix_append_iff hne, ← singleton_prefix_append_iff hne rest', hspell]
    rw [← prepend_closeQuoted?, ← ih hread, show f.skipped ++ quote.char :: joint ++ tail ++ t =
      f.skipped ++ ([f.value] ++ (joint ++ (tail ++ t))) by simp [hchar],
      readQuoted?_eq hsearch, if_neg hvalue]
    have hagain : readJoint? quote (joint ++ (tail ++ t)) = some (joint, tail ++ t) :=
      readJoint?_stable quote _ _ _ hjoint _
    simp only [hundoubled, hagain]
  | case6 s f hf hvalue hrest hjoint =>
    cases h
    have hchar := eq_char_of_search hf hvalue
    have hsearch := short.search_replace hf t
    rw [show f.skipped ++ [quote.char] ++ t = f.skipped ++ ([f.value] ++ t) by simp [hchar],
      readQuoted?_eq hsearch, if_neg hvalue, closeQuoted?]
    simp only [ht]
    cases readJoint? quote t <;> simp

/-- After a literal neither its quote nor a joint follows. -/
theorem rest_of_readQuoted? (h : readQuoted? quote escapes s = some (body, rest)) :
    Text.afterPrefix? [quote.char] rest = none ∧ readJoint? quote rest = none := by
  fun_induction readQuoted? quote escapes s generalizing body rest with
  | case1 | case2 => cases h
  | case3 s f hf hvalue c rest' hrest ih =>
    obtain ⟨tail, hread, -⟩ := prepend_eq_some.1 h
    exact ih hread
  | case4 s f hf hvalue rest' hrest ih =>
    obtain ⟨tail, hread, -⟩ := prepend_eq_some.1 h
    exact ih hread
  | case5 s f hf hvalue hrest joint rest' hjoint ih =>
    obtain ⟨tail, hread, -⟩ := prepend_eq_some.1 h
    exact ih hread
  | case6 s f hf hvalue hrest hjoint =>
    cases h
    exact ⟨hrest, hjoint⟩

theorem search_readChar?_congr {accept accept' : Char → Bool} {f : Found Char}
    (h : search (readChar? accept) s = some f)
    (hskipped : ∀ c ∈ f.skipped, accept c = false → accept' c = false)
    (hvalue : ∀ c, accept c = true → accept' c = true) : search (readChar? accept') s = some f := by
  rw [search_eq_some_iff] at h ⊢
  induction h with
  | here hread =>
    have haccept := readChar?_accepts hread
    rw [← readChar?_spells accept _ _ _ hread]
    exact .here (by simp [readChar?, hvalue _ haccept])
  | skip hc hf ih =>
    have hnone := hskipped _ List.mem_cons_self (readChar?_eq_none.1 hc)
    exact .skip (readChar?_eq_none.2 hnone) (ih fun c hc => hskipped c (List.mem_cons_of_mem _ hc))

theorem search_isDelimiter_escapes {f : Found Char}
    (h : search (readChar? (quote.isDelimiter false)) s = some f) (hskipped : '\\' ∉ f.skipped) :
    search (readChar? (quote.isDelimiter escapes)) s = some f := by
  refine search_readChar?_congr h (fun c hc hfalse => ?_) fun c htrue => ?_
  · have hne : c ≠ '\\' := fun h => hskipped (h ▸ hc)
    cases quote <;> simp_all [Quote.isDelimiter]
  · cases quote <;> simp_all [Quote.isDelimiter]

/-- A literal without a backslash is read alike with escapes. -/
theorem readQuoted?_escapes (h : readQuoted? quote false s = some (body, rest))
    (hbody : '\\' ∉ body) : readQuoted? quote escapes s = some (body, rest) := by
  fun_induction readQuoted? quote false s generalizing body rest with
  | case1 | case2 => cases h
  | case3 s f hf hvalue c rest' hrest ih =>
    obtain ⟨tail, -, rfl⟩ := prepend_eq_some.1 h
    simp at hbody
  | case4 s f hf hvalue rest' hrest ih =>
    obtain ⟨tail, hread, rfl⟩ := prepend_eq_some.1 h
    simp only [List.mem_append, not_or] at hbody
    rw [readQuoted?_eq (search_isDelimiter_escapes hf hbody.1.1), if_neg hvalue, hrest]
    simp only [ih hread hbody.2]
    rfl
  | case5 s f hf hvalue hrest joint rest' hjoint ih =>
    obtain ⟨tail, hread, rfl⟩ := prepend_eq_some.1 h
    simp only [List.mem_append, not_or] at hbody
    rw [readQuoted?_eq (search_isDelimiter_escapes hf hbody.1.1), if_neg hvalue, hrest]
    simp only [hjoint, ih hread hbody.2]
    rfl
  | case6 s f hf hvalue hrest hjoint =>
    cases h
    simp only [List.mem_append, not_or] at hbody
    rw [readQuoted?_eq (search_isDelimiter_escapes hf hbody.1), if_neg hvalue, hrest]
    simp only [hjoint]

theorem readThrough?_replace {tag : Text} (htag : tag ≠ [])
    (h : readThrough? tag s = some (body, rest)) (t : Text) :
    readThrough? tag (body ++ t) = some (body, t) := by
  obtain ⟨f, hf, hbody⟩ := Option.map_eq_some_iff.1 h
  obtain ⟨rfl, rfl⟩ := Prod.mk.inj hbody
  obtain ⟨u, -, hread⟩ := search_read hf
  have hvalue : f.value = tag := (readText?_eq_some_iff.1 hread).1
  have hsearch := (readText?_short htag).search_replace hf t
  rw [readThrough?, List.append_assoc, hvalue, hsearch, ← hvalue]
  rfl

theorem readBlock?_replace {inner : Nat} (h : readBlock? inner s = some (body, rest)) (t : Text) :
    readBlock? inner (body ++ t) = some (body, t) := by
  have short := BlockDelimiter.read?_short
  fun_induction readBlock? inner s generalizing body rest with
  | case1 => cases h
  | case2 s f hf hvalue =>
    cases h
    rw [List.append_assoc, readBlock?_eq (short.search_replace hf t), hvalue]
  | case3 s f hf inner hvalue ih =>
    obtain ⟨tail, hread, rfl⟩ := prepend_eq_some.1 h
    rw [List.append_assoc, List.append_assoc, readBlock?_eq (short.search_replace hf (tail ++ t)),
      hvalue]
    simp only [ih hread]
    rfl
  | case4 s f hf inner hvalue ih =>
    obtain ⟨tail, hread, rfl⟩ := prepend_eq_some.1 h
    rw [List.append_assoc, List.append_assoc, readBlock?_eq (short.search_replace hf (tail ++ t)),
      hvalue]
    simp only [ih hread]
    rfl

end Readers

end SqlBoundary
