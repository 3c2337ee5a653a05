import SqlBoundary.Proofs.Lex.Reader

/-! # Reading a text that goes on

What a reader takes does not depend on the text after it. A search and a reader of literals or
comments therefore do the same in a longer text, unless they need more than the shorter one has;
then they go past its end.
-/

namespace SqlBoundary

variable {α : Type}

/-- What is read is read again in front of any other text. -/
def Reader.Stable (read : Reader α) (spell : α → Text) : Prop :=
  ∀ s value rest, read s = some (value, rest) → ∀ t, read (spell value ++ t) = some (value, t)

theorem Reader.Stable.append {read : Reader α} {spell : α → Text} (stable : read.Stable spell)
    (spells : read.Spells spell) {s rest : Text} {value : α} (h : read s = some (value, rest))
    (u : Text) : read (s ++ u) = some (value, rest ++ u) := by
  rw [← spells _ _ _ h, List.append_assoc]
  exact stable _ _ _ h _

/-- What is read only when the text goes on reaches past the end of the shorter text. -/
theorem Reader.Stable.length_lt {read : Reader α} {spell : α → Text} (stable : read.Stable spell)
    (spells : read.Spells spell) {s u rest : Text} {value : α} (h : read s = none)
    (hu : read (s ++ u) = some (value, rest)) : s.length < (spell value).length := by
  refine Nat.lt_of_not_le fun hfit => ?_
  obtain ⟨rest', rfl⟩ : spell value <+: s :=
    List.prefix_of_prefix_length_le ⟨rest, spells _ _ _ hu⟩ (List.prefix_append _ _) hfit
  rw [stable _ _ _ hu] at h
  cases h

theorem Mark.read?_stable : Reader.Stable Mark.read? Mark.text := by
  intro s value rest h t
  exact Mark.read?_eq_some_iff.2 rfl

theorem BlockDelimiter.read?_stable : Reader.Stable BlockDelimiter.read? BlockDelimiter.text := by
  intro s value rest h t
  exact BlockDelimiter.read?_eq_some_iff.2 rfl

theorem readChar?_stable (accept : Char → Bool) : Reader.Stable (readChar? accept) ([·]) := by
  intro s value rest h t
  exact readChar?_eq_some_iff.2 ⟨readChar?_accepts h, rfl⟩

theorem readTag?_stable : Reader.Stable readTag? id := by
  intro s value rest h t
  exact readTag?_eq_some_iff.2 ⟨(readTag?_eq_some_iff.1 h).1, rfl⟩

theorem readContinuation?_stable : Reader.Stable readContinuation? id := by
  intro s value rest h t
  exact readContinuation?_eq_some_iff_append.2 ⟨(readContinuation?_eq_some_iff_append.1 h).1, rfl⟩

theorem readJoint?_stable (quote : Quote) : Reader.Stable (readJoint? quote) id := by
  cases quote with
  | single => exact readContinuation?_stable
  | double =>
    intro s value rest h
    cases h

/-- A reader of a few texts whose lengths hardly differ. -/
structure Reader.Short (read : Reader α) (spell : α → Text) : Prop where
  spells : read.Spells spell
  stable : read.Stable spell
  nonempty : ∀ value, spell value ≠ []
  width : ∀ v w, (spell v).length ≤ (spell w).length + 1

theorem Mark.read?_short : Reader.Short Mark.read? Mark.text where
  spells := Mark.read?_spells
  stable := Mark.read?_stable
  nonempty := Mark.text_ne_nil
  width v w := by cases v <;> cases w <;> simp [Mark.text]

theorem BlockDelimiter.read?_short : Reader.Short BlockDelimiter.read? BlockDelimiter.text where
  spells := BlockDelimiter.read?_spells
  stable := BlockDelimiter.read?_stable
  nonempty := BlockDelimiter.text_ne_nil
  width v w := by cases v <;> cases w <;> simp [BlockDelimiter.text]

theorem readChar?_short (accept : Char → Bool) : Reader.Short (readChar? accept) ([·]) where
  spells := readChar?_spells accept
  stable := readChar?_stable accept
  nonempty _ := List.cons_ne_nil _ _
  width _ _ := Nat.le_succ _

theorem readText?_short {t : Text} (ht : t ≠ []) : Reader.Short (readText? t) fun _ => t where
  spells _ _ _ h := (readText?_eq_some_iff.1 h).2.symm
  stable _ _ _ h _ := readText?_eq_some_iff.2 ⟨(readText?_eq_some_iff.1 h).1, rfl⟩
  nonempty _ := ht
  width _ _ := Nat.le_succ _

namespace Reader.Short
variable {read : Reader α} {spell : α → Text}

theorem search_append (short : read.Short spell) {s : Text} {f : Found α}
    (h : search read s = some f) (u : Text) :
    search read (s ++ u) = some { f with rest := f.rest ++ u } := by
  rw [search_eq_some_iff] at h ⊢
  induction h with
  | here hread => exact .here (short.stable.append short.spells hread u)
  | @skip c s f hc hf ih =>
    refine .skip (s := s ++ u) ?_ ih
    cases hu : read (c :: (s ++ u)) with
    | none => rfl
    | some found =>
      -- A text found here would have to reach past the one found later.
      have hbeyond := short.stable.length_lt short.spells hc hu
      have hspell := congrArg List.length (search_spells short.spells (search_eq_some_iff.2 hf))
      have hwidth := short.width found.1 f.value
      simp only [List.length_append, List.length_cons] at hbeyond hspell
      omega

theorem length_lt_of_search_append (short : read.Short spell) {s u : Text} {f : Found α}
    (h : search read s = none) (hu : search read (s ++ u) = some f) :
    s.length < (f.skipped ++ spell f.value).length := by
  induction s generalizing f with
  | nil =>
    have := List.length_pos_iff.2 (short.nonempty f.value)
    simp only [List.length_append, List.length_nil]
    omega
  | cons c s ih =>
    obtain ⟨hc, hs⟩ := search_cons_eq_none.1 h
    cases search_eq_some_iff.1 hu with
    | here hread => exact short.stable.length_lt short.spells hc hread
    | skip _ hf =>
      have := ih hs (search_eq_some_iff.2 hf)
      simpa [Found.skip] using this

end Reader.Short

/-- How the readings of a text of length `n` and of the same text with `u` after it compare. Where
they differ, the longer text is read past the end of the shorter one, and what is read of the
shorter one is loose. -/
inductive Grows (spell : α → Text) (loose : α → Text → Prop) (n : Nat) (u : Text) :
    Option (α × Text) → Option (α × Text) → Prop
  | same (value : α) (rest : Text) :
      Grows spell loose n u (some (value, rest)) (some (value, rest ++ u))
  | beyond {short long : Option (α × Text)}
      (hshort : ∀ value rest, short = some (value, rest) → loose value rest)
      (hlong : ∀ value rest, long = some (value, rest) → n < (spell value).length) :
      Grows spell loose n u short long

namespace Grows
variable {spell : α → Text} {loose : α → Text → Prop} {n : Nat} {u : Text}
  {short long : Option (α × Text)}

theorem of_none (hlong : ∀ value rest, long = some (value, rest) → n < (spell value).length) :
    Grows spell loose n u none long :=
  .beyond (fun _ _ h => nomatch h) hlong

/-- What is read may be put into a larger whole, in front of which `m` characters were read. -/
theorem map {β : Type} {spell' : β → Text} {loose' : β → Text → Prop} {m : Nat} (g : α → β)
    (hspell : ∀ value, (spell' (g value)).length = m + (spell value).length)
    (hloose : ∀ value rest, loose value rest → loose' (g value) rest)
    (h : Grows spell loose n u short long) :
    Grows spell' loose' (m + n) u (short.map (Prod.map g id)) (long.map (Prod.map g id)) := by
  cases h with
  | same value rest => exact .same (g value) rest
  | beyond hshort hlong =>
    refine .beyond ?_ ?_
    · intro value rest hvalue
      obtain ⟨⟨value, rest⟩, hread, ⟨⟩⟩ := Option.map_eq_some_iff.1 hvalue
      exact hloose _ _ (hshort _ _ hread)
    · intro value rest hvalue
      obtain ⟨⟨value, rest⟩, hread, ⟨⟩⟩ := Option.map_eq_some_iff.1 hvalue
      rw [hspell]
      exact Nat.add_lt_add_left (hlong _ _ hread) m

end Grows

/-- What is read of the shorter text is read of the longer one too. -/
abbrev GrowsClosed (s u : Text) := Grows id (fun _ _ => False) s.length u

/-- The same, unless what is read of the shorter text leaves nothing but white space. -/
abbrev GrowsBlank (s u : Text) := Grows id (fun _ rest => Text.isBlank rest = true) s.length u

theorem Grows.prepend {loose : Text → Text → Prop} {s u head tail : Text}
    {short long : Option (Text × Text)}
    (hs : s = head ++ tail) (hloose : ∀ body rest, loose body rest → loose (head ++ body) rest)
    (h : Grows id loose tail.length u short long) :
    Grows id loose s.length u (prepend head short) (prepend head long) := by
  rw [hs, List.length_append]
  exact h.map (head ++ ·) (fun _ => List.length_append) hloose

theorem readThrough?_grows {tag : Text} (htag : tag ≠ []) (s u : Text) :
    GrowsClosed s u (readThrough? tag s) (readThrough? tag (s ++ u)) := by
  have short := readText?_short htag
  unfold readThrough?
  cases hs : search (readText? tag) s with
  | some f =>
    rw [short.search_append hs]
    exact .same _ _
  | none =>
    refine .of_none fun body rest h => ?_
    obtain ⟨f, hf, hbody⟩ := Option.map_eq_some_iff.1 h
    obtain ⟨t, -, hread⟩ := search_read hf
    rw [← (Prod.mk.inj hbody).1, (readText?_eq_some_iff.1 hread).1]
    exact short.length_lt_of_search_append hs hf

/-- A tag that needs the text to go on begins in characters of its name. -/
theorem isTagChar_of_readTag?_append {s u tag rest : Text} (h : readTag? s = none)
    (hu : readTag? (s ++ u) = some (tag, rest)) :
    s.all isTagChar = true ∧ s.length < tag.length := by
  have hlong : s.length < tag.length := readTag?_stable.length_lt readTag?_spells h hu
  obtain ⟨htag, hspell⟩ := readTag?_eq_some_iff.1 hu
  obtain ⟨name, hname, hvalid⟩ := isTag_iff.1 htag
  obtain rfl : tag = name ++ ['$'] := List.tail_eq_of_cons_eq hname
  have hpre : s <+: name := by
    rw [List.append_assoc] at hspell
    refine List.prefix_of_prefix_length_le ⟨u, hspell⟩ (List.prefix_append _ _) ?_
    simpa [Nat.lt_succ_iff] using hlong
  refine ⟨List.all_eq_true.2 fun c hc => ?_, hlong⟩
  exact List.all_eq_true.1 (isTagName_iff.1 hvalid).1 c (hpre.subset hc)

theorem readLine_append_of_not_mem {s : Text} (hs : '\n' ∉ s) (u : Text) :
    readLine (s ++ u) = (s ++ (readLine u).1, (readLine u).2) := by
  induction s with
  | nil => rfl
  | cons c s ih =>
    obtain ⟨hc, hs⟩ := not_or.1 (fun h => hs (List.mem_cons.2 h))
    rw [List.cons_append, readLine_cons (Ne.symm hc), ih hs]
    rfl

theorem readLine_ne_nil (c : Char) (s : Text) : (readLine (c :: s)).1 ≠ [] := by
  by_cases hc : c = '\n'
  · rw [hc, readLine_newline]
    exact List.cons_ne_nil _ _
  · rw [readLine_cons hc]
    exact List.cons_ne_nil _ _

/-- A block comment from its first delimiter on. -/
theorem readBlock?_eq {inner : Nat} {s : Text} {f : Found BlockDelimiter}
    (h : search BlockDelimiter.read? s = some f) :
    readBlock? inner s = match f.value, inner with
      | .closer, 0 => some (f.skipped ++ f.value.text, f.rest)
      | .closer, inner + 1 => prepend (f.skipped ++ f.value.text) (readBlock? inner f.rest)
      | .opener, inner => prepend (f.skipped ++ f.value.text) (readBlock? (inner + 1) f.rest) := by
  rw [readBlock?]
  split
  next hf => simp [h] at hf
  next g hg =>
    obtain rfl : f = g := Option.some.inj (h.symm.trans hg)
    rfl

theorem readBlock?_eq_none {inner : Nat} {s : Text} (h : search BlockDelimiter.read? s = none) :
    readBlock? inner s = none := by
  rw [readBlock?]
  split
  next => rfl
  next f hf => simp [h] at hf

theorem prefix_of_readBlock? {inner : Nat} {s body rest : Text} {f : Found BlockDelimiter}
    (h : search BlockDelimiter.read? s = some f) (hbody : readBlock? inner s = some (body, rest)) :
    f.skipped ++ f.value.text <+: body := by
  rw [readBlock?_eq h] at hbody
  split at hbody
  next => cases hbody; exact List.prefix_rfl
  next =>
    obtain ⟨tail, -, rfl⟩ := prepend_eq_some.1 hbody
    exact List.prefix_append _ _
  next =>
    obtain ⟨tail, -, rfl⟩ := prepend_eq_some.1 hbody
    exact List.prefix_append _ _

theorem readBlock?_grows (inner : Nat) (s u : Text) :
    GrowsClosed s u (readBlock? inner s) (readBlock? inner (s ++ u)) := by
  have short := BlockDelimiter.read?_short
  fun_induction readBlock? inner s with
  | case1 inner s hs =>
    refine .of_none fun body rest hbody => ?_
    cases hu : search BlockDelimiter.read? (s ++ u) with
    | none => simp [readBlock?_eq_none hu] at hbody
    | some f =>
      have hlength := (prefix_of_readBlock? hu hbody).length_le
      exact Nat.lt_of_lt_of_le (short.length_lt_of_search_append hs hu) hlength
  | case2 s f hf hvalue =>
    rw [readBlock?_eq (short.search_append hf u), hvalue]
    exact .same _ _
  | case3 s f hf inner hvalue ih =>
    rw [readBlock?_eq (short.search_append hf u), hvalue]
    exact ih.prepend (by rw [← hvalue, search_spells short.spells hf]) fun _ _ => id
  | case4 s f hf inner hvalue ih =>
    rw [readBlock?_eq (short.search_append hf u), hvalue]
    exact ih.prepend (by rw [← hvalue, search_spells short.spells hf]) fun _ _ => id

section Quoted
variable {quote : Quote} {escapes : Bool} {s : Text}

theorem readQuoted?_eq_none (h : search (readChar? (quote.isDelimiter escapes)) s = none) :
    readQuoted? quote escapes s = none := by
  rw [readQuoted?]
  split
  next => rfl
  next f hf => simp [h] at hf

/-- A quoted literal from the first character on that needs a decision. -/
theorem readQuoted?_eq {f : Found Char}
    (h : search (readChar? (quote.isDelimiter escapes)) s = some f) :
    readQuoted? quote escapes s =
      if f.value = '\\' then
        match f.rest with
        | [] => none
        | c :: rest => prepend (f.skipped ++ ['\\', c]) (readQuoted? quote escapes rest)
      else
        match Text.afterPrefix? [quote.char] f.rest with
        | some rest =>
          prepend (f.skipped ++ [quote.char, quote.char]) (readQuoted? quote escapes rest)
        | none =>
          match readJoint? quote f.rest with
          | some (joint, rest) =>
            prepend (f.skipped ++ quote.char :: joint) (readQuoted? quote escapes rest)
          | none => some (f.skipped ++ [quote.char], f.rest) := by
  rw [readQuoted?]
  split
  next hf => simp [h] at hf
  next g hg =>
    obtain rfl : f = g := Option.some.inj (h.symm.trans hg)
    by_cases hvalue : f.value = '\\'
    · rw [if_pos hvalue, if_pos hvalue]
      split
      next hrest => rw [hrest]
      next hrest => rw [hrest]
    · rw [if_neg hvalue, if_neg hvalue]
      split
      next hrest => rw [hrest]
      next hrest =>
        rw [hrest]
        split
        next hjoint => rw [hjoint]
        next hjoint => rw [hjoint]

/-- A literal that ends goes through the first character that needs a decision. -/
theorem length_lt_of_readQuoted? {f : Found Char} {body rest : Text}
    (h : search (readChar? (quote.isDelimiter escapes)) s = some f)
    (hbody : readQuoted? quote escapes s = some (body, rest)) :
    f.skipped.length < body.length := by
  rw [readQuoted?_eq h] at hbody
  repeat' split at hbody
  next => cases hbody
  next =>
    obtain ⟨tail, -, rfl⟩ := prepend_eq_some.1 hbody
    simp
  next =>
    obtain ⟨tail, -, rfl⟩ := prepend_eq_some.1 hbody
    simp
  next =>
    obtain ⟨tail, -, rfl⟩ := prepend_eq_some.1 hbody
    simp
  next =>
    cases hbody
    simp

theorem singleton_prefix_append_iff {c : Char} {t : Text} (ht : t ≠ []) (u : Text) :
    [c] <+: t ++ u ↔ [c] <+: t := by
  cases t with
  | nil => exact absurd rfl ht
  | cons d t => simp [List.cons_prefix_cons]

/-- A joint that needs the text to go on begins in white space. -/
theorem isBlank_of_readJoint?_append {s u joint rest : Text} (h : readJoint? quote s = none)
    (hu : readJoint? quote (s ++ u) = some (joint, rest)) :
    Text.isBlank s = true ∧ s.length < joint.length := by
  have hlong : s.length < joint.length :=
    (readJoint?_stable quote).length_lt (readJoint?_spells quote) h hu
  refine ⟨?_, hlong⟩
  cases quote with
  | double => cases hu
  | single =>
    obtain ⟨-, hdrop, rfl⟩ := readContinuation?_eq_some_iff.1 hu
    have hpre : s <+: (s ++ u).takeWhile isSpace := by
      refine List.prefix_of_prefix_length_le (List.prefix_append s u)
        (List.takeWhile_prefix isSpace) ?_
      simpa [Nat.lt_succ_iff] using hlong
    exact List.all_eq_true.2 fun c hc =>
      List.all_eq_true.1 List.all_takeWhile c (hpre.subset hc)

/-- A literal that closes in the shorter text may be continued where that text ends. -/
theorem grows_at_close {f : Found Char}
    (hf : search (readChar? (quote.isDelimiter escapes)) s = some f)
    (hrest : Text.afterPrefix? [quote.char] f.rest = none)
    (hjoint : readJoint? quote f.rest = none) (u : Text) :
    GrowsBlank s u (some (f.skipped ++ [quote.char], f.rest))
      (match Text.afterPrefix? [quote.char] (f.rest ++ u) with
      | some rest =>
        prepend (f.skipped ++ [quote.char, quote.char]) (readQuoted? quote escapes rest)
      | none =>
        match readJoint? quote (f.rest ++ u) with
        | some (joint, rest) =>
          prepend (f.skipped ++ quote.char :: joint) (readQuoted? quote escapes rest)
        | none => some (f.skipped ++ [quote.char], f.rest ++ u)) := by
  have hlength := congrArg List.length (search_spells (readChar?_spells _) hf)
  simp only [List.length_append, List.length_singleton] at hlength
  split
  next rest hdoubled =>
    have hnil : f.rest = [] := by
      by_contra hne
      rw [afterPrefix?_eq_none, ← singleton_prefix_append_iff hne u] at hrest
      exact hrest ⟨rest, (Text.afterPrefix?_eq_some.1 hdoubled).symm⟩
    refine .beyond ?_ ?_
    · rintro _ _ ⟨⟩
      rw [hnil]
      rfl
    · intro body rest hbody
      obtain ⟨tail, -, rfl⟩ := prepend_eq_some.1 hbody
      simp only [hnil, id, List.length_append, List.length_cons, List.length_nil] at hlength ⊢
      omega
  next =>
    split
    next joint rest hlonger =>
      obtain ⟨hblank, hjoint⟩ := isBlank_of_readJoint?_append hjoint hlonger
      refine .beyond ?_ ?_
      · rintro _ _ ⟨⟩
        exact hblank
      · intro body rest hbody
        obtain ⟨tail, -, rfl⟩ := prepend_eq_some.1 hbody
        simp only [id, List.length_append, List.length_cons]
        omega
    next => exact .same _ _

theorem readQuoted?_grows (quote : Quote) (escapes : Bool) (s u : Text) :
    GrowsBlank s u (readQuoted? quote escapes s) (readQuoted? quote escapes (s ++ u)) := by
  have short := readChar?_short (quote.isDelimiter escapes)
  fun_induction readQuoted? quote escapes s with
  | case1 s hs =>
    refine .of_none fun body rest hbody => ?_
    cases hu : search (readChar? (quote.isDelimiter escapes)) (s ++ u) with
    | none => simp [readQuoted?_eq_none hu] at hbody
    | some f =>
      have hbeyond := short.length_lt_of_search_append hs hu
      have hlength := length_lt_of_readQuoted? hu hbody
      simp only [id, List.length_append, List.length_singleton] at hbeyond ⊢
      omega
  | case2 s f hf hvalue hrest =>
    refine .of_none fun body rest hbody => ?_
    rw [readQuoted?_eq (short.search_append hf u), if_pos hvalue] at hbody
    simp only [hrest, List.nil_append] at hbody
    split at hbody
    next => cases hbody
    next c rest' =>
      obtain ⟨tail, -, rfl⟩ := prepend_eq_some.1 hbody
      have := congrArg List.length (search_spells short.spells hf)
      simp only [hrest, id, List.length_append, List.length_cons, List.length_nil] at this ⊢
      omega
  | case3 s f hf hvalue c rest hrest ih =>
    rw [readQuoted?_eq (short.search_append hf u), if_pos hvalue]
    simp only [hrest, List.cons_append]
    refine ih.prepend ?_ fun _ _ => id
    rw [← search_spells short.spells hf, hvalue, hrest]
    simp
  | case4 s f hf hvalue rest hrest ih =>
    have hs := search_spells short.spells hf
    have hquote := Text.afterPrefix?_eq_some.1 hrest
    have hlonger : Text.afterPrefix? [quote.char] (f.rest ++ u) = some (rest ++ u) := by
      rw [Text.afterPrefix?_eq_some, hquote, List.append_assoc]
    rw [readQuoted?_eq (short.search_append hf u), if_neg hvalue]
    simp only [hlonger]
    refine ih.prepend ?_ fun _ _ => id
    rw [← hs, eq_char_of_search hf hvalue, hquote]
    simp
  | case5 s f hf hvalue hrest joint rest hjoint ih =>
    have hs := search_spells short.spells hf
    have hspell := readJoint?_spells quote _ _ _ hjoint
    have hne : f.rest ≠ [] := by
      have := length_rest_lt_of_readJoint? hjoint
      rintro hnil
      simp [hnil] at this
    have hlonger : Text.afterPrefix? [quote.char] (f.rest ++ u) = none := by
      rw [afterPrefix?_eq_none] at hrest ⊢
      rwa [singleton_prefix_append_iff hne]
    rw [readQuoted?_eq (short.search_append hf u), if_neg hvalue]
    simp only [hlonger, (readJoint?_stable quote).append (readJoint?_spells quote) hjoint u]
    refine ih.prepend ?_ fun _ _ => id
    rw [← hs, eq_char_of_search hf hvalue, ← hspell]
    simp
  | case6 s f hf hvalue hrest hjoint =>
    rw [readQuoted?_eq (short.search_append hf u), if_neg hvalue]
    exact grows_at_close hf hrest hjoint u

end Quoted

end SqlBoundary
