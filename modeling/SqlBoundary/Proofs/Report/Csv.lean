import SqlBoundary.Report
import Mathlib.Data.List.Basic

/-! # Comma-separated reports read back

A reader splits a text into records and a record into fields, both only outside double quotes. It
passes over a written field as a whole, whatever follows, since a character that could begin a
separator is quoted. So it finds the records and fields that were written.
-/

namespace SqlBoundary.Csv

/-- The pieces of a text between the separators outside double quotes, for a separator that is not
empty; `quoted` tells whether a quote is open. -/
def pieces (separator : Text) (quoted : Bool) : Text → List Text
  | [] => [[]]
  | c :: rest =>
    if !quoted && separator.isPrefixOf (c :: rest) then
      [] :: pieces separator false (rest.drop (separator.length - 1))
    else (pieces separator (quoted ^^ c = '"') rest).modifyHead (c :: ·)
termination_by s => s.length

/-- What stands in a quoted field up to the quote that closes it. -/
def quotedContent : Text → Text
  | '"' :: '"' :: rest => '"' :: quotedContent rest
  | '"' :: _ => []
  | c :: rest => c :: quotedContent rest
  | [] => []

/-- What a field holds. -/
def content : Text → Text
  | '"' :: rest => quotedContent rest
  | t => t

/-- Reads the records of a text, each with its fields. What follows the last separator is a record
unless it is empty. -/
def read (separator s : Text) : List (List Text) :=
  let records := pieces separator false s
  let records := if records.getLast? = some [] then records.dropLast else records
  records.map fun record => (pieces [','] false record).map content

/-- A separator that quotes do not hide. -/
structure IsSeparator (separator : Text) : Prop where
  nonempty : separator ≠ []
  unquoted : '"' ∉ separator

theorem isSeparator_comma : IsSeparator [','] := ⟨List.cons_ne_nil _ _, by decide⟩

/-- A reader passes over a text as a whole, whatever follows it. -/
def IsPassed (separator t : Text) : Prop :=
  ∀ s, pieces separator false (t ++ s) = (pieces separator false s).modifyHead (t ++ ·)

section
variable {separator : Text}

theorem pieces_cons_of_not_mem (h : IsSeparator separator) {c : Char} (hc : c ∉ separator)
    (s : Text) :
    pieces separator false (c :: s) = (pieces separator (c = '"') s).modifyHead (c :: ·) := by
  have hbegins : separator.isPrefixOf (c :: s) = false := by
    obtain ⟨d, tail, rfl⟩ := List.exists_cons_of_ne_nil h.nonempty
    rw [List.isPrefixOf_cons_cons, Bool.and_eq_false_iff]
    exact .inl (beq_false_of_ne fun hdc => hc (hdc ▸ List.mem_cons_self))
  rw [pieces, hbegins]
  simp

theorem pieces_quoted_cons (c : Char) (s : Text) :
    pieces separator true (c :: s) = (pieces separator (c ≠ '"') s).modifyHead (c :: ·) := by
  rw [pieces]
  simp

theorem pieces_separator (h : IsSeparator separator) (s : Text) :
    pieces separator false (separator ++ s) = [] :: pieces separator false s := by
  obtain ⟨d, tail, rfl⟩ := List.exists_cons_of_ne_nil h.nonempty
  have hbegins : (d :: tail).isPrefixOf (d :: (tail ++ s)) = true := by simp
  rw [List.cons_append, pieces, hbegins]
  simp

theorem isPassed_nil : IsPassed separator [] := fun _ => (congrFun List.modifyHead_id _).symm

theorem IsPassed.append {t u : Text} (ht : IsPassed separator t) (hu : IsPassed separator u) :
    IsPassed separator (t ++ u) := by
  intro s
  rw [List.append_assoc, ht, hu, List.modifyHead_modifyHead]
  congr 1
  funext piece
  exact (List.append_assoc t u piece).symm

theorem IsPassed.pieces_eq {t : Text} (h : IsPassed separator t) :
    pieces separator false t = [t] := by
  have hnil := h []
  rwa [List.append_nil, pieces, List.modifyHead_cons, List.append_nil] at hnil

theorem IsPassed.pieces_append {t : Text} (h : IsPassed separator t)
    (hseparator : IsSeparator separator) (s : Text) :
    pieces separator false (t ++ (separator ++ s)) = t :: pieces separator false s := by
  rw [h, pieces_separator hseparator, List.modifyHead_cons, List.append_nil]

theorem isPassed_char (h : IsSeparator separator) {c : Char} (hc : c ∉ separator)
    (hquote : c ≠ '"') : IsPassed separator [c] := by
  intro s
  rw [List.singleton_append, pieces_cons_of_not_mem h hc, decide_eq_false hquote]
  rfl

theorem isPassed_of_forall (h : IsSeparator separator) {t : Text}
    (ht : ∀ c ∈ t, c ∉ separator ∧ c ≠ '"') : IsPassed separator t := by
  induction t with
  | nil => exact isPassed_nil
  | cons c t ih =>
    obtain ⟨⟨hc, hquote⟩, ht⟩ := List.forall_mem_cons.1 ht
    exact (isPassed_char h hc hquote).append (ih ht)

/-- A doubled quote closes and opens again, with nothing between the two. -/
theorem pieces_doubleQuotes (h : IsSeparator separator) (t s : Text) :
    pieces separator true (doubleQuotes t ++ s) =
      (pieces separator true s).modifyHead (doubleQuotes t ++ ·) := by
  induction t with
  | nil => exact (congrFun List.modifyHead_id _).symm
  | cons c t ih =>
    rw [doubleQuotes, List.flatMap_cons, ← doubleQuotes]
    by_cases hquote : c = '"'
    · subst hquote
      simp [pieces_quoted_cons, pieces_cons_of_not_mem h h.unquoted, ih, Function.comp_def]
    · simp [hquote, pieces_quoted_cons, ih, Function.comp_def]

theorem isPassed_quoted (h : IsSeparator separator) (t : Text) :
    IsPassed separator ('"' :: doubleQuotes t ++ ['"']) := by
  intro s
  rw [List.append_assoc, List.cons_append, pieces_cons_of_not_mem h h.unquoted, decide_eq_true rfl,
    pieces_doubleQuotes h, List.singleton_append, pieces_quoted_cons]
  simp [Function.comp_def]

end

theorem quotedContent_doubleQuotes (t : Text) :
    quotedContent (doubleQuotes t ++ ['"']) = t := by
  induction t with
  | nil => rfl
  | cons c t ih =>
    rw [doubleQuotes, List.flatMap_cons, ← doubleQuotes]
    by_cases hquote : c = '"'
    · subst hquote
      simp [quotedContent, ih]
    · simp [hquote, quotedContent, ih]

section
variable {separator : Text}

theorem of_needsQuotes_eq_false {t : Text} (h : needsQuotes separator t = false) {c : Char}
    (hc : c ∈ t) : c ≠ ',' ∧ c ≠ '"' ∧ c ∉ separator := by
  have := List.any_eq_false.1 h c hc
  simpa [and_assoc] using this

theorem content_field (t : Text) : content (field separator t) = t := by
  unfold field
  cases h : needsQuotes separator t with
  | true => exact quotedContent_doubleQuotes t
  | false =>
    rw [if_neg Bool.false_ne_true]
    cases t with
    | nil => rfl
    | cons c t =>
      obtain ⟨-, hquote, -⟩ := of_needsQuotes_eq_false h List.mem_cons_self
      rw [content]
      exact fun rest hrest => hquote (List.cons.inj hrest).1

/-- A field is passed over by every separator whose characters force quotes. -/
theorem isPassed_field {other : Text} (h : IsSeparator other)
    (hother : ∀ c ∈ other, c = ',' ∨ c ∈ separator) (t : Text) :
    IsPassed other (field separator t) := by
  unfold field
  cases ht : needsQuotes separator t with
  | true => exact isPassed_quoted h t
  | false =>
    refine isPassed_of_forall h fun c hc => ?_
    obtain ⟨hcomma, hquote, hmem⟩ := of_needsQuotes_eq_false ht hc
    exact ⟨fun hc => (hother c hc).elim hcomma hmem, hquote⟩

theorem pieces_joinWith (h : IsSeparator separator) {ts : List Text} (hne : ts ≠ [])
    (hts : ∀ t ∈ ts, IsPassed separator t) :
    pieces separator false (Text.joinWith separator ts) = ts := by
  induction ts with
  | nil => exact absurd rfl hne
  | cons t ts ih =>
    obtain ⟨ht, hts⟩ := List.forall_mem_cons.1 hts
    cases ts with
    | nil => rw [Text.joinWith_singleton, ht.pieces_eq]
    | cons u ts => rw [Text.joinWith_cons_cons, ht.pieces_append h, ih (List.cons_ne_nil _ _) hts]

theorem isPassed_joinWith {other : Text} (hother : IsPassed separator other) {ts : List Text}
    (hts : ∀ t ∈ ts, IsPassed separator t) : IsPassed separator (Text.joinWith other ts) := by
  induction ts with
  | nil => exact isPassed_nil
  | cons t ts ih =>
    obtain ⟨ht, hts⟩ := List.forall_mem_cons.1 hts
    cases ts with
    | nil => rwa [Text.joinWith_singleton]
    | cons u ts =>
      rw [Text.joinWith_cons_cons]
      exact ht.append (hother.append (ih hts))

/-- The fields of a record are found between its commas. -/
theorem map_content_pieces {fields : List Text} (hne : fields ≠ []) :
    (pieces [','] false (Text.joinWith [','] (fields.map (field separator)))).map content =
      fields := by
  have hpassed : ∀ t ∈ fields.map (field separator), IsPassed [','] t :=
    List.forall_mem_map.2 fun t _ => isPassed_field isSeparator_comma (by simp) t
  rw [pieces_joinWith isSeparator_comma (by simpa using hne) hpassed, List.map_map]
  exact (List.map_congr_left fun t _ => content_field t).trans (List.map_id fields)

theorem pieces_records (h : IsSeparator separator) (hcomma : ',' ∉ separator)
    (rows : List (List Text)) :
    pieces separator false (rows.flatMap (record separator)) =
      rows.map (fun fields => Text.joinWith [','] (fields.map (field separator))) ++ [[]] := by
  induction rows with
  | nil => rw [List.flatMap_nil, pieces, List.map_nil, List.nil_append]
  | cons fields rows ih =>
    have hpassed : IsPassed separator (Text.joinWith [','] (fields.map (field separator))) :=
      isPassed_joinWith (isPassed_char h hcomma (by decide))
        (List.forall_mem_map.2 fun t _ => isPassed_field h (fun c hc => .inr hc) t)
    rw [List.flatMap_cons, record, List.append_assoc, hpassed.pieces_append h, ih]
    rfl

/-- Records are read back as they were written. -/
theorem read_records (h : IsSeparator separator) (hcomma : ',' ∉ separator)
    {rows : List (List Text)} (hrows : ∀ fields ∈ rows, fields ≠ []) :
    read separator (rows.flatMap (record separator)) = rows := by
  rw [read, pieces_records h hcomma, List.getLast?_concat, List.dropLast_concat, if_pos rfl,
    List.map_map]
  exact (List.map_congr_left fun fields hfields => map_content_pieces (hrows fields hfields)).trans
    (List.map_id rows)

end

/-- A report as rows: the header unless there are rows only, and the numbered statements. -/
def rows (settings : Settings) (ts : List Text) : List (List Text) :=
  (if settings.tuplesOnly then [] else [["index".toList, "statement".toList]]) ++
    ts.mapIdx fun i t => [Text.ofNat (i + 1), t]

theorem csvRows_eq_flatMap (separator : Text) (number : Nat) (ts : List Text) :
    Report.csvRows separator number ts =
      (ts.mapIdx fun i t => [Text.ofNat (i + number), t]).flatMap (record separator) := by
  induction ts generalizing number with
  | nil => rfl
  | cons t ts ih =>
    have hshift (i : Nat) : i + (number + 1) = i + 1 + number := by omega
    rw [Report.csvRows, ih, List.mapIdx_cons, List.flatMap_cons, Report.csvRow, Nat.zero_add]
    simp only [hshift]

theorem csv_eq_flatMap (settings : Settings) (ts : List Text) :
    Report.csv settings ts = (rows settings ts).flatMap (record settings.recordSeparator) := by
  rw [rows, List.flatMap_append, Report.csv, csvRows_eq_flatMap]
  cases settings.tuplesOnly <;> simp [Report.csvHeader]

/-- A comma-separated report is read back as its rows. -/
theorem read_csv {settings : Settings} (ts : List Text) (hnonempty : settings.recordSeparator ≠ [])
    (hcomma : ',' ∉ settings.recordSeparator) (hquote : '"' ∉ settings.recordSeparator) :
    read settings.recordSeparator (Report.csv settings ts) = rows settings ts := by
  rw [csv_eq_flatMap, read_records ⟨hnonempty, hquote⟩ hcomma]
  intro fields hfields
  rcases List.mem_append.1 hfields with hheader | hrow
  · rw [(List.mem_ite_nil_left.1 hheader).2 |> List.mem_singleton.1]
    exact List.cons_ne_nil _ _
  · obtain ⟨i, hi, rfl⟩ := List.mem_mapIdx.1 hrow
    exact List.cons_ne_nil _ _

/-- A separator may be made of letters of the header and digits of the numbers. -/
theorem read_csv_digit :
    Settings.recordSeparator { recordSeparator := "x1" } ≠ [] ∧
      ',' ∉ Settings.recordSeparator { recordSeparator := "x1" } ∧
      '"' ∉ Settings.recordSeparator { recordSeparator := "x1" } ∧
      Report.csv { recordSeparator := "x1" } ["a,\"1\"", ""] =
        "\"index\",statementx1\"1\",\"a,\"\"1\"\"\"x12,x1".toList ∧
      read "x1" (Report.csv { recordSeparator := "x1" } ["a,\"1\"", ""]) =
        [["index".toList, "statement".toList], ["1".toList, "a,\"1\"".toList],
          ["2".toList, []]] := by
  have hnonempty : Settings.recordSeparator { recordSeparator := "x1" } ≠ [] := by decide
  have hcomma : ',' ∉ Settings.recordSeparator { recordSeparator := "x1" } := by decide
  have hquote : '"' ∉ Settings.recordSeparator { recordSeparator := "x1" } := by decide
  exact ⟨hnonempty, hcomma, hquote, by decide +kernel, read_csv _ hnonempty hcomma hquote⟩

end SqlBoundary.Csv
