import SqlBoundary.Proofs.Lex.Reader
import SqlBoundary.Proofs.Metacommand.Grammar
import SqlBoundary.Proofs.Session.Step

/-! # Commands with an argument

A command is typed as a backslash, its name, a space and its argument, and is read back as these. An
argument may begin with a name, and the value after it loses the quotes at its ends.
-/

namespace SqlBoundary

open Text

namespace Text

/-- Neither end of a text is a single quote. -/
structure IsUnquoted (t : Text) : Prop where
  first : t.head? ≠ some '\''
  last : t.getLast? ≠ some '\''

instance (t : Text) : Decidable (IsUnquoted t) :=
  decidable_of_iff (t.head? ≠ some '\'' ∧ t.getLast? ≠ some '\'')
    ⟨fun h => ⟨h.1, h.2⟩, fun h => ⟨h.1, h.2⟩⟩

theorem trimQuotes_eq_rdropWhile (t : Text) :
    trimQuotes t = (t.dropWhile (· = '\'')).rdropWhile (· = '\'') := rfl

theorem dropWhile_quote_eq_self_iff {t : Text} :
    t.dropWhile (· = '\'') = t ↔ t.head? ≠ some '\'' := by
  cases t with
  | nil => simp
  | cons c t => simp [List.dropWhile_eq_self_iff]

theorem rdropWhile_quote_eq_self_iff {t : Text} :
    t.rdropWhile (· = '\'') = t ↔ t.getLast? ≠ some '\'' := by
  rw [List.rdropWhile_eq_self_iff]
  cases t using List.reverseRecOn with
  | nil => simp
  | append_singleton t c => simp

/-- A text stays as it is exactly if there are no quotes at its ends. -/
theorem trimQuotes_eq_self_iff {t : Text} : trimQuotes t = t ↔ IsUnquoted t := by
  rw [trimQuotes_eq_rdropWhile]
  constructor
  · intro h
    -- What is left at both ends is no longer than what is left at one.
    have hstart : t.dropWhile (· = '\'') = t := by
      refine (List.dropWhile_suffix _).eq_of_length_le ?_
      conv_lhs => rw [← h]
      exact (List.rdropWhile_prefix _ _).length_le
    rw [hstart] at h
    exact ⟨dropWhile_quote_eq_self_iff.1 hstart, rdropWhile_quote_eq_self_iff.1 h⟩
  · intro h
    rw [dropWhile_quote_eq_self_iff.2 h.first, rdropWhile_quote_eq_self_iff.2 h.last]

/-- A text between two quotes is what is left of it without them. -/
theorem trimQuotes_quoted {t : Text} (h : IsUnquoted t) :
    trimQuotes ('\'' :: (t ++ ['\''])) = t := by
  rw [trimQuotes_eq_rdropWhile, List.dropWhile_cons_of_pos (by simp)]
  cases t with
  | nil => rfl
  | cons c t =>
    have hfirst : (c :: t ++ ['\'']).dropWhile (· = '\'') = c :: t ++ ['\''] :=
      dropWhile_quote_eq_self_iff.2 h.first
    rw [hfirst, List.rdropWhile_concat_pos _ _ _ (by simp)]
    exact rdropWhile_quote_eq_self_iff.2 h.last

/-- A text that can be the whole argument of a command. -/
structure IsArgument (t : Text) : Prop where
  nonempty : t ≠ []
  trimmed : IsTrimmed t
  line : '\n' ∉ t

structure IsWord (t : Text) : Prop where
  nonempty : t ≠ []
  solid : ∀ c ∈ t, isSpace c = false

instance (t : Text) : Decidable (IsWord t) :=
  decidable_of_iff (t ≠ [] ∧ t.all (!isSpace ·) = true)
    ⟨fun h => ⟨h.1, by simpa using h.2⟩, fun h => ⟨h.1, by simpa using h.2⟩⟩

theorem IsWord.isArgument {t : Text} (h : IsWord t) : IsArgument t where
  nonempty := h.nonempty
  trimmed := ⟨fun c hc => h.solid c (List.mem_of_mem_head? hc),
    fun c hc => h.solid c (List.mem_of_getLast? hc)⟩
  line hmem := absurd (h.solid _ hmem) (by decide)

theorem IsWord.isArgument_append {word t : Text} (hword : IsWord word) (h : IsArgument t) :
    IsArgument (word ++ ' ' :: t) where
  nonempty := by simp
  trimmed := by
    rw [List.append_cons]
    refine isTrimmed_append (by simp) h.nonempty (fun c hc => ?_) h.trimmed.last
    rw [List.head?_append_of_ne_nil _ hword.nonempty] at hc
    exact hword.isArgument.trimmed.first c hc
  line := by simp [hword.isArgument.line, h.line]

/-- The text in front of the first space is a word if no white space is in it. -/
theorem IsWord.splitWord_append {word : Text} (h : IsWord word) (t : Text) :
    splitWord (word ++ ' ' :: t) = (word, some (trimStart t)) := by
  obtain ⟨htake, hdrop⟩ := takeWhile_dropWhile_append_cons (p := (!isSpace ·)) (c := ' ')
    (by simpa using h.solid) rfl t
  rw [splitWord, hdrop, htake]
  rfl

end Text

namespace Metacommand

/-- How a command with an argument is typed. -/
def typed (name argument : Text) : Text := '\\' :: (name ++ ' ' :: argument)

theorem read_typed {name argument : Text} (hname : name ≠ [])
    (hchars : name.all isNameChar = true) (h : IsArgument argument) :
    read (typed name argument) = .command name (some argument) := by
  have hspaced : read ([] ++ '\\' :: (name ++ ([' '] ++ (argument ++ [])))) = _ :=
    read_spaced (isName_iff.2 ⟨hname, hchars⟩) h.nonempty h.trimmed h.line rfl
      (List.cons_ne_nil ' ' []) rfl rfl
  rwa [List.append_nil] at hspaced

/-- An assignment is a name, a space and a value with or without quotes around it. -/
theorem readAssignment_append {name value : Text} (hname : IsWord name) (hvalue : IsTrimmed value) :
    readAssignment (name ++ ' ' :: value) = (name, some value.trimQuotes) := by
  rw [readAssignment, readAssignmentOr, hname.splitWord_append, hvalue.trimStart_eq]
  rfl

end Metacommand

namespace Session

variable {argument : Text}

/-- A command that is typed is executed with its argument. -/
theorem run_typed (h : IsArgument argument) (keyword : Keyword) (environment : Environment)
    (session : Session) :
    session.run environment (Metacommand.typed keyword.name argument) =
      (session.execute environment (some argument) keyword).delivered environment.obstacle? := by
  have hname : keyword.name ≠ [] ∧ keyword.name.all Metacommand.isNameChar = true := by
    cases keyword with
    | turn switch => cases switch <;> decide
    | redirect | fieldSeparator | help | summary | quit | assign | unassign | option => decide
  exact run_of_read environment (Metacommand.read_typed hname.1 hname.2 h) session

end Session

end SqlBoundary
