import Mathlib.Data.List.TakeWhile
import SqlBoundary.LineReader
import SqlBoundary.Proofs.Text.Lines
import SqlBoundary.Proofs.Text.Utf8

/-! # What a line reader gives out

A reader that comes to the end of a file in blocks gives out the lines of the file, wherever blocks
end: inside a character, or between the two characters of a line end.
-/

namespace SqlBoundary

namespace LineReader

/-- The bytes that are still to be read. -/
def unread (files : Files) (r : LineReader) : List UInt8 :=
  ((files.content? r.location).elim [] Content.toBytes).drop r.offset

def held (r : LineReader) : Text := if r.heldReturn then ['\r'] else []

/-- What a reader is still to give out, with line ends unified, when some bytes are unread. -/
def rest? (r : LineReader) (unread : List UInt8) : Option Text :=
  (Utf8.finish? r.pending unread).map fun t => r.ready ++ Text.unifyLineEnds (r.held ++ t)

theorem accept_append (r : LineReader) (decoded : Text) {ended : Bool} {t : Text}
    (h : ended = true → t = []) :
    (r.accept decoded ended).ready ++ Text.unifyLineEnds ((r.accept decoded ended).held ++ t) =
      r.ready ++ Text.unifyLineEnds (r.held ++ (decoded ++ t)) := by
  have hsofar : (if r.heldReturn then '\r' :: decoded else decoded) = r.held ++ decoded := by
    unfold held
    split <;> rfl
  unfold accept
  rw [hsofar, ← List.append_assoc r.held]
  generalize r.held ++ decoded = sofar
  dsimp only [held]
  rw [List.append_assoc]
  congr 1
  refine Text.unifyLineEnds_hold (fun hwaits => ?_) fun hwaits => ?_
  · rw [Bool.and_eq_true, decide_eq_true_eq] at hwaits
    exact hwaits.2
  · rw [Bool.and_eq_false_iff, decide_eq_false_iff_not] at hwaits
    obtain hended | hlast := hwaits
    · rw [h (by simpa using hended)]
      exact .inr (by simp)
    · exact .inl hlast

variable {files : Files} {r : LineReader} {text : Text}

/-- The reader past its next block, given what the block is decoded to and leaves pending. -/
def past (r : LineReader) (files : Files) (decoded : Text) (pending : Option Utf8.Partial) :
    LineReader :=
  { r with
    offset := r.offset + ((r.unread files).take blockSize).length
    pending }.accept decoded (r.unread files).isEmpty

theorem unread_past (decoded : Text) (pending : Option Utf8.Partial) :
    (r.past files decoded pending).unread files = (r.unread files).drop blockSize := by
  change List.drop (r.offset + ((r.unread files).take blockSize).length) _ = _
  rw [← List.drop_drop, List.length_take]
  exact List.drop_eq_drop_min.symm

theorem past_append {pending : Option Utf8.Partial} (decoded : Text) {t : Text}
    (h : Utf8.finish? pending ((r.unread files).drop blockSize) = some t) :
    (r.past files decoded pending).ready ++
        Text.unifyLineEnds ((r.past files decoded pending).held ++ t) =
      r.ready ++ Text.unifyLineEnds (r.held ++ (decoded ++ t)) := by
  refine accept_append { r with
    offset := r.offset + ((r.unread files).take blockSize).length
    pending } decoded fun hempty => ?_
  rw [List.isEmpty_iff.1 hempty, List.drop_nil] at h
  exact Utf8.eq_nil_of_finish?_nil h

theorem rest?_past {pending : Option Utf8.Partial} (decoded : Text) {t : Text}
    (h : Utf8.finish? pending ((r.unread files).drop blockSize) = some t) :
    (r.past files decoded pending).rest? ((r.past files decoded pending).unread files) =
      some (r.ready ++ Text.unifyLineEnds (r.held ++ (decoded ++ t))) := by
  have hpending : (r.past files decoded pending).pending = pending := rfl
  rw [unread_past, rest?, hpending, h, Option.map_some, past_append decoded h]

/-- At the end of the file all of it is ready. -/
theorem ready_past_of_ended {decoded : Text} {pending : Option Utf8.Partial}
    (hunread : r.unread files = [])
    (h : (r.past files decoded pending).rest? ((r.past files decoded pending).unread files) =
      some text) :
    (r.past files decoded pending).ready = text := by
  rw [unread_past, hunread, List.drop_nil] at h
  obtain ⟨t, ht, rfl⟩ := Option.map_eq_some_iff.1 h
  have hheld : (r.past files decoded pending).held = [] := by
    rw [past, hunread]
    rfl
  rw [hheld, Utf8.eq_nil_of_finish?_nil ht]
  exact (List.append_nil _).symm

theorem readBlock?_of_pending? {pending : Option Utf8.Partial}
    (h : (Utf8.decodeFrom 0 r.pending ((r.unread files).take blockSize)).ending.pending? =
      some pending) (hunread : r.unread files = [] → pending = none) :
    r.readBlock? files =
      some (r.past files ((Utf8.decodeFrom 0 r.pending
        ((r.unread files).take blockSize)).chars.map (·.1)) pending, (r.unread files).isEmpty) := by
  have hbytes : ((files.content? r.location).elim [] Content.toBytes).drop r.offset =
    r.unread files := rfl
  have hblock : ((r.unread files).take blockSize).isEmpty = (r.unread files).isEmpty := by
    cases r.unread files <;> rfl
  simp only [readBlock?, hbytes, hblock]
  cases hending :
      (Utf8.decodeFrom 0 r.pending ((r.unread files).take blockSize)).ending with
  | complete =>
    rw [hending] at h
    cases h
    rfl
  | truncated p =>
    rw [hending] at h
    cases h
    cases hempty : (r.unread files).isEmpty with
    | true => cases hunread (List.isEmpty_iff.1 hempty)
    | false =>
      rw [past, hempty]
      rfl
  | invalid index =>
    rw [hending] at h
    cases h

/-- Reading a block leaves a reader with the same to give out. -/
theorem readBlock?_spec (h : r.rest? (r.unread files) = some text) :
    ∃ next, r.readBlock? files = some (next, (r.unread files).isEmpty) ∧
      next.location = r.location ∧
      next.unread files = (r.unread files).drop blockSize ∧
      next.rest? (next.unread files) = some text ∧
      (r.unread files = [] → next.ready = text) := by
  have hsplit := Utf8.finish?_append 0 r.pending ((r.unread files).take blockSize)
    ((r.unread files).drop blockSize)
  rw [List.take_append_drop] at hsplit
  obtain ⟨t, ht, rfl⟩ := Option.map_eq_some_iff.1 h
  obtain ⟨p, hp, hrest⟩ := Option.bind_eq_some_iff.1 (hsplit.symm.trans ht)
  obtain ⟨more, hmore, rfl⟩ := Option.map_eq_some_iff.1 hrest
  have hread := readBlock?_of_pending? hp fun hunread => by
    rw [hunread, List.drop_nil] at hmore
    exact Utf8.eq_none_of_finish?_nil hmore
  have hpast := rest?_past ((Utf8.decodeFrom 0 r.pending
    ((r.unread files).take blockSize)).chars.map (·.1)) hmore
  exact ⟨_, hread, rfl, unread_past _ _, hpast, fun hunread => ready_past_of_ended hunread hpast⟩

theorem takeLine?_eq_none (h : r.takeLine? = none) : '\n' ∉ r.ready := by
  unfold takeLine? at h
  split at h
  next hdrop =>
    intro hmem
    have hall := List.dropWhile_eq_nil_iff.1 hdrop '\n' hmem
    cases hall
  next => cases h

theorem takeLine?_eq_some {line : Text} {next : LineReader} (h : r.takeLine? = some (line, next)) :
    ∃ rest, r.ready = line ++ '\n' :: rest ∧ '\n' ∉ line ∧ next = { r with ready := rest } := by
  unfold takeLine? at h
  split at h
  next => cases h
  next c rest hdrop =>
    cases h
    have hc : c = '\n' := by
      have hhead := List.head?_dropWhile_not (· ≠ '\n') r.ready
      rw [hdrop] at hhead
      simpa using hhead
    refine ⟨rest, ?_, fun hmem => ?_, rfl⟩
    · conv => lhs; rw [← List.takeWhile_append_dropWhile (p := (· ≠ '\n')) (l := r.ready)]
      rw [hdrop, hc]
    · simpa using List.mem_takeWhile_imp hmem

/-- A reader of a file has gone on to the next line. It stays at the end of the file once it is
there, and a file of one block is read at once. -/
structure Advances (files : Files) (r next : LineReader) : Prop where
  location : next.location = r.location
  ended : r.unread files = [] → next.unread files = []
  block : r.takeLine? = none → (r.unread files).length ≤ blockSize → next.unread files = []

/-- The reader gives out a line and leaves a rest, or there is no line left. -/
inductive Reads (files : Files) (r : LineReader) : Text → Option (Text × LineReader) → Prop
  | ended : Reads files r [] none
  | line {text line rest : Text} {next : LineReader} (hlines : text.lines = line :: rest.lines)
      (hrest : next.rest? (next.unread files) = some rest) (hnext : r.Advances files next) :
      Reads files r text (some (line, next))

theorem rest?_ready {ready more : Text} {unread : List UInt8} (h : r.rest? unread = some text)
    (hready : r.ready = ready ++ more) :
    ∃ rest, text = ready ++ rest ∧ ({ r with ready := more } : LineReader).rest? unread =
      some rest := by
  obtain ⟨t, ht, rfl⟩ := Option.map_eq_some_iff.1 h
  refine ⟨more ++ Text.unifyLineEnds (r.held ++ t), ?_, ?_⟩
  · rw [hready, List.append_assoc]
  · rw [rest?, ht]
    rfl

theorem Reads.of_takeLine? (h : r.rest? (r.unread files) = some text)
    {taken : Text × LineReader} (htake : r.takeLine? = some taken) :
    r.Reads files text (some taken) := by
  obtain ⟨line, next⟩ := taken
  obtain ⟨more, hready, hline, rfl⟩ := takeLine?_eq_some htake
  rw [List.append_cons] at hready
  obtain ⟨rest, rfl, hrest⟩ := rest?_ready h hready
  refine .line ?_ hrest ⟨rfl, id, fun hnone => ?_⟩
  · rw [List.append_assoc]
    exact Text.lines_append hline rest
  · rw [htake] at hnone
    cases hnone

theorem Reads.of_block {next : LineReader} {taken : Option (Text × LineReader)}
    (hlocation : next.location = r.location)
    (hunread : next.unread files = (r.unread files).drop blockSize)
    (h : next.Reads files text taken) : r.Reads files text taken := by
  cases h with
  | ended => exact .ended
  | line hlines hrest hnext =>
    refine .line hlines hrest ⟨hnext.location.trans hlocation, fun hended => ?_, fun _ hblock => ?_⟩
    · exact hnext.ended (by rw [hunread, hended, List.drop_nil])
    · exact hnext.ended (by rw [hunread, List.drop_eq_nil_of_le hblock])

/-- The last line of a file may lack its end. -/
theorem Reads.of_ended (hready : r.ready = text) (hunread : r.unread files = [])
    (h : r.rest? (r.unread files) = some text) :
    r.Reads files text (if r.ready.isEmpty then none
      else some (r.takeLine?.getD (r.ready, { r with ready := [] }))) := by
  split
  next hempty =>
    obtain rfl : text = [] := hready ▸ List.isEmpty_iff.1 hempty
    exact .ended
  next hempty =>
    cases htake : r.takeLine? with
    | some taken => exact .of_takeLine? h htake
    | none =>
      have hline := takeLine?_eq_none htake
      obtain ⟨rest, htext, hrest⟩ := rest?_ready h (List.append_nil r.ready).symm
      obtain rfl : rest = [] := List.append_right_eq_self.1 (htext.symm.trans hready.symm)
      rw [List.append_nil] at htext
      refine .line ?_ hrest ⟨rfl, id, fun _ _ => hunread⟩
      rw [htext]
      exact Text.lines_of_not_mem hline fun hnil => hempty (List.isEmpty_iff.2 hnil)

theorem readLine_spec (blocks : Nat) (h : r.rest? (r.unread files) = some text)
    (hblocks : (r.unread files).length + 2 ≤ blocks) :
    ∃ taken, readLine files blocks r = some taken ∧ r.Reads files text taken := by
  induction blocks generalizing r with
  | zero => omega
  | succ blocks ih =>
    unfold readLine
    cases htake : r.takeLine? with
    | some taken => exact ⟨some taken, rfl, .of_takeLine? h htake⟩
    | none =>
      obtain ⟨next, hread, hlocation, hunread, hrest, hready⟩ := readBlock?_spec h
      rw [hread]
      cases hempty : (r.unread files).isEmpty with
      | false =>
        have hshorter : (next.unread files).length + 2 ≤ blocks := by
          have hlength : (r.unread files).length ≠ 0 := by
            simpa [List.isEmpty_iff] using hempty
          rw [hunread, List.length_drop, blockSize]
          omega
        obtain ⟨taken, htaken, hreads⟩ := ih hrest hshorter
        exact ⟨taken, htaken, hreads.of_block hlocation hunread⟩
      | true =>
        have hended := List.isEmpty_iff.1 hempty
        have hnext : next.unread files = [] := by rw [hunread, hended, List.drop_nil]
        refine ⟨_, ?_, (Reads.of_ended (hready hended) hnext hrest).of_block hlocation hunread⟩
        dsimp only
        split <;> rfl

/-- A reader of a file that is text gives out the lines of what is left of it. -/
theorem next?_spec (h : r.rest? (r.unread files) = some text) :
    ∃ taken, r.next? files = some taken ∧ r.Reads files text taken := by
  refine readLine_spec _ h (Nat.add_le_add_right (Nat.le_of_eq ?_) 2)
  rw [unread, List.length_drop]
  cases files.content? r.location <;> rfl

/-- Before anything is read, what is left is the file. -/
theorem rest?_start {location : Location} {content : Content}
    (hcontent : files.content? location = some content) :
    ({ location } : LineReader).rest? (({ location } : LineReader).unread files) =
      (Utf8.decode? content.toBytes).map Text.unifyLineEnds := by
  have hunread : ({ location } : LineReader).unread files = content.toBytes := by
    rw [unread, hcontent]
    rfl
  rw [hunread, rest?, Utf8.decode?_eq_finish?]
  rfl

section
variable {other : Files} {next : LineReader}

/-- What a reader gives out depends on the one file only. -/
theorem readBlock?_congr (h : other.content? r.location = files.content? r.location) :
    r.readBlock? other = r.readBlock? files := by
  simp only [readBlock?, h]

theorem location_readBlock? {ended : Bool} (h : r.readBlock? files = some (next, ended)) :
    next.location = r.location := by
  unfold readBlock? at h
  dsimp only at h
  split at h
  next => cases h
  next =>
    split at h
    next => cases h
    next =>
      cases h
      rfl
  next =>
    cases h
    rfl

theorem location_takeLine? {line : Text} (h : r.takeLine? = some (line, next)) :
    next.location = r.location := by
  obtain ⟨rest, -, -, rfl⟩ := takeLine?_eq_some h
  rfl

theorem readLine_congr (h : other.content? r.location = files.content? r.location) (blocks : Nat) :
    readLine other blocks r = readLine files blocks r := by
  induction blocks generalizing r with
  | zero => rfl
  | succ blocks ih =>
    unfold readLine
    rw [readBlock?_congr h]
    cases hblock : r.readBlock? files with
    | none => rfl
    | some block =>
      obtain ⟨past, ended⟩ := block
      rw [← location_readBlock? hblock] at h
      cases ended with
      | false => simp only [ih h]
      | true => rfl

theorem next?_congr (h : other.content? r.location = files.content? r.location) :
    r.next? other = r.next? files := by
  rw [next?, next?, h]
  exact readLine_congr h _

/-- A reader stays with its file. -/
theorem location_readLine {blocks : Nat} {line : Text}
    (h : readLine files blocks r = some (some (line, next))) : next.location = r.location := by
  induction blocks generalizing r with
  | zero => cases h
  | succ blocks ih =>
    unfold readLine at h
    cases htake : r.takeLine? with
    | some taken =>
      rw [htake] at h
      cases h
      exact location_takeLine? htake
    | none =>
      rw [htake] at h
      cases hblock : r.readBlock? files with
      | none =>
        rw [hblock] at h
        cases h
      | some block =>
        obtain ⟨past, ended⟩ := block
        rw [hblock] at h
        rw [← location_readBlock? hblock]
        cases ended with
        | false => exact ih h
        | true =>
          dsimp only at h
          split at h
          next => cases h
          next =>
            cases hpast : past.takeLine? with
            | none =>
              rw [hpast] at h
              cases h
              rfl
            | some taken =>
              rw [hpast] at h
              cases h
              exact location_takeLine? hpast

theorem location_next? {line : Text} (h : r.next? files = some (some (line, next))) :
    next.location = r.location := location_readLine h

end

end LineReader
end SqlBoundary
