import SqlBoundary.Proofs.Files.LineReader
import SqlBoundary.Proofs.Session.Guise
import SqlBoundary.Proofs.Session.Prompt

/-! # Startup files

A startup file that is text is read line by line to its end, unless one of its lines quits or breaks
the session, where all that is written is taken. A line can change the file that is being read only
by having split output go there.
-/

namespace SqlBoundary

theorem LineReader.unread_put {files : Files} {place : Location}
    (hplace : files.node? place ≠ some .directory) (r : LineReader)
    (h : r.location = place → r.unread files = []) :
    r.unread (files.put place (.file (.text []))) = r.unread files := by
  cases hdevice : files.device? place with
  | some device => rw [Files.put_of_device hdevice]
  | none =>
    by_cases hlocation : r.location = place
    · rw [h hlocation, unread, hlocation, Files.content?_put hplace hdevice]
      exact List.drop_nil
    · rw [unread, unread, Files.content?, Files.node?_put hplace hdevice, if_neg hlocation]
      rfl

namespace Session

/-- There is no startup file, or it is text with these lines and stays so while it is read: all of
it is read at once, or none of the lines has split output go there. -/
inductive StartsWith (environment : Environment) (files : Files) : List Text → Prop
  | nothing (h : files.exists? (startupFile environment) = false) :
    StartsWith environment files []
  | file {location : Location} {content : Content} {t : Text}
    (hlocate : files.locateFile (startupFile environment) = .ok location)
    (hcontent : files.content? location = some content)
    (ht : Utf8.decode? content.toBytes = some t)
    (hsteady : content.size ≤ LineReader.blockSize ∨
      ∀ line ∈ t.unifyLineEnds.lines.map Text.trim, ∀ path,
        RedirectsTo environment line path → files.locateWritable path ≠ .ok location) :
    StartsWith environment files (t.unifyLineEnds.lines.map Text.trim)

/-- What the lines of a startup file can halt a session with. -/
inductive HaltsAt (environment : Environment) (given : Text → Prop) (lines : List Text) :
    Halt → Prop
  | quit {line : Text} (hline : line ∈ lines) (h : Quits line) :
    HaltsAt environment given lines .quit
  | breaks {halt : Halt} (h : Breaks environment given halt) :
    HaltsAt environment given lines halt

variable {session : Session} {environment : Environment} {given : Text → Prop}

/-- A text leaves the files alone, or makes the one empty that it has split output go to. -/
def Empties (session : Session) (environment : Environment) (t : Text) (o : Outcome) : Prop :=
  o.session.files = session.files ∨
    ∃ path location, RedirectsTo environment t path ∧
      session.files.locateWritable path = .ok location ∧
      o.session.files = session.files.put location (.file (.text []))

theorem empties_perform (hflushed : session.IsFlushed)
    (hstores : ∀ location, environment.Stores location) {t : Text}
    (hcommand : isMetacommand t = true) (hpager : session.pager? environment = none) :
    session.Empties environment t (session.perform environment t) := by
  by_cases hread : ∃ argument, Metacommand.read t = .command Keyword.redirect.name argument
  · obtain ⟨argument, hread⟩ := hread
    rw [perform_of_read environment hread, execute]
    obtain ⟨path, -, -, hredirect⟩ | ⟨path, location, hredirects, hlocate, hredirect⟩ |
      ⟨output, events, -, hredirect⟩ := redirect_cases hflushed hstores hread
    · exact .inl (by rw [hredirect]; rfl)
    · exact .inr ⟨path, location, hredirects, hlocate, by rw [hredirect]; rfl⟩
    · exact .inl (by rw [hredirect]; rfl)
  · rw [not_exists] at hread
    exact .inl (Guise.command_holds hcommand hread hpager).2

theorem treats_runLine (hflushed : session.IsFlushed) {line : Text} (hself : IsSelfContained line)
    (hpager : session.pager? environment = none) (houtput : environment.Takes Event.isOutput)
    (hstores : ∀ location, environment.Stores location) (file : Text) (number : Nat) :
    session.Treats environment line (session.runLine environment file number line) ∧
      session.Empties environment line (session.runLine environment file number line) := by
  obtain ⟨hcommand, hline⟩ | ⟨value, hline⟩ | ⟨ds, hline⟩ :=
    runLine_cases environment file number line
  · rw [hline]
    refine ⟨treats_run hflushed hself.runsNoFile hpager houtput hstores, ?_⟩
    rw [run_of_fileOf?_eq_none environment hself.runsNoFile]
    exact empties_perform hflushed hstores hcommand hpager
  · rw [hline, Environment.obstacle?, Outcome.delivered_of_takes houtput]
    exact ⟨(spares_turn hflushed .standardStrings value).treats, .inl rfl⟩
  · rw [hline]
    exact ⟨(spares_done hflushed _).treats, .inl rfl⟩

theorem runLine_not_unterminated (houtput : environment.Takes Event.isOutput) {line file : Text}
    {number : Nat} {fault : Unterminated} (ht : isMetacommand line = false) :
    (session.runLine environment file number line).halt ≠ some (.unterminated fault) := by
  obtain ⟨hcommand, -⟩ | ⟨value, hline⟩ | ⟨ds, hline⟩ :=
    runLine_cases environment file number line
  · rw [hcommand] at ht
    cases ht
  · rw [hline, Environment.obstacle?, Outcome.delivered_of_takes houtput]
    intro hhalt
    cases hhalt
  · rw [hline]
    intro hhalt
    cases hhalt

theorem haltsAt_runLine (hflushed : session.IsFlushed) {lines : List Text} {line : Text}
    (hline : line ∈ lines) (ht : given line) (hself : IsSelfContained line)
    (hpager : session.pager? environment = none) (houtput : environment.Takes Event.isOutput)
    (hstores : ∀ location, environment.Stores location) {file : Text} {number : Nat} {halt : Halt}
    (hhalt : (session.runLine environment file number line).halt = some halt) :
    HaltsAt environment given lines halt := by
  have htreats := (treats_runLine hflushed hself hpager houtput hstores file number).1
  cases htreats.halt halt hhalt with
  | unterminated hcommand fault => exact absurd hhalt (runLine_not_unterminated houtput hcommand)
  | quit h => exact .quit hline h
  | embeddedNull h hnull => exact .breaks (.embeddedNull ht h hnull)

/-- A startup file is being read: lines of it are left, fewer than some number, and it stays text.
-/
structure Reading (environment : Environment) (files : Files) (place : Location)
    (lines : List Text) (most : Nat) (reader : LineReader) (session : Session) : Prop where
  location : reader.location = place
  directories : session.files.SameDirectories files
  steady : reader.unread session.files = [] ∨
    (reader.takeLine? = none ∧
      (reader.unread session.files).length ≤ LineReader.blockSize) ∨
    ∀ line ∈ lines, ∀ path, RedirectsTo environment line path →
      files.locateWritable path ≠ .ok place
  rest : ∃ rest, reader.rest? (reader.unread session.files) = some rest ∧
    rest.lines.map Text.trim ⊆ lines ∧ rest.lines.length < most

section
variable {files : Files} {place : Location} {lines : List Text} {most : Nat} {reader : LineReader}

theorem Reading.next (h : Reading environment files place lines (most + 1) reader session)
    {next : LineReader} (hadvances : reader.Advances session.files next) {rest line : Text}
    (hrest : next.rest? (next.unread session.files) = some rest)
    (hlines : rest.lines.map Text.trim ⊆ lines) (hfew : rest.lines.length < most)
    (hline : line ∈ lines) {o : Outcome} (hempties : session.Empties environment line o) :
    Reading environment files place lines most next o.session := by
  have hsteady : next.unread session.files = [] ∨
      ∀ line ∈ lines, ∀ path, RedirectsTo environment line path →
        files.locateWritable path ≠ .ok place := by
    obtain hended | ⟨htake, hlength⟩ | hsteady := h.steady
    · exact .inl (hadvances.ended hended)
    · exact .inl (hadvances.block htake hlength)
    · exact .inr hsteady
  have hlocation := hadvances.location.trans h.location
  obtain hfiles | ⟨path, location, hredirects, hlocate, hfiles⟩ := hempties
  · rw [← hfiles] at hsteady hrest
    exact ⟨hlocation, hfiles ▸ h.directories, hsteady.imp_right .inr, rest, hrest, hlines, hfew⟩
  · have hplace := (Files.locateWritable_eq_ok_iff.1 hlocate).2.2
    have hunread : next.unread o.session.files = next.unread session.files := by
      rw [hfiles]
      refine next.unread_put hplace fun heq => hsteady.resolve_right fun hsteady => ?_
      obtain rfl : place = location := hlocation.symm.trans heq
      exact hsteady line hline path hredirects
        ((h.directories.locateWritable_eq_ok_iff path place).1 hlocate)
    rw [← hunread] at hsteady hrest
    refine ⟨hlocation, fun p => ?_, hsteady.imp_right .inr, rest, hrest, hlines, hfew⟩
    rw [hfiles]
    exact (Files.sameDirectories_put hplace _ p).trans (h.directories p)

/-- A blank line is skipped, and any other is run without the white space around it. -/
theorem runTrimmed_spec (houtput : environment.Takes Event.isOutput)
    (hstores : ∀ location, environment.Stores location)
    (hself : ∀ t, given t → IsSelfContained t) (hgiven : ∀ line ∈ lines, given line)
    (h : session.Sound given) {line : Text}
    (hline : line.trim ∈ lines) (file : Text) (number : Nat) {o : Outcome}
    (ho : o = if line.isBlank then .done session []
      else session.runLine environment file number line.trim) :
    o.session.Sound given ∧ session.Empties environment line.trim o ∧
      ∀ halt, o.halt = some halt → HaltsAt environment given lines halt := by
  subst ho
  split
  next => exact ⟨h, .inl rfl, fun halt hhalt => nomatch hhalt⟩
  next =>
    have ht := hgiven _ hline
    have hpager := h.pager?_eq_none environment
    obtain ⟨htreats, hempties⟩ :=
      treats_runLine h.flushed (hself _ ht) hpager houtput hstores file number
    exact ⟨h.of_treats ht (hself _ ht) htreats, hempties,
      fun halt => haltsAt_runLine h.flushed hline ht (hself _ ht) hpager houtput hstores⟩

/-- A startup file that stays text is read to its end, or to a line that halts the session. -/
theorem runLines_spec (houtput : environment.Takes Event.isOutput)
    (hstores : ∀ location, environment.Stores location)
    (hself : ∀ t, given t → IsSelfContained t) (hgiven : ∀ line ∈ lines, given line)
    (h : session.Sound given)
    (hreading : Reading environment files place lines most reader session) (file : Text)
    (number : Nat) :
    (runLines environment file number most reader session).session.Sound given ∧
      ∀ halt, (runLines environment file number most reader session).halt = some halt →
        HaltsAt environment given lines halt := by
  induction most generalizing session reader number with
  | zero =>
    obtain ⟨text, -, -, hfew⟩ := hreading.rest
    exact absurd hfew (Nat.not_lt_zero _)
  | succ most ih =>
    obtain ⟨text, htext, hsubset, hfew⟩ := hreading.rest
    obtain ⟨taken, hnext, hreads⟩ := LineReader.next?_spec htext
    unfold runLines
    rw [hnext]
    cases hreads with
    | ended => exact ⟨h, fun halt hhalt => nomatch hhalt⟩
    | line hlines hrest hadvances =>
      rw [hlines, List.map_cons, List.cons_subset] at hsubset
      rw [hlines, List.length_cons, Nat.succ_lt_succ_iff] at hfew
      obtain ⟨hsound, hempties, hhalts⟩ :=
        runTrimmed_spec houtput hstores hself hgiven h hsubset.1 file number rfl
      have hnext := hreading.next hadvances hrest hsubset.2 hfew hsubset.1 hempties
      dsimp only
      unfold Outcome.andThen
      split
      next => exact ⟨hsound, hhalts⟩
      next => exact ih hsound hnext _

end

/-- A text has no more lines than the file it is decoded from has bytes. -/
theorem length_lines_le_size {content : Content} {t : Text}
    (ht : Utf8.decode? content.toBytes = some t) : t.unifyLineEnds.lines.length ≤ content.size :=
  calc t.unifyLineEnds.lines.length
      ≤ t.unifyLineEnds.length := t.unifyLineEnds.length_lines_le
    _ ≤ t.length := t.length_unifyLineEnds_le
    _ ≤ content.toBytes.length :=
      Utf8.length_le_of_finish? ((Utf8.decode?_eq_finish? content.toBytes).symm.trans ht)

/-- Loading the default startup file leaves a sound session, or halts at one of its lines. -/
theorem load_spec {lines : List Text} (houtput : environment.Takes Event.isOutput)
    (hstores : ∀ location, environment.Stores location)
    (hstarts : StartsWith environment session.files lines)
    (hself : ∀ t, given t → IsSelfContained t) (hgiven : ∀ line ∈ lines, given line)
    (h : session.Sound given) :
    (session.load environment none).session.Sound given ∧
      ∀ halt, (session.load environment none).halt = some halt →
        HaltsAt environment given lines halt := by
  unfold load
  rw [Option.getD_none]
  dsimp only
  cases hstarts with
  | nothing hmissing =>
    rw [hmissing, if_pos (by rfl)]
    exact ⟨h, fun halt hhalt => nomatch hhalt⟩
  | @file location content t hlocate hcontent ht hsteady =>
    split
    next => exact ⟨h, fun halt hhalt => nomatch hhalt⟩
    next =>
      rw [hlocate]
      dsimp only
      rw [hcontent, Option.elim_some]
      have hrest := LineReader.rest?_start hcontent
      rw [ht] at hrest
      have hfew := length_lines_le_size ht
      refine runLines_spec houtput hstores hself hgiven h
        ⟨rfl, fun _ => Iff.rfl, ?_, _, hrest, fun _ => id, ?_⟩ _ _
      · refine .inr (hsteady.imp_left fun hsize => ⟨rfl, ?_⟩)
        rw [LineReader.unread, hcontent]
        exact hsize
      · exact Nat.lt_add_right _ (Nat.lt_succ_of_le hfew)

end Session
end SqlBoundary
