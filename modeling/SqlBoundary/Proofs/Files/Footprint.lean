import SqlBoundary.Proofs.Files.Tree

/-! # Files that differ at one place

A path is followed past directories to the place where it leads. Two trees that differ at one place
only cannot be told apart by a path that neither leads to that place nor past it.
-/

namespace SqlBoundary.Files

/-- The files differ at one place, if at all. -/
def AgreeOff (place : Location) (files other : Files) : Prop :=
  ∀ location, location ≠ place → other.node? location = files.node? location

/-- The places where following names begins, goes on and ends. -/
def passed (files : Files) (place : Location) : List Text → List Location
  | [] => [place]
  | name :: names =>
    place ::
      match files.follow place [name] with
      | .ok next => files.passed next names
      | .error _ => []

/-- Where a path is followed from, and the names on it. -/
def way : Text → Location × List Text
  | '/' :: rest => (root, Text.segments '/' rest)
  | path => ([], path.segments '/')

/-- The places that a path leads past, and the one that it leads to. -/
def placesOn (files : Files) (path : Text) : List Location :=
  if (Utf8.encode path).length > maxPathBytes || path.isEmpty then []
  else files.passed (way path).1 (way path).2

/-- The places that are looked at to find out where a file can be written. -/
def placesOnBare (files : Files) (path : Text) : List Location :=
  files.placesOn (withoutEndSlashes path)

theorem follow_cons (files : Files) (place : Location) (name : Text) (names : List Text) :
    files.follow place (name :: names) =
      (files.follow place [name]).bind (files.follow · names) := by
  simp only [follow]
  cases files.node? place with
  | none => rfl
  | some node =>
    cases node with
    | file content => rfl
    | device device => rfl
    | directory =>
      dsimp only
      split
      next => rfl
      next =>
        split
        next => rfl
        next => split <;> rfl

theorem locate_eq (files : Files) (path : Text) :
    files.locate path =
      if (Utf8.encode path).length > maxPathBytes then .error .nameTooLong
      else if path.isEmpty then .error .missing
      else files.follow (way path).1 (way path).2 := by
  unfold locate
  split
  next => rfl
  next =>
    split
    next => rfl
    next => rfl
    next hempty hroot =>
      rw [if_neg (by simpa using hempty), way]
      exact hroot

variable {place location : Location} {files other : Files} {path : Text}

theorem mem_passed {start : Location} {names : List Text}
    (h : files.follow start names = .ok location) : location ∈ files.passed start names := by
  induction names generalizing start with
  | nil =>
    cases h
    exact List.mem_singleton_self _
  | cons name names ih =>
    rw [follow_cons] at h
    rw [passed]
    cases hstep : files.follow start [name] with
    | error fault =>
      rw [hstep] at h
      cases h
    | ok next =>
      rw [hstep] at h
      exact List.mem_cons_of_mem _ (ih h)

theorem mem_placesOn (h : files.locate path = .ok location) : location ∈ files.placesOn path := by
  rw [locate_eq] at h
  unfold placesOn
  split at h
  next => cases h
  next hlength =>
    split at h
    next => cases h
    next hempty =>
      rw [if_neg (by simp [hlength, hempty])]
      exact mem_passed h

theorem mem_placesOn_of_locateFile (h : files.locateFile path = .ok location) :
    location ∈ files.placesOn path := by
  unfold locateFile at h
  cases hlocate : files.locate path with
  | error fault =>
    rw [hlocate] at h
    cases h
  | ok found =>
    rw [hlocate] at h
    simp only [bind, Except.bind] at h
    split at h
    next => cases h
    next => cases h
    all_goals
      cases h
      exact mem_placesOn hlocate

/-- What is put at one place leaves the others as they are. -/
theorem node?_put_of_ne (files : Files) (h : place ≠ location) (node : Node) :
    (files.put location node).node? place = files.node? place := by
  cases hdevice : files.device? location with
  | some device => rw [put_of_device hdevice]
  | none =>
    unfold node?
    rw [lookup_put hdevice, if_neg h]

theorem agreeOff_put (files : Files) (place : Location) (node : Node) :
    files.AgreeOff place (files.put place node) :=
  fun _ hne => files.node?_put_of_ne hne node

namespace AgreeOff

theorem symm (h : files.AgreeOff place other) : other.AgreeOff place files :=
  fun location hne => (h location hne).symm

theorem trans {third : Files} (h : files.AgreeOff place other)
    (hthird : other.AgreeOff place third) : files.AgreeOff place third :=
  fun location hne => (hthird location hne).trans (h location hne)

theorem content? (h : files.AgreeOff place other) (hne : location ≠ place) :
    other.content? location = files.content? location := by
  rw [Files.content?, Files.content?, h location hne]

theorem follow (h : files.AgreeOff place other) {start : Location} {names : List Text}
    (hplace : place ∉ files.passed start names) :
    other.follow start names = files.follow start names := by
  induction names generalizing start with
  | nil => rfl
  | cons name names ih =>
    rw [passed, List.mem_cons, not_or] at hplace
    obtain ⟨hstart, hplace⟩ := hplace
    have hstep : other.follow start [name] = files.follow start [name] := by
      simp only [Files.follow, h start (Ne.symm hstart)]
    rw [other.follow_cons, files.follow_cons, hstep]
    cases hnext : files.follow start [name] with
    | error fault => rfl
    | ok next =>
      rw [hnext] at hplace
      exact ih hplace

/-- A path leads to the same place in both, which is not the one where they differ. -/
theorem locate (h : files.AgreeOff place other) (hplace : place ∉ files.placesOn path) :
    (∃ fault, files.locate path = .error fault ∧ other.locate path = .error fault) ∨
      ∃ location, location ≠ place ∧ files.locate path = .ok location ∧
        other.locate path = .ok location := by
  have hlocate : other.locate path = files.locate path := by
    rw [locate_eq, locate_eq]
    unfold placesOn at hplace
    split
    next => rfl
    next hlength =>
      split
      next => rfl
      next hempty =>
        rw [if_neg (by simp [hlength, hempty])] at hplace
        exact h.follow hplace
  rw [hlocate]
  cases hplaced : files.locate path with
  | error fault => exact .inl ⟨fault, rfl, rfl⟩
  | ok location =>
    refine .inr ⟨location, ?_, rfl, rfl⟩
    rintro rfl
    exact hplace (mem_placesOn hplaced)

theorem read (h : files.AgreeOff place other) (hplace : place ∉ files.placesOn path) :
    other.read path = files.read path := by
  unfold Files.read
  obtain ⟨fault, hfiles, hother⟩ | ⟨location, hne, hfiles, hother⟩ := h.locate hplace
  · rw [hfiles, hother]
    rfl
  · rw [hfiles, hother]
    simp only [bind, Except.bind, h location hne]

theorem exists? (h : files.AgreeOff place other) (hplace : place ∉ files.placesOn path) :
    other.exists? path = files.exists? path := by
  unfold Files.exists?
  obtain ⟨fault, hfiles, hother⟩ | ⟨location, hne, hfiles, hother⟩ := h.locate hplace
  · rw [hfiles, hother]
  · simp only [hfiles, hother, h location hne]

theorem locateFile (h : files.AgreeOff place other) (hplace : place ∉ files.placesOn path) :
    other.locateFile path = files.locateFile path := by
  unfold Files.locateFile
  obtain ⟨fault, hfiles, hother⟩ | ⟨location, hne, hfiles, hother⟩ := h.locate hplace
  · rw [hfiles, hother]
    rfl
  · rw [hfiles, hother]
    simp only [bind, Except.bind, h location hne]

theorem locateWritable (h : files.AgreeOff place other)
    (hplace : place ∉ files.placesOnBare path) :
    other.locateWritable path = files.locateWritable path := by
  unfold Files.locateWritable
  dsimp only
  obtain ⟨fault, hfiles, hother⟩ | ⟨location, hne, hfiles, hother⟩ := h.locate hplace
  · rw [hfiles, hother]
    rfl
  · rw [hfiles, hother]
    simp only [bind, Except.bind, h location hne]

theorem device? (h : files.AgreeOff place other) (hne : location ≠ place) :
    other.device? location = files.device? location := by
  rw [Files.device?, Files.device?, h location hne]

/-- Whatever is put elsewhere is put in both. -/
theorem put (h : files.AgreeOff place other) (location : Location) (node : Node) :
    (files.put location node).AgreeOff place (other.put location node) := by
  by_cases hlocation : location = place
  · subst hlocation
    exact ((files.agreeOff_put location node).symm.trans h).trans (other.agreeOff_put location node)
  · intro l hl
    cases hdevice : files.device? location with
    | some device =>
      rw [put_of_device hdevice, put_of_device ((h.device? hlocation).trans hdevice)]
      exact h l hl
    | none =>
      have hl := h l hl
      unfold node? at hl ⊢
      rw [lookup_put hdevice, lookup_put ((h.device? hlocation).trans hdevice)]
      by_cases heq : l = location
      · rw [if_pos heq, if_pos heq]
      · rw [if_neg heq, if_neg heq]
        exact hl

/-- A file can be opened for writing in both, or in neither. -/
theorem create (h : files.AgreeOff place other) (hplace : place ∉ files.placesOnBare path) :
    (∃ fault, files.create path = .error fault ∧ other.create path = .error fault) ∨
      ∃ location, location ≠ place ∧ files.node? location ≠ some .directory ∧
        files.create path = .ok (location, files.put location (.file (.text []))) ∧
        other.create path = .ok (location, other.put location (.file (.text []))) := by
  have hlocate := h.locateWritable hplace
  unfold Files.create
  cases hfiles : files.locateWritable path with
  | error fault =>
    rw [hlocate, hfiles]
    exact .inl ⟨fault, rfl, rfl⟩
  | ok location =>
    rw [hlocate, hfiles]
    obtain ⟨hbare, hplaced, hnode⟩ := locateWritable_eq_ok_iff.1 hfiles
    refine .inr ⟨location, ?_, hnode, rfl, rfl⟩
    rintro rfl
    rw [placesOnBare, hbare] at hplace
    exact hplace (mem_placesOn hplaced)

end AgreeOff

end SqlBoundary.Files
