import SqlBoundary.Files

/-! # Files in the tree

Opening a file for writing puts an empty one at a place that is no directory, and no more. It makes
no directory and no device and takes none away, so that all other paths that can be written to lead
where they led before.
-/

namespace SqlBoundary.Files

theorem lookup_replace (nodes : List (Location × Node)) (location place : Location) (node : Node) :
    (nodes.map fun entry => if entry.1 = location then (location, node) else entry).lookup place =
      if place = location then
        if nodes.any (·.1 = location) then some node else none
      else nodes.lookup place := by
  induction nodes with
  | nil => simp
  | cons entry nodes ih =>
    obtain ⟨l, n⟩ := entry
    rw [List.map_cons, List.lookup_cons, ih, List.lookup_cons]
    grind

section
variable {files : Files} {location : Location}

theorem put_of_device {device : Device} (h : files.device? location = some device) (node : Node) :
    files.put location node = files := by
  rw [put, h, Option.isSome_some, if_pos rfl]

theorem lookup_put (h : files.device? location = none) (node : Node) (place : Location) :
    (files.put location node).nodes.lookup place =
      if place = location then some node else files.nodes.lookup place := by
  rw [put, h, Option.isSome_none, if_neg Bool.false_ne_true]
  split
  next hany => rw [lookup_replace, hany, if_pos rfl]
  next hany =>
    rw [List.lookup_append]
    by_cases hplace : place = location
    · subst hplace
      have hlookup : files.nodes.lookup place = none := by
        simp only [List.any_eq_true, decide_eq_true_eq, not_exists, not_and] at hany
        exact List.lookup_eq_none_iff.2 fun entry hentry => by
          simpa using fun heq => hany entry hentry heq.symm
      simp [hlookup]
    · simp [hplace, List.lookup_cons, beq_false_of_ne hplace]

theorem device?_eq_none_of_isRegular (h : files.IsRegular location) :
    files.device? location = none := by
  obtain ⟨content, hnode⟩ := h
  rw [device?, hnode]

/-- No device is made, and none taken away. -/
theorem device?_put_file (files : Files) (location : Location) (content : Content)
    (place : Location) :
    (files.put location (.file content)).device? place = files.device? place := by
  cases h : files.device? location with
  | some device => rw [put_of_device h]
  | none =>
    unfold device? node? at h ⊢
    rw [lookup_put (by unfold device? node?; exact h)]
    grind

theorem put_put (files : Files) (location : Location) (content : Content) (other : Node) :
    (files.put location (.file content)).put location other = files.put location other := by
  cases h : files.device? location with
  | some device => simp only [put_of_device h]
  | none =>
    have hdevice := (files.device?_put_file location content location).trans h
    rw [put, hdevice, put, put, h, Option.isSome_none, if_neg Bool.false_ne_true,
      if_neg Bool.false_ne_true, if_neg Bool.false_ne_true]
    by_cases hany : files.nodes.any (·.1 = location) = true
    · have hany' : (files.nodes.map fun entry =>
          if entry.1 = location then (location, Node.file content) else entry).any
            (·.1 = location) = true := by
        rw [List.any_map]
        refine List.any_eq_true.2 ?_
        obtain ⟨entry, hentry, heq⟩ := List.any_eq_true.1 hany
        exact ⟨entry, hentry, by simp_all⟩
      rw [if_pos hany, if_pos hany, if_pos hany', List.map_map]
      congr 1
      refine List.map_congr_left fun entry _ => ?_
      by_cases heq : entry.1 = location <;> simp [heq]
    · have hmem : ∀ entry ∈ files.nodes, entry.1 ≠ location := by
        simpa only [List.any_eq_true, decide_eq_true_eq, not_exists, not_and] using hany
      have hmap : (files.nodes.map fun entry =>
          if entry.1 = location then (location, other) else entry) = files.nodes :=
        List.map_congr_left (fun entry hentry => if_neg (hmem entry hentry)) |>.trans
          (List.map_id _)
      rw [if_neg hany, if_neg hany, if_pos (by simp), List.map_append, hmap]
      simp

/-- A node can be put at any place but the fixed ones, the directories and the devices. -/
theorem node?_put (hplace : files.node? location ≠ some .directory)
    (h : files.device? location = none) (node : Node) (place : Location) :
    (files.put location node).node? place =
      if place = location then some node else files.node? place := by
  have hlookup := lookup_put h node place
  unfold node? at hplace ⊢
  rw [hlookup]
  grind

theorem content?_put (hplace : files.node? location ≠ some .directory)
    (h : files.device? location = none) (content : Content) :
    (files.put location (.file content)).content? location = some content := by
  rw [content?, node?_put hplace h, if_pos rfl]
  rfl

/-- Text written at the end of a file is added to it. -/
theorem write_put (hplace : files.node? location ≠ some .directory) (written t : Text) :
    (files.put location (.file (.text written))).write location (Utf8.encode written).length t =
      files.put location (.file (.text (written ++ t))) := by
  cases h : files.device? location with
  | some device => simp only [write, put_of_device h]
  | none =>
    rw [write, content?_put hplace h, Option.getD_some, put_put]
    exact congrArg (files.put location <| .file ·) (Content.overwrite_size (.text written) t)

end

section Writable
variable {files : Files} {path : Text} {location : Location}

/-- A path leads to where a file can be written if it has no slash at its end and leads to no
directory. -/
theorem locateWritable_eq_ok_iff :
    files.locateWritable path = .ok location ↔
      withoutEndSlashes path = path ∧ files.locate path = .ok location ∧
        files.node? location ≠ some .directory := by
  unfold locateWritable
  by_cases hbare : withoutEndSlashes path = path
  · have hempty : (path.isEmpty && !path.isEmpty) = false := by cases path.isEmpty <;> rfl
    simp only [hbare, hempty, ne_eq, not_true, decide_false, Bool.false_or, decide_eq_true_eq,
      Bool.false_eq_true, if_false, true_and]
    cases files.locate path with
    | error fault => exact iff_of_false (fun h => nomatch h) (fun h => nomatch h.1)
    | ok place =>
      change (if files.node? place = some .directory then _ else Except.ok place) = _ ↔ _
      split
      next hplace =>
        refine iff_of_false (fun h => nomatch h) fun h => ?_
        obtain rfl := Except.ok.inj h.1
        exact h.2 hplace
      next hplace =>
        constructor
        · intro h
          obtain rfl := Except.ok.inj h
          exact ⟨rfl, hplace⟩
        · exact fun h => h.1
  · refine iff_of_false (fun h => ?_) fun h => hbare h.1
    dsimp only at h
    split at h
    next => cases h
    next =>
      cases hlocate : files.locate (withoutEndSlashes path) with
      | error fault =>
        rw [hlocate] at h
        cases h
      | ok place =>
        rw [hlocate] at h
        change (if _ then _ else _) = _ at h
        rw [if_pos (by simp [hbare])] at h
        cases h

theorem create_eq_ok_iff {next : Files} :
    files.create path = .ok (location, next) ↔
      files.locateWritable path = .ok location ∧ next = files.put location (.file (.text [])) := by
  unfold create
  cases files.locateWritable path with
  | error fault => exact ⟨fun h => (nomatch h), fun h => (nomatch h.1)⟩
  | ok place =>
    constructor
    · intro h
      cases h
      exact ⟨rfl, rfl⟩
    · rintro ⟨hplace, rfl⟩
      cases hplace
      rfl

end Writable

/-- The same places are directories. -/
def SameDirectories (files other : Files) : Prop :=
  ∀ place, files.node? place = some .directory ↔ other.node? place = some .directory

theorem sameDirectories_put {files : Files} {location : Location}
    (hplace : files.node? location ≠ some .directory) (content : Content) :
    (files.put location (.file content)).SameDirectories files := by
  intro place
  cases h : files.device? location with
  | some device => rw [put_of_device h]
  | none =>
    rw [node?_put hplace h]
    split
    next heq =>
      subst heq
      exact iff_of_false (fun hfile => nomatch hfile) hplace
    next => rfl

theorem not_follow_cons_of_not_directory {files : Files} {place : Location}
    (h : files.node? place ≠ some .directory) (name : Text) (names : List Text)
    (location : Location) : files.follow place (name :: names) ≠ .ok location := by
  unfold follow
  split
  next => exact fun hok => nomatch hok
  next => exact fun hok => nomatch hok
  next => exact fun hok => nomatch hok
  next hdirectory => exact absurd hdirectory h

namespace SameDirectories
variable {files other : Files}

/-- A way through directories leads to the same place. -/
theorem follow_eq_ok_iff (h : files.SameDirectories other) (place : Location) (names : List Text)
    (location : Location) :
    files.follow place names = .ok location ↔ other.follow place names = .ok location := by
  induction names generalizing place with
  | nil => rfl
  | cons name names ih =>
    by_cases hplace : files.node? place = some .directory
    · have hother := (h place).1 hplace
      rw [follow, follow, hplace, hother]
      dsimp only
      split
      next => exact ih place
      next =>
        split
        next => exact ih (above place)
        next =>
          split
          next => rfl
          next => exact ih (place ++ [name])
    · have hother := mt (h place).2 hplace
      exact iff_of_false (not_follow_cons_of_not_directory hplace name names location)
        (not_follow_cons_of_not_directory hother name names location)

theorem locate_eq_ok_iff (h : files.SameDirectories other) (path : Text) (location : Location) :
    files.locate path = .ok location ↔ other.locate path = .ok location := by
  unfold locate
  split
  next => rfl
  next =>
    split
    next => rfl
    next => exact h.follow_eq_ok_iff _ _ location
    next => exact h.follow_eq_ok_iff _ _ location

theorem locateWritable_eq_ok_iff (h : files.SameDirectories other) (path : Text)
    (location : Location) :
    files.locateWritable path = .ok location ↔ other.locateWritable path = .ok location := by
  rw [Files.locateWritable_eq_ok_iff, Files.locateWritable_eq_ok_iff,
    h.locate_eq_ok_iff path location, ne_eq, ne_eq, h location]

end SameDirectories

end SqlBoundary.Files
