import SqlBoundary.Settings.Basic
import SqlBoundary.Text.Lines
import SqlBoundary.Text.Utf8

/-! # Files

A tree of directories, files and devices around the working directory. A path is followed name by
name; every name but the last has to be a directory.
-/

namespace SqlBoundary

inductive Content
  | text (t : Text)
  | bytes (b : List UInt8)
deriving DecidableEq

namespace Content

def toBytes : Content → List UInt8
  | text t => Utf8.encode t
  | bytes b => b

def size (content : Content) : Nat := content.toBytes.length

def read? : Content → Option Text
  | text t => some t.unifyLineEnds
  | bytes b => (Utf8.decode? b).map Text.unifyLineEnds

def append (content : Content) (t : Text) : Content :=
  match content with
  | text old => text (old ++ t)
  | bytes old => bytes (old ++ Utf8.encode t)

/-- Puts bytes in the place of the bytes from an offset on. A gap before them is filled with zeros.
-/
def overwriteBytes (content : Content) (offset : Nat) (written : List UInt8) : Content :=
  let old := content.toBytes
  bytes (old.take offset ++ List.replicate (offset - old.length) 0 ++ written ++
    old.drop (offset + written.length))

/-- Writes a text from an offset on; at the end of the content this appends. -/
def overwrite (content : Content) (offset : Nat) (t : Text) : Content :=
  if offset = content.size then content.append t
  else content.overwriteBytes offset (Utf8.encode t)

theorem overwrite_size (content : Content) (t : Text) :
    content.overwrite content.size t = content.append t := if_pos rfl

end Content

/-- What can be opened like a file and keeps nothing: reading it gives the same content each time,
and what is written to it is dropped or shown on the standard output. -/
structure Device where
  content : Content := .text []
  shown : Bool := false
deriving DecidableEq

inductive Node
  | directory
  | file (content : Content)
  | device (device : Device)
deriving DecidableEq

def Node.content? : Node → Option Content
  | directory => none
  | file content => some content
  | device d => some d.content

/-- Why a file cannot be opened, or a program not be started. -/
inductive FileFault
  | missing
  | isDirectory
  | notDirectory
  | nameTooLong
  | permissionDenied
deriving DecidableEq

def FileFault.message : FileFault → Text
  | missing => "No such file or directory"
  | isDirectory => "Is a directory"
  | notDirectory => "Not a directory"
  | nameTooLong => "File name too long"
  | permissionDenied => "Permission denied"

structure Files where
  nodes : List (Location × Node)
deriving DecidableEq

namespace Files

def root : Location := [['/']]

/-- The working directory and those above it, by the steps up to them. -/
def isUpward (location : Location) : Bool := location.all (· = ['.', '.'])

def node? (files : Files) (location : Location) : Option Node :=
  if location.isEmpty || location = root then some .directory
  else
    match files.nodes.lookup location with
    | some node => some node
    | none => if isUpward location then some .directory else none

def content? (files : Files) (location : Location) : Option Content :=
  (files.node? location).bind Node.content?

def device? (files : Files) (location : Location) : Option Device :=
  match files.node? location with
  | some (.device device) => some device
  | _ => none

/-- Whether a place has a regular file, which holds what is written to it. -/
def IsRegular (files : Files) (location : Location) : Prop :=
  ∃ content, files.node? location = some (.file content)

/-- One step up from a directory; the root is above itself. -/
def above (location : Location) : Location :=
  if location = root then root
  else if isUpward location then location ++ [['.', '.']]
  else location.dropLast

/-- Puts a node in the place of the old one, or adds it. A device stays. -/
def put (files : Files) (location : Location) (node : Node) : Files :=
  if (files.device? location).isSome then files
  else if files.nodes.any (·.1 = location) then
    ⟨files.nodes.map fun entry => if entry.1 = location then (location, node) else entry⟩
  else ⟨files.nodes ++ [(location, node)]⟩

/-- A name has at most 255 bytes, and a path at most 4095. -/
def maxNameBytes : Nat := 255

def maxPathBytes : Nat := 4095

/-- Follows names from a place. Only the last of them may be missing or a file. -/
def follow (files : Files) (place : Location) : List Text → Except FileFault Location
  | [] => .ok place
  | name :: names =>
    match files.node? place with
    | none => .error .missing
    | some (.file _) | some (.device _) => .error .notDirectory
    | some .directory =>
      if name.isEmpty || name = ['.'] then files.follow place names
      else if name = ['.', '.'] then files.follow (above place) names
      else if (Utf8.encode name).length > maxNameBytes then .error .nameTooLong
      else files.follow (place ++ [name]) names

/-- The place that a path leads to, which need not exist. -/
def locate (files : Files) (path : Text) : Except FileFault Location :=
  if (Utf8.encode path).length > maxPathBytes then .error .nameTooLong
  else
    match path with
    | [] => .error .missing
    | '/' :: rest => files.follow root (Text.segments '/' rest)
    | path => files.follow [] (path.segments '/')

def exists? (files : Files) (path : Text) : Bool :=
  match files.locate path with
  | .ok location => (files.node? location).isSome
  | .error _ => false

def locateFile (files : Files) (path : Text) : Except FileFault Location := do
  let location ← files.locate path
  match files.node? location with
  | none => .error .missing
  | some .directory => .error .isDirectory
  | some (.file _) | some (.device _) => .ok location

def read (files : Files) (path : Text) : Except FileFault Content := do
  match files.node? (← files.locate path) with
  | none => .error .missing
  | some .directory => .error .isDirectory
  | some (.file content) => .ok content
  | some (.device device) => .ok device.content

def withoutEndSlashes (path : Text) : Text := (path.reverse.dropWhile (· = '/')).reverse

/-- Where a path leads that a file can be written at. A path that ends in a slash can only mean a
directory. -/
def locateWritable (files : Files) (path : Text) : Except FileFault Location := do
  let bare := withoutEndSlashes path
  if bare.isEmpty && !path.isEmpty then .error .isDirectory
  else
    let location ← files.locate bare
    if bare ≠ path || files.node? location = some .directory then .error .isDirectory
    else .ok location

/-- Opens a file for writing, which empties it or creates it. -/
def create (files : Files) (path : Text) : Except FileFault (Location × Files) := do
  let location ← files.locateWritable path
  return (location, files.put location (.file (.text [])))

def write (files : Files) (location : Location) (offset : Nat) (t : Text) : Files :=
  let old := (files.content? location).getD (.text [])
  files.put location (.file (old.overwrite offset t))

def writeBytes (files : Files) (location : Location) (offset : Nat) (b : List UInt8) : Files :=
  let old := (files.content? location).getD (.text [])
  files.put location (.file (old.overwriteBytes offset b))

def names (files : Files) (directory : Location) : List Text :=
  files.nodes.filterMap fun (location, _) =>
    if !location.isEmpty && location.dropLast = directory then location.getLast? else none

/-- A path that starts with a tilde is taken from a home directory: the user's own, or the one of
the user that is named. The path stays where there is no such user. -/
def expandHome (home : Text) (homeOf? : Text → Option Text) (path : Text) : Text :=
  match path with
  | '~' :: rest =>
    let user := rest.takeWhile (· ≠ '/')
    match if user.isEmpty then some home else homeOf? user with
    | none => path
    | some home =>
      let expanded := withoutEndSlashes home ++ rest.dropWhile (· ≠ '/')
      if expanded.isEmpty then ['/'] else expanded
  | path => path

def isInside (location : Location) : Bool :=
  location.head? ≠ some ['.', '.'] && location.head? ≠ root.head?

/-- The files of the working directory that were created or whose bytes were changed. -/
def changes (before after : Files) : List (Location × Content) :=
  after.nodes.filterMap fun (location, node) =>
    match node with
    | .directory | .device _ => none
    | .file content =>
      if !isInside location || before.node? location = some node ||
        (before.content? location).map Content.toBytes = some content.toBytes then none
      else some (location, content)

/-- Why a program cannot be started from a path. None of the files can be run. -/
def executionFault (files : Files) (path : Text) : FileFault :=
  match files.locate path with
  | .error fault => fault
  | .ok location =>
    match files.node? location with
    | none => .missing
    | some _ => .permissionDenied

end Files
end SqlBoundary
