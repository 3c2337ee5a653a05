import SqlBoundary.Files
import SqlBoundary.Programs.Octets
import SqlBoundary.Programs.Shell.Arithmetic

/-! # The state of a shell

Descriptors lead to channels, which commands share: what one has written or read is so for all of
them. A shell may end early with a status; what it did before stays done.
-/

namespace SqlBoundary.Shell

/-- What a descriptor leads to. Texts that are collected stand in a row with the latest first. A
file is written at its end or at an offset that moves on. -/
inductive Channel
  | collected (written : List Text)
  | supplied (t : Text)
  | file (location : Location) (offset : Nat) (appends readable writable : Bool)
  | directory
  | discarded

structure Job where
  command : Command
  descriptors : List (Nat × Nat)
  bindings : Arithmetic.Bindings
  functions : List (Text × Command)
  arguments : List Text

structure State where
  files : Files
  /-- The name that the shell goes by. -/
  name : Text
  channels : List Channel := [.supplied [], .collected [], .collected []]
  descriptors : List (Nat × Nat) := [(0, 0), (1, 1), (2, 2)]
  bindings : Arithmetic.Bindings
  functions : List (Text × Command) := []
  arguments : List Text := []
  /-- How many functions are under way. -/
  calls : Nat := 0
  status : Nat := 0
  /-- The status of the commands whose output was last put into a word. -/
  substituted : Nat := 0
  jobs : List Job := []
  /-- The number of the line that is run. -/
  line : Nat := 1

abbrev Run := ExceptT Nat (StateM State)

def badDescriptor : Text := "Bad file descriptor"

namespace State

def channel? (descriptor : Nat) (s : State) : Option (Nat × Channel) := do
  let index ← s.descriptors.lookup descriptor
  return (index, ← s.channels[index]?)

def collected (index : Nat) (s : State) : Text :=
  match s.channels[index]? with
  | some (.collected written) => written.reverse.flatten
  | _ => []

def setChannel (index : Nat) (channel : Channel) (s : State) : State :=
  { s with channels := s.channels.set index channel }

def connect (descriptor index : Nat) (s : State) : State :=
  { s with descriptors := (descriptor, index) :: s.descriptors.filter (·.1 ≠ descriptor) }

def disconnect (descriptor : Nat) (s : State) : State :=
  { s with descriptors := s.descriptors.filter (·.1 ≠ descriptor) }

def addChannel (channel : Channel) (s : State) : Nat × State :=
  (s.channels.length, { s with channels := s.channels ++ [channel] })

def write (descriptor : Nat) (t : Text) (s : State) : Bool × State :=
  match s.channel? descriptor with
  | some (index, .collected old) => (true, s.setChannel index (.collected (t :: old)))
  | some (index, .file location offset appends readable true) =>
    let size := (s.files.content? location).elim 0 Content.size
    let start := if appends then size else offset
    let files := s.files.writeBytes location start (Octets.toBytes t)
    (true, { s with files }.setChannel index
      (.file location (start + t.length) appends readable true))
  | some (_, .discarded) => (true, s)
  | _ => (t.isEmpty, s)

/-- Reads all that a descriptor still has to give, or tells why it cannot be read. -/
def read (descriptor : Nat) (s : State) : Except Text Text × State :=
  match s.channel? descriptor with
  | some (index, .supplied t) => (.ok t, s.setChannel index (.supplied []))
  | some (index, .file location offset appends true writable) =>
    let bytes := ((s.files.content? location).elim [] Content.toBytes).drop offset
    (.ok (Octets.ofBytes bytes), s.setChannel index
      (.file location (offset + bytes.length) appends true writable))
  | some (_, .directory) => (.error FileFault.isDirectory.message, s)
  | some (_, .discarded) => (.ok [], s)
  | _ => (.error badDescriptor, s)

def setting? (name : Text) (s : State) : Option Text := s.bindings.lookup name

def assign (name value : Text) (s : State) : State :=
  { s with bindings := Arithmetic.bind name value s.bindings }

def restore (name : Text) (value : Option Text) (s : State) : State :=
  match value with
  | some value => s.assign name value
  | none => { s with bindings := s.bindings.filter (·.1 ≠ name) }

end State

def setStatus (status : Nat) : Run Unit := modify fun s => { s with status }

def complain (t : Text) : Run Unit :=
  modify fun s =>
    (s.write 2 (s.name ++ ": ".toList ++ Text.ofNat s.line ++ ": ".toList ++ t ++ ['\n'])).2

/-- The status of a shell that is broken off by the fault of a division. -/
def brokenOff : Nat := 136

def refuse {α : Type} (t : Text) : Run α := do
  complain t
  throw 2

end SqlBoundary.Shell
