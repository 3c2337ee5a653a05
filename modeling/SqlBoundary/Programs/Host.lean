import SqlBoundary.Environment
import SqlBoundary.Programs.Shell.Run

/-! # A host with programs

The shell and the pagers that the program is run with, on a machine where no write fails.
-/

namespace SqlBoundary.Programs

def runShell (home : Text) (files : Files) (line : Text) : List UInt8 × Files :=
  let (output, files) :=
    Shell.runText "/bin/sh".toList (Octets.ofText home) files (Octets.ofText line)
  (Octets.toBytes output, files)

def runPager (home : Text) (files : Files) (program : Text) (arguments : List Text)
    (input : Text) : Except FileFault Paging := do
  let interpreter := Shell.runText Shell.programShell (Octets.ofText home)
  let filter ← Filter.find files program
  let effect := filter.run interpreter files (Octets.ofText program) none
    (arguments.map Octets.ofText) (.ok (Octets.ofText input))
  return { output := Octets.toText effect.output, files := effect.files, fault := none }

/-- How deep files are run from files before the stack of the machine runs out. -/
def maxNesting : Nat := 246

def markUp (t : Text) : Text := "<hl>".toList ++ t ++ "</hl>\n\n".toList

def host (home : Text) : Host :=
  { Host.plain with maxNesting, markUp, shell := runShell home, pager := runPager home }

/-- The devices that every file tree has. -/
def devices : Files :=
  ⟨[([['/'], "dev".toList], .directory), ([['/'], "dev".toList, "null".toList], .device {})]⟩

end SqlBoundary.Programs
