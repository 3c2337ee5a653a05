import SqlBoundary.Programs.Filter.Copy
import SqlBoundary.Programs.Filter.Exchange
import SqlBoundary.Programs.Filter.Edit.Run

/-! # Filters

The programs through which output can be paged: one copies its input, one exchanges octets and one
edits lines.
-/

namespace SqlBoundary

inductive Filter
  | copy
  | exchange
  | edit
deriving DecidableEq

namespace Filter

def ofName? (name : Text) : Option Filter :=
  if name = "cat".toList then some .copy
  else if name = "tr".toList then some .exchange
  else if name = "sed".toList then some .edit
  else none

/-- The directories that hold the filters. -/
def directories : List Text := ["/bin/", "/usr/bin/"]

/-- The filter that a program name stands for. A name with a slash is a path. One without is looked
for in the directories of programs, where the name of a directory can only be refused. -/
def find (files : Files) (name : Text) : Except FileFault Filter :=
  if name.contains '/' then
    let within (directory : Text) : Option Filter :=
      (Text.afterPrefix? directory name).bind ofName?
    match directories.findSome? within with
    | some filter => .ok filter
    | none => .error (files.executionFault name)
  else
    match ofName? name with
    | some filter => .ok filter
    | none =>
      if name.isEmpty || name = ['.'] || name = ['.', '.'] then .error .permissionDenied
      else if Files.maxNameBytes < (Utf8.encode name).length then .error .nameTooLong
      else .error .missing

/-- Runs a filter on octets, under the name that it was called by. The input may not be readable,
and the output may go to a file. A filter that runs command lines leaves that to an interpreter. -/
def run (interpreter : Interpreter) (files : Files) (program : Text) (target : Option Copy.Target)
    (filter : Filter) (arguments : List Text) (input : Except Text Text) : Effect :=
  match filter, input with
  | copy, input => Copy.run files program target arguments input
  | exchange, .ok input => Exchange.run files arguments input
  | edit, .ok input => Edit.run interpreter files program arguments input
  | _, .error _ => .failure files

end Filter
end SqlBoundary
