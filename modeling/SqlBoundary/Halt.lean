import SqlBoundary.SplitPoint
import SqlBoundary.Files
import SqlBoundary.Words

/-! # Halts

Why a step ends before it is through. What was done up to there stays done.
-/

namespace SqlBoundary

/-- Why something that was opened does not take what is written to it. -/
inductive WriteFault
  | brokenPipe
  | noSpace
  | failed
deriving DecidableEq

def WriteFault.message : WriteFault → Text
  | brokenPipe => "Broken pipe"
  | noSpace => "No space left on device"
  | failed => "Input/output error"

/-- `nestedTooDeeply` strikes before a text does anything, and `stackExhausted` after it has begun
to. A reader of lines that the file is always ahead of is `endless`. -/
inductive Halt
  | quit
  | unterminated (fault : Unterminated)
  | file (path : Text) (fault : FileFault)
  | refused (fault : WriteFault)
  | closedOutput
  | undecodable
  | embeddedNull
  | words (fault : Words.Fault)
  | noProgram
  | missingPrompt
  | missingAssignment
  | missingAssignmentText
  | nestedTooDeeply
  | stackExhausted
  | endless

namespace Halt

/-- What is shown of a fault of a file: its path, if it has been opened by one, and the cause. -/
def fileMessage (path cause : Text) : Text := path ++ ": ".toList ++ cause

def refusedMessage (fault : WriteFault) : Text := fileMessage "None" fault.message

def message : Halt → Text
  | quit | undecodable | endless => []
  | unterminated fault => fault.message
  | file path fault => fileMessage path fault.message
  | refused fault => refusedMessage fault
  | closedOutput => "I/O operation on closed file."
  | embeddedNull => "embedded null byte"
  | words fault => fault.message
  | noProgram => "list index out of range"
  | missingPrompt => "expected string or bytes-like object, got 'NoneType'"
  | missingAssignment => "not enough values to unpack (expected 2, got 1)"
  | missingAssignmentText => "'list' object has no attribute 'split'"
  | nestedTooDeeply | stackExhausted => "maximum recursion depth exceeded"

end Halt
end SqlBoundary
