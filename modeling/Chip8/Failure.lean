/-!
# Failures

What can go wrong, as causes, and the wording of each cause in one place.
-/

namespace Chip8

/-- Why a running machine has stopped. -/
inductive Fault where
  /-- A call with all sixteen stack slots in use. -/
  | stackOverflow
  /-- A return with no call to return from. -/
  | stackUnderflow
deriving DecidableEq, Repr, Inhabited

namespace Fault

/-- The wording of a fault. -/
def message : Fault → String
  | stackOverflow => "call stack overflow"
  | stackUnderflow => "call stack underflow"

end Fault

/-- Why an input or output operation was refused. -/
inductive IoError where
  | notFound
  /-- A component before the last of a path is not a directory. -/
  | notADirectory
  /-- The path names a directory where a file is wanted. -/
  | isADirectory
  | nameTooLong
  /-- A path has a character zero in it. -/
  | nulInName
  /-- The bytes of a text file are not UTF-8. -/
  | invalidText
  /-- Any other refusal, in the words of the device. -/
  | other (message : String)
deriving DecidableEq, Repr, Inhabited

namespace IoError

/-- The wording of a refusal, with the system's number where it has one. -/
def message : IoError → String
  | notFound => "No such file or directory (os error 2)"
  | notADirectory => "Not a directory (os error 20)"
  | isADirectory => "Is a directory (os error 21)"
  | nameTooLong => "File name too long (os error 36)"
  | nulInName => "file name contained an unexpected NUL byte"
  | invalidText => "stream did not contain valid UTF-8"
  | other message => message

end IoError

/-- A failure of the machine or of its loader. -/
inductive Failure where
  /-- The machine has stopped. -/
  | stopped (fault : Fault)
  | programTooLarge
  /-- Font data that cannot be used. -/
  | font (reason : String)
  /-- A file could not be read. -/
  | file (cause : IoError)
  /-- A text sink refused to take more. -/
  | sinkFull
deriving DecidableEq, Repr, Inhabited

namespace Failure

/-- The wording of a refusing text sink. -/
def sinkFullMessage : String := "an error occurred when formatting an argument"

/-- The wording of a failure. -/
def message : Failure → String
  | stopped fault => "runtime error: " ++ fault.message
  | programTooLarge => "program too large for VM memory"
  | font reason => "font error: " ++ reason
  | file cause => cause.message
  | sinkFull => sinkFullMessage

/-- The wording of the failure that this one passes on, if it passes one on. -/
def source? : Failure → Option String
  | file cause => some cause.message
  | sinkFull => some sinkFullMessage
  | _ => none

end Failure
end Chip8
