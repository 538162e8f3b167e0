/-!
# Why the system refuses

* `SystemFault` — the refusals of the file system and of pipes;
* `SystemFault.message` — their wording, with the number of the system's own errors;
* `SystemFault.isMissing` — whether the refusal says that nothing is there.
-/

namespace Orchestration

/-- A refusal of the system. -/
inductive SystemFault where
  | notFound
  | permissionDenied
  | busy
  | alreadyExists
  | notADirectory
  | isADirectory
  | invalidArgument
  | nameTooLong
  | notEmpty
  | invalidName
  /-- Something other than a system call, in its own words. -/
  | described (text : String)
  deriving DecidableEq, Repr

namespace SystemFault

/-- The words for a refusal. -/
def message : SystemFault → String
  | .notFound => "No such file or directory (os error 2)"
  | .permissionDenied => "Permission denied (os error 13)"
  | .busy => "Device or resource busy (os error 16)"
  | .alreadyExists => "File exists (os error 17)"
  | .notADirectory => "Not a directory (os error 20)"
  | .isADirectory => "Is a directory (os error 21)"
  | .invalidArgument => "Invalid argument (os error 22)"
  | .nameTooLong => "File name too long (os error 36)"
  | .notEmpty => "Directory not empty (os error 39)"
  | .invalidName => "file name contained an unexpected NUL byte"
  | .described text => text

/-- Whether nothing is there. -/
def isMissing (f : SystemFault) : Bool := f == .notFound

end SystemFault

end Orchestration
