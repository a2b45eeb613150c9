/-!
# Input and output errors

What a source, a sink or a file operation reports when it fails: a kind that callers may act on and a
text that is passed on. Only `interrupted` is ever acted on: the call is made again.
-/

namespace Depot

/-- The kinds of input and output errors that are told apart. -/
inductive IoKind
  | interrupted
  | brokenPipe
  | unexpectedEof
  | wouldBlock
  | timedOut
  | connectionReset
  | permissionDenied
  | notFound
  | alreadyExists
  | isADirectory
  | notADirectory
  | invalidFilename
  | invalidInput
  | writeZero
  | other
deriving DecidableEq, Repr

/-- A failed input or output call. -/
structure IoError where
  kind : IoKind
  message : String
deriving DecidableEq, Repr

namespace IoError

/-- The call may be made again at once. -/
def isInterrupted (e : IoError) : Bool :=
  e.kind = .interrupted

/-- A sink took none of the bytes that it was offered. -/
def writeZero : IoError :=
  ⟨.writeZero, "failed to write whole buffer"⟩

/-- There is nothing of the name. -/
def missing : IoError :=
  ⟨.notFound, "No such file or directory (os error 2)"⟩

/-- There is already something of the name. -/
def alreadyExists : IoError :=
  ⟨.alreadyExists, "File exists (os error 17)"⟩

/-- A path leads on through something that is not a directory. -/
def notADirectory : IoError :=
  ⟨.notADirectory, "Not a directory (os error 20)"⟩

/-- A directory is not a file. -/
def isADirectory : IoError :=
  ⟨.isADirectory, "Is a directory (os error 21)"⟩

/-- A name has more bytes than a directory can hold. -/
def nameTooLong : IoError :=
  ⟨.invalidFilename, "File name too long (os error 36)"⟩

/-- A path holds a character that no path can hold. -/
def nullInPath : IoError :=
  ⟨.invalidInput, "file name contained an unexpected NUL byte"⟩

end IoError

end Depot
