import OverlaySheet.Text.Utf8

/-! Files as a program finds them: their content, or why the system refuses it. -/

namespace OverlaySheet

/-- Why the system refuses a file: the number of its error and the text for it. -/
structure FileFailure where
  number : Nat
  text : String
deriving DecidableEq

namespace FileFailure

/-- There is no such file. -/
def noSuchFile : FileFailure := ⟨2, "No such file or directory"⟩

/-- The device failed. -/
def inputOutput : FileFailure := ⟨5, "Input/output error"⟩

/-- The file is closed to the user. -/
def permissionDenied : FileFailure := ⟨13, "Permission denied"⟩

/-- A path leads through a file, or has a slash behind its name. -/
def notDirectory : FileFailure := ⟨20, "Not a directory"⟩

/-- A directory has no content to read. -/
def isDirectory : FileFailure := ⟨21, "Is a directory"⟩

/-- A name has more bytes than any file can have. -/
def nameTooLong : FileFailure := ⟨36, "File name too long"⟩

/-- Links lead back to themselves. -/
def endlessLinks : FileFailure := ⟨40, "Too many levels of symbolic links"⟩

/-- The failures that have a text here. -/
def all : List FileFailure :=
  [noSuchFile, inputOutput, permissionDenied, notDirectory, isDirectory, nameTooLong, endlessLinks]

/-- The failures of paths that lead to nothing. -/
def absences : List FileFailure :=
  [noSuchFile, notDirectory, nameTooLong, endlessLinks]

/-- The failure with a number, which has the given text when it is none of those above. -/
def ofNumber (number : Nat) (text : String) : FileFailure :=
  (all.find? fun failure => failure.number = number).getD ⟨number, text⟩

/-- Whether the failure says that nothing is there. -/
def isAbsence (failure : FileFailure) : Bool :=
  absences.contains failure

/-- The wording of a failure. -/
def message (failure : FileFailure) : String :=
  s!"{failure.text} (os error {failure.number})"

end FileFailure

/-- What a path leads to. -/
inductive FileContent where
  /-- Nothing that can be opened. -/
  | refused (failure : FileFailure)
  /-- A directory, which can be opened but not read. -/
  | directory
  | bytes (content : Bytes)
deriving DecidableEq

end OverlaySheet
