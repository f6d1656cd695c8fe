/-
# PartitionedRollout.Command.FileError -- why file operations fail

Operating systems number the reasons for which a file operation fails. Messages show the reason
in words and its number behind it. A few reasons are found before or after the operating system
is asked and have no number.
-/

namespace PartitionedRollout.Command

/-- Why a file operation fails. -/
inductive FileError where
  /-- There is nothing. -/
  | notFound
  /-- It is not allowed. -/
  | notPermitted
  /-- There is something already. -/
  | exists
  /-- Something on the way is a file. -/
  | notDirectory
  /-- It is a directory. -/
  | isDirectory
  /-- The path or a name in it is too long. -/
  | nameTooLong
  /-- There is a null character in the path. -/
  | nullInPath
  /-- The file does not hold a text. -/
  | notText
  /-- The file does not hold what it should. -/
  | badData
  deriving DecidableEq, Repr

namespace FileError

/-- The number of a reason, if the operating system gives it. -/
def code? : FileError → Option Nat
  | .notFound => some 2
  | .notPermitted => some 13
  | .exists => some 17
  | .notDirectory => some 20
  | .isDirectory => some 21
  | .nameTooLong => some 36
  | .nullInPath => none
  | .notText => none
  | .badData => none

/-- The words for a reason. -/
def words : FileError → String
  | .notFound => "No such file or directory"
  | .notPermitted => "Permission denied"
  | .exists => "File exists"
  | .notDirectory => "Not a directory"
  | .isDirectory => "Is a directory"
  | .nameTooLong => "File name too long"
  | .nullInPath => "file name contained an unexpected NUL byte"
  | .notText => "stream did not contain valid UTF-8"
  | .badData => "invalid data"

/-- The text of a reason. -/
def message (e : FileError) : String :=
  match e.code? with
  | some n => s!"{e.words} (os error {n})"
  | none => e.words

/-- The reasons that have a number. -/
def numbered : List FileError :=
  [notFound, notPermitted, .exists, notDirectory, isDirectory, nameTooLong]

/-- The reason with a number. -/
def ofCode? (n : Nat) : Option FileError :=
  numbered.find? fun e => e.code? == some n

end FileError

end PartitionedRollout.Command
