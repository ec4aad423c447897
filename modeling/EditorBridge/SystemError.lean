/-!
# Errors of the system

Why a file could not be read or a program not be started.
-/

namespace EditorBridge

/-- A failure reported by the system, or found before it was asked. -/
inductive SystemError where
  /-- A part of the path does not exist. -/
  | notFound
  /-- The file may not be executed. -/
  | permissionDenied
  /-- A part of the path that should be a directory is a file. -/
  | notADirectory
  /-- The path names a directory where a file is needed. -/
  | isADirectory
  /-- A name or the whole path is too long. -/
  | nameTooLong
  /-- The file is executable but no program. -/
  | notAProgram
  /-- The file is not text. -/
  | notText
  /-- A path holds the byte that ends names. -/
  | nulInPath
  /-- A program or an argument holds the byte that ends arguments. -/
  | nulInArgument
deriving DecidableEq, Repr

/-- The message of an error with its number in the system. -/
def SystemError.numbered (text : String) (number : Nat) : String :=
  text ++ " (os error " ++ toString number ++ ")"

/-- The words for an error. -/
def SystemError.message : SystemError → String
  | .notFound => numbered "No such file or directory" 2
  | .notAProgram => numbered "Exec format error" 8
  | .permissionDenied => numbered "Permission denied" 13
  | .notADirectory => numbered "Not a directory" 20
  | .isADirectory => numbered "Is a directory" 21
  | .nameTooLong => numbered "File name too long" 36
  | .notText => "stream did not contain valid UTF-8"
  | .nulInPath => "file name contained an unexpected NUL byte"
  | .nulInArgument => "nul byte found in provided data"

end EditorBridge
