/-!
# Misuse of the command line

What is wrong with a command line that cannot be understood.
-/

namespace EditorBridge.CommandLine

/-- Why a number is refused. -/
inductive NumberFault where
  /-- There is nothing. -/
  | empty
  /-- A character is no digit. -/
  | digit
  /-- It has more than 63 bits. -/
  | tooLarge
  /-- It is negative and has more than 63 bits. -/
  | tooSmall
  /-- It does not have 32 bits. -/
  | outside (value : Int)
deriving DecidableEq, Repr

/-- The words for a refused number. -/
def NumberFault.message : NumberFault → String
  | .empty => "cannot parse integer from empty string"
  | .digit => "invalid digit found in string"
  | .tooLarge => "number too large to fit in target type"
  | .tooSmall => "number too small to fit in target type"
  | .outside value => toString value ++ " is not in 0..=4294967295"

/-- What is wrong with a command line. -/
inductive UsageError where
  /-- An argument that nothing takes. -/
  | unexpected (argument : String)
  /-- A command that does not exist. -/
  | unknownCommand (name : String)
  /-- Some arguments are missing. -/
  | missing
  /-- A number that is none. -/
  | badNumber (value display : String) (fault : NumberFault)
  /-- A name that is none of those to choose from. -/
  | badChoice (value display : String)
  /-- A value is missing. -/
  | noValue (display : String)
  /-- An option is given twice. -/
  | repeated (display : String)
  /-- A switch is given a value. -/
  | surplus (value display : String)
  /-- There is no command. -/
  | noCommand
  /-- There is nothing at all. -/
  | nothing
deriving DecidableEq, Repr

/-- A text in single quotes. -/
def inQuotes (text : String) : String := "'" ++ text ++ "'"

/-- The words for a misuse. -/
def UsageError.message : UsageError → String
  | .unexpected argument => "error: unexpected argument " ++ inQuotes argument ++ " found"
  | .unknownCommand name => "error: unrecognized subcommand " ++ inQuotes name
  | .missing => "error: the following required arguments were not provided:"
  | .badNumber value display fault =>
    "error: invalid value " ++ inQuotes value ++ " for " ++ inQuotes display ++ ": " ++
      fault.message
  | .badChoice value display =>
    "error: invalid value " ++ inQuotes value ++ " for " ++ inQuotes display
  | .noValue display =>
    "error: a value is required for " ++ inQuotes display ++ " but none was supplied"
  | .repeated display =>
    "error: the argument " ++ inQuotes display ++ " cannot be used multiple times"
  | .surplus value display =>
    "error: unexpected value " ++ inQuotes value ++ " for " ++ inQuotes display ++
      " found; no more were expected"
  | .noCommand => "error: 'z-editor' requires a subcommand but one was not provided"
  | .nothing => "Editor integration for the Z language"

/-- Why a command line is not carried out. -/
inductive Stop where
  /-- It cannot be understood. -/
  | misuse (error : UsageError)
  /-- It asks for the version. -/
  | version
  /-- It asks for help. -/
  | help
deriving DecidableEq, Repr

end EditorBridge.CommandLine
