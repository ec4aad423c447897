/-!
# Parameters of a command line

What a command line can be told: switches, options with a value, and arguments that are told apart
by their order. Each has a name for messages, and the values of a parameter have a form.
-/

namespace EditorBridge.CommandLine

/-- The form of a parameter's values. -/
inductive Form where
  /-- Any text. -/
  | text
  /-- A path, which is not empty. -/
  | path
  /-- A number of 32 bits. -/
  | number
  /-- One of some names. -/
  | choice (names : List String)
deriving DecidableEq, Repr

/-- A parameter with values. -/
structure Parameter where
  /-- Its name. -/
  key : String
  /-- Its name in messages. -/
  display : String
  /-- The form of its values. -/
  form : Form
  /-- Whether it may be given several times. -/
  repeatable : Bool := false
  /-- Whether its value may look like an option. -/
  hyphens : Bool := false
deriving DecidableEq, Repr

/-- What an option does. -/
inductive Action where
  /-- It is a switch. -/
  | switch
  /-- It takes a value. -/
  | value (parameter : Parameter)
  /-- It asks for the version. -/
  | version
  /-- It asks for help. -/
  | help
deriving DecidableEq, Repr

/-- An option. -/
structure Flag where
  /-- Its name. -/
  key : String
  /-- Its letter, if it has one. -/
  letter : Option Char := none
  /-- What it does. -/
  action : Action
deriving DecidableEq, Repr

/-- The part of a command line that belongs to one command. -/
structure Level where
  /-- Its options. -/
  options : List Flag
  /-- Its arguments in order. -/
  positionals : List Parameter
  /-- The commands that it leads to. -/
  commands : List String

end EditorBridge.CommandLine
