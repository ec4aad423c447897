import EditorBridge.CommandLine.Arguments
import EditorBridge.Path

/-!
# Commands

The commands of the command line with their options, and how what was read becomes one of them.
-/

namespace EditorBridge.CommandLine

/-- How a hover is written. -/
inductive Format where
  /-- As Markdown. -/
  | markdown
  /-- As one line. -/
  | plain
  /-- As JSON. -/
  | json
deriving DecidableEq, Repr

/-- The formats by name. -/
def formats : List (String × Format) :=
  [("markdown", .markdown), ("plain", .plain), ("json", .json)]

/-- What is to be done. -/
inductive Command where
  /-- Serve an editor over standard input and output. -/
  | serve (autoCompileOnSave : Bool)
  /-- Compile a file. -/
  | compile (file : Path) (compiler : Option String) (arguments : List String) (force : Bool)
  /-- Show what is known about a place in a file. -/
  | hover (file : String) (line column : UInt32) (format : Format)
  /-- List the keywords. -/
  | keywords
  /-- Look up the compiler. -/
  | detect (compiler : Option String)
deriving DecidableEq, Repr

/-- A command with the settings file it is to use. -/
structure Invocation where
  /-- The settings file, if one is named. -/
  config : Option Path
  /-- What is to be done. -/
  command : Command
deriving DecidableEq, Repr

/-- An option with a value. -/
def valued (parameter : Parameter) : Flag :=
  { key := parameter.key, action := .value parameter }

/-- The settings file. -/
def config : Parameter := ⟨"config", "--config <CONFIG>", .path, false, false⟩

/-- The compiler. -/
def compiler : Parameter := ⟨"compiler", "--compiler <COMPILER>", .text, false, false⟩

/-- An argument for the compiler. -/
def compilerArgument : Parameter := ⟨"arg", "--arg <ARGS>", .text, true, true⟩

/-- The format of a hover. -/
def hoverFormat : Parameter :=
  ⟨"format", "--format <FORMAT>", .choice (formats.map (·.1)), false, false⟩

/-- The options that every command has. -/
def commonFlags : List Flag := [
  valued config,
  { key := "verbose", letter := some 'v', action := .switch },
  { key := "help", letter := some 'h', action := .help }]

/-- A command's own part of the command line. -/
def level (options : List Flag) (positionals : List Parameter) : Level :=
  { options := options ++ commonFlags, positionals, commands := [] }

/-- The command that explains the others. -/
def helpCommand : String := "help"

/-- The commands with their parts of the command line. -/
def levels : List (String × Level) := [
  ("serve", level [{ key := "auto-compile-on-save", action := .switch }] []),
  ("compile", level [valued compiler, valued compilerArgument, { key := "force", action := .switch }]
    [⟨"file", "<FILE>", .path, false, false⟩]),
  ("hover", level [valued hoverFormat]
    [⟨"file", "<FILE>", .text, false, false⟩, ⟨"line", "<LINE>", .number, false, false⟩,
      ⟨"column", "<COLUMN>", .number, false, false⟩]),
  ("keywords", level [] []),
  ("detect", level [valued compiler] [])]

/-- The part of the command line in front of a command. -/
def topLevel : Level where
  options := commonFlags ++ [{ key := "version", letter := some 'V', action := .version }]
  positionals := []
  commands := levels.map (·.1) ++ [helpCommand]

/-- Where a command line ends that asks about a command. Commands have no commands of their own. -/
def explain : List String → Stop
  | [] => .help
  | name :: more =>
    match topLevel.commands.contains name, more with
    | true, [] => .help
    | true, other :: _ => .misuse (.unknownCommand other)
    | false, _ => .misuse (.unknownCommand name)

/-- The part of the command line that belongs to a command, which other arguments follow. -/
def levelOf (name : String) (arguments : List String) : Except Stop Level :=
  match levels.lookup name with
  | some level => .ok level
  | none => .error (explain arguments)

/-- The only value of a parameter. -/
def value? (found : List (String × String)) (key : String) : Option String :=
  found.lookup key

/-- All values of a parameter. -/
def values (found : List (String × String)) (key : String) : List String :=
  (found.filter (·.1 == key)).map (·.2)

/-- A number whose form has been checked. -/
def numberOf (found : List (String × String)) (key : String) : UInt32 :=
  (((value? found key).map readNumber).bind Except.toOption).getD 0

/-- The command of a name with what was found for it. -/
def Command.ofFound (name : String) (found : List (String × String)) : Command :=
  let has (key : String) : Bool := (value? found key).isSome
  let file := (value? found "file").getD ""
  match name with
  | "serve" => .serve (has "auto-compile-on-save")
  | "compile" => .compile (.ofText file) (value? found "compiler") (values found "arg") (has "force")
  | "hover" =>
    .hover file (numberOf found "line") (numberOf found "column")
      (((value? found "format").bind fun name => formats.lookup name).getD .markdown)
  | "detect" => .detect (value? found "compiler")
  | _ => .keywords

/-- What is to be done by a command line. An option behind the command wins over one in front of
it. -/
def Invocation.ofArguments (arguments : List String) : Except Stop Invocation := do
  let (outer, name, inner) ← readFrom levelOf { level := topLevel } arguments
  return {
    config := ((value? inner "config").or (value? outer "config")).map Path.ofText
    command := .ofFound name inner }

end EditorBridge.CommandLine
