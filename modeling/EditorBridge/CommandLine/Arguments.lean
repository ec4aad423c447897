import EditorBridge.CommandLine.Parameter
import EditorBridge.CommandLine.Usage
import EditorBridge.Word

/-!
# Reading a command line

The arguments are read from left to right. What is wrong with a value is noticed only when the next
option or argument is met, or the end.
-/

namespace EditorBridge.CommandLine

/-- The largest number of 64 bits with a sign, and the opposite of the least one. -/
def numberLimit (negative : Bool) : Nat :=
  if negative then Word.count 63 else Word.count 63 - 1

/-- The number that digits stand for, unless it is too large. -/
def magnitude (negative : Bool) (digits : List Char) : Except NumberFault Nat :=
  digits.foldlM
    (fun n c =>
      if c.isDigit then
        let next := n * 10 + (c.toNat - '0'.toNat)
        if numberLimit negative < next then
          .error (if negative then .tooSmall else .tooLarge)
        else .ok next
      else .error .digit)
    0

/-- The number that a text stands for. -/
def readInteger (text : String) : Except NumberFault Int :=
  match text.toList with
  | [] => .error .empty
  | ['+'] | ['-'] => .error .digit
  | '-' :: digits => (fun n => -(n : Int)) <$> magnitude true digits
  | '+' :: digits => (fun n => (n : Int)) <$> magnitude false digits
  | digits => (fun n => (n : Int)) <$> magnitude false digits

/-- The number of 32 bits that a text stands for. -/
def readNumber (text : String) : Except NumberFault UInt32 := do
  let value ← readInteger text
  if Word.fits 32 value then return value.toNat.toUInt32
  else throw (.outside value)

/-- Check the form of a value. -/
def Parameter.check (parameter : Parameter) (value : String) : Except UsageError Unit :=
  match parameter.form with
  | .text => .ok ()
  | .path => if value.isEmpty then .error (.noValue parameter.display) else .ok ()
  | .number =>
    match readNumber value with
    | .ok _ => .ok ()
    | .error fault => .error (.badNumber value parameter.display fault)
  | .choice names =>
    if names.contains value then .ok ()
    else if value.isEmpty then .error (.noValue parameter.display)
    else .error (.badChoice value parameter.display)

/-- A command line that has been read in part. -/
structure Reading where
  /-- What can be given. -/
  level : Level
  /-- The values of parameters and the switches so far, in order. -/
  found : List (String × String) := []
  /-- The last parameter met, with its value if that has been met too. -/
  pending : Option (Parameter × Option String) := none
  /-- How many arguments have been met that are told apart by their order. -/
  position : Nat := 0
  /-- Whether all that follows is taken as it is. -/
  verbatim : Bool := false

namespace Reading

/-- The refusal of a command line. -/
def refuse {α : Type} (error : UsageError) : Except Stop α :=
  .error (.misuse error)

/-- The parameter whose value is next. -/
def awaited? (reading : Reading) : Option Parameter :=
  match reading.pending with
  | some (parameter, none) => some parameter
  | _ => none

/-- Whether a value is next that may look like an option. -/
def awaitsHyphens (reading : Reading) : Bool :=
  reading.awaited?.any (·.hyphens)

/-- Whether a key has been found. -/
def has (reading : Reading) (key : String) : Bool :=
  reading.found.any (·.1 == key)

/-- Take in a value. -/
def take (reading : Reading) (parameter : Parameter) (value : String) : Except Stop Reading := do
  if !parameter.repeatable && reading.has parameter.key then
    refuse (.repeated parameter.display)
  else (parameter.check value).mapError .misuse
  return { reading with found := reading.found ++ [(parameter.key, value)] }

/-- Take in the last parameter that was met. -/
def settle (reading : Reading) : Except Stop Reading :=
  match reading.pending with
  | none => .ok reading
  | some (parameter, none) => refuse (.noValue parameter.display)
  | some (parameter, some value) => { reading with pending := none }.take parameter value

/-- Meet a switch. -/
def switch (reading : Reading) (key : String) : Except Stop Reading := do
  let reading ← reading.settle
  if reading.has key then refuse (.repeated ("--" ++ key))
  return { reading with found := reading.found ++ [(key, "")] }

/-- Meet an option without a value of its own. -/
def meet (reading : Reading) (flag : Flag) : Except Stop Reading := do
  match flag.action with
  | .switch => reading.switch flag.key
  | .value parameter => return { ← reading.settle with pending := some (parameter, none) }
  | .version => discard reading.settle; throw .version
  | .help => discard reading.settle; throw .help

/-- Meet an option by its name, perhaps with a value behind an equals sign. -/
def long (reading : Reading) (key : String) (attached : Option String) : Except Stop Reading :=
  match reading.level.options.find? (·.key == key), attached with
  | none, _ => refuse (.unexpected ("--" ++ key))
  | some flag, none => reading.meet flag
  | some flag, some value =>
    match flag.action with
    | .value parameter => do (← reading.settle).take parameter value
    | _ => refuse (.surplus value ("--" ++ key))

/-- Meet options by their letters. -/
def short (reading : Reading) : List Char → Except Stop Reading
  | [] => .ok reading
  | c :: rest =>
    match reading.level.options.find? (·.letter == some c) with
    | some flag => do short (← reading.meet flag) rest
    | none => refuse (.unexpected ("-" ++ c.toString))

/-- Meet an argument that is told from others by its place. -/
def positional (reading : Reading) (argument : String) : Except Stop Reading :=
  match reading.level.positionals[reading.position]? with
  | some parameter => do
    return { ← reading.settle with
      pending := some (parameter, some argument), position := reading.position + 1 }
  | none =>
    if reading.level.commands.isEmpty then refuse (.unexpected argument)
    else if reading.verbatim && reading.level.commands.contains argument then
      refuse (.unexpected argument)
    else refuse (.unknownCommand argument)

/-- The name and the value of an option that is written out. -/
def splitLong (chars : List Char) : String × Option String :=
  let key := chars.takeWhile (· != '=')
  (String.ofList key,
    if key.length < chars.length then some (String.ofList (chars.drop (key.length + 1))) else none)

/-- Meet the value of the last parameter, or an argument. -/
def plain (reading : Reading) (argument : String) : Except Stop Reading :=
  match reading.awaited? with
  | some parameter => .ok { reading with pending := some (parameter, some argument) }
  | none => reading.positional argument

/-- Read one argument. -/
def step (reading : Reading) (argument : String) : Except Stop Reading :=
  if reading.verbatim then reading.positional argument
  else if reading.awaitsHyphens then reading.plain argument
  else
    match argument.toList with
    | ['-', '-'] => .ok { reading with verbatim := true }
    | '-' :: '-' :: chars =>
      let (key, attached) := splitLong chars
      reading.long key attached
    | ['-'] => reading.plain argument
    | '-' :: letters => reading.short letters
    | _ => reading.plain argument

/-- What has been found when all arguments are read. -/
def finish (reading : Reading) : Except Stop (List (String × String)) := do
  let reading ← reading.settle
  if reading.position < reading.level.positionals.length then refuse .missing
  return reading.found

/-- Whether an argument is the name of a command. -/
def isCommand (reading : Reading) (argument : String) : Bool :=
  !reading.verbatim && reading.awaited?.isNone && reading.level.commands.contains argument

end Reading

/-- Read the arguments of one command. -/
def readLevel (level : Level) (arguments : List String) :
    Except Stop (List (String × String)) := do
  (← arguments.foldlM Reading.step { level }).finish

/-- What is found in front of a command, its name, and what is found behind it. -/
abbrev Found := List (String × String) × String × List (String × String)

/-- Read arguments up to a command, and those of the command. -/
def readFrom (levelOf : String → List String → Except Stop Level) (reading : Reading) :
    List String → Except Stop Found
  | [] => do
    let reading ← reading.settle
    Reading.refuse (if reading.found.isEmpty then .nothing else .noCommand)
  | argument :: rest =>
    if reading.isCommand argument then do
      let inner ← readLevel (← levelOf argument rest) rest
      let outer ← reading.settle
      return (outer.found, argument, inner)
    else do readFrom levelOf (← reading.step argument) rest

end EditorBridge.CommandLine
