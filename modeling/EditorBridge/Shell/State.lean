import EditorBridge.FileSystem
import EditorBridge.Shell.Syntax

/-!
# The state of a shell

Variables, functions, open descriptors and the files of the system. A descriptor names a channel;
copies of a descriptor share the channel and with it the place that has been reached.
-/

namespace EditorBridge.Shell

open Text (Bytes)

/-- Something that can be read from or written to. -/
inductive Channel where
  /-- Nothing to read, and what is written is gone. -/
  | void
  /-- Collects what is written, as parts of which the last one comes first. -/
  | collector (parts : List Bytes)
  /-- Bytes that can be read once. -/
  | source (rest : Bytes)
  /-- A file with the place reached in it. -/
  | file (location : Location) (offset : Nat) (atEnd readable writable : Bool)
deriving Repr

/-- Whether a list of commands goes on after one of them. -/
inductive Flow where
  /-- It goes on. -/
  | next
  /-- The shell exits with the current status. -/
  | exit
  /-- A number of loops is left. -/
  | leave (loops : Nat)
  /-- The loop some levels out begins its next round. -/
  | again (loops : Nat)
  /-- The function or sourced script is left. -/
  | back
  /-- A signal has ended the shell. -/
  | killed (signal : Nat)
deriving DecidableEq, Repr

/-- The switches of a shell. -/
structure Options where
  /-- Exit when a command fails. -/
  exitOnError : Bool := false
  /-- Write each command before it runs. -/
  trace : Bool := false
  /-- Unset parameters are an error. -/
  demandSet : Bool := false
  /-- Patterns are not replaced by file names. -/
  noFileNames : Bool := false
  /-- Commands are read but not run. -/
  readOnly : Bool := false
deriving Repr

/-- The state of a running shell. -/
structure State where
  /-- The system. -/
  world : World
  /-- The name the shell was started under. -/
  name : Bytes
  /-- The positional parameters. -/
  positional : List Bytes
  /-- The variables with their values. -/
  bindings : List (Bytes × Bytes)
  /-- The names of the variables that programs are given. -/
  exported : List Bytes
  /-- The commands for signals and, under zero, for the end of the shell. -/
  traps : List (Nat × Bytes)
  /-- The functions. -/
  functions : List (Bytes × Command)
  /-- The channel of each open descriptor. -/
  descriptors : List (Nat × Nat)
  /-- The channels by number. -/
  channels : List (Nat × Channel)
  /-- The status of the last command. -/
  status : Nat
  /-- The line of the command that runs. -/
  line : Nat
  /-- The switches. -/
  options : Options
  /-- Whether a failing command is looked at by another one. -/
  guarded : Bool

namespace State

/-- The process number, which no script depends on. -/
def processNumber : Nat := 1000

/-- A fresh shell: nothing to read, and two collectors to write to. -/
def start (world : World) (name : Bytes) (positional : List Bytes) (options : Options) :
    State where
  world
  name
  positional
  bindings := []
  exported := []
  traps := []
  functions := []
  descriptors := [(0, 0), (1, 1), (2, 2)]
  channels := [(0, .void), (1, .collector []), (2, .collector [])]
  status := 0
  line := 1
  options
  guarded := false

/-- What a channel has collected. -/
def collected (state : State) (channel : Nat) : Bytes :=
  match state.channels.lookup channel with
  | some (.collector parts) => parts.reverse.flatten
  | _ => []

/-- Put an entry into a list of pairs. -/
def update {α β : Type} [BEq α] (key : α) (value : β) (pairs : List (α × β)) : List (α × β) :=
  (key, value) :: pairs.filter (·.1 != key)

/-- Change a channel. -/
def setChannel (state : State) (number : Nat) (channel : Channel) : State :=
  { state with channels := update number channel state.channels }

/-- Add a channel and give its number. -/
def addChannel (state : State) (channel : Channel) : Nat × State :=
  let number := state.channels.foldl (fun n entry => max n (entry.1 + 1)) 0
  (number, state.setChannel number channel)

/-- Let a descriptor name a channel, or close it. -/
def setDescriptor (state : State) (descriptor : Nat) (channel : Option Nat) : State :=
  let others := state.descriptors.filter (·.1 != descriptor)
  { state with descriptors := (channel.map (descriptor, ·)).toList ++ others }

/-- The channel of a descriptor. -/
def channelOf? (state : State) (descriptor : Nat) : Option (Nat × Channel) := do
  let number ← state.descriptors.lookup descriptor
  return (number, ← state.channels.lookup number)

/-- The contents of a file. -/
def contentsAt (state : State) (location : Location) : Bytes :=
  match state.world.files.node? location with
  | some (.file contents _) => contents
  | _ => []

/-- Replace the contents of a file, which keeps its permissions. -/
def setContents (state : State) (location : Location) (contents : Bytes) : State :=
  let executable := match state.world.files.node? location with
    | some (.file _ executable) => executable
    | _ => false
  let files := state.world.files.put location (.file contents executable)
  { state with world := { state.world with files } }

/-- Write to a descriptor; `none` if that is not possible. -/
def write? (state : State) (descriptor : Nat) (bytes : Bytes) : Option State :=
  match state.channelOf? descriptor with
  | some (_, .void) => some state
  | some (number, .collector parts) => some (state.setChannel number (.collector (bytes :: parts)))
  | some (number, .file location offset atEnd readable true) =>
    let before := state.contentsAt location
    let place := if atEnd then before.length else offset
    let padding := List.replicate (place - before.length) 0
    let contents := before.take place ++ padding ++ bytes ++ before.drop (place + bytes.length)
    some ((state.setContents location contents).setChannel number
      (.file location (place + bytes.length) atEnd readable true))
  | _ => none

/-- Take one byte from a descriptor: nothing at the end, `none` if it cannot be read. -/
def readByte? (state : State) (descriptor : Nat) : Option (Option UInt8 × State) :=
  match state.channelOf? descriptor with
  | some (_, .void) => some (none, state)
  | some (number, .source (b :: rest)) => some (some b, state.setChannel number (.source rest))
  | some (_, .source []) => some (none, state)
  | some (number, .file location offset atEnd true writable) =>
    match (state.contentsAt location)[offset]? with
    | some b => some (some b, state.setChannel number (.file location (offset + 1) atEnd true writable))
    | none => some (none, state)
  | _ => none

/-- Write to the error output what a diagnostic says, with the name and line before it. -/
def complain (state : State) (text : Bytes) : State :=
  let message := state.name ++ Text.toBytes (": " ++ toString state.line ++ ": ") ++ text ++ [10]
  (state.write? 2 message).getD state

/-- The value of a variable. -/
def valueOf? (state : State) (name : Bytes) : Option Bytes :=
  state.bindings.lookup name

/-- Set a variable. -/
def setVariable (state : State) (name value : Bytes) : State :=
  { state with bindings := update name value state.bindings }

/-- The bytes between which fields are cut. -/
def separators (state : State) : Bytes :=
  (state.valueOf? (Text.toBytes "IFS")).getD [32, 9, 10]

/-- What the letters of the switches in force are. -/
def optionLetters (state : State) : Bytes :=
  Text.toBytes ((if state.options.exitOnError then "e" else "") ++
    (if state.options.noFileNames then "f" else "") ++
    (if state.options.demandSet then "u" else "") ++
    (if state.options.trace then "x" else ""))

/-- The value of a parameter, if it is set. Those with several values are joined by blanks. -/
def parameter? (state : State) (name : Bytes) : Option Bytes :=
  let text := String.ofList (name.map fun b => Char.ofNat b.toNat)
  match text with
  | "#" => some (Text.toBytes (toString state.positional.length))
  | "?" => some (Text.toBytes (toString state.status))
  | "$" => some (Text.toBytes (toString processNumber))
  | "-" => some state.optionLetters
  | "!" => none
  | "0" => some state.name
  | "@" | "*" =>
    if state.positional.isEmpty then none
    else
      let joiner := match state.valueOf? (Text.toBytes "IFS") with
        | some ifs => ifs.take 1
        | none => [32]
      some (joiner.intercalate state.positional)
  | _ =>
    match text.toNat? with
    | some index => state.positional[index - 1]?
    | none => state.valueOf? name

end State

end EditorBridge.Shell
