import EditorBridge.Program
import EditorBridge.Shell.Condition
import EditorBridge.Shell.Pattern
import EditorBridge.Shell.Reader

/-!
# Computations in a shell

Commands change the state of a shell. A command that leaves the list it stands in does so by an
interruption, which loops, functions and subshells catch. The module holds these computations, the
cutting of expanded words into fields, and redirections.
-/

namespace EditorBridge.Shell

open Text (Bytes)

/-- A computation in a shell that may be interrupted. -/
abbrev Running := ExceptT Flow (StateM State)

namespace Running


/-- A text as bytes. -/
def text (s : String) : Bytes := Text.toBytes s

/-- Set the status of the last command. -/
def setStatus (status : Nat) : Running Unit :=
  modify ({ · with status })

/-- Set the status to success or failure. -/
def setTruth (value : Bool) : Running Unit :=
  setStatus (if value then 0 else 1)

/-- Write a diagnostic. -/
def complain (message : Bytes) : Running Unit :=
  modify (·.complain message)

/-- Write a diagnostic and leave the shell. -/
def abort {α : Type} (message : Bytes) : Running α := do
  complain message
  setStatus 2
  throw .exit

/-- Run a computation and give the interruption that ended it. -/
def attempt (body : Running Unit) : Running Flow :=
  fun state =>
    match body state with
    | (.ok (), state) => (.ok .next, state)
    | (.error flow, state) => (.ok flow, state)

/-- Go on after an interruption unless there was none. -/
def resume (flow : Flow) : Running Unit :=
  match flow with
  | .next => pure ()
  | flow => throw flow

/-! ### Expanded words -/

/-- A part of an expanded word. -/
inductive Part where
  /-- A byte, and whether fields may be cut at it. -/
  | cell (cell : Cell) (cuts : Bool)
  /-- The end of a field. -/
  | edge
  /-- Quotes, which make a field even if it is empty. -/
  | mark
  /-- An empty list of parameters in quotes, which makes no field. -/
  | absent

/-- The parts of bytes of one kind. -/
def cells (quoted cuts : Bool) (bytes : Bytes) : List Part :=
  bytes.map fun b => .cell ⟨b, quoted⟩ cuts

/-- Parts joined without regard to fields. -/
def bytesOf (parts : List Part) : Bytes :=
  parts.filterMap fun
    | .cell cell _ => some cell.byte
    | .edge => some 0x20
    | _ => none

/-- The cells of parts that are not cut into fields. -/
def cellsOf (parts : List Part) : List Cell :=
  parts.filterMap fun
    | .cell cell _ => some cell
    | .edge => some ⟨0x20, true⟩
    | _ => none

/-- Fields that are being cut. -/
structure Cutter where
  /-- The finished fields, the last one first. -/
  fields : List (List Cell)
  /-- The cells of the current field in reverse. -/
  current : List Cell
  /-- Whether the current field is there though it may be empty. -/
  forced : Bool
  /-- Whether an empty list of parameters was met in it. -/
  absent : Bool
  /-- Whether the last field was ended by a blank. -/
  afterBlank : Bool

/-- End the current field if there is one. -/
def Cutter.finish (cutter : Cutter) : Cutter :=
  if cutter.current.isEmpty && (!cutter.forced || cutter.absent) then
    { cutter with forced := false, absent := false }
  else ⟨cutter.current.reverse :: cutter.fields, [], false, false, false⟩

/-- Take the next part. -/
def Cutter.step (separators : Bytes) (cutter : Cutter) (part : Part) : Cutter :=
  match part with
  | .mark => { cutter with forced := true, afterBlank := false }
  | .absent => { cutter with absent := true }
  | .edge => { cutter.finish with afterBlank := false }
  | .cell cell cuts =>
    if cuts && separators.contains cell.byte then
      if [0x20, 0x09, 0x0a].contains cell.byte then
        let done := cutter.finish
        { done with afterBlank := cutter.afterBlank || done.fields.length != cutter.fields.length }
      else if cutter.afterBlank && cutter.current.isEmpty && !cutter.forced then
        { cutter with afterBlank := false }
      else { { cutter with forced := true, absent := false }.finish with afterBlank := false }
    else { cutter with current := cell :: cutter.current, afterBlank := false }

/-- Cut parts into fields. -/
def fieldsOf (separators : Bytes) (parts : List Part) : List (List Cell) :=
  (parts.foldl (Cutter.step separators) ⟨[], [], false, false, false⟩).finish.fields.reverse

/-- The names in the directory at a path. -/
def namesIn (state : State) (directory : Bytes) : List Bytes :=
  let path : Path := ⟨if directory.isEmpty then [0x2e] else directory⟩
  match state.world.files.resolve state.world.current path with
  | .ok (location, .directory) =>
    state.world.files.nodes.filterMap fun (place, _) =>
      if place.dropLast == location && !place.isEmpty then place.getLast? else none
  | _ => []

/-- The paths that a field with patterns stands for, or the field itself. -/
def fileNames (state : State) (field : List Cell) : List Bytes :=
  let plain := field.map (·.byte)
  if state.options.noFileNames || !hasPattern field then [plain]
  else
    let last := (field.reverse.takeWhile (·.byte ≠ Path.slash)).reverse
    let directory := (field.take (field.length - last.length)).map (·.byte)
    let found := (matchingNames (patternOf last) (namesIn state directory)).map (directory ++ ·)
    if found.isEmpty then [plain] else found

/-- The bytes of a text that was computed. -/
def asText (bytes : Bytes) : String := String.ofList (Format.chars bytes)

/-- Output of commands without the line ends at its end. -/
def dropLineEnds (bytes : Bytes) : Bytes :=
  (bytes.reverse.dropWhile (· = 0x0a)).reverse

/-! ### Redirections -/

/-- Open the file that a redirection names. -/
def openFile (direction : Direction) (name : Bytes) : Running Nat := do
  let state ← get
  let world := state.world
  let reading := direction == .read
  let refuse {α : Type} (cause : String) : Running α := do
    complain (text (if reading then "cannot open " else "cannot create ") ++ name ++
      text (": " ++ cause))
    setStatus 2
    throw .exit
  let add (location : Location) (atEnd readable writable : Bool) : Running Nat := do
    let (number, state) := (← get).addChannel (.file location 0 atEnd readable writable)
    set state
    return number
  if name == text "/dev/null" then
    let (number, state) := state.addChannel .void
    set state
    return number
  match world.files.locate world.current ⟨name⟩ with
  | .error .nameTooLong => refuse "File name too long"
  | .error _ => refuse (if reading then "No such file" else "Directory nonexistent")
  | .ok location =>
    match world.files.node? location with
    | some .directory => if reading then add location false true false else refuse "Is a directory"
    | some _ =>
      if direction == .write then modify (·.setContents location [])
      add location (direction == .append) (direction == .read || direction == .readWrite)
        (!reading)
    | none =>
      if reading then refuse "No such file"
      else if (world.files.node? location.dropLast) != some .directory then
        refuse "Directory nonexistent"
      else
        modify (·.setContents location [])
        add location (direction == .append) (direction == .readWrite) true

/-- Change a descriptor as a redirection asks, its target being expanded. -/
def redirect (descriptor : Nat) (direction : Direction) (target : Bytes) : Running Unit := do
  if direction == .copy then
    if target == text "-" then modify (·.setDescriptor descriptor none)
    else
      match target with
      | [digit] =>
        let source := digit.toNat - 48
        match (← get).descriptors.lookup source with
        | some channel => modify (·.setDescriptor descriptor (some channel))
        | none => abort (text (toString source) ++ text ": Bad file descriptor")
      | _ => abort (text "Syntax error: Bad fd number")
  else
    let channel ← openFile direction target
    modify (·.setDescriptor descriptor (some channel))

end Running

end EditorBridge.Shell
