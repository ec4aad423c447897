import EditorBridge.Shell.Running

/-!
# Commands of the shell itself

The commands that a shell runs without starting a program.
-/

namespace EditorBridge.Shell.Running

open Text (Bytes)

/-- The commands whose failure ends the shell and whose assignments stay. -/
def specialCommands : List String :=
  [":", ".", "break", "continue", "eval", "exec", "exit", "export", "readonly", "return", "set",
    "shift", "times", "trap", "unset"]

/-- The other commands that the shell runs itself. -/
def ordinaryCommands : List String :=
  ["[", "alias", "bg", "cd", "command", "echo", "false", "fg", "getopts", "hash", "jobs", "kill",
    "local", "printf", "pwd", "read", "test", "true", "type", "ulimit", "umask", "unalias",
    "wait"]

/-- Write the output of a command. -/
def output (name : String) (bytes : Bytes) : Running Unit := do
  if bytes.isEmpty then setStatus 0
  else
    match (← get).write? 1 bytes with
    | some state => set state; setStatus 0
    | none => complain (text (name ++ ": " ++ name ++ ": I/O error")); setStatus 1

/-- A count that a command was given. -/
def countOf (name : String) (bytes : Bytes) : Running Nat :=
  match (asText bytes).toNat? with
  | some n => if bytes.all Format.isDigit then return n
    else abort (text (name ++ ": Illegal number: ") ++ bytes)
  | none => abort (text (name ++ ": Illegal number: ") ++ bytes)

/-- The letters of switches, set or cleared. -/
def setSwitch (on : Bool) (letter : Char) : Running Bool := do
  let change (f : Options → Options) : Running Bool := do
    modify fun state => { state with options := f state.options }
    return true
  match letter with
  | 'e' => change ({ · with exitOnError := on })
  | 'x' => change ({ · with trace := on })
  | 'u' => change ({ · with demandSet := on })
  | 'f' => change ({ · with noFileNames := on })
  | letter => return "ImnsvVECabi".toList.contains letter

/-- Set switches and positional parameters. -/
def setCommand (words : List Bytes) : Running Unit := do
  match words with
  | [] => setStatus 0
  | first :: rest =>
    match Format.chars first with
    | ['-', '-'] => modify ({ · with positional := rest, status := 0 })
    | sign :: letter :: letters =>
      if sign = '-' ∨ sign = '+' then
        for letter in letter :: letters do
          if !(← setSwitch (sign = '-') letter) then
            abort (text ("set: Illegal option -" ++ String.ofList [letter]))
        if rest.isEmpty then setStatus 0 else modify ({ · with positional := rest, status := 0 })
      else modify ({ · with positional := words, status := 0 })
    | _ => modify ({ · with positional := words, status := 0 })

/-- The number of a signal by its name or number. -/
def signal? (name : String) : Option Nat :=
  let named : List (String × Nat) :=
    [("EXIT", 0), ("HUP", 1), ("INT", 2), ("QUIT", 3), ("ILL", 4), ("TRAP", 5), ("ABRT", 6),
      ("BUS", 7), ("FPE", 8), ("KILL", 9), ("USR1", 10), ("SEGV", 11), ("USR2", 12), ("PIPE", 13),
      ("ALRM", 14), ("TERM", 15), ("STKFLT", 16), ("CHLD", 17), ("CONT", 18), ("STOP", 19),
      ("TSTP", 20), ("TTIN", 21), ("TTOU", 22), ("URG", 23), ("XCPU", 24), ("XFSZ", 25),
      ("VTALRM", 26), ("PROF", 27), ("WINCH", 28), ("IO", 29), ("PWR", 30), ("SYS", 31)]
  match named.lookup name with
  | some number => some number
  | none => (name.toNat?).filter (· < 65)

/-- The signals that a process which does not handle them survives. -/
def harmlessSignals : List Nat := [0, 17, 18, 19, 20, 21, 22, 23, 28]

/-- Send a signal; one that ends the shell itself interrupts it. -/
def killCommand (words : List Bytes) : Running Unit := do
  let usage {α : Type} : Running α :=
    abort (text "kill: Usage: kill [-s sigspec | -signum | -sigspec] [pid | job]... or\nkill -l [exitstatus]")
  let (signal, targets) ← match words.map asText with
    | "-s" :: name :: targets =>
      match signal? name with
      | some number => pure (number, targets)
      | none => abort (text ("kill: invalid signal number or name: " ++ name))
    | "--" :: targets => pure (15, targets)
    | first :: targets =>
      match first.toList with
      | '-' :: name =>
        match signal? (String.ofList name) with
        | some number => pure (number, targets)
        | none => abort (text ("kill: Illegal option -" ++ String.ofList (name.take 1)))
      | _ => pure (15, first :: targets)
    | [] => usage
  if targets.isEmpty then usage
  setStatus 0
  for target in targets do
    if target == toString State.processNumber then
      if !harmlessSignals.contains signal then throw (.killed signal)
    else if target.toList.all Char.isDigit then
      complain (text "kill: No such process\n")
      setStatus 1
    else
      complain (text ("kill: Illegal number: " ++ target))
      setStatus 2

/-- Change the current directory. -/
def cdCommand (words : List Bytes) : Running Unit := do
  let state ← get
  let target := words.head?.getD []
  match state.world.files.resolve state.world.current ⟨target⟩ with
  | .ok (location, .directory) =>
    set { state with world := { state.world with current := location }, status := 0 }
  | _ => abortOrdinary (text "cd: can't cd to " ++ target)
where
  abortOrdinary (message : Bytes) : Running Unit := do
    complain message
    setStatus 2

/-- Read the bytes of one line, the last one first, and whether it was ended. -/
def readBytes (fuel : Nat) (raw : Bool) (taken : List Cell) : Running (List Cell × Bool) := do
  match fuel with
  | 0 => return (taken, false)
  | fuel + 1 =>
    match (← get).readByte? 0 with
    | none => return (taken, false)
    | some (none, _) => return (taken, false)
    | some (some 0x0a, state) => set state; return (taken, true)
    | some (some b, state) =>
      set state
      if b = 0x5c && !raw then
        match state.readByte? 0 with
        | some (some 0x0a, state) => set state; readBytes fuel raw taken
        | some (some next, state) => set state; readBytes fuel raw (⟨next, true⟩ :: taken)
        | _ => return (taken, false)
      else if b = 0 then readBytes fuel raw taken
      else readBytes fuel raw (⟨b, false⟩ :: taken)

/-- Give the fields of a line to variables; the last one takes what is left. -/
def assignFields (separators : Bytes) (line : List Cell) : List Bytes → Running Unit
  | [] => pure ()
  | name :: names => do
    let isBlank (cell : Cell) : Bool :=
      !cell.quoted && separators.contains cell.byte && [0x20, 0x09, 0x0a].contains cell.byte
    let isOther (cell : Cell) : Bool :=
      !cell.quoted && separators.contains cell.byte && !isBlank cell
    let line := line.dropWhile isBlank
    if names.isEmpty then
      let kept := (line.reverse.dropWhile isBlank).reverse
      let kept := match kept.reverse with
        | last :: before =>
          if isOther last && !(before.any isOther) then (before.dropWhile isBlank).reverse else kept
        | [] => []
      modify (·.setVariable name (kept.map (·.byte)))
    else
      let field := line.takeWhile fun cell => !isBlank cell && !isOther cell
      let rest := (line.drop field.length).dropWhile isBlank
      let rest := match rest with
        | cell :: after => if isOther cell then after else rest
        | [] => []
      modify (·.setVariable name (field.map (·.byte)))
      assignFields separators rest names

/-- Read a line into variables. -/
def readCommand (words : List Bytes) : Running Unit := do
  let (raw, names) := match words with
    | first :: rest => if first == text "-r" then (true, rest) else (false, words)
    | [] => (false, [])
  if names.isEmpty then abort (text "read: arg count")
  let state ← get
  let available := state.channels.foldl (fun n entry => match entry.2 with
    | .source rest => n + rest.length
    | .file location _ _ _ _ => n + (state.contentsAt location).length
    | _ => n) 1
  let (taken, ended) ← readBytes (available + 1) raw []
  assignFields state.separators taken.reverse names
  setTruth ended

/-- The variable and the value that a word assigns. -/
def assignment? (word : Bytes) : Option (Bytes × Bytes) :=
  let name := word.takeWhile (· ≠ 0x3d)
  if name.length < word.length then some (name, word.drop (name.length + 1)) else none

/-- Test a condition. -/
def testCommand (name : String) (words : List Bytes) : Running Unit := do
  let closed := name != "[" || words.getLast? == some (text "]")
  let words := if name == "[" then words.dropLast else words
  let state ← get
  let tested := if closed then Condition.evaluate state words else .error ⟨text "missing ]"⟩
  match tested with
  | .ok value => setTruth value
  | .error fault => complain (text (name ++ ": ") ++ fault.text); setStatus 2

/-- Write by a format. -/
def printfCommand (words : List Bytes) : Running Unit := do
  match words with
  | [] =>
    complain (text "printf: usage: printf format [arg ...]")
    setStatus 2
  | format :: arguments =>
    let (written, complaints) := Format.printf format arguments
    for complaint in complaints do complain (text "printf: " ++ complaint.text)
    output "printf" written
    if !complaints.isEmpty then
      setStatus (if complaints.any (·.fatal) then 2 else 1)

/-- Assign or name variables, for the commands that mark them; exported ones reach programs. -/
def markCommand (exporting : Bool) (words : List Bytes) : Running Unit := do
  for word in words do
    let name := word.takeWhile (· ≠ 0x3d)
    if let some (name, value) := assignment? word then modify (·.setVariable name value)
    if exporting then modify fun state => { state with exported := name :: state.exported }
  setStatus 0

/-- Keep commands for signals and for the end of the shell. -/
def trapCommand (words : List Bytes) : Running Unit := do
  match words with
  | action :: (names@(_ :: _)) =>
    for name in names do
      match signal? (asText name) with
      | some signal =>
        modify fun state => { state with
          traps := if action == text "-" then state.traps.filter (·.1 != signal)
            else State.update signal action state.traps }
        setStatus 0
      | none =>
        complain (text "trap: " ++ name ++ text ": bad trap")
        setStatus 1
  | _ => setStatus 0

/-- The commands that need nothing but the state. -/
def simpleCommand? (name : String) (words : List Bytes) : Option (Running Unit) :=
  match name with
  | ":" | "true" | "times" | "wait" | "ulimit" | "hash" | "alias" | "jobs" => some (setStatus 0)
  | "trap" => some (trapCommand words)
  | "umask" => some (output "umask" (text "0022\n"))
  | "false" | "bg" | "fg" | "getopts" | "unalias" => some (setStatus 1)
  | "echo" => some (output "echo" (Format.echo words))
  | "printf" => some (printfCommand words)
  | "test" | "[" => some (testCommand name words)
  | "pwd" => some do
    output "pwd" ((World.pathOf (← get).world.current).bytes ++ [0x0a])
  | "cd" => some (cdCommand words)
  | "read" => some (readCommand words)
  | "set" => some (setCommand words)
  | "shift" => some do
    let count ← match words with
      | [] => pure 1
      | first :: _ => countOf "shift" first
    let state ← get
    if state.positional.length < count then abort (text "shift: can't shift that many")
    set { state with positional := state.positional.drop count, status := 0 }
  | "unset" => some do
    for word in words do
      modify fun state => { state with
        bindings := state.bindings.filter (·.1 != word)
        functions := if words.contains (text "-f") then state.functions.filter (·.1 != word)
          else state.functions }
    setStatus 0
  | "export" => some (markCommand true words)
  | "readonly" | "local" => some (markCommand false words)
  | "kill" => some (killCommand words)
  | "exit" => some do
    if let first :: _ := words then setStatus ((← countOf "exit" first) % 256)
    throw .exit
  | "return" => some do
    if let first :: _ := words then setStatus ((← countOf "return" first) % 256)
    throw .back
  | "break" => some do
    let count ← match words with
      | [] => pure 1
      | first :: _ => countOf "break" first
    setStatus 0
    throw (.leave count)
  | "continue" => some do
    let count ← match words with
      | [] => pure 1
      | first :: _ => countOf "continue" first
    setStatus 0
    throw (.again count)
  | _ => none

/-- Whether a name is a command of the shell itself. -/
def isBuiltIn (name : String) : Bool :=
  specialCommands.contains name || ordinaryCommands.contains name

end EditorBridge.Shell.Running
