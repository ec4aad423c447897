import EditorBridge.Shell.BuiltIn

/-!
# Running shell scripts

The meaning of commands. Every call takes a part of an allowance, so a script that would run for
ever ends.
-/

namespace EditorBridge.Shell

open Text (Bytes)

namespace Running

/-- The state in which a program starts that runs under the given words: the shell's files,
descriptors and directory are shared. -/
def childState (state : State) (name : Bytes) (positional : List Bytes) (options : Options) :
    State :=
  { State.start state.world name positional options with
    bindings := state.bindings.filter fun entry => state.exported.contains entry.1
    exported := state.exported
    descriptors := state.descriptors
    channels := state.channels }

/-- The state after a child: it keeps what the child did to files and channels. -/
def afterChild (before after : State) : State :=
  { before with
    world := { before.world with files := after.world.files }
    channels := after.channels
    status := after.status }

/-- What is said of a program that a signal has ended. -/
def signalText (signal : Nat) : String :=
  ([(1, "Hangup"), (2, ""), (3, "Quit"), (4, "Illegal instruction"), (5, "Trace/breakpoint trap"),
    (6, "Aborted"), (7, "Bus error"), (8, "Floating point exception"), (9, "Killed"),
    (10, "User defined signal 1"), (11, "Segmentation fault"), (12, "User defined signal 2"),
    (13, ""), (14, "Alarm clock"), (15, "Terminated"), (16, "Stack fault"),
    (24, "CPU time limit exceeded"), (25, "File size limit exceeded"),
    (26, "Virtual timer expired"), (27, "Profiling timer expired"), (29, "I/O possible"),
    (30, "Power failure"), (31, "Bad system call")].lookup signal).getD ""

/-- Say that a signal has ended a program, and take the status for that. -/
def reportSignal (signal : Nat) : Running Unit := do
  let said := signalText signal
  if !said.isEmpty then
    modify fun state => (state.write? 2 (text (said ++ "\n"))).getD state
  setStatus (128 + signal)

/-- Write out some lines of a script that is read. -/
def echoLines (script : Bytes) : Nat → Running Unit
  | 0 => pure ()
  | count + 1 => do
    let line := script.takeWhile (· ≠ 0x0a)
    let ended := line.length < script.length
    modify fun state => (state.write? 2 (if ended then line ++ [0x0a] else line)).getD state
    if ended then echoLines (script.drop (line.length + 1)) count

/-- The directories that commands are looked up in. -/
def searchDirectories (state : State) : List Path :=
  match state.valueOf? (text "PATH") with
  | none => []
  | some value =>
    let parts := value.foldr (fun b (parts : List Bytes) =>
      if b = 0x3a then [] :: parts
      else match parts with
        | part :: rest => (b :: part) :: rest
        | [] => [[b]]) [[]]
    parts.map fun part => ⟨part⟩

/-! ### How a shell is started -/

/-- What a shell was asked to run. -/
structure Job where
  /-- The name it runs under. -/
  name : Bytes
  /-- The positional parameters. -/
  positional : List Bytes
  /-- The switches. -/
  options : Options
  /-- The script. -/
  script : Bytes
  /-- Whether the lines of the script are written out as they are read. -/
  verbose : Bool

/-- Why a shell does not run anything. -/
structure Refusal where
  /-- The words for it. -/
  text : Bytes

/-- The switches that have a name as well as a letter. -/
def namedSwitches : List (String × Char) :=
  [("errexit", 'e'), ("noglob", 'f'), ("ignoreeof", 'I'), ("interactive", 'i'), ("monitor", 'm'),
    ("noexec", 'n'), ("stdin", 's'), ("xtrace", 'x'), ("verbose", 'v'), ("vi", 'V'),
    ("emacs", 'E'), ("noclobber", 'C'), ("allexport", 'a'), ("notify", 'b'), ("nounset", 'u'),
    ("privileged", 'p'), ("nolog", 'l'), ("debug", 'l')]

/-- The switches that the first words of a shell are, and the other words. -/
def switches (asked : List Char) : List Bytes → Except Refusal (List Char × List Bytes)
  | [] => .ok (asked, [])
  | [word] =>
    match Format.chars word with
    | ['-', '-'] | ['-'] => .ok (asked, [])
    | '-' :: letters => .ok (asked ++ letters, [])
    | '+' :: _ :: _ => .ok (asked, [])
    | _ => .ok (asked, [word])
  | word :: second :: rest =>
    match Format.chars word with
    | ['-', '-'] | ['-'] => .ok (asked, second :: rest)
    | ['-', 'o'] =>
      match namedSwitches.lookup (asText second) with
      | some letter => switches (letter :: asked) rest
      | none => .error ⟨text "0: Illegal option -o " ++ second⟩
    | '-' :: letters => switches (asked ++ letters) (second :: rest)
    | '+' :: _ :: _ => switches asked (second :: rest)
    | _ => .ok (asked, word :: second :: rest)

/-- The letters that a shell accepts as switches. -/
def knownSwitches : List Char := "cefIilmnsxvVECabu".toList

/-- What a shell that is started with the given words runs. -/
def Job.ofWords (world : World) (words : List Bytes) : Except Refusal Job := do
  let name := words.head?.getD []
  let (asked, operands) ← switches [] (words.drop 1)
  let options : Options :=
    { exitOnError := asked.contains 'e'
      trace := asked.contains 'x'
      demandSet := asked.contains 'u'
      noFileNames := asked.contains 'f'
      readOnly := asked.contains 'n' }
  match asked.find? (!knownSwitches.contains ·) with
  | some letter => .error ⟨text "0: Illegal option -" ++ Text.Utf8.encode [letter]⟩
  | none =>
    if asked.contains 'c' then
      match operands with
      | [] => .error ⟨text "0: -c requires an argument"⟩
      | script :: rest =>
        .ok ⟨rest.head?.getD name, rest.drop 1, options, script, false⟩
    else
      match operands with
      | [] => .ok ⟨name, [], options, [], false⟩
      | path :: rest =>
        if asked.contains 's' then .ok ⟨name, operands, options, [], false⟩
        else
          match world.files.read world.current ⟨path⟩ with
          | .ok contents => .ok ⟨path, rest, options, contents, asked.contains 'v'⟩
          | .error .isADirectory => .ok ⟨path, rest, options, [], false⟩
          | .error _ => .error ⟨text "0: cannot open " ++ path ++ text ": No such file"⟩

mutual

/-- Expand the pieces of a word. -/
def expand (fuel : Nat) (pieces : List Piece) : Running (List Part) := do
  match fuel, pieces with
  | 0, _ => throw .exit
  | _, [] => return []
  | fuel + 1, piece :: rest =>
    let first ← expandPiece fuel piece
    return first ++ (← expand fuel rest)

/-- Expand one piece. -/
def expandPiece (fuel : Nat) (piece : Piece) : Running (List Part) := do
  match fuel with
  | 0 => throw .exit
  | fuel + 1 =>
    match piece with
    | .bytes quoted bytes => return cells quoted false bytes
    | .quotes => return [.mark]
    | .output quoted body =>
      let bytes ← outputOf fuel body
      return cells quoted (!quoted) (dropLineEnds bytes)
    | .arithmetic quoted expression =>
      let source := asText (bytesOf (← expand fuel expression))
      let state ← get
      let lookup (name : String) : Option String := (state.valueOf? (text name)).map asText
      match Arithmetic.evaluate lookup source with
      | .ok value => return cells quoted (!quoted) (text (toString value))
      | .error message => abort (text message)
    | .parameter quoted name use argument =>
      let state ← get
      if name == text "@" && use == .value || name == text "*" && use == .value && !quoted then
        if state.positional.isEmpty then return if quoted then [.absent] else []
        let each := state.positional.map fun value =>
          (if quoted then [Part.mark] else []) ++ cells quoted (!quoted) value
        return [Part.edge].intercalate each
      let value := state.parameter? name
      let plain (value : Bytes) : List Part := cells quoted (!quoted) value
      let unsetOr (whenEmpty : Bool) : Bool :=
        match value with
        | none => true
        | some bytes => whenEmpty && bytes.isEmpty
      match use with
      | .value =>
        match value with
        | some bytes => return plain bytes
        | none =>
          if state.options.demandSet && name != text "*" && name != text "@" then
            abort (name ++ text ": parameter not set")
          else return []
      | .length =>
        let count := (Text.Utf8.decodeLossy (value.getD [])).length
        return plain (text (toString count))
      | .fallback whenEmpty =>
        if unsetOr whenEmpty then expand fuel argument else return plain (value.getD [])
      | .alternative whenEmpty =>
        if unsetOr whenEmpty then return [] else expand fuel argument
      | .assign whenEmpty =>
        if unsetOr whenEmpty then
          let bytes := bytesOf (← expand fuel argument)
          modify (·.setVariable name bytes)
          return plain bytes
        else return plain (value.getD [])
      | .demand whenEmpty =>
        if unsetOr whenEmpty then
          let message := bytesOf (← expand fuel argument)
          abort (name ++ text ": " ++ if message.isEmpty then
            text (if whenEmpty then "parameter not set or null" else "parameter not set")
            else message)
        else return plain (value.getD [])
      | .strip atEnd longest =>
        let pattern := patternOf (cellsOf (← expand fuel argument))
        return plain (stripMatch pattern atEnd longest (value.getD []))
      | .unknown => abort (text "Bad substitution")

/-- What a command writes to its output. -/
def outputOf (fuel : Nat) (body : Command) : Running Bytes := do
  match fuel with
  | 0 => throw .exit
  | fuel + 1 =>
    let (number, state) := (← get).addChannel (.collector [])
    set (state.setDescriptor 1 (some number))
    let before := state
    inSubshell fuel body
    let after ← get
    set (afterChild before after)
    return after.collected number

/-- Run a command whose changes of the state are forgotten, apart from files and channels. -/
def inSubshell (fuel : Nat) (body : Command) : Running Unit := do
  match fuel with
  | 0 => throw .exit
  | fuel + 1 =>
    let before ← get
    let flow ← attempt (run fuel body)
    let after ← get
    set (afterChild before after)
    match flow with
    | .killed signal => throw (.killed signal)
    | _ => pure ()

/-- Expand words to fields, with patterns replaced by file names. -/
def expandWords (fuel : Nat) (words : List Word) : Running (List Bytes) := do
  match fuel, words with
  | 0, _ => throw .exit
  | _, [] => return []
  | fuel + 1, word :: rest =>
    let parts ← expand fuel word
    let state ← get
    let fields := (fieldsOf state.separators parts).flatMap (fileNames state)
    return fields ++ (← expandWords fuel rest)

/-- Expand assignments. -/
def expandAssignments (fuel : Nat) (assignments : List (Bytes × Word)) :
    Running (List (Bytes × Bytes)) := do
  match fuel, assignments with
  | 0, _ => throw .exit
  | _, [] => return []
  | fuel + 1, (name, word) :: rest =>
    let value := bytesOf (← expand fuel word)
    return (name, value) :: (← expandAssignments fuel rest)

/-- Apply redirections one after another. -/
def redirectAll (fuel : Nat) (redirections : List Redirection) : Running Unit := do
  match fuel, redirections with
  | 0, _ => throw .exit
  | _, [] => pure ()
  | fuel + 1, .to descriptor direction target :: rest =>
    redirect descriptor direction (bytesOf (← expand fuel target))
    redirectAll fuel rest

/-- Run commands of which each reads what the one before it has written. -/
def pipe (fuel : Nat) (commands : List Command) : Running Unit := do
  match fuel, commands with
  | 0, _ => throw .exit
  | _, [] => pure ()
  | fuel + 1, [last] => inSubshell fuel last
  | fuel + 1, first :: rest =>
    let before ← get
    let (number, state) := before.addChannel (.collector [])
    set (state.setDescriptor 1 (some number))
    inSubshell fuel first
    let after ← get
    let (source, state) := (afterChild before after).addChannel (.source (after.collected number))
    set (state.setDescriptor 0 (some source))
    pipe fuel rest
    let after ← get
    set (afterChild before after)

/-- Run the body of a loop over words. -/
def runEach (fuel : Nat) (name : Bytes) (body : Command) (words : List Bytes) : Running Unit := do
  match fuel, words with
  | 0, _ => throw .exit
  | _, [] => pure ()
  | fuel + 1, word :: rest =>
    modify (·.setVariable name word)
    match ← attempt (run fuel body) with
    | .next | .again 1 | .again 0 => runEach fuel name body rest
    | .again (n + 1) => throw (.again n)
    | .leave (n + 2) => throw (.leave (n + 1))
    | .leave _ => pure ()
    | flow => throw flow

/-- Run a loop under a condition, with the status of the last round. -/
def runLoop (fuel : Nat) (untilSuccess : Bool) (condition body : Command) (last : Nat) :
    Running Unit := do
  match fuel with
  | 0 => throw .exit
  | fuel + 1 =>
    runGuarded fuel condition
    if ((← get).status == 0) == untilSuccess then setStatus last
    else
      match ← attempt (run fuel body) with
      | .next | .again 1 | .again 0 =>
        runLoop fuel untilSuccess condition body (← get).status
      | .again (n + 1) => throw (.again n)
      | .leave (n + 2) => throw (.leave (n + 1))
      | .leave _ => pure ()
      | flow => throw flow

/-- Find the clause that a word matches, and run it. -/
def runClauses (fuel : Nat) (word : Bytes) (clauses : List (List Word × Command)) :
    Running Unit := do
  match fuel, clauses with
  | 0, _ => throw .exit
  | _, [] => setStatus 0
  | fuel + 1, (patterns, body) :: rest =>
    if ← matchesAny fuel word patterns then
      setStatus 0
      run fuel body
    else runClauses fuel word rest

/-- Whether one of some patterns matches a word. -/
def matchesAny (fuel : Nat) (word : Bytes) (patterns : List Word) : Running Bool := do
  match fuel, patterns with
  | 0, _ => throw .exit
  | _, [] => return false
  | fuel + 1, pattern :: rest =>
    if Element.isMatch (patternOf (cellsOf (← expand fuel pattern))) word then return true
    matchesAny fuel word rest

/-- Run a command whose failure is looked at by another one. -/
def runGuarded (fuel : Nat) (body : Command) : Running Unit := do
  match fuel with
  | 0 => throw .exit
  | fuel + 1 =>
    let guarded := (← get).guarded
    modify ({ · with guarded := true })
    let flow ← attempt (run fuel body)
    modify ({ · with guarded })
    resume flow

/-- Leave the shell after a failure, if it was asked to. -/
def checkFailure (fuel : Nat) : Running Unit := do
  match fuel with
  | 0 => throw .exit
  | _ + 1 =>
    let state ← get
    if state.options.exitOnError && !state.guarded && state.status != 0 then throw .exit

/-- Run a script in the current shell, line by line. -/
def runLines (fuel : Nat) (verbose : Bool) (input : Input) : Running Unit := do
  match fuel with
  | 0 => throw .exit
  | fuel + 1 =>
    match Reader.nextLine? input with
    | .error fault =>
      if verbose then echoLines input.rest (fault.line + 1 - input.line)
      modify ({ · with line := fault.line })
      abort (text fault.text)
    | .ok (none, _) => pure ()
    | .ok (some command, rest) =>
      if verbose then echoLines input.rest (rest.line - input.line)
      if !(← get).options.readOnly then run fuel command
      runLines fuel verbose rest

/-- Run the command that is kept for a signal or for the end of the shell. -/
def runTrap (fuel : Nat) (action : Bytes) : Running Unit := do
  match fuel with
  | 0 => throw .exit
  | fuel + 1 =>
    let status := (← get).status
    runLines fuel false ⟨action, 1⟩
    setStatus status

/-- Run a program that was found, under the words that start it. -/
def runProgram (fuel : Nat) (words : List Bytes) : Running Unit := do
  match fuel with
  | 0 => throw .exit
  | fuel + 1 =>
    let before ← get
    match Job.ofWords before.world words with
    | .error refusal =>
      let message := words.head?.getD [] ++ text ": " ++ refusal.text ++ [0x0a]
      set ((before.write? 2 message).getD before)
      setStatus 2
    | .ok job =>
      set (childState before job.name job.positional job.options)
      let flow ← attempt (runLines fuel job.verbose ⟨job.script, 1⟩)
      if flow == .next || flow == .exit then
        if let some action := (← get).traps.lookup 0 then
          let _ ← attempt (runTrap fuel action)
      let after ← get
      set (afterChild before after)
      if let .killed signal := flow then
        setStatus (128 + signal)
        throw (.killed signal)

/-- Find a program and run it as a part of a script. -/
def runCommand (fuel : Nat) (name : Bytes) (arguments : List Bytes) (label : Bytes) :
    Running Unit := do
  match fuel with
  | 0 => throw .exit
  | fuel + 1 =>
    let state ← get
    let world := { state.world with searchPath := searchDirectories state }
    match Program.find world name arguments with
    | .ok words =>
      match ← attempt (runProgram fuel words) with
      | .killed signal => reportSignal signal
      | _ => pure ()
    | .error .notFound | .error .notADirectory =>
      complain (label ++ name ++ text ": not found")
      setStatus 127
    | .error .notAProgram =>
      let path : Bytes := (Program.locate? world name).elim name (·.bytes)
      match ← attempt (runProgram fuel (text "sh" :: path :: arguments)) with
      | .killed signal => reportSignal signal
      | _ => pure ()
    | .error .nameTooLong =>
      complain (label ++ name ++ text ": File name too long")
      setStatus 127
    | .error _ =>
      complain (label ++ name ++ text ": Permission denied")
      setStatus 126

/-- Run a command by its expanded words. -/
def runWords (fuel : Nat) (words : List Bytes) : Running Unit := do
  match fuel, words with
  | 0, _ => throw .exit
  | _, [] => pure ()
  | fuel + 1, first :: arguments =>
    let state ← get
    let name := asText first
    match if isBuiltIn name && specialCommands.contains name then none
      else state.functions.lookup first with
    | some body =>
      modify ({ · with positional := arguments })
      let flow ← attempt (run fuel body)
      modify ({ · with positional := state.positional })
      match flow with
      | .next | .back => pure ()
      | flow => throw flow
    | none =>
      match simpleCommand? name arguments with
      | some body =>
        match ← attempt body with
        | .killed signal =>
          let kept := (← get).traps.lookup signal
          match if signal = 9 then none else kept with
          | some action => if !action.isEmpty then runTrap fuel action
          | none => throw (.killed signal)
        | flow => resume flow
      | none =>
        match name with
        | "eval" =>
          runLines fuel false ⟨[0x20].intercalate arguments, state.line⟩
        | "." =>
          match arguments with
          | [] => setStatus 0
          | path :: _ =>
            let missing (words : String) : Running Unit := abort (text ".: " ++ path ++ text words)
            if path.contains Path.slash then
              match state.world.files.read state.world.current ⟨path⟩ with
              | .ok script =>
                match ← attempt (runLines fuel false ⟨script, 1⟩) with
                | .next | .back => pure ()
                | flow => throw flow
              | .error _ => abort (text ".: cannot open " ++ path ++ text ": No such file")
            else
              let found := (searchDirectories state).findSome? fun directory =>
                (state.world.files.read state.world.current (directory.child ⟨path⟩)).toOption
              match found with
              | some script =>
                match ← attempt (runLines fuel false ⟨script, 1⟩) with
                | .next | .back => pure ()
                | flow => throw flow
              | none => missing ": not found"
        | "exec" =>
          match arguments with
          | [] => setStatus 0
          | program :: arguments => do
            let world := { state.world with searchPath := searchDirectories state }
            match Program.find world program arguments with
            | .ok words =>
              runProgram fuel words
              throw .exit
            | .error _ =>
              runCommand fuel program arguments (text "exec: ")
              throw .exit
        | "command" =>
          match arguments with
          | first :: more =>
            if first == text "-v" then
              match more with
              | [name] =>
                if isBuiltIn (asText name) || (state.functions.lookup name).isSome then
                  output "command" (name ++ [0x0a])
                else
                  let world := { state.world with searchPath := searchDirectories state }
                  match Program.locate? world name with
                  | some path => output "command" (path.bytes ++ [0x0a])
                  | none => setStatus 127
              | _ => setStatus 0
            else runWords fuel arguments
          | [] => setStatus 0
        | "type" =>
          for word in arguments do
            output "type" (word ++ text (if isBuiltIn (asText word) then " is a shell builtin\n"
              else ": not found\n"))
        | _ => runCommand fuel first arguments []

/-- Run a simple command. -/
def runSimple (fuel : Nat) (line : Nat) (assignments : List (Bytes × Word)) (words : List Word)
    (redirections : List Redirection) : Running Unit := do
  match fuel with
  | 0 => throw .exit
  | fuel + 1 =>
    modify ({ · with line })
    if words.isEmpty && redirections.isEmpty then setStatus 0
    let fields ← expandWords fuel words
    let name := asText (fields.head?.getD [])
    let before ← get
    let stays := fields.isEmpty || specialCommands.contains name
    match ← attempt (redirectAll fuel redirections) with
    | .next =>
      let values ← expandAssignments fuel assignments
      let trace := (← get).options.trace
      if trace && !(fields.isEmpty && values.isEmpty) then
        let shown := values.map (fun (name, value) => name ++ 0x3d :: value) ++ fields
        let shownLine := [0x2b, 0x20] ++ [0x20].intercalate shown ++ [0x0a]
        let state ← get
        let channel := before.descriptors.lookup 2
        let written := ((state.setDescriptor 2 channel).write? 2 shownLine).getD state
        set { written with descriptors := state.descriptors }
      let unassigned := (← get).bindings
      for (name, value) in values do modify (·.setVariable name value)
      let flow ← attempt (runWords fuel fields)
      if !stays then
        let names := values.map (·.1)
        modify fun state => { state with
          bindings := unassigned.filter (fun entry => names.contains entry.1) ++
            state.bindings.filter (fun entry => !names.contains entry.1) }
      if !(name == "exec" && fields.length == 1) then
        modify ({ · with descriptors := before.descriptors })
      resume flow
    | flow =>
      modify ({ · with descriptors := before.descriptors })
      if flow == .exit && !specialCommands.contains name then setStatus 2
      else resume flow

/-- Run a command. -/
def run (fuel : Nat) (command : Command) : Running Unit := do
  match fuel with
  | 0 => throw .exit
  | fuel + 1 =>
    match command with
    | .nothing => pure ()
    | .simple line assignments words redirections =>
      runSimple fuel line assignments words redirections
      checkFailure fuel
    | .redirected line body redirections =>
      modify ({ · with line })
      let before ← get
      match ← attempt (redirectAll fuel redirections) with
      | .next =>
        let flow ← attempt (run fuel body)
        modify ({ · with descriptors := before.descriptors })
        resume flow
      | .exit =>
        modify ({ · with descriptors := before.descriptors })
        setStatus 2
        checkFailure fuel
      | flow => throw flow
    | .pipeline commands => pipe fuel commands; checkFailure fuel
    | .negation body =>
      runGuarded fuel body
      setTruth ((← get).status != 0)
    | .both first second =>
      runGuarded fuel first
      if (← get).status == 0 then run fuel second
    | .either first second =>
      runGuarded fuel first
      if (← get).status != 0 then run fuel second
    | .sequence first second =>
      run fuel first
      run fuel second
    | .background body =>
      inSubshell fuel body
      setStatus 0
    | .subshell body => inSubshell fuel body; checkFailure fuel
    | .choice condition yes no =>
      runGuarded fuel condition
      if (← get).status == 0 then run fuel yes
      else
        setStatus 0
        run fuel no
    | .loop untilSuccess condition body => runLoop fuel untilSuccess condition body 0
    | .each line name words body =>
      modify ({ · with line })
      let values ← match words with
        | some words => expandWords fuel words
        | none => pure (← get).positional
      setStatus 0
      runEach fuel name body values
    | .select line word clauses =>
      modify ({ · with line })
      let value := bytesOf (← expand fuel word)
      runClauses fuel value clauses
    | .define name body =>
      modify fun state => { state with functions := State.update name body state.functions }
      setStatus 0

end

/-- How much a script may do. -/
def allowance : Nat := 10000000

end Running

/-- What a shell has left that was started with the given words. -/
structure Ended where
  /-- The signal that ended it, if one did. -/
  signal : Option Nat
  /-- The state at its end. -/
  state : State

/-- Run a shell in a world, with nothing to read. -/
def start (world : World) (words : List Bytes) : Ended :=
  let joined := [0x3a].intercalate (world.searchPath.map (·.bytes))
  let path := Text.toBytes "PATH"
  let initial := { (State.start world [] [] {}).setVariable path joined with exported := [path] }
  match Running.runProgram Running.allowance words initial with
  | (.error (.killed signal), state) => ⟨some signal, state⟩
  | (_, state) => ⟨none, state⟩

end EditorBridge.Shell
