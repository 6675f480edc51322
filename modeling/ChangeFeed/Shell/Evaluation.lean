/-
# Running commands

A command runs within a session and has a status.  Simple commands call functions, builtin commands
and programs; compound ones join, repeat and choose others.  Between commands the shell acts on the
signals that it catches.

Commands can go on for ever, so running them takes a number of steps at most.
-/

import ChangeFeed.Shell.Program

namespace ChangeFeed.Shell.Evaluation

/-! ## Simple commands -/

/-- What the first word of a command stands for. -/
inductive Kind where
  | nothing
  | special
  | builtin
  | function (body : Command)
  | program

/-- What a name stands for; functions may be passed over. -/
def kindOf (session : Session) (allowsFunctions : Bool) (name : Bytes) : Kind :=
  if Builtin.isSpecial name then .special
  else
    match if allowsFunctions then session.functions.lookup name else none with
    | some body => .function body
    | none => if Builtin.isBuiltin name then .builtin else .program

/-- Expands words up to the first that leaves a field, which names the command: its fields, and the
words behind it. -/
def takeName (run : Runner) : List Word → Run (List Bytes × List Word)
  | [] => return ([], [])
  | word :: rest => do
    match ← expandFields (substitute run) word with
    | [] => takeName run rest
    | fields => return (fields, rest)

/-- Expands the words behind a command's name.  Where assignments are expected they are not
split. -/
def expandArguments (run : Runner) (hasAssignments : Bool) (words : List Word) :
    Run (List Bytes) := do
  let fields ← words.mapM fun word => do
    match if hasAssignments then assignment? word else none with
    | some (name, value) => return [name ++ '=' :: (← expandAssigned (substitute run) value)]
    | none => expandFields (substitute run) word
  return fields.flatten

/-- Builtin commands whose arguments can be assignments. -/
def assigners : List String :=
  ["export", "readonly", "local"]

/-- A command's name and arguments, and what the name stands for.  Behind `command` it stands for no
function, and it is no special command. -/
def identify (run : Runner) : Nat → (isPlain : Bool) → List Bytes → List Word →
    Run (Kind × List Bytes × List Word)
  | 0, _, fields, words => return (.program, fields, words)
  | fuel + 1, isPlain, fields, words => do
    match fields with
    | [] => return (.nothing, [], words)
    | name :: arguments =>
      let kind := kindOf (← get) isPlain name
      if name = "command".toList then
        let (arguments, words) ←
          if arguments.isEmpty then takeName run words else pure (arguments, words)
        match arguments with
        | [] => return (.builtin, fields, words)
        | ('-' :: letters) :: _ =>
          if letters = ['p'] || letters = ['-'] then
            identify run fuel false (arguments.drop 1) words
          else return (.builtin, name :: arguments, words)
        | arguments => identify run fuel false arguments words
      else
        let kind :=
          match kind with
          | .special => if isPlain then .special else .builtin
          | kind => kind
        return (kind, fields, words)

/-- Assigns values in front of a command. -/
def assignAll (run : Runner) (isLocal : Bool) : List Word → Run (List Bytes)
  | [] => return []
  | word :: rest => do
    match assignment? word with
    | none => assignAll run isLocal rest
    | some (name, value) =>
      let value ← expandAssigned (substitute run) value
      if isLocal then modify fun session => session.keepVariable name
      Run.assign name value
      if isLocal then
        modify fun session =>
          session.setVariable name
            (((session.bindings.lookup name).map fun held => { held with isExported := true }))
      return (name ++ '=' :: value) :: (← assignAll run isLocal rest)

/-- Shows a command before it runs, if that is asked for. -/
def trace (streams : List (Nat × Nat)) (texts : List Bytes) : Run Unit := do
  let session ← get
  if session.hasOption "xtrace" then
    let start := (session.lookup? "PS4".toList).getD []
    let line := start ++ [' '].intercalate texts ++ ['\n']
    match (streams.lookup 2).bind (session.world.write? · line) with
    | some world => set { session with world }
    | none => return ()

/-- How many functions can run within each other. -/
def maxFunctionDepth : Nat := 1000

/-- Runs a function with arguments of its own. -/
def callFunction (run : Runner) (flags : Flags) (body : Command) (arguments : List Bytes) :
    Run Nat := do
  let outer ← get
  if maxFunctionDepth ≤ outer.functionDepth then
    Run.fail ("Maximum function recursion depth (".toList ++ decimalText maxFunctionDepth ++
      ") reached".toList)
  set { outer.pushFrame with
    arguments, optionIndex := 1, optionOffset? := none
    loopDepth := 0, functionDepth := outer.functionDepth + 1 }
  let goBack : Run Unit := modify fun inner =>
    { inner.popFrame with
      arguments := outer.arguments, optionIndex := outer.optionIndex
      optionOffset? := outer.optionOffset?
      loopDepth := outer.loopDepth, functionDepth := outer.functionDepth
      skip? := if inner.skip? = some .returns then none else inner.skip? }
  Run.endingWith goBack (run { isTested := flags.isTested } body)

/-- The script that a name stands for: a file that is there, or one that is found as programs
are. -/
def sourceText (name : Bytes) : Run Bytes := do
  let session ← get
  let paths := if name.contains '/' then [name] else Builtin.pathsFor session name
  let isDirectory (path : Bytes) : Bool := session.fileAt? path = some .directory
  match paths.findSome? session.textAt? with
  | some text => return text
  | none =>
    if !name.contains '/' then Run.fail (name ++ ": not found".toList)
    else if isDirectory name then return []
    else Run.fail ("cannot open ".toList ++ name ++ ": No such file".toList)

/-- Runs a program in the place of the shell. -/
def replaceShell (run : Runner) (arguments : List Bytes) : Run Nat := do
  match arguments with
  | [] => return 0
  | name :: arguments =>
    let status ← runProgram run true name arguments
    modify fun session => { session with status, traps := [] }
    throw .exit

/-- Runs a builtin command, with its name in front of messages. -/
def callBuiltin (run : Runner) (flags : Flags) (name : Bytes) (arguments : List Bytes) :
    Run Nat := do
  let command? := (← get).command?
  modify fun session => { session with command? := some name }
  let status : Run Nat :=
    match String.ofList name, arguments with
    | "eval", arguments => runText run { flags with isLast := false } ([' '].intercalate arguments)
    | ".", [] => Run.fail "arg expected".toList
    | ".", path :: _ => do
      let text ← sourceText path
      let status ← runText run {} text
      modify fun session =>
        { session with skip? := if session.skip? = some .returns then none else session.skip? }
      return status
    | "exec", arguments => replaceShell run arguments
    | "wait", arguments => wait run arguments
    | "command", ['-', 'v'] :: names => Builtin.describeAll false (names.take 1)
    | "command", ['-', 'V'] :: names => Builtin.describeAll true (names.take 1)
    | "command", ('-' :: letters) :: _ => do
      let _ ← Builtin.takeOptions ['p', 'v', 'V'] [] [('-' :: letters)]
      return 0
    | _, arguments => Builtin.run name arguments
  Run.endingWith (modify fun session => { session with command? }) status

/-- Runs a command of a kind. -/
def call (run : Runner) (flags : Flags) (kind : Kind) (fields : List Bytes) : Run Nat := do
  match kind, fields with
  | .function body, _ :: arguments => callFunction run flags body arguments
  | .special, name :: arguments => callBuiltin run flags name arguments
  | .builtin, name :: arguments =>
    tryCatch (callBuiltin run flags name arguments) fun leave => do
      match leave with
      | .failure => return (← get).status
      | leave => throw leave
  | .program, name :: arguments => runProgram run flags.isLast name arguments
  | _, _ => return (← get).substitutionStatus

/-- Runs a simple command. -/
def runSimple (run : Runner) (flags : Flags) (line : Nat) (assignments words : List Word)
    (redirections : List Redirection) : Run Nat := do
  Run.setLine line
  modify fun session => { session with substitutionStatus := 0 }
  let (fields, rest) ← takeName run words
  let (kind, fields, rest) ← identify run (words.length + 2) true fields rest
  let name := fields.headD []
  let fields := fields ++ (← expandArguments run (assigners.contains (String.ofList name)) rest)
  let isSpecial :=
    match kind with
    | .special => true
    | _ => false
  let isLocal :=
    match kind with
    | .special | .nothing => false
    | _ => true
  let streams := (← get).streams
  let isExec := name = "exec".toList && isSpecial
  let status : Run Nat := do
    let destinations ← redirections.mapM (resolve run)
    withStreams run isExec destinations fun isLed => do
      if !isLed then
        Run.setStatus 2
        if isSpecial then throw .failure
        return 2
      let assigned ← assignAll run isLocal assignments
      trace streams (assigned ++ fields)
      call run flags kind fields
  if isLocal then
    modify Session.pushFrame
    Run.endingWith (modify Session.popFrame) status
  else status

/-! ## Compound commands -/

/-- What a command that has been passed over means for the loop around it: whether it ends. -/
def endsLoop : Run Bool := do
  let session ← get
  match session.skip? with
  | none => return false
  | some .returns => return true
  | some (.breaks count) =>
    set { session with skip? := if count ≤ 1 then none else some (.breaks (count - 1)) }
    return true
  | some (.continues count) =>
    set { session with skip? := if count ≤ 1 then none else some (.continues (count - 1)) }
    return 1 < count

/-- Runs within one more loop. -/
def inLoop {α : Type} (run : Run α) : Run α := do
  let depth := (← get).loopDepth
  modify fun session => { session with loopDepth := depth + 1 }
  Run.endingWith (modify fun session => { session with loopDepth := depth }) run

/-- How often a loop goes round at most. -/
def maxRounds : Nat := 1000000

/-- Repeats a body as long as a test has a result, at most `fuel` times. -/
def runLoop (run : Runner) (flags : Flags) (result : Bool) (test body : Command) :
    Nat → (status : Nat) → Run Nat
  | 0, status => return status
  | fuel + 1, status => do
    let tested ← run { isTested := true } test
    let isSkipped := (← get).skip?.isSome
    let isReturn := (← get).skip? = some .returns
    if ← endsLoop then return if isReturn then tested else status
    if isSkipped then runLoop run flags result test body fuel status
    else if (tested = 0) != result then return status
    else
      let status ← run { isTested := flags.isTested } body
      if ← endsLoop then return status
      runLoop run flags result test body fuel status

/-- Runs a body for each of some values. -/
def runForEach (run : Runner) (flags : Flags) (name : Bytes) (body : Command) :
    List Bytes → (status : Nat) → Run Nat
  | [], status => return status
  | value :: rest, _ => do
    Run.assign name value
    let status ← run { isTested := flags.isTested } body
    if ← endsLoop then return status
    runForEach run flags name body rest status

/-- Whether one of some patterns matches a text. -/
def matchesAny (run : Runner) (text : Bytes) : List Word → Run Bool
  | [] => return false
  | word :: rest => do
    if Pattern.matches (← expandPattern (substitute run) word) text then return true
    matchesAny run text rest

/-- Runs the first of some cases that matches a text. -/
def runChoice (run : Runner) (flags : Flags) (text : Bytes) :
    List (List Word × Command) → Run Nat
  | [] => return 0
  | (patterns, body) :: rest => do
    if ← matchesAny run text patterns then
      match body with
      | .nothing => return 0
      | body => run flags body
    else runChoice run flags text rest

/-- Runs the commands of a pipeline, each of which reads what the one before has written.  All start
with a status at a time; the status of the last one is that of the pipeline. -/
def runStages (run : Runner) (flags : Flags) (status time : Nat) :
    (input? : Option Nat) → List Command → Run Nat
  | _, [] => return 0
  | input?, command :: rest => do
    let (reading, writing, world) := (← get).world.openPipe
    modify fun session => { session with world := { world with clock := time }, status }
    let result ← runApart run do
      if let some input := input? then modify fun inner => inner.setStream 0 (some input)
      if !rest.isEmpty then modify fun inner => inner.setStream 1 (some writing)
      let _ ← run { flags with isLast := true } command
    setClock (max (← get).world.clock world.clock)
    if rest.isEmpty then return result
    runStages run flags status time (some reading) rest

/-- Looks for the program of a command that is about to run in a pipeline, if its name is plain. -/
def findAhead (command : Command) : Run Unit := do
  let session ← get
  let plain? : Part → Option Char
    | .char c false => some c
    | _ => none
  match command with
  | .simple _ _ (word :: _) _ =>
    let name := (word.mapM plain?).getD []
    if isName name then
      if let .program := kindOf session true name then
        if let .ok path := Builtin.findProgram session name then Builtin.remember name path
  | _ => return ()

/-- Runs a pipeline, for the end of which the shell waits. -/
def runPipeline (run : Runner) (flags : Flags) (commands : List Command) : Run Nat := do
  commands.forM findAhead
  let session ← get
  let result ← waiting run do
    runStages run flags session.status (← get).world.clock none commands
  modify fun outer => { outer with
    status := session.status, world := outer.world.closeSince session.world }
  return result

/-- Ends the shell behind a failure that is not tested, if that is asked for. -/
def endOnFailure (flags : Flags) (status : Nat) : Run Unit := do
  if status ≠ 0 && !flags.isTested && (← get).hasOption "errexit" then throw .exit

/-- Runs a command with redirected streams. -/
def runRedirected (run : Runner) (flags : Flags) (line : Nat) (redirections : List Redirection)
    (command : Command) : Run Nat := do
  Run.setLine line
  let destinations ← redirections.mapM (resolve run)
  withStreams run false destinations fun isLed => do
    if isLed then run { isTested := flags.isTested } command
    else
      Run.setStatus 2
      runTraps run
      endOnFailure flags 2
      return (← get).status

/-- Runs a command in parentheses. -/
def runSubshell (run : Runner) (flags : Flags) (line : Nat) (redirections : List Redirection)
    (command : Command) : Run Nat := do
  Run.setLine line
  let destinations ← redirections.mapM (resolve run)
  let session ← get
  let apart :=
    if flags.isLast && session.traps.all (·.2.isEmpty) then inPlace run else inSubshell run
  let result ← apart do
    if ← leadAll run false destinations then
      let _ ← run { flags with isLast := true } command
    else
      Run.setStatus 2
  Run.setStatus session.status
  return result

/-- Runs commands one after another. -/
def runSequence (run : Runner) (flags : Flags) : List Command → Run Nat
  | [] => return (← get).status
  | [command] => run flags command
  | command :: rest => do
    let status ← run { isTested := flags.isTested } command
    if (← get).skip?.isSome then return status
    runSequence run flags rest

/-- Runs the parts of a command. -/
def runParts (run : Runner) (flags : Flags) : Command → Run Nat
  | .nothing => return (← get).status
  | .simple line assignments words redirections =>
    runSimple run flags line assignments words redirections
  | .pipeline commands => runPipeline run flags commands
  | .negation command => do
    let status ← run { isTested := true } command
    if (← get).skip?.isSome then return status
    return if status = 0 then 1 else 0
  | .both first second => do
    let status ← run { isTested := true } first
    if status ≠ 0 || (← get).skip?.isSome then return status
    run flags second
  | .either first second => do
    let status ← run { isTested := true } first
    if status = 0 || (← get).skip?.isSome then return status
    run flags second
  | .sequence commands => runSequence run flags commands
  | .background command => start run command
  | .subshell line command redirections => runSubshell run flags line redirections command
  | .redirected line command redirections => runRedirected run flags line redirections command
  | .conditional test positive negative => do
    let status ← run { isTested := true } test
    if (← get).skip?.isSome then return status
    if status = 0 then run flags positive
    else
      match negative with
      | .nothing => return 0
      | negative => run flags negative
  | .loop result test body => inLoop (runLoop run flags result test body maxRounds 0)
  | .forEach line name words body => do
    Run.setLine line
    let values ← expandArguments run false words
    inLoop (runForEach run flags name body values 0)
  | .choice line subject cases => do
    Run.setLine line
    runChoice run flags (← expandText (substitute run) subject) cases
  | .definition _ name body => do
    modify fun session =>
      { session with functions := (name, body) :: session.functions.filter (·.1 ≠ name) }
    return 0

/-- Whether a failure of the command itself can end the shell. -/
def canEndShell : Command → Bool
  | .simple .. | .pipeline _ | .background _ | .subshell .. => true
  | _ => false

/-- Runs a command, and then what the signals ask for that have come. -/
def runCommand (run : Runner) (flags : Flags) (command : Command) : Run Nat := do
  if (← get).hasOption "noexec" then return 0
  runTraps run
  let status ← runParts run flags command
  Run.setStatus status
  runTraps run
  if canEndShell command then endOnFailure flags status
  return (← get).status

/-- Runs commands within each other to a depth.  Beyond it the shell has no room left, which ends it
with a signal. -/
def runner : Nat → Runner
  | 0 => { run := fun _ _ => throw (.killed 11), runJob := fun _ => throw (.killed 11) }
  | depth + 1 =>
    { run := fun flags command => runCommand (runner depth) flags command
      runJob := fun command => toEnd (runner depth) do
        let _ ← (runner depth).run { isLast := true } command }

end ChangeFeed.Shell.Evaluation
