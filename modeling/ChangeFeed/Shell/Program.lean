/-
# Programs

A program runs as a process of its own, or in the place of a shell.  Besides the shell itself there
are a few that write, copy or do nothing.
-/

import ChangeFeed.Shell.Redirection

namespace ChangeFeed.Shell.Evaluation

/-! ## The shell -/

/-- Runs a script that is read as far as it goes.  A shell that is not to end there says so until it
has no patience any more. -/
def runToEnd (run : Runner) (script : Bytes) : Run Unit := do
  Run.setLine 1
  let _ ← runText run {} script
  let session ← get
  if session.hasOption "ignoreeof" && session.skip?.isNone then
    let advice := "\nUse \"exit\" to leave shell.\n".toList
    let _ ← Run.write 2 (List.replicate 50 advice).flatten

/-- Runs a shell with arguments.  Where no script follows, the first argument is a file with one. -/
def runShell (run : Runner) (arguments : List Bytes) : Run Unit := do
  Run.setLine 0
  let settings ← Builtin.takeSettings true (arguments.length + 1) { rest := arguments }
  let rest := settings.rest
  let readsInput := (← get).hasOption "stdin"
  let start (name : Bytes) (arguments : List Bytes) : Run Unit := do
    modify fun session => { session with name, arguments }
    if (← get).hasOption "interactive" then Builtin.setOption true "monitor"
    Builtin.leaveTerminal
  -- the script is what the first stream holds
  let runInput : Run Unit := do
    let session ← get
    runToEnd run (((session.streams.lookup 0).bind session.world.unread?).getD [])
  let session ← get
  match settings.hasScript, if readsInput && !settings.hasScript then [] else rest with
  | true, [] => Run.fail "-c requires an argument".toList
  | true, script :: rest =>
    start (rest.headD session.name) (rest.drop 1)
    Run.setLine 1
    let _ ← runText run {} script
    if readsInput then runInput
  | false, [] =>
    start session.name rest
    runInput
  | false, path :: rest =>
    let isDirectory := session.fileAt? path = some .directory
    match if isDirectory then some [] else session.textAt? path with
    | some script =>
      start path rest
      runToEnd run script
    | none =>
      Run.warn ("cannot open ".toList ++ path ++ ": No such file".toList)
      Run.setStatus 2
      throw .exit

/-- The variables of a shell that starts in a directory.  Some of those that are handed to it keep
their values. -/
def firstVariables (path : Bytes) (parent : Nat) (inherited : List (Bytes × Variable)) :
    List (Bytes × Variable) :=
  let plain (name value : String) : Bytes × Variable :=
    (name.toList, { value? := some value.toList })
  let own := [plain "IFS" " \t\n", plain "PPID" (toString parent),
    ("PWD".toList, { value? := some path, isExported := true })]
  let kept := inherited.filter fun (name, _) => (own.lookup name).isNone
  let defaults := [plain "OPTIND" "1", plain "PS1" "# ", plain "PS2" "> ", plain "PS4" "+ ",
    plain "PATH" "/usr/local/sbin:/usr/local/bin:/usr/sbin:/usr/bin:/sbin:/bin"]
  own ++ kept ++ defaults.filter fun (name, _) => (kept.lookup name).isNone

/-- A shell that a session starts. -/
def startedBy (session : Session) (name : Bytes) (process : Nat) : Session :=
  let inherited := session.bindings.filter fun (_, held) => held.isExported
  { world := session.world
    name
    process
    bindings := firstVariables session.path session.process inherited
    streams := session.streams
    directory := session.directory
    path := session.path
    mask := session.mask
    limits := session.limits
    traps := session.traps.filter (·.2.isEmpty) }

/-- Runs a shell as a process of its own, or in the place of the current one. -/
def startShell (run : Runner) (takesPlace : Bool) (name : Bytes) (arguments : List Bytes) :
    Run Nat := do
  let session ← get
  let (process, world) := session.world.addProcess
  let shell := startedBy { session with world } name process
  let (result, shell) := ((toEnd run (runShell run arguments)).run shell).run
  set { session with world := shell.world.endProcess process }
  let ending := endingOf result shell
  if let some signal := ending.signal? then
    if takesPlace then throw (.killed signal)
    reportSignal signal
  return ending.status

/-! ## Other programs -/

/-- Says on behalf of a program what is wrong: its status then. -/
def complain (program reason : Bytes) : Run Nat := do
  let _ ← Run.write 2 (program ++ ':' :: ' ' :: reason ++ ['\n'])
  return 1

/-- Says on behalf of a program what is wrong with its arguments. -/
def complainOfUse (program reason : Bytes) : Run Nat :=
  complain program
    (reason ++ "\nTry '".toList ++ program ++ " --help' for more information.".toList)

/-- Writes what a program puts out; its status tells whether that is possible. -/
def putOut (program output : Bytes) (status : Nat) : Run Nat := do
  if output.isEmpty || (← Run.write 1 output) then return status
  let reason :=
    if ((← get).streams.lookup 1).isSome then "No space left on device" else "Bad file descriptor"
  complain program ("write error: " ++ reason).toList

/-- Copies what the first stream holds to the second. -/
def copyInput (program : Bytes) : Run Nat := do
  let session ← get
  match session.streams.lookup 0 with
  | none =>
    let _ ← complain program "-: Bad file descriptor".toList
    complain program "closing standard input: Bad file descriptor".toList
  | some file =>
    match session.world.unread? file with
    | some text =>
      set { session with world := session.world.advance file text.length }
      putOut program text 0
    | none =>
      let isDirectory := (session.world.openFiles[file]?).any (·.kind = .directory)
      let reason := if isDirectory then "Is a directory" else "Bad file descriptor"
      complain program ("-: " ++ reason).toList

/-- Copies a file to the second stream, or what the first stream holds. -/
def copyFile (program path : Bytes) : Run Nat := do
  let session ← get
  if path = ['-'] then return ← copyInput program
  match session.textAt? path with
  | some text => putOut program text 0
  | none =>
    let reason :=
      match session.fileAt? path with
      | some .directory => "Is a directory"
      | some _ => "No such device or address"
      | none => "No such file or directory"
    complain program (path ++ ':' :: ' ' :: reason.toList)

/-- The arguments in front of which no options are left out. -/
def withoutOptions (arguments : List Bytes) : List Bytes :=
  arguments.filter fun argument => argument = ['-'] || argument.head? ≠ some '-'

/-- Copies files, or what the first stream holds, to the second, which has to be open. -/
def copyFiles (program : Bytes) (arguments : List Bytes) : Run Nat := do
  if ((← get).streams.lookup 1).isNone then
    return ← complain program "standard output: Bad file descriptor".toList
  match withoutOptions arguments with
  | [] => copyInput program
  | paths => paths.foldlM (fun status path => do return status ||| (← copyFile program path)) 0

/-- The duration that a text stands for, in microseconds: a decimal number, and a letter for its
unit, which is a second where none is given. -/
def duration? (text : Bytes) : Option Nat :=
  let (whole, rest) := text.span Char.isDigit
  let (part, rest) :=
    match rest with
    | '.' :: rest => rest.span Char.isDigit
    | rest => ([], rest)
  let seconds? : Option Nat :=
    match rest with
    | [] | ['s'] => some 1
    | ['m'] => some 60
    | ['h'] => some 3600
    | ['d'] => some 86400
    | _ => none
  if whole.isEmpty && part.isEmpty then none
  else
    let micros := (part ++ List.replicate 6 '0').take 6
    seconds?.map fun seconds =>
      seconds * (1000000 * digitsValue 10 whole + digitsValue 10 micros)

/-- Lets the time pass that arguments add up to. -/
def sleep (run : Runner) (program : Bytes) (arguments : List Bytes) : Run Nat := do
  if arguments.isEmpty then return ← complainOfUse program "missing operand".toList
  match arguments.find? fun argument => (duration? argument).isNone with
  | some argument =>
    complainOfUse program ("invalid time interval '".toList ++ argument ++ ['\''])
  | none =>
    pass run ((arguments.filterMap duration?).foldl (· + ·) 0)
    return 0

/-- Writes arguments as they are. -/
def putWords (program : Bytes) (arguments : List Bytes) : Run Nat :=
  match arguments with
  | ['-', 'n'] :: arguments => putOut program ([' '].intercalate arguments) 0
  | arguments => putOut program ([' '].intercalate arguments ++ ['\n']) 0

/-- Writes arguments in a format. -/
def putFormatted (program : Bytes) (arguments : List Bytes) : Run Nat := do
  match arguments with
  | [] => complainOfUse program "missing operand".toList
  | format :: arguments =>
    let (printing, failure?) := printf format arguments
    printing.parts.forM fun
      | .text _ => return ()
      | .complaint argument fault => do
        let reason :=
          match fault with
          | .notNumeric => "expected a numeric value"
          | .notWhole => "value not completely converted"
          | .outOfRange => "Numerical result out of range"
        let _ ← complain program ('\'' :: argument ++ "': ".toList ++ reason.toList)
    if let some reason := failure? then
      let _ ← complain program reason
    putOut program printing.output (if printing.hasComplaints || failure?.isSome then 1 else 0)

/-! ## Programs by their names -/

/-- How long it takes to load a program, in microseconds. -/
def loadTime : Nat := 5000

/-- Runs the program at a path. -/
def runProgramAt (run : Runner) (takesPlace : Bool) (path name : Bytes) (arguments : List Bytes) :
    Run Nat := do
  pass run loadTime
  match (← get).locate? path |>.bind List.getLast? |>.map String.ofList with
  | some "cat" => copyFiles name arguments
  | some "sleep" => sleep run name arguments
  | some "false" => return 1
  | some "echo" => putWords name arguments
  | some "printf" => putFormatted name arguments
  | some "sh" => startShell run takesPlace name arguments
  | _ => return 0

/-- Runs a program by its name, or in the place of the shell. -/
def runProgram (run : Runner) (takesPlace : Bool) (name : Bytes) (arguments : List Bytes) :
    Run Nat := do
  let session ← get
  let refuse (reason : String) (status : Nat) : Run Nat := do
    Run.warn (name ++ ':' :: ' ' :: reason.toList)
    if takesPlace then
      Run.setStatus status
      throw .exit
    return status
  let process (main : Run Nat) : Run Nat := if takesPlace then main else waiting run main
  let start (path : Bytes) : Run Nat :=
    process (runProgramAt run takesPlace path name arguments)
  if name.contains '/' then
    match session.fileAt? name with
    | some .program => start name
    | kind? =>
      let status ←
        if kind?.isSome then refuse "Permission denied" 126 else refuse "not found" 127
      process (return status)
  else
    match Builtin.findProgram session name with
    | .ok path =>
      Builtin.remember name path
      start path
    | .error reason => refuse reason 127

end ChangeFeed.Shell.Evaluation
