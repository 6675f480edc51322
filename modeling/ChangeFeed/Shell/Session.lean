/-
# Shell sessions

The state of a shell that runs a script: its arguments and variables, where its streams lead, the
status of the last command, what it does about signals, and how far it has read.  With it go the
jobs beside the shell, each of which starts out from the state of its time, and the world that
shells share.

A run may end before its commands do, because the shell leaves, because an error ends it, or because
a signal does.
-/

import ChangeFeed.Shell.Grammar
import ChangeFeed.Shell.Signal
import ChangeFeed.Shell.World

namespace ChangeFeed.Shell

structure Variable where
  value? : Option Bytes := none
  isExported : Bool := false
  isReadOnly : Bool := false
  deriving DecidableEq, Repr

/-- What makes commands be passed over. -/
inductive Skip where
  /-- A number of loops end. -/
  | breaks (count : Nat)
  /-- A number of loops but one end, and the last one goes on. -/
  | continues (count : Nat)
  | returns
  deriving DecidableEq, Repr

/-- A program that has been found. -/
structure FoundProgram where
  path : Bytes
  /-- Whether it has to be looked for anew, as the directory is another one now. -/
  isStale : Bool := false

/-- What is brought back when a function ends: the variables that local ones have replaced, and the
options if those are local, too. -/
structure Frame where
  bindings : List (Bytes × Option Variable) := []
  options? : Option (List String) := none

/-- What a shell keeps to itself. -/
structure Scope where
  /-- What the shell is called, and its arguments. -/
  name : Bytes
  arguments : List Bytes := []
  process : Nat := 0
  /-- How many shells within shells this is. -/
  depth : Nat := 0
  /-- Whether the shell has ended, and only jobs beside it are left. -/
  hasEnded : Bool := false
  bindings : List (Bytes × Variable) := []
  functions : List (Bytes × Command) := []
  /-- What is local to each function that runs, the innermost first. -/
  frames : List Frame := []
  /-- The open files that streams lead to. -/
  streams : List (Nat × Nat) := []
  /-- Where paths start that do not start at the root, and the path that has led there. -/
  directory : Location := Tree.start
  path : Bytes := Tree.pathTo Tree.start
  status : Nat := 0
  /-- The status of the last command within a word. -/
  substitutionStatus : Nat := 0
  /-- The status in front of a trap's action. -/
  trappedStatus? : Option Nat := none
  /-- The last process that was started beside the shell. -/
  lastProcess? : Option Nat := none
  skip? : Option Skip := none
  loopDepth : Nat := 0
  functionDepth : Nat := 0
  /-- The line of the last command, and the builtin command that runs. -/
  line : Nat := 1
  command? : Option Bytes := none
  /-- The names of the options that are on. -/
  options : List String := []
  /-- The argument at which the search for options goes on, and the place in the one before it where
  more letters may follow. -/
  optionIndex : Nat := 1
  optionOffset? : Option Nat := none
  /-- The programs that have been found, by their names. -/
  found : List (Bytes × FoundProgram) := []
  /-- The permissions that files are made without. -/
  mask : Nat := 18
  /-- How much of something the shell may use, by the letter for it. -/
  limits : List (Char × Bytes) := []
  /-- The actions for signals, which are ignored if these are empty. -/
  traps : List (Nat × Bytes) := []
  pending : List Nat := []
  reader : Reader := { rest := [] }

/-- How a shell or a program has ended. -/
structure Ending where
  status : Nat
  signal? : Option Nat := none
  deriving DecidableEq, Repr

/-- What is known of a command that runs beside a shell. -/
inductive Progress where
  /-- It has been started at a time, with what the shell kept then. -/
  | started (time : Nat) (scope : Scope) (command : Command)
  | ended (ending : Ending)

def Progress.isRunning : Progress → Bool
  | started .. => true
  | ended _ => false

/-- A command that runs beside a shell. -/
structure Job where
  /-- The number of the job, from 1 on. -/
  number : Nat
  process : Nat
  progress : Progress
  /-- The signals that the shell catches when the job is started. -/
  caught : List Nat := []
  /-- Whether it has had the time to change what is done about signals. -/
  hasBegun : Bool := false
  /-- Whether the shell has waited for its end. -/
  isWaited : Bool := false

structure Session extends Scope where
  world : World := {}
  /-- The jobs beside the shell, the last one first. -/
  jobs : List Job := []

/-- Why a run ends before its commands do. -/
inductive Leave where
  | exit
  | failure
  | killed (signal : Nat)
  deriving DecidableEq, Repr

/-- Runs within a session. -/
abbrev Run := ExceptT Leave (StateM Session)

namespace Session

def lookup? (session : Session) (name : Bytes) : Option Bytes :=
  (session.bindings.lookup name).bind Variable.value?

def setVariable (session : Session) (name : Bytes) (held? : Option Variable) : Session :=
  let others := session.bindings.filter (·.1 ≠ name)
  { session with bindings := (held?.map (name, ·)).toList ++ others }

/-- What is at a location; a stream is only if it leads somewhere. -/
def kindAt? (session : Session) (location : Location) : Option FileKind :=
  match session.world.files.lookup location with
  | some number => some (.text number)
  | none =>
    match Tree.files.lookup location with
    | some (.stream number) =>
      if (session.streams.lookup number).isSome then some (.stream number) else none
    | kind? => kind?

/-- The location to which a path leads. -/
def locate? (session : Session) (path : Bytes) : Option Location :=
  Tree.locate? session.kindAt? session.directory path

/-- What a path leads to. -/
def fileAt? (session : Session) (path : Bytes) : Option FileKind :=
  (session.locate? path).bind session.kindAt?

/-- The text of a file, if there is a file that can be read. -/
def textAt? (session : Session) (path : Bytes) : Option Bytes := do
  match ← session.fileAt? path with
  | .text number => session.world.text? number
  | .stream number => (session.streams.lookup number).bind session.world.unread?
  | .directory | .terminal => none
  | .document | .program | .sink | .full => return []

/-- The names in a directory; the empty path is for the one where paths start. -/
def namesIn (session : Session) (path : Bytes) : List Bytes :=
  match session.locate? (if path.isEmpty then ['.'] else path) with
  | none => []
  | some directory =>
    if session.kindAt? directory = some .directory then
      let made := session.world.files.filterMap fun (file, _) => Tree.nameIn? directory file
      ['.'] :: ['.', '.'] :: made ++ Tree.namesIn directory
    else []

/-- The characters that part fields. -/
def separators (session : Session) : Bytes :=
  (session.lookup? "IFS".toList).getD " \t\n".toList

/-- Leads a stream to an open file, or to nowhere. -/
def setStream (session : Session) (stream : Nat) (file? : Option Nat) : Session :=
  let others := session.streams.filter (·.1 ≠ stream)
  { session with streams := (file?.map (stream, ·)).toList ++ others }

/-- The names of all options, with the letters of those that have one. -/
def optionNames : List (Option Char × String) :=
  [(some 'e', "errexit"), (some 'f', "noglob"), (some 'I', "ignoreeof"), (some 'i', "interactive"),
    (some 'm', "monitor"), (some 'n', "noexec"), (some 's', "stdin"), (some 'x', "xtrace"),
    (some 'v', "verbose"), (some 'V', "vi"), (some 'E', "emacs"), (some 'C', "noclobber"),
    (some 'a', "allexport"), (some 'b', "notify"), (some 'u', "nounset"), (some 'p', "privileged"),
    (none, "nolog"), (none, "debug")]

def hasOption (session : Session) (name : String) : Bool :=
  session.options.contains name

/-- The letters of the options that are on, the last first. -/
def optionLetters (session : Session) : Bytes :=
  ((optionNames.filter fun (_, name) => session.hasOption name).filterMap (·.1)).reverse

/-- Keeps the variable that a local one is about to replace, unless it has been replaced before. -/
def keepVariable (session : Session) (name : Bytes) : Session :=
  let keepIn (frame : Frame) : Frame :=
    if (frame.bindings.lookup name).isSome then frame
    else { frame with bindings := (name, session.bindings.lookup name) :: frame.bindings }
  { session with frames := session.frames.modifyHead keepIn }

/-- Keeps the options, unless they have been kept before. -/
def keepOptions (session : Session) : Session :=
  let keepIn (frame : Frame) : Frame :=
    { frame with options? := frame.options? <|> some session.options }
  { session with frames := session.frames.modifyHead keepIn }

def pushFrame (session : Session) : Session :=
  { session with frames := {} :: session.frames }

/-- Brings back what has been replaced within a function. -/
def popFrame (session : Session) : Session :=
  match session.frames with
  | [] => session
  | frame :: frames =>
    frame.bindings.foldl (fun session (name, held?) => session.setVariable name held?)
      { session with frames, options := frame.options?.getD session.options }

/-- A shell within a shell: it does not catch the signals that the outer one catches, and it has
nothing to read. -/
def within (session : Session) : Session :=
  { session with
    depth := session.depth + 1
    reader := { session.reader with rest := [], bound := 0, line := 1, aliasesInUse := [] }
    traps := session.traps.filter (·.2.isEmpty)
    pending := []
    jobs := [] }

end Session

namespace Run

/-- Writes to a stream, and tells whether that is possible. -/
def write (stream : Nat) (bytes : Bytes) : Run Bool := do
  let session ← get
  match (session.streams.lookup stream).bind (session.world.write? · bytes) with
  | some world =>
    set { session with world }
    return true
  | none => return false

/-- Writes a message, behind the shell's name and the line of the command. -/
def warn (text : Bytes) : Run Unit := do
  let session ← get
  let command := (session.command?.map (· ++ [':', ' '])).getD []
  let _ ← write 2
    (session.name ++ ':' :: ' ' :: decimalText session.line ++ ':' :: ' ' :: command ++ text ++
      ['\n'])

/-- Writes a message, and ends the command. -/
def fail {α : Type} (text : Bytes) : Run α := do
  warn text
  modify fun session => { session with status := 2 }
  throw .failure

/-- Fails because a script cannot be read. -/
def failReading {α : Type} (line : Nat) (reason : String) : Run α := do
  modify fun session => { session with line }
  fail ("Syntax error: ".toList ++ reason.toList)

/-- The value of a text as a count. -/
def count (text : Bytes) : Run Nat := do
  match count? text with
  | some count => return count
  | none => fail ("Illegal number: ".toList ++ text)

/-- What follows the assignment of a value to a variable that the shell itself looks at. -/
def heed (name value : Bytes) : Run Unit := do
  if name = "OPTIND".toList then
    let index ← count value
    modify fun session => { session with optionIndex := max index 1, optionOffset? := none }
  else if name = "PATH".toList then
    modify fun session => { session with found := [] }

/-- Assigns a value to a variable, whatever that means to the shell. -/
def store (name value : Bytes) : Run Unit := do
  let session ← get
  let old := (session.bindings.lookup name).getD {}
  if old.isReadOnly then fail (name ++ ": is read only".toList)
  let isExported := old.isExported || session.hasOption "allexport"
  set (session.setVariable name (some { old with value? := some value, isExported }))

def assign (name value : Bytes) : Run Unit := do
  store name value
  heed name value

/-- A signal that reaches the shell. -/
def receive (signal : Nat) : Run Unit := do
  let session ← get
  match session.traps.lookup signal with
  | some action =>
    if !action.isEmpty && signal ≠ 9 then
      set { session with pending := session.pending ++ [signal] }
    else if signal = 9 then throw (.killed signal)
  | none => if !Signal.isHarmless signal then throw (.killed signal)

/-- Takes the signals that have been sent to the shell from others. -/
def receiveAll : Run Unit := do
  let session ← get
  if session.depth = 0 && !session.hasEnded then
    let (signals, world) := session.world.takeSignals session.process
    set { session with world }
    signals.forM receive

/-- Runs in a shell of its own, and tells how that ended. -/
def apart (run : Run Unit) : Run (Option Leave) := do
  let outer ← get
  let (result, inner) := (run.run outer.within).run
  set { outer with world := inner.world, status := inner.status }
  match result with
  | .ok _ => return none
  | .error leave => return some leave

end Run

end ChangeFeed.Shell
