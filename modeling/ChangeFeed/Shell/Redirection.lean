/-
# Redirections

Streams are led to files, to where other streams lead, and to texts within the script.  A file that
is written is made if its directory is there.
-/

import ChangeFeed.Shell.Expansion
import ChangeFeed.Shell.Subshell

namespace ChangeFeed.Shell.Evaluation

/-- What a redirection leads a stream to.  The text of a document is expanded when it does. -/
inductive Destination where
  | file (mode : FileMode) (path : Bytes)
  | stream (number? : Option Nat)
  | document (word : Word)

/-- The stream that a text names. -/
def streamNamed (text : Bytes) : Run (Option Nat) := do
  match text with
  | ['-'] => return none
  | [c] => if c.isDigit then return some (c.toNat - '0'.toNat)
  | _ => pure ()
  Run.failReading (← get).reader.line "Bad fd number"

/-- Expands what a redirection leads to. -/
def resolve (run : Runner) : Redirection → Run (Nat × Destination)
  | (stream, .file mode path) => return (stream, .file mode (← expandText (substitute run) path))
  | (stream, .stream number?) => return (stream, .stream number?)
  | (stream, .namedStream word) =>
    return (stream, .stream (← streamNamed (← expandText (substitute run) word)))
  | (stream, .document number) => do
    return (stream, .document (((← get).reader.documents.lookup number).getD []))

/-- Why a file cannot be opened. -/
def openFault (mode : FileMode) (path : Bytes) (reason : String) : Bytes :=
  let attempt := if mode = .read then "cannot open " else "cannot create "
  attempt.toList ++ path ++ ':' :: ' ' :: reason.toList

/-- What a file is opened for in a mode. -/
def opened (mode : FileMode) : OpenFile :=
  { isReadable := mode = .read || mode = .readWrite
    isWritable := mode ≠ .read
    appends := mode = .append }

/-- Why a file cannot be opened that is not there. -/
def missingFault (mode : FileMode) (path : Bytes) : Bytes :=
  openFault mode path (if mode = .read then "No such file" else "Directory nonexistent")

/-- Makes a file at a location where there is none: its text's number, or what prevents that. -/
def makeFile (world : World) (mode : FileMode) (path : Bytes) (location : Location) :
    Except Bytes (Nat × World) :=
  if mode = .read || location.head? = some "proc".toList then .error (missingFault mode path)
  else if location.head? = some "sys".toList then
    .error (openFault mode path "Permission denied")
  else .ok (world.makeFile location)

/-- Opens a file of a kind: its number, or what prevents that. -/
def openKind (session : Session) (mode : FileMode) (path : Bytes) (kind : FileKind) :
    Except Bytes (Nat × World) :=
  let file := { opened mode with kind }
  let world := session.world
  -- a file that may only be made is not made where something is there already
  let onlyMakes := mode = .write && session.hasOption "noclobber"
  let existing := if onlyMakes then .read else mode
  match kind with
  | .directory =>
    if file.isWritable then .error (openFault existing path "Is a directory")
    else .ok (world.open file)
  | .terminal => .error (openFault existing path "No such device or address")
  | .text text =>
    if onlyMakes then .error (openFault mode path "File exists")
    else
      let isCleared := mode = .write || mode = .replace
      let world :=
        if isCleared then { world with texts := world.texts.set text {} } else world
      .ok (world.open file)
  | .document | .program =>
    if onlyMakes then .error (openFault mode path "File exists") else .ok (world.open file)
  | _ => .ok (world.open file)

/-- Whether a text is that of a file that has been made. -/
def isMade (world : World) (text : Nat) : Bool :=
  world.files.any (·.2 = text)

/-- Opens once more what is open.  A text that is in no file leads where it leads already, and is
empty for one who opens it for what it is not open for. -/
def openAgain (session : Session) (mode : FileMode) (path : Bytes) (number : Nat) :
    Except Bytes (Nat × World) :=
  match session.world.openFiles[number]? with
  | none => .error (missingFault mode path)
  | some { kind := .text text, isReadable, isWritable, .. } =>
    let isOpenForIt := if mode = .read then isReadable else isWritable
    if isMade session.world text then openKind session mode path (.text text)
    else if isOpenForIt then .ok (number, session.world)
    else .ok (session.world.open (opened mode))
  | some file => openKind session mode path file.kind

/-- Opens what is at a location: its number, or what prevents that. -/
def openAt (session : Session) (mode : FileMode) (path : Bytes) (location : Location) :
    Except Bytes (Nat × World) :=
  match session.kindAt? location with
  | none =>
    (makeFile session.world mode path location).map fun (text, world) =>
      world.open { opened mode with kind := .text text }
  | some (.stream own) =>
    match session.streams.lookup own with
    | some number => openAgain session mode path number
    | none => .error (missingFault mode path)
  | some kind => openKind session mode path kind

/-- Leads a stream to a file, or says what prevents that. -/
def leadToFile (session : Session) (stream : Nat) (mode : FileMode) (path : Bytes) :
    Except Bytes Session :=
  match session.locate? path with
  | some location =>
    (openAt session mode path location).map fun (file, world) =>
      { session with world }.setStream stream (some file)
  | none =>
    let withoutSlashes := (path.reverse.dropWhile (· = '/')).reverse
    let isInDirectory := (session.locate? withoutSlashes).isSome
    if mode ≠ .read && path.getLast? = some '/' && isInDirectory then
      .error (openFault mode path "Is a directory")
    else .error (missingFault mode path)

/-- Leads a stream to where another leads, or says what prevents that. -/
def leadToStream (session : Session) (stream other : Nat) : Except Bytes Session :=
  match session.streams.lookup other with
  | some file => .ok (session.setStream stream (some file))
  | none => .error (decimalText other ++ ": Bad file descriptor".toList)

/-- Leads a stream to a destination.  The stream can be closed when that fails. -/
def lead (run : Runner) (isClosed : Bool) : Nat × Destination → Run Unit
  | (stream, .stream none) => modify fun session => session.setStream stream none
  | (stream, .stream (some other)) => do
    match leadToStream (← get) stream other with
    | .ok session => set session
    | .error reason =>
      if isClosed then modify fun session => session.setStream stream none
      Run.fail reason
  | (stream, .document word) => do
    let text ← expandDocument (substitute run) word
    modify fun session =>
      let (number, world) := session.world.addText text
      let (file, world) := world.open { kind := .text number, isReadable := true }
      { session with world }.setStream stream (some file)
  | (stream, .file mode path) => do
    match leadToFile (← get) stream mode path with
    | .ok session => set session
    | .error reason => Run.fail reason

/-- Whether a stream is led to where it leads itself: nothing happens then, even if it is closed. -/
def leadsToItself : Nat × Destination → Bool
  | (stream, .stream (some other)) => stream = other
  | _ => false

/-- Leads streams to destinations up to the first that cannot be: whether there is none.  A stream
that is to be brought back is put aside, and so closed, when it is first led elsewhere. -/
def leadAll (run : Runner) (putsAside : Bool) (destinations : List (Nat × Destination)) :
    Run Bool := do
  let leadNext (earlier : List Nat) (destination : Nat × Destination) : Run (List Nat) := do
    lead run (putsAside && !earlier.contains destination.1) destination
    return destination.1 :: earlier
  tryCatch
    (do
      let _ ← (destinations.filter fun next => !leadsToItself next).foldlM leadNext []
      return true)
    fun leave =>
      match leave with
      | .failure => return false
      | leave => throw leave

/-- Runs something in front of which streams are led to destinations, unless that fails.  They are
brought back behind it; those that it is to keep are only if it leaves the shell. -/
def withStreams {α : Type} (run : Runner) (keepsStreams : Bool)
    (destinations : List (Nat × Destination)) (main : Bool → Run α) : Run α := do
  let streams := (← get).streams
  let bringBack : Run Unit := modify fun session =>
    destinations.foldl (fun session (stream, _) => session.setStream stream (streams.lookup stream))
      session
  let main : Run α := do main (← leadAll run true destinations)
  if keepsStreams then
    tryCatch main fun leave => do
      bringBack
      throw leave
  else Run.endingWith bringBack main

end ChangeFeed.Shell.Evaluation
