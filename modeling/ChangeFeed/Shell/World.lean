/-
# What shells share

The texts that have been written, the files that are open and those that have been made, the
processes that run, and the signals on their way.  Time passes only while a process sleeps.
-/

import ChangeFeed.Shell.Tree

namespace ChangeFeed.Shell

/-- A file that is open.  All but texts are empty, and what is written to them is lost. -/
structure OpenFile where
  kind : FileKind := .sink
  position : Nat := 0
  isReadable : Bool := false
  isWritable : Bool := false
  /-- Whether everything is written at the end. -/
  appends : Bool := false
  deriving DecidableEq, Repr

/-- A text that has been written: a start, and what has been added to it, the last first. -/
structure Written where
  start : Bytes := []
  added : List Bytes := []
  /-- How many bytes there are in all. -/
  size : Nat := start.length
  deriving DecidableEq, Repr

namespace Written

def bytes (written : Written) : Bytes :=
  match written.added with
  | [] => written.start
  | added => written.start ++ added.reverse.flatten

/-- The same text in one piece. -/
def joined (written : Written) : Written :=
  { start := written.bytes, size := written.size }

def add (written : Written) (bytes : Bytes) : Written :=
  { written with added := bytes :: written.added, size := written.size + bytes.length }

/-- The text with bytes in the place of what it has from a position on. -/
def overwrite (written : Written) (position : Nat) (bytes : Bytes) : Written :=
  if written.size ≤ position then
    (written.add (List.replicate (position - written.size) '\x00')).add bytes
  else
    let text := written.bytes
    { start := text.take position ++ (bytes ++ text.drop (position + bytes.length)) }

end Written

structure World where
  texts : List Written := []
  openFiles : List OpenFile := []
  /-- The files that have been made, with the numbers of their texts. -/
  files : List (Location × Nat) := []
  /-- The processes that run, and the signals that have not reached theirs. -/
  processes : List Nat := []
  signals : List (Nat × Nat) := []
  processCount : Nat := 1000
  /-- The time since the start, in microseconds. -/
  clock : Nat := 0
  deriving DecidableEq, Repr

namespace World

/-- Opens a file, and tells its number. -/
def «open» (world : World) (file : OpenFile) : Nat × World :=
  (world.openFiles.length, { world with openFiles := world.openFiles ++ [file] })

/-- Adds a text, and tells its number. -/
def addText (world : World) (text : Bytes) : Nat × World :=
  (world.texts.length, { world with texts := world.texts ++ [{ start := text }] })

/-- A text that has been written, by its number. -/
def text? (world : World) (number : Nat) : Option Bytes :=
  (world.texts[number]?).map Written.bytes

/-- Opens a new text from which what is written can be read: the numbers of the files to read and to
write. -/
def openPipe (world : World) : Nat × Nat × World :=
  let (text, world) := world.addText []
  let (reading, world) := world.open { kind := .text text, isReadable := true }
  let (writing, world) := world.open { kind := .text text, isWritable := true, appends := true }
  (reading, writing, world)

/-- Closes what has been opened since an earlier time, unless a file has been made since then. -/
def closeSince (world earlier : World) : World :=
  if world.files.length = earlier.files.length then
    { world with
      texts := world.texts.take earlier.texts.length
      openFiles := world.openFiles.take earlier.openFiles.length }
  else world

/-- Makes an empty file. -/
def makeFile (world : World) (location : Location) : Nat × World :=
  let (number, world) := world.addText []
  (number, { world with files := (location, number) :: world.files })

/-- Writes to an open file, if that is possible. -/
def write? (world : World) (number : Nat) (bytes : Bytes) : Option World := do
  let file ← world.openFiles[number]?
  if !file.isWritable then none
  match file.kind with
  | .text text =>
    if file.appends then return { world with texts := world.texts.modify text (·.add bytes) }
    let position := file.position + bytes.length
    return { world with
      texts := world.texts.modify text (·.overwrite file.position bytes)
      openFiles := world.openFiles.set number { file with position } }
  | .full => none
  | _ => return world

/-- What can still be read of an open file. -/
def unread? (world : World) (number : Nat) : Option Bytes := do
  let file ← world.openFiles[number]?
  if !file.isReadable then none
  match file.kind with
  | .text text => return ((world.text? text).getD []).drop file.position
  | .directory => none
  | _ => return []

/-- Goes on in an open file, whose text is in one piece from then on. -/
def advance (world : World) (number count : Nat) : World :=
  let texts :=
    match (world.openFiles[number]?).map OpenFile.kind with
    | some (.text text) => world.texts.modify text Written.joined
    | _ => world.texts
  { world with
    texts
    openFiles := world.openFiles.modify number fun file =>
      { file with position := file.position + count } }

/-- A new process. -/
def addProcess (world : World) : Nat × World :=
  let number := world.processCount + 1
  (number, { world with processes := number :: world.processes, processCount := number })

/-- Ends a process, which signals do not reach any more. -/
def endProcess (world : World) (number : Nat) : World :=
  { world with
    processes := world.processes.filter (· ≠ number)
    signals := world.signals.filter (·.1 ≠ number) }

/-- Takes the signals that are on their way to a process. -/
def takeSignals (world : World) (number : Nat) : List Nat × World :=
  let (its, others) := world.signals.partition (·.1 = number)
  (its.map (·.2), { world with signals := others })

end World

end ChangeFeed.Shell
