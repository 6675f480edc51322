/-
# Service status

What an init system says about a service, read from the output of its status command.  Each of the
three formats has one line that tells: the line that starts with `Active:`, the line whose first
words are the job and its state, and the line that starts with `STATE`.  The first such line counts.
An output without one is unknown, and so is a state that none of the rules names.
-/

import ChangeFeed.Text.Blank
import ChangeFeed.Text.Lines

namespace ChangeFeed

/-- The init systems that services can be installed with. -/
inductive InitSystem where
  | systemd
  | upstart
  | windows
  deriving DecidableEq, Repr

namespace InitSystem

/-- The name of an init system. -/
def label : InitSystem → String
  | systemd => "systemd"
  | upstart => "upstart"
  | windows => "windows"

/-- The init system with a name. -/
def ofLabel? (name : String) : Option InitSystem :=
  [systemd, upstart, windows].find? fun init => init.label == name

/-- The init system whose first process has this name, blanks around it aside. -/
def ofProcessName? (name : String) : Option InitSystem :=
  match Text.trim name with
  | "systemd" => some systemd
  | "init" | "upstart" => some upstart
  | _ => none

end InitSystem

/-- The observed state of a service. -/
inductive ServiceStatus where
  | running
  | stopped
  | notInstalled
  /-- The init system said something else. -/
  | unknown (text : String)
  deriving DecidableEq, Repr

namespace ServiceStatus

/-- The status of an output in which nothing was found. -/
def unrecognised (output : String) : ServiceStatus :=
  unknown (Text.trim output)

/-- The rest of a text after a given start. -/
def after? : List Char → List Char → Option (List Char)
  | [], text => some text
  | _ :: _, [] => none
  | c :: start, d :: text => if c = d then after? start text else none

/-- Whether a text starts in a given way. -/
def startsWith (start : String) (text : List Char) : Bool :=
  start.toList.isPrefixOf text

/-- The state in an `Active:` line. -/
def ofActive (state : List Char) : ServiceStatus :=
  if startsWith "active (running)" state then running
  else if startsWith "inactive" state || startsWith "failed" state then stopped
  else unknown (String.ofList state)

/-- Reads the first line that starts with `Active:`, blanks in front aside. -/
def ofSystemd (output : String) : ServiceStatus :=
  match (Text.lines output).findSome? fun line =>
      after? "Active:".toList (Text.dropBlanks line) with
  | some state => ofActive (Text.trimBlanks state)
  | none => unrecognised output

/-- The word after the job in a line that starts with the job and a blank. -/
def jobState? (job : String) (line : List Char) : Option (List Char) :=
  match after? job.toList (Text.trimBlanks line) with
  | some (c :: rest) => if Text.isBlank c then (Text.words rest).head? else none
  | _ => none

/-- The state in a line of the job, commas at its end aside. -/
def ofJobState (state : List Char) : ServiceStatus :=
  let state := Text.dropEndWhile (· == ',') state
  if state = "start/running".toList then running
  else if startsWith "stop/" state then stopped
  else unknown (String.ofList state)

/-- Reads the first line that names the job and a state. -/
def ofUpstart (job output : String) : ServiceStatus :=
  match (Text.lines output).findSome? (jobState? job) with
  | some state => ofJobState state
  | none => unrecognised output

/-- The state in the last word of a `STATE` line. -/
def ofStateWord (word : List Char) : ServiceStatus :=
  if word = "RUNNING".toList then running
  else if word = "STOPPED".toList then stopped
  else unknown (String.ofList word)

/-- Reads the first line that starts with `STATE`, blanks around it aside. -/
def ofWindows (output : String) : ServiceStatus :=
  match ((Text.lines output).map Text.trimBlanks).find? (startsWith "STATE") with
  | some line =>
    match (Text.words line).getLast? with
    | some word => ofStateWord word
    | none => unrecognised output
  | none => unrecognised output

/-- Reads the output of an init system's status command about a job. -/
def read (init : InitSystem) (job output : String) : ServiceStatus :=
  match init with
  | .systemd => ofSystemd output
  | .upstart => ofUpstart job output
  | .windows => ofWindows output

end ServiceStatus

end ChangeFeed
