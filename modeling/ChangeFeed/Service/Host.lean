/-
# The host of a service

A host runs commands and holds the definition file of one service.  Its commands answer from a
prepared list, and succeed without output when the list is used up; every call is recorded.  The
directory of definition files is created when it is needed, unless a plain file has taken its place,
and a file name may have 255 bytes at most.
-/

import ChangeFeed.Service.Definition

namespace ChangeFeed

/-- Why a service operation failed. -/
inductive ServiceError where
  /-- A file could not be written, or a command not be started. -/
  | io
  /-- A command ran and failed. -/
  | commandFailed (command stderr : String)
  | unsupportedPlatform (name : String)
  | invalidSpec (reason : String)
  deriving DecidableEq, Repr

/-- The name of a kind of failure. -/
def ServiceError.kind : ServiceError → String
  | .io => "Io"
  | .commandFailed _ _ => "CommandFailed"
  | .unsupportedPlatform _ => "UnsupportedPlatform"
  | .invalidSpec _ => "InvalidSpec"

def ServiceError.message : ServiceError → String
  | .io => "Service file I/O failed"
  | .commandFailed command stderr => "`" ++ command ++ "` failed: " ++ stderr
  | .unsupportedPlatform name => "Unsupported init system: " ++ name
  | .invalidSpec reason => "Invalid service definition: " ++ reason

/-- What a command left behind. -/
structure CommandOutput where
  success : Bool
  stdout : String := ""
  stderr : String := ""
  deriving DecidableEq, Repr

/-- A prepared answer to a command; without output the command cannot be started. -/
abbrev CommandAnswer := Option CommandOutput

structure Host where
  answers : List CommandAnswer := []
  /-- Every command so far with its arguments, oldest first. -/
  calls : List (String × List String) := []
  /-- Whether a plain file stands where the directory should be. -/
  blocked : Bool := false
  /-- The text of the definition file, if there is one. -/
  file : Option String := none
  deriving DecidableEq, Repr

/-- An operation on a host that may fail; what it did before it failed stays done. -/
abbrev HostAction := ExceptT ServiceError (StateM Host)

namespace Host

/-- The most bytes in a file name. -/
def maxFileName : Nat := 255

/-- Runs a command and records the call. -/
def run (program : String) (args : List String) : HostAction CommandOutput := do
  let host ← getThe Host
  let host := { host with calls := host.calls ++ [(program, args)] }
  match host.answers with
  | [] =>
    set host
    return { success := true }
  | answer :: rest =>
    set { host with answers := rest }
    match answer with
    | none => throw .io
    | some output => return output

/-- A command as messages name it. -/
def commandText (program : String) (args : List String) : String :=
  program ++ " " ++ " ".intercalate args

/-- The failure of a command that ran. -/
def failure (program : String) (args : List String) (output : CommandOutput) : ServiceError :=
  .commandFailed (commandText program args) (Text.trim output.stderr)

/-- Runs a command that has to succeed. -/
def runChecked (program : String) (args : List String) : HostAction CommandOutput := do
  let output ← run program args
  if output.success then return output else throw (failure program args output)

/-- Writes the definition file, creating its directory if need be. -/
def writeFile (file : DefinitionFile) : HostAction Unit := do
  let host ← getThe Host
  if host.blocked || file.name.utf8ByteSize > maxFileName then throw .io
  set { host with file := some file.text }

/-- Whether the definition file is there. -/
def hasFile : HostAction Bool := do
  return (← getThe Host).file.isSome

/-- Removes the definition file; tells whether there was one. -/
def deleteFile (host : Host) : Bool × Host :=
  (host.file.isSome, { host with file := none })

/-- Puts a plain file in the place of the directory. -/
def blockDirectory (host : Host) : Host :=
  { host with blocked := true, file := none }

end Host

end ChangeFeed
