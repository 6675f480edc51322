/-
# Builtin commands for variables

Variables are marked, unset, made local to a function, and read from a line of the first stream.
-/

import ChangeFeed.Shell.Builtin.Output
import ChangeFeed.Shell.Splitting

namespace ChangeFeed.Shell.Builtin

/-- A name and the value that is assigned to it, if there is one. -/
def splitAssignment (argument : Bytes) : Bytes × Option Bytes :=
  match argument.span (· ≠ '=') with
  | (name, '=' :: value) => (name, some value)
  | (name, _) => (name, none)

def checkName (name : Bytes) : Run Unit :=
  if isName name then return ()
  else Run.fail (name ++ ": bad variable name".toList)

/-- Lists variables by their names, as commands that assign their values behind a start. -/
def listVariables (command : String) (start : Bytes) (isListed : Variable → Bool) : Run Nat := do
  let listed := (← get).bindings.filter fun (_, held) => isListed held
  let lines := (listed.mergeSort fun first second => !decide (second.1 < first.1)).map
    fun (name, held) =>
      let value := (held.value?.map fun value => '=' :: quoted value).getD []
      start ++ name ++ value ++ ['\n']
  emit command lines.flatten 0

/-- Lists marked variables, as commands that mark them. -/
def listMarked (name : String) (isMarked : Variable → Bool) : Run Nat :=
  listVariables name (name.toList ++ [' ']) isMarked

/-- Marks variables, to which values may be assigned first, or lists those that are marked. -/
def mark (name : String) (isMarked : Variable → Bool) (change : Variable → Variable)
    (arguments : List Bytes) : Run Nat := do
  match arguments with
  | ('-' :: 'p' :: _) :: _ => listMarked name isMarked
  | _ =>
    let (_, arguments) ← takeOptions [] [] arguments
    if arguments.isEmpty then listMarked name isMarked
    else
      arguments.forM fun argument => do
        let (name, value?) := splitAssignment argument
        checkName name
        if let some value := value? then Run.assign name value
        modify fun session =>
          session.setVariable name (some (change ((session.bindings.lookup name).getD {})))
      return 0

def unset (arguments : List Bytes) : Run Nat := do
  let (letters, arguments) ← takeOptions ['v', 'f'] [] arguments
  arguments.forM fun name => do
    if letters.getLast? = some 'f' then
      modify fun session =>
        { session with functions := session.functions.filter (·.1 ≠ name) }
    else
      checkName name
      let session ← get
      if ((session.bindings.lookup name).map Variable.isReadOnly).getD false then
        Run.fail (name ++ ": is read only".toList)
      set (session.setVariable name none)
      Run.heed name []
  return 0

/-- Makes variables local to the function that runs, or to a command in front of which values are
assigned; a hyphen stands for the options. -/
def makeLocal (arguments : List Bytes) : Run Nat := do
  if (← get).frames.isEmpty then Run.fail "not in a function".toList
  arguments.forM fun argument => do
    if argument = ['-'] then modify Session.keepOptions
    else
      let (name, value?) := splitAssignment argument
      checkName name
      modify fun session => session.keepVariable name
      if let some value := value? then Run.assign name value
  return 0

/-- What has been read of a line, for splitting, and how many characters were taken; and whether the
line has an end.  A character behind a backslash does not part words, and an end of line there is
left out, as null characters are. -/
def takeLine (isRaw : Bool) : (isEscaped : Bool) → Bytes → List Segment × Nat × Bool
  | _, [] => ([], 0, false)
  | isEscaped, c :: rest =>
    if c = '\n' && !isEscaped then ([], 1, true)
    else
      let escapes := c = '\\' && !isEscaped && !isRaw
      let (segments, count, isWhole) :=
        takeLine isRaw (escapes || isEscaped && c = '\x00') rest
      let segments :=
        if escapes || c = '\x00' then segments
        else if isEscaped then ⟨.whole, if c = '\n' then [] else [.char c true]⟩ :: segments
        else Segment.cons (.char c false) .split segments
      (segments, count + 1, isWhole)

/-- Reads a line into variables. -/
def read (arguments : List Bytes) : Run Nat := do
  let (letters, names) ← takeOptions ['r'] ['p'] arguments
  if names.isEmpty then Run.fail "arg count".toList
  let session ← get
  match (session.streams.lookup 0).bind fun file =>
      (session.world.unread? file).map (file, ·) with
  | none => return 1
  | some (file, text) =>
    let (segments, count, isWhole) := takeLine (letters.contains 'r') false text
    modify fun session => { session with world := session.world.advance file count }
    let fields := fieldsOf session.separators (some names.length) segments
    let words := fields.map Piece.textOf
    let missing := List.replicate (names.length - words.length) []
    (names.zip (words ++ missing)).forM fun (name, value) => do
      checkName name
      Run.assign name value
    return if isWhole then 0 else 1

end ChangeFeed.Shell.Builtin
