/-
# Builtin commands

The commands that a shell runs itself and that run no other commands.  Each has a status.
-/

import ChangeFeed.Shell.Builtin.Arguments
import ChangeFeed.Shell.Builtin.Directory
import ChangeFeed.Shell.Builtin.Kill
import ChangeFeed.Shell.Builtin.Name
import ChangeFeed.Shell.Builtin.Trap
import ChangeFeed.Shell.Condition

namespace ChangeFeed.Shell.Builtin

/-! ## Leaving -/

/-- The number that says how many loops are meant. -/
def loopCount (arguments : List Bytes) : Run Nat := do
  let count ←
    match arguments with
    | [] => pure 1
    | argument :: _ =>
      let count ← Run.count argument
      if count = 0 then Run.fail ("Illegal number: ".toList ++ argument)
      pure count
  return min count (← get).loopDepth

def leaveLoops (skip : Nat → Skip) (arguments : List Bytes) : Run Nat := do
  let count ← loopCount arguments
  if 0 < count then modify fun session => { session with skip? := some (skip count) }
  return 0

def «return» (arguments : List Bytes) : Run Nat := do
  let status ←
    match arguments with
    | [] => pure (← get).status
    | argument :: _ => Run.count argument
  modify fun session => { session with skip? := some .returns }
  return status

/-- Ends the shell.  Without a status of its own, the action of a trap ends it with the status from
before. -/
def exit {α : Type} (arguments : List Bytes) : Run α := do
  let session ← get
  let status ←
    match arguments with
    | [] => pure (session.trappedStatus?.getD session.status)
    | argument :: _ => Run.count argument
  modify fun session => { session with status }
  throw .exit

/-! ## Conditions -/

/-- Whether a path ends in a link. -/
def isLink (session : Session) (path : Bytes) : Bool :=
  let names := Tree.partsOf path
  match names.getLast?, session.locate? (['/'].intercalate (names.dropLast ++ [['.']])) with
  | some name, some directory => (Tree.links.lookup (directory ++ [name])).isSome
  | _, _ => false

/-- What `test` can ask about files. -/
def facts (session : Session) : Condition.Facts where
  holds letter path :=
    let kind? := session.fileAt? path
    let isDirectory := kind? = some .directory
    match letter with
    | 'e' | 'r' | 'w' | 'O' | 'G' => kind?.isSome
    | 'd' => isDirectory
    | 'x' => isDirectory || kind? = some .program
    | 'f' =>
      match kind? with
      | some (.text _) | some .document | some .program => true
      | _ => false
    | 's' =>
      match kind? with
      | some (.text _) => (session.textAt? path).any fun text => !text.isEmpty
      | some .directory | some .document | some .program => true
      | _ => false
    | 'c' => [some .sink, some .full, some .terminal].contains kind?
    | 'h' | 'L' => isLink session path
    | 'k' =>
      (session.locate? path).any [["tmp".toList], ["var".toList, "tmp".toList]].contains
    | _ => false

/-- The status of a condition. -/
def test (name : Bytes) (arguments : List Bytes) : Run Nat := do
  let isBracket := name = ['[']
  if isBracket && arguments.getLast? ≠ some [']'] then Run.fail "missing ]".toList
  let arguments := if isBracket then arguments.dropLast else arguments
  match Condition.evaluate (facts (← get)) false arguments with
  | .ok result => return if result then 0 else 1
  | .error reason => Run.fail reason

/-! ## Others -/

/-- Tells or sets what the shell may use. -/
def limit (arguments : List Bytes) : Run Nat := do
  let (letters, arguments) ← takeOptions "HSatfdscmlpnvwr".toList [] arguments
  let letter := ((letters.filter fun c => c ≠ 'H' && c ≠ 'S').getLast?).getD 'f'
  match arguments with
  | [] =>
    let limit := ((← get).limits.lookup letter).getD "unlimited".toList
    emit "ulimit" (limit ++ ['\n']) 0
  | _ :: _ :: _ => Run.fail "too many arguments".toList
  | [limit] =>
    if limit ≠ "unlimited".toList && !limit.all Char.isDigit then Run.fail "bad number".toList
    modify fun session =>
      let others := session.limits.filter (·.1 ≠ letter)
      { session with limits := (letter, limit) :: others }
    return 0

/-- Tells the time that processes have taken, which is none. -/
def times : Run Nat :=
  emit "times" "0m0.000000s 0m0.000000s\n0m0.000000s 0m0.000000s\n".toList 0

/-- Runs a builtin command that runs no others. -/
def run (name : Bytes) (arguments : List Bytes) : Run Nat :=
  match String.ofList name with
  | "echo" => emit "echo" (echo arguments) 0
  | "printf" => printf arguments
  | "kill" => kill arguments
  | "trap" => trap arguments
  | "false" => return 1
  | "test" | "[" => test name arguments
  | "exit" => exit arguments
  | "return" => «return» arguments
  | "break" => leaveLoops .breaks arguments
  | "continue" => leaveLoops .continues arguments
  | "shift" => shift arguments
  | "set" => configure arguments
  | "export" =>
    mark "export" Variable.isExported (fun held => { held with isExported := true }) arguments
  | "readonly" =>
    mark "readonly" Variable.isReadOnly (fun held => { held with isReadOnly := true }) arguments
  | "unset" => unset arguments
  | "local" => makeLocal arguments
  | "read" => read arguments
  | "type" => describeAll true arguments
  | "hash" => hash arguments
  | "alias" => setAliases arguments
  | "unalias" => takeAliases arguments
  | "cd" | "chdir" => changeDirectory arguments
  | "pwd" => tellDirectory arguments
  | "umask" => setMask arguments
  | "ulimit" => limit arguments
  | "times" => times
  | "jobs" => listJobs arguments
  | "fg" | "bg" => moveJob arguments
  | "getopts" => findOptions arguments
  | _ => return 0

end ChangeFeed.Shell.Builtin
