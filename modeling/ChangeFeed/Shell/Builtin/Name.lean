/-
# What names stand for

A command's name can be a keyword, an alias, a builtin command, a function or a program.  Programs
are looked for in the directories of `PATH`, and the paths of those that have been found are
remembered.
-/

import ChangeFeed.Shell.Builtin.Output

namespace ChangeFeed.Shell.Builtin

/-- Builtin commands whose errors end the shell. -/
def specials : List String :=
  Reader.specialCommands

/-- All other builtin commands. -/
def others : List String :=
  ["[", "alias", "bg", "cd", "chdir", "command", "echo", "false", "fg", "getopts", "hash", "jobs",
    "kill", "printf", "pwd", "read", "test", "true", "type", "ulimit", "umask", "unalias", "wait"]

def isSpecial (name : Bytes) : Bool :=
  specials.contains (String.ofList name)

def isBuiltin (name : Bytes) : Bool :=
  isSpecial name || others.contains (String.ofList name)

/-! ## Tables -/

/-- The place of a name in a table of so many parts. -/
def partOf (count : Nat) (name : Bytes) : Nat :=
  (name.foldl (fun sum c => sum + c.toNat) (16 * (name.headD '\x00').toNat)) % count

/-- Named things in the order of a table, in which those of one part stay in order. -/
def inTableOrder {α : Type} (count : Nat) (named : List (Bytes × α)) : List (Bytes × α) :=
  named.mergeSort fun (first, _) (second, _) => partOf count first ≤ partOf count second

/-- Sets what a name stands for, at its place or behind all others. -/
def setNamed {α : Type} (named : List (Bytes × α)) (name : Bytes) (held : α) : List (Bytes × α) :=
  if (named.lookup name).isSome then
    named.map fun (other, old) => if other = name then (name, held) else (other, old)
  else named ++ [(name, held)]

/-! ## Programs -/

/-- The directories in which programs are looked for. -/
def searchPath (session : Session) : List Bytes :=
  ((session.lookup? "PATH".toList).map (Bytes.splitOn ':')).getD []

/-- The paths that a name can stand for. -/
def pathsFor (session : Session) (name : Bytes) : List Bytes :=
  (searchPath session).map fun directory =>
    if directory.isEmpty then name else directory ++ '/' :: name

/-- The path of a program, or why it cannot be run. -/
def findProgram (session : Session) (name : Bytes) : Except String Bytes :=
  match session.found.lookup name with
  | some { path, isStale := false } => .ok path
  | _ =>
    let paths := pathsFor session name
    match paths.find? fun path => session.fileAt? path = some .program with
    | some path => .ok path
    | none =>
      .error (if paths.any fun path => (session.fileAt? path).isSome then "Permission denied"
        else "not found")

/-- Remembers the path of a program. -/
def remember (name path : Bytes) : Run Unit :=
  modify fun session => { session with found := setNamed session.found name { path } }

/-- Looks for programs anew, or tells the paths that are remembered. -/
def hash (arguments : List Bytes) : Run Nat := do
  let (letters, names) ← takeOptions ['r'] [] arguments
  if !letters.isEmpty then
    modify fun session => { session with found := [] }
    return 0
  if names.isEmpty then
    let line (program : FoundProgram) : Bytes :=
      program.path ++ if program.isStale then ['*', '\n'] else ['\n']
    emit "hash" ((inTableOrder 31 (← get).found).flatMap fun (_, program) => line program) 0
  else
    names.foldlM (fun status name => do
      modify fun session => { session with found := session.found.filter (·.1 ≠ name) }
      let session ← get
      if (session.functions.lookup name).isSome || isBuiltin name || name.contains '/' then
        return status
      match findProgram session name with
      | .ok path =>
        remember name path
        return status
      | .error reason =>
        Run.warn (name ++ ':' :: ' ' :: reason.toList)
        return 1) 0

/-! ## Aliases -/

/-- The text that sets an alias. -/
def aliasText (name value : Bytes) : Bytes :=
  name ++ '=' :: quoted value ++ ['\n']

/-- Sets aliases, or tells about them. -/
def setAliases (arguments : List Bytes) : Run Nat := do
  if arguments.isEmpty then
    let aliases := inTableOrder 39 (← get).reader.aliases
    emit "alias" (aliases.flatMap fun (name, value) => aliasText name value) 0
  else
    arguments.foldlM (fun status argument => do
      let reader := (← get).reader
      let (start, rest) := argument.splitAt 1
      match rest.span (· ≠ '=') with
      | (name, '=' :: value) =>
        let aliases := setNamed reader.aliases (start ++ name) value
        modify fun session => { session with reader := { reader with aliases } }
        return status
      | _ =>
        match reader.aliases.lookup argument with
        | some value => emit "alias" (aliasText argument value) status
        | none =>
          let _ ← Run.write 2 ("alias: ".toList ++ argument ++ " not found\n".toList)
          return 1) 0

/-- Takes aliases away. -/
def takeAliases (arguments : List Bytes) : Run Nat := do
  let (letters, names) ← takeOptions ['a'] [] arguments
  let keep (isKept : Bytes → Bool) : Run Unit :=
    modify fun session =>
      let aliases := session.reader.aliases.filter fun (name, _) => isKept name
      { session with reader := { session.reader with aliases } }
  if !letters.isEmpty then
    keep fun _ => false
    return 0
  names.foldlM (fun status name => do
    if ((← get).reader.aliases.lookup name).isSome then
      keep (· ≠ name)
      return status
    let _ ← Run.write 2 ("unalias: ".toList ++ name ++ " not found\n".toList)
    return 1) 0

/-! ## Descriptions -/

/-- What a command's name stands for, in words or only by what it is called with. -/
def describe (isVerbose : Bool) (name : Bytes) : Run Nat := do
  let session ← get
  let line (about : Bytes) (brief : Bytes) : Run Nat :=
    emit "type" ((if isVerbose then name ++ ' ' :: about else brief) ++ ['\n']) 0
  let unknown : Run Nat :=
    if isVerbose then emit "type" (name ++ ": not found\n".toList) 127 else return 127
  if Reader.keywords.contains (String.ofList name) then line "is a shell keyword".toList name
  else if let some value := session.reader.aliases.lookup name then
    line ("is an alias for ".toList ++ value) ("alias ".toList ++ (aliasText name value).dropLast)
  else if isSpecial name then line "is a special shell builtin".toList name
  else if (session.functions.lookup name).isSome then line "is a shell function".toList name
  else if isBuiltin name then line "is a shell builtin".toList name
  else if name.contains '/' then
    if (session.fileAt? name).isSome then line ("is ".toList ++ name) name else unknown
  else
    match findProgram session name with
    | .ok path =>
      let tracked := if (session.found.lookup name).isSome then "a tracked alias for " else ""
      remember name path
      line ("is ".toList ++ tracked.toList ++ path) path
    | .error _ => unknown

def describeAll (isVerbose : Bool) (names : List Bytes) : Run Nat :=
  names.foldlM (fun status name => do return status ||| (← describe isVerbose name)) 0

end ChangeFeed.Shell.Builtin
