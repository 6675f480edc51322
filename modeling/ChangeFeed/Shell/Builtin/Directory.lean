/-
# Directories and permissions

The directory where paths start is changed and told.  The path that has led to it is kept by its
names: to go back over a name takes that name away, even if it is that of a link.
-/

import ChangeFeed.Shell.Builtin.Output

namespace ChangeFeed.Shell.Builtin

/-- Goes from names on to others. -/
def follow (names : List Bytes) : List Bytes → List Bytes
  | [] => names
  | ['.', '.'] :: rest => follow names.dropLast rest
  | name :: rest => follow (if name = ['.'] then names else names ++ [name]) rest

/-- The names of a path. -/
def namesOf (path : Bytes) : List Bytes :=
  (Tree.partsOf path).filter fun part => !part.isEmpty

/-- The path to which another leads from a start.  Two slashes in front are kept, and no more. -/
def pathFrom (start path : Bytes) : Bytes :=
  let hasTwo (path : Bytes) : Bool := ['/', '/'].isPrefixOf path && (path[2]?) ≠ some '/'
  let isAbsolute := path.head? = some '/'
  let slashes := if hasTwo (if isAbsolute then path else start) then ['/', '/'] else ['/']
  let names := if isAbsolute then [] else namesOf start
  slashes ++ ['/'].intercalate (follow names (namesOf path))

/-- Whether a path says where it starts. -/
def hasStart (path : Bytes) : Bool :=
  path.head? = some '/' ||
    ((Tree.partsOf path).head?.any fun part => part = ['.'] || part = ['.', '.'])

/-- A path behind a directory, where an empty one stands for the current one. -/
def pathIn (directory path : Bytes) : Bytes :=
  if directory.isEmpty then path else directory ++ '/' :: path

def isDirectory (session : Session) (path : Bytes) : Bool :=
  session.fileAt? path = some .directory

/-- The directory that a text means, and whether that is to be told. -/
def directoryMeant (session : Session) (text : Bytes) : Bytes × Bool :=
  let text := if text.isEmpty then ['.'] else text
  let directories := ((session.lookup? "CDPATH".toList).map (Bytes.splitOn ':')).getD []
  let candidates := directories.map fun directory => (pathIn directory text, !directory.isEmpty)
  let found? :=
    if hasStart text then none
    else candidates.find? fun (path, _) => isDirectory session path
  found?.getD (text, false)

/-- Goes to a directory, if it is there. -/
def enter (isPhysical : Bool) (path : Bytes) : Run Bool := do
  let session ← get
  let logical := pathFrom session.path path
  match session.locate? (if isPhysical then path else logical) with
  | none => return false
  | some directory =>
    if session.kindAt? directory ≠ some .directory then return false
    let path := if isPhysical then Tree.pathTo directory else logical
    let exported (value : Bytes) : Option Variable :=
      some { value? := some value, isExported := true }
    modify fun session =>
      let found := session.found.map fun (name, program) =>
        (name, { program with isStale := true })
      ({ session with directory, path, found }.setVariable "OLDPWD".toList
        (exported session.path)).setVariable "PWD".toList (exported path)
    return true

def changeDirectory (arguments : List Bytes) : Run Nat := do
  let (letters, arguments) ← takeOptions ['L', 'P'] [] arguments
  let session ← get
  let (text, isBack) :=
    match arguments.head? with
    | none => ((session.lookup? "HOME".toList).getD [], false)
    | some ['-'] => ((session.lookup? "OLDPWD".toList).getD [], true)
    | some text => (text, false)
  let (path, isTold) := directoryMeant session text
  if !(← enter (letters.getLast? = some 'P') path) then
    Run.fail ("can't cd to ".toList ++ if text.isEmpty then ['.'] else text)
  if isBack || isTold then emit "cd" ((← get).path ++ ['\n']) 0 else return 0

def tellDirectory (arguments : List Bytes) : Run Nat := do
  let (letters, _) ← takeOptions ['L', 'P'] [] arguments
  let session ← get
  let isPhysical := letters.getLast? = some 'P'
  emit "pwd" ((if isPhysical then Tree.pathTo session.directory else session.path) ++ ['\n']) 0

/-! ## Permissions -/

/-- The three bits of a class of users: their own, their group's, or all others'. -/
def shiftOf (c : Char) : Nat :=
  if c = 'u' then 64 else if c = 'g' then 8 else 1

def bitsOf (c : Char) : Nat :=
  if c = 'r' then 4 else if c = 'w' then 2 else if c = 'x' then 1 else 0

/-- The permissions of a class of users, by their letters. -/
def lettersOfClass (allowed : Nat) (c : Char) : Bytes :=
  c :: '=' :: ['r', 'w', 'x'].filter fun letter => (allowed / shiftOf c) &&& bitsOf letter ≠ 0

/-- Permissions by their letters. -/
def symbolic (allowed : Nat) : Bytes :=
  [','].intercalate (['u', 'g', 'o'].map (lettersOfClass allowed))

/-- Changes the permissions of a class of users as a sign asks for. -/
def change (allowed : Nat) (sign : Char) (bits : Nat) (c : Char) : Nat :=
  let old := (allowed / shiftOf c) &&& 7
  let new := if sign = '=' then bits else if sign = '+' then old ||| bits else old &&& (7 - bits)
  allowed - old * shiftOf c + new * shiftOf c

/-- The permissions behind a change that letters, a sign and letters describe. -/
def applyClause? (allowed : Nat) (clause : Bytes) : Option Nat :=
  let (classes, rest) := clause.span fun c => "ugoa".contains c
  let classes := if classes.isEmpty || classes.contains 'a' then ['u', 'g', 'o'] else classes
  match rest with
  | sign :: letters =>
    if "=+-".contains sign && letters.all fun c => "rwx".contains c then
      let bits := letters.foldl (fun bits c => bits ||| bitsOf c) 0
      some (classes.foldl (fun allowed c => change allowed sign bits c) allowed)
    else none
  | [] => none

/-- Tells or sets the permissions that files are made without. -/
def setMask (arguments : List Bytes) : Run Nat := do
  let (letters, arguments) ← takeOptions ['S'] [] arguments
  let mask := (← get).mask
  let allowed := 511 - mask
  match arguments with
  | [] =>
    let digits := Nat.toDigits 8 mask
    let text :=
      if letters.isEmpty then List.replicate (4 - digits.length) '0' ++ digits
      else symbolic allowed
    emit "umask" (text ++ ['\n']) 0
  | text :: _ =>
    if text.head?.any Char.isDigit then
      if !text.all (isDigitIn 8) then Run.fail ("Illegal number: ".toList ++ text)
      modify fun session => { session with mask := digitsValue 8 text % 512 }
    else
      match (Bytes.splitOn ',' text).foldlM applyClause? allowed with
      | some allowed => modify fun session => { session with mask := 511 - allowed }
      | none => Run.fail ("Illegal mode: ".toList ++ text)
    return 0

end ChangeFeed.Shell.Builtin
