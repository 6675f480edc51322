/-
# Arguments and options of a shell

The arguments are shifted, replaced and searched for options.  Options of the shell itself are
turned on and off by their letters or their names.
-/

import ChangeFeed.Shell.Builtin.Variable

namespace ChangeFeed.Shell.Builtin

def shift (arguments : List Bytes) : Run Nat := do
  let count ←
    match arguments with
    | [] => pure 1
    | argument :: _ => Run.count argument
  let session ← get
  if session.arguments.length < count then Run.fail "can't shift that many".toList
  set { session with
    arguments := session.arguments.drop count, optionIndex := 1, optionOffset? := none }
  return 0

/-- Turns an option on or off by its name. -/
def setOption (isOn : Bool) (name : String) : Run Unit :=
  modify fun session =>
    let others := session.options.filter (· ≠ name)
    { session with options := if isOn then name :: others else others }

/-- Lists the options, or the commands that set them. -/
def listOptions (asTable : Bool) (isOn : String → Bool) : Run Unit := do
  let line (name : String) : String :=
    if asTable then
      String.ofList (name.toList ++ List.replicate (16 - name.length) ' ') ++
        if isOn name then "on" else "off"
    else (if isOn name then "set -o " else "set +o ") ++ name
  let lines := Session.optionNames.map fun (_, name) => line name
  let lines := if asTable then "Current option settings" :: lines else lines
  let _ ← emit "set" (lines.flatMap fun line => line.toList ++ ['\n']) 0

/-- What options in front of arguments ask for. -/
structure Settings where
  /-- Whether a script follows. -/
  hasScript : Bool := false
  /-- Whether what follows becomes the arguments, even if it is nothing. -/
  hasArguments : Bool := false
  rest : List Bytes := []
  /-- The names of the options that have been turned off. -/
  turnedOff : List String := []

/-- Turns an option on or off. -/
def Settings.set (settings : Settings) (isOn : Bool) (name : String) : Run Settings := do
  setOption isOn name
  let others := settings.turnedOff.filter (· ≠ name)
  return { settings with turnedOff := if isOn then others else name :: others }

/-- Sets the options of a letter; an `o` takes the name of one from the arguments, or lists them
all.  In a shell that starts, those count as on that have not been turned off. -/
def setByLetter (atStart isOn : Bool) (settings : Settings) (c : Char) : Run Settings := do
  if atStart && c = 'c' then return { settings with hasScript := true }
  if atStart && c = 'l' then return settings
  if c = 'o' then
    match settings.rest with
    | [] =>
      let session ← get
      listOptions isOn fun name =>
        if atStart then !settings.turnedOff.contains name else session.hasOption name
      return settings
    | name :: rest =>
      match Session.optionNames.find? (·.2.toList = name) with
      | some (_, name) => Settings.set { settings with rest } isOn name
      | none => Run.fail ("Illegal option -o ".toList ++ name)
  else
    match Session.optionNames.find? (·.1 = some c) with
    | some (_, name) =>
      let settings ← settings.set isOn name
      -- lines are edited in one way at most
      if isOn && c = 'V' then settings.set false "emacs"
      else if isOn && c = 'E' then settings.set false "vi"
      else return settings
    | none => Run.fail ("Illegal option ".toList ++ [if isOn then '-' else '+', c])

/-- Sets the options in front of arguments, in at most `fuel` steps.  A shell that starts takes more
of them. -/
def takeSettings (atStart : Bool) : Nat → Settings → Run Settings
  | 0, settings => return settings
  | fuel + 1, settings => do
    match settings.rest with
    | ['-'] :: rest =>
      if !atStart then
        setOption false "xtrace"
        setOption false "verbose"
      return { settings with rest }
    | ['-', '-'] :: rest => return { settings with rest, hasArguments := true }
    | (sign :: letters) :: rest =>
      if sign ≠ '-' && sign ≠ '+' then return settings
      let settings ←
        letters.foldlM (setByLetter atStart (sign = '-')) { settings with rest }
      takeSettings atStart fuel settings
    | _ => return settings

/-- Turns off what only a terminal allows. -/
def leaveTerminal : Run Unit := do
  if (← get).hasOption "monitor" then
    Run.warn "can't access tty; job control turned off".toList
    setOption false "monitor"

/-- Turns options on and off and replaces the arguments, or lists the variables. -/
def configure (arguments : List Bytes) : Run Nat := do
  if arguments.isEmpty then return ← listVariables "set" [] fun held => held.value?.isSome
  let settings ← takeSettings false (arguments.length + 1) { rest := arguments }
  leaveTerminal
  if settings.hasArguments || !settings.rest.isEmpty then
    modify fun session =>
      { session with arguments := settings.rest, optionIndex := 1, optionOffset? := none }
  return 0

/-! ## Options of the arguments -/

/-- The letters of an argument that follow its hyphen, if it has any and does not end the
options. -/
def optionLetters? : Option Bytes → Option Bytes
  | some ('-' :: c :: letters) =>
    if c = '-' && letters.isEmpty then none else some (c :: letters)
  | _ => none

/-- Whether an option takes an argument, if the list of options has it. -/
def optionKind? (c : Char) : Bytes → Option Bool
  | [] => none
  | option :: ':' :: rest =>
    if option = c then some true else optionKind? c rest
  | option :: rest => if option = c then some false else optionKind? c rest

/-- What has been found where options are looked for. -/
structure FoundOption where
  /-- The letter, or a sign that there is none or that something is wrong with it. -/
  letter : Char := '?'
  /-- The argument of the option, or the letter that is wrong. -/
  argument? : Option Bytes := none
  complaint? : Option String := none
  /-- The index of the next argument, and the place in the one before it where letters follow. -/
  index : Nat
  offset? : Option Nat := none

/-- Finds what a letter stands for, in front of more letters of the argument before an index. -/
def findOption (options : Bytes) (arguments : List Bytes) (index offset : Nat) (c : Char)
    (more : Bytes) : FoundOption :=
  let isQuiet := options.head? = some ':'
  let wrong (letter : Char) (reason : String) : FoundOption :=
    if isQuiet then { letter, argument? := some [c], index, offset? := some offset }
    else { complaint? := some reason, index, offset? := some offset }
  match optionKind? c options with
  | none => wrong '?' (String.ofList ("Illegal option -".toList ++ [c]))
  | some false => { letter := c, argument? := some [], index, offset? := some offset }
  | some true =>
    if !more.isEmpty then { letter := c, argument? := some more, index }
    else
      match arguments[index - 1]? with
      | some argument => { letter := c, argument? := some argument, index := index + 1 }
      | none =>
        { wrong ':' (String.ofList ("No arg for -".toList ++ c :: " option".toList)) with
          offset? := none }

/-- Looks for the next option among arguments; there may be none. -/
def nextOption (options : Bytes) (arguments : List Bytes) (index : Nat) (offset? : Option Nat) :
    Bool × FoundOption :=
  let last := if 1 < index then arguments[index - 2]? else none
  let letters := ((last.bind fun word => offset?.map word.drop).getD [])
  match letters with
  | c :: more => (true, findOption options arguments index (offset?.getD 0 + 1) c more)
  | [] =>
    match arguments[index - 1]? with
    | some ['-', '-'] => (false, { index := index + 1 })
    | argument? =>
      match optionLetters? argument? with
      | some (c :: more) => (true, findOption options arguments (index + 1) 2 c more)
      | _ => (false, { index })

def findOptions (arguments : List Bytes) : Run Nat := do
  match (← takeOptions [] [] arguments).2 with
  | options :: name :: rest =>
    let session ← get
    let words := if rest.isEmpty then session.arguments else rest
    let isBehind := words.length + 1 < session.optionIndex
    let index := if isBehind then 1 else session.optionIndex
    let offset? := if isBehind then none else session.optionOffset?
    let (isThere, found) := nextOption options words index offset?
    if isThere then
      if let some complaint := found.complaint? then
        let _ ← Run.write 2 (complaint.toList ++ ['\n'])
      match found.argument? with
      | some argument => Run.store "OPTARG".toList argument
      | none => modify fun session => session.setVariable "OPTARG".toList none
    Run.store "OPTIND".toList (decimalText found.index)
    if !isName name then Run.fail (name ++ ": bad variable name".toList)
    Run.assign name [found.letter]
    modify fun session =>
      { session with optionIndex := found.index, optionOffset? := found.offset? }
    return if isThere then 0 else 1
  | _ => Run.fail "Usage: getopts optstring var [arg...]".toList

end ChangeFeed.Shell.Builtin
