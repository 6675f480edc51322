/-
# Reading commands

A script is read line by line, and a command that is open at the end of a line goes on with the
next.  Commands are joined by `;`, `&` and ends of lines, and more tightly by `&&` and `||`, by `|`,
and by a `!` in front.  A keyword is one only where a command can start.
-/

import ChangeFeed.Shell.Reader

namespace ChangeFeed.Shell.Reader

/-- How far a list of commands extends. -/
inductive Extent where
  /-- To the end of the line. -/
  | line
  /-- To a token that ends a list, with at least one command. -/
  | body
  /-- To a token that ends a list. -/
  | anything
  deriving DecidableEq, Repr

/-- Whether a token ends a list of commands. -/
def endsList : Token → Bool
  | .endOfText => true
  | .sign text => text = ")" || text = ";;"
  | .keyword text =>
    ["do", "done", "elif", "else", "esac", "fi", "then", "\x7d"].contains text
  | _ => false

/-- Builtin commands that no function can replace. -/
def specialCommands : List String :=
  [".", ":", "break", "continue", "eval", "exec", "exit", "export", "local", "readonly", "return",
    "set", "shift", "times", "trap", "unset"]

/-- Commands one after another, the last of which is given first; none is no command at all. -/
def join : List Command → Option Command
  | [] => none
  | [command] => some command
  | commands => some (.sequence commands.reverse)

/-- Reads a token that must be the given one. -/
def expect (commands : CommandReading) (token : Token) : Reading Unit := do
  if (← takeToken commands .word) ≠ token then unexpected (some token)

/-- Reads the end of a text that is reached within a list. -/
def endText (commands : CommandReading) : Reading Unit := do
  takeDocuments commands
  modify fun reader => { reader with token := .endOfText, isGivenBack := true }

/-- Asks for the text of a here-document: its number. -/
def await (dropsTabs : Bool) : Reading Nat :=
  modifyGet fun reader =>
    let number := reader.documentCount
    let document : AwaitedDocument :=
      ⟨number, charsOf reader.word, dropsTabs, reader.isQuoted⟩
    (number, { reader with
      awaited := reader.awaited ++ [document], documentCount := number + 1 })

/-- The stream that a word names, if it can be told before the word is expanded. -/
def streamTarget (word : Word) : Target :=
  match word with
  | [.char c false] =>
    if c.isDigit then .stream (some (c.toNat - '0'.toNat))
    else if c = '-' then .stream none
    else .namedStream word
  | word => .namedStream word

/-- Reads the word behind the sign of a redirection, which has been read. -/
def takeTarget (commands : CommandReading) : Reading Redirection := do
  let (stream, kind) := (← get).redirection
  let purpose :=
    match kind with
    | .document _ => .mark
    | _ => .word
  if (← takeToken commands purpose) ≠ .word then unexpected none
  let word := (← get).word
  match kind with
  | .file mode => return (stream, .file mode word)
  | .stream => return (stream, streamTarget word)
  | .document dropsTabs => return (stream, .document (← await dropsTabs))

/-- Reads redirections, in at most `fuel` steps. -/
def takeRedirections (commands : CommandReading) : Nat → Place → Reading (List Redirection)
  | 0, _ => return []
  | fuel + 1, place => do
    if (← nextToken commands place) = .redirection then
      let redirection ← takeTarget commands
      return redirection :: (← takeRedirections commands fuel {})
    else
      giveBack
      return []

/-- A simple command under construction, with the last part of each kind in front. -/
structure SimpleDraft where
  assignments : List Word := []
  words : List Word := []
  redirections : List Redirection := []

def SimpleDraft.toCommand (draft : SimpleDraft) (line : Nat) : Command :=
  .simple line draft.assignments.reverse draft.words.reverse draft.redirections.reverse

/-- The word of a function's definition, if a parenthesis behind a command can define one. -/
def SimpleDraft.functionName? (draft : SimpleDraft) : Option Word :=
  match draft.assignments, draft.words, draft.redirections with
  | [], [word], [] => some word
  | _, _, _ => none

/-- The name that a word gives to a function, if it can: none of it is quoted. -/
def functionName? (word : Word) : Option Bytes :=
  let isPlain : Part → Bool
    | .char _ isQuoted => !isQuoted
    | _ => false
  if word.all isPlain then
    some (charsOf word) |>.filter fun name =>
      isName name && !specialCommands.contains (String.ofList name)
  else none

/-- Reads words, in at most `fuel` steps. -/
def takeWords (commands : CommandReading) : Nat → Reading (List Word)
  | 0 => return []
  | fuel + 1 => do
    if (← takeToken commands .word) = .word then
      let word := (← get).word
      return word :: (← takeWords commands fuel)
    else return []

/-- All arguments, each as a word of its own. -/
def argumentWords : List Word :=
  [[.quoteMark, .parameter { name := ['@'] } [], .quoteMark]]

/-- Reads the words of a loop over words, behind its variable. -/
def takeLoopWords (commands : CommandReading) : Reading (List Word) := do
  match ← nextToken commands .continued with
  | .keyword "in" =>
    let words ← takeWords commands ((← remaining) + 1)
    let token := (← get).token
    if token ≠ .newLine && token ≠ .sign ";" then unexpected none
    return words
  | .sign ";" => return argumentWords
  | _ =>
    giveBack
    return argumentWords

/-- Reads the patterns of a case, the first of which has been read, in at most `fuel` steps. -/
def takePatterns (commands : CommandReading) : Nat → Reading (List Word)
  | 0 => return []
  | fuel + 1 => do
    let word := (← get).word
    if (← takeToken commands .word) = .sign "|" then
      let _ ← takeToken commands .word
      return word :: (← takePatterns commands fuel)
    else return [word]

mutual

/-- What reads commands within words. -/
def nested : Nat → CommandReading
  | 0 => ⟨fail "", fail ""⟩
  | fuel + 1 =>
    { parenthesized := do
        let command ← commandList fuel .anything false []
        expect (nested fuel) (.sign ")")
        let reader ← get
        set { reader with rest := [] }
        takeDocuments (nested fuel)
        modify fun inside =>
          { inside with rest := reader.rest, line := reader.line, isGivenBack := false }
        return command.getD .nothing
      whole := do
        let command ← commandList fuel .anything false []
        takeDocuments (nested fuel)
        return command.getD .nothing }

/-- Reads a list of commands behind others, the last of which is given first; the list may have come
to its end. -/
def commandList : Nat → Extent → (mayEnd : Bool) → List Command → Reading (Option Command)
  | 0, _, _, before => return join before
  | fuel + 1, extent, mayEnd, before => do
    let commands := nested fuel
    match ← nextToken commands ⟨extent ≠ .line, true, true⟩ with
    | .newLine =>
      takeDocuments commands
      modify fun reader => { reader with token := .newLine }
      return join before
    | .endOfText =>
      endText commands
      return join before
    | token =>
      giveBack
      if (mayEnd || extent = .anything) && endsList token then return join before
      let command ← conditions fuel
      let token ← takeToken commands .word
      let command := if token = .sign "&" then .background command else command
      let before := command :: before
      match token with
      | .endOfText =>
        endText commands
        return join before
      | .newLine =>
        giveBack
        commandList fuel extent (extent ≠ .line) before
      | .sign "&" | .sign ";" => commandList fuel extent (extent ≠ .line) before
      | _ =>
        if extent = .line then unexpected none
        giveBack
        return join before

/-- Reads commands that depend on each other's success; the first token has been given back. -/
def conditions : Nat → Reading Command
  | 0 => fail ""
  | fuel + 1 => do
    let first ← pipeline fuel {}
    moreConditions fuel first

/-- Reads the commands that depend on the success of another. -/
def moreConditions : Nat → Command → Reading Command
  | 0, first => return first
  | fuel + 1, first => do
    match ← takeToken (nested fuel) .word with
    | .sign "&&" =>
      let second ← pipeline fuel .continued
      moreConditions fuel (.both first second)
    | .sign "||" =>
      let second ← pipeline fuel .continued
      moreConditions fuel (.either first second)
    | _ =>
      giveBack
      return first

/-- Reads a pipeline. -/
def pipeline : Nat → Place → Reading Command
  | 0, _ => fail ""
  | fuel + 1, place => do
    let isNegated := (← nextToken (nested fuel) place) = .keyword "!"
    if !isNegated then giveBack
    let first ← command fuel (if isNegated then .start else {})
    let rest ← pipes fuel
    let command := if rest.isEmpty then first else .pipeline (first :: rest)
    return if isNegated then .negation command else command

/-- Reads the commands behind the first of a pipeline. -/
def pipes : Nat → Reading (List Command)
  | 0 => return []
  | fuel + 1 => do
    if (← takeToken (nested fuel) .word) = .sign "|" then
      let next ← command fuel .continued
      return next :: (← pipes fuel)
    else
      giveBack
      return []

/-- Reads a command. -/
def command : Nat → Place → Reading Command
  | 0, _ => fail ""
  | fuel + 1, place => do
    let commands := nested fuel
    let line := (← get).line
    match ← nextToken commands place with
    | .word | .redirection =>
      giveBack
      simple fuel none true {}
    | .keyword "if" =>
      let command ← conditional fuel
      expect commands (.keyword "fi")
      redirected fuel line command
    | .keyword "while" =>
      let (test, body) ← loop fuel
      redirected fuel line (.loop true test body)
    | .keyword "until" =>
      let (test, body) ← loop fuel
      redirected fuel line (.loop false test body)
    | .keyword "for" =>
      let token ← takeToken commands .word
      let reader ← get
      let name :=
        if token = .word && !reader.isQuoted then (plainText? reader.word).filter isName else none
      match name with
      | none => fail "Bad for loop variable"
      | some name =>
        let words ← takeLoopWords commands
        if (← nextToken commands .continued) ≠ .keyword "do" then
          unexpected (some (.keyword "do"))
        let body ← body fuel
        expect commands (.keyword "done")
        redirected fuel line (.forEach line name words body)
    | .keyword "case" =>
      if (← takeToken commands .word) ≠ .word then unexpected (some .word)
      let subject := (← get).word
      if (← nextToken commands ⟨true, true, false⟩) ≠ .keyword "in" then
        unexpected (some (.keyword "in"))
      let cases ← cases fuel
      redirected fuel line (.choice line subject cases)
    | .sign "(" =>
      let body ← body fuel
      expect commands (.sign ")")
      let redirections ← takeRedirections commands fuel .start
      return .subshell line body redirections
    | .keyword "\x7b" =>
      let body ← body fuel
      expect commands (.keyword "\x7d")
      redirected fuel line body
    | _ => unexpected none

/-- Reads the redirections of a command.  Behind braces around nothing but a command in parentheses
they take the place of its own. -/
def redirected : Nat → (line : Nat) → Command → Reading Command
  | 0, _, command => return command
  | fuel + 1, line, command => do
    let redirections ← takeRedirections (nested fuel) fuel .start
    if redirections.isEmpty then return command
    match command with
    | .subshell line body _ => return .subshell line body redirections
    | command => return .redirected line command redirections

/-- Reads commands up to a token that ends them. -/
def body : Nat → Reading Command
  | 0 => fail ""
  | fuel + 1 => do
    return (← commandList fuel .body false []).getD .nothing

/-- Reads a conditional behind its keyword, without the one at its end. -/
def conditional : Nat → Reading Command
  | 0 => fail ""
  | fuel + 1 => do
    let test ← body fuel
    expect (nested fuel) (.keyword "then")
    let positive ← body fuel
    match ← takeToken (nested fuel) .word with
    | .keyword "elif" => return .conditional test positive (← conditional fuel)
    | .keyword "else" => return .conditional test positive (← body fuel)
    | _ =>
      giveBack
      return .conditional test positive .nothing

/-- Reads a loop behind its keyword: the test and the body. -/
def loop : Nat → Reading (Command × Command)
  | 0 => fail ""
  | fuel + 1 => do
    let test ← body fuel
    expect (nested fuel) (.keyword "do")
    let body ← body fuel
    expect (nested fuel) (.keyword "done")
    return (test, body)

/-- Reads cases up to the keyword that ends them. -/
def cases : Nat → Reading (List (List Word × Command))
  | 0 => fail ""
  | fuel + 1 => do
    let commands := nested fuel
    match ← nextToken commands ⟨true, true, false⟩ with
    | .keyword "esac" => return []
    | token =>
      if token = .sign "(" then
        let _ ← takeToken commands .word
      let patterns ← takePatterns commands fuel
      if (← get).token ≠ .sign ")" then unexpected (some (.sign ")"))
      let body ← commandList fuel .anything false []
      match ← nextToken commands ⟨true, true, false⟩ with
      | .keyword "esac" => return [(patterns, body.getD .nothing)]
      | .sign ";;" => return (patterns, body.getD .nothing) :: (← cases fuel)
      | _ => unexpected (some (.sign ";;"))

/-- Reads the parts of a simple command, the first of which has been given back.  Assignments are
only in front of other words. -/
def simple : Nat → (line? : Option Nat) → (inFront : Bool) → SimpleDraft → Reading Command
  | 0, line?, _, draft => return draft.toCommand (line?.getD 1)
  | fuel + 1, line?, inFront, draft => do
    let commands := nested fuel
    match ← nextToken commands ⟨false, false, inFront⟩ with
    | .word =>
      let reader ← get
      let line := line?.getD reader.line
      if inFront && (assignment? reader.word).isSome then
        simple fuel line true { draft with assignments := reader.word :: draft.assignments }
      else simple fuel line false { draft with words := reader.word :: draft.words }
    | .redirection =>
      let line := line?.getD (← get).line
      let redirection ← takeTarget commands
      simple fuel line inFront { draft with redirections := redirection :: draft.redirections }
    | token =>
      match if token = .sign "(" then draft.functionName? else none with
      | some word =>
        expect commands (.sign ")")
        match functionName? word with
        | none => fail "Bad function name"
        | some name =>
          let line := (← get).line
          return .definition line name (← command fuel .continued)
      | none =>
        giveBack
        return draft.toCommand (line?.getD 1)

end

/-- How many steps suffice for the rest of a script. -/
def enough (reader : Reader) : Nat :=
  let texts := reader.aliases.map fun (_, text) => text.length
  16 * (reader.bound + 4) * (texts.foldl (· + ·) 1)

/-- Reads the commands of the next line, which may be none; at the end of the script nothing is
left. -/
def nextLine? (reader : Reader) : Except SyntaxError (Option (Command × Reader)) := do
  let start : Reader := { reader with isGivenBack := false, awaited := [] }
  let (command, reader) ← (commandList reader.enough .line false []).run start
  if command.isNone && reader.token = .endOfText then return none
  return some (command.getD .nothing, reader)

end ChangeFeed.Shell.Reader
