/-
# Reading words

A reader stands in a script, counts its lines, and keeps the last sign or word that it has read,
which can be given back.  A backslash at the end of a line joins the next line to it, but for
quotations between single quotes.

Within a word the meaning of a character depends on the innermost quotation or expansion that is
open.  The texts of here-documents follow the line that asks for them; they are read like words.
-/

import ChangeFeed.Shell.Syntax

namespace ChangeFeed.Shell

/-- A sign or a word of a script. -/
inductive Token where
  | endOfText
  | newLine
  | word
  | redirection
  | sign (text : String)
  | keyword (text : String)
  deriving DecidableEq, Repr

/-- What a token is called. -/
def Token.label : Token → String
  | endOfText => "end of file"
  | newLine => "newline"
  | word => "word"
  | redirection => "redirection"
  | sign text | keyword text => "\"" ++ text ++ "\""

/-- What the sign of a redirection asks for. -/
inductive RedirectionKind where
  | file (mode : FileMode)
  /-- To where another stream leads. -/
  | stream
  | document (dropsTabs : Bool)
  deriving DecidableEq, Repr

/-- A here-document whose text has not been read: the line that ends it, whether tabs in front of
lines are left out, and whether its text is taken as it is. -/
structure AwaitedDocument where
  number : Nat
  mark : Bytes
  dropsTabs : Bool
  isLiteral : Bool
  deriving DecidableEq, Repr

/-- A text that is read in the place of a word: how many characters follow it, and whether the word
behind it can stand for another text, too. -/
structure AliasInUse where
  name : Bytes
  behind : Nat
  leadsOn : Bool
  deriving DecidableEq, Repr

/-- A place in a script, and what has been read. -/
structure Reader where
  rest : Bytes
  /-- How many characters are left at most. -/
  bound : Nat := rest.length
  line : Nat := 1
  /-- The last token, and whether it is to be read again. -/
  token : Token := .newLine
  isGivenBack : Bool := false
  /-- The last word, and whether a part of it is quoted. -/
  word : Word := []
  isQuoted : Bool := false
  /-- The last redirection's stream and kind. -/
  redirection : Nat × RedirectionKind := (0, .stream)
  awaited : List AwaitedDocument := []
  /-- The texts of the here-documents so far, by their numbers. -/
  documents : List (Nat × Word) := []
  documentCount : Nat := 0
  /-- The texts that stand for words where commands start, and those of them that are being read. -/
  aliases : List (Bytes × Bytes) := []
  aliasesInUse : List AliasInUse := []

/-- Why a script cannot be read, and the line where that was noticed. -/
structure SyntaxError where
  line : Nat
  reason : String
  deriving DecidableEq, Repr

/-- Reads a member of `α`, or fails. -/
abbrev Reading := StateT Reader (Except SyntaxError)

namespace Reader

def fail {α : Type} (reason : String) : Reading α := do
  throw ⟨(← get).line, reason⟩

/-! ## Characters -/

/-- Joins lines in front. -/
def joinLines : Bytes → Nat → Bytes × Nat
  | '\\' :: '\n' :: rest, line => joinLines rest (line + 1)
  | rest, line => (rest, line)

/-- The next character, not taken. -/
def peek? : Reading (Option Char) :=
  modifyGet fun reader =>
    let (rest, line) := joinLines reader.rest reader.line
    (rest.head?, { reader with rest, line })

/-- The next character where lines are not joined, not taken. -/
def peekAsIs? : Reading (Option Char) := do
  return (← get).rest.head?

/-- Leaves out the next character. -/
def skip : Reading Unit :=
  modify fun reader => { reader with rest := reader.rest.drop 1 }

/-- Takes the next character. -/
def next? : Reading (Option Char) := do
  let c ← peek?
  skip
  return c

/-- Takes a given character if it is the next. -/
def accept (c : Char) : Reading Bool := do
  if (← peek?) = some c then
    skip
    return true
  else return false

/-- Takes the characters in front that satisfy a condition, in at most `fuel` steps. -/
def takeWhile (accepts : Char → Bool) : Nat → Reading Bytes
  | 0 => return []
  | fuel + 1 => do
    match ← peek? with
    | none => return []
    | some c =>
      if accepts c then
        skip
        return c :: (← takeWhile accepts fuel)
      else return []

/-- How many characters are left at most. -/
def remaining : Reading Nat := do
  return (← get).bound

def nextLine : Reading Unit :=
  modify fun reader => { reader with line := reader.line + 1 }

/-! ## Words under construction -/

/-- What gives the characters of a word their meaning. -/
inductive Mode where
  | plain
  | singleQuotes
  | doubleQuotes
  | arithmetic
  deriving DecidableEq, Repr

/-- A quotation or an expansion that is open. -/
structure Frame where
  mode : Mode
  isQuoted : Bool := false
  /-- How many parameters are open, and how many of them have been opened between quotes. -/
  opened : Nat := 0
  openedQuoted : Nat := 0
  /-- Whether a quotation within a quoted parameter is open. -/
  inner : Bool := false
  /-- Whether the end of its parameter ends the frame. -/
  isForParameter : Bool := false
  /-- How many parentheses are open. -/
  parentheses : Nat := 0
  deriving DecidableEq, Repr

/-- An expansion that is open. -/
inductive Opening where
  | parameter (parameter : Parameter)
  | arithmetic

/-- What a word is read for. -/
inductive Purpose where
  | word
  /-- The word names the line that ends a here-document. -/
  | mark
  /-- The word is the text of a here-document. -/
  | document (awaited : AwaitedDocument)
  deriving DecidableEq, Repr

def Purpose.isDocument : Purpose → Bool
  | document _ => true
  | _ => false

/-- A word under construction.  Its parts are kept in reverse. -/
structure Draft where
  frame : Frame
  outer : List Frame := []
  parts : List Part := []
  /-- The expansions that are open, with the parts in front of them. -/
  opened : List (Opening × List Part) := []
  isQuoted : Bool := false

namespace Draft

def add (draft : Draft) (part : Part) : Draft :=
  { draft with parts := part :: draft.parts }

/-- Adds a character as it stands in the frame. -/
def addChar (draft : Draft) (c : Char) : Draft :=
  draft.add (.char c (draft.frame.isQuoted || draft.frame.mode = .singleQuotes))

def «open» (draft : Draft) (opening : Opening) : Draft :=
  { draft with parts := [], opened := (opening, draft.parts) :: draft.opened }

def close (draft : Draft) : Draft :=
  match draft.opened with
  | [] => draft
  | (opening, before) :: opened =>
    let inside := draft.parts.reverse
    let part :=
      match opening with
      | .parameter parameter => .parameter parameter inside
      | .arithmetic => .arithmetic inside
    { draft with parts := part :: before, opened }

def setFrame (draft : Draft) (frame : Frame) : Draft :=
  { draft with frame }

def push (draft : Draft) (frame : Frame) : Draft :=
  { draft with frame, outer := draft.frame :: draft.outer }

def pop (draft : Draft) : Draft :=
  match draft.outer with
  | [] => draft
  | frame :: outer => { draft with frame, outer }

/-- Adds the mark of a quotation, which the text of a document does not have. -/
def addQuoteMark (draft : Draft) (purpose : Purpose) : Draft :=
  if purpose.isDocument then draft else draft.add .quoteMark

/-- Adds the mark of a quotation between double quotes. -/
def addDoubleQuote (draft : Draft) (purpose : Purpose) : Draft :=
  let frame := draft.frame
  (draft.setFrame { frame with inner := frame.inner != (0 < frame.opened : Bool) }).addQuoteMark
    purpose

/-- Reads a quote that opens a quotation. -/
def openQuote (draft : Draft) (purpose : Purpose) (c : Char) : Draft :=
  if c = '"' then
    (draft.setFrame { draft.frame with mode := .doubleQuotes, isQuoted := true }).addDoubleQuote
      purpose
  else (draft.setFrame { draft.frame with mode := .singleQuotes }).addQuoteMark purpose

/-- Reads a quote that closes a quotation. -/
def closeQuote (draft : Draft) (purpose : Purpose) (c : Char) : Draft :=
  let frame := draft.frame
  if purpose.isDocument && frame.opened = 0 then draft.addChar c
  else
    let draft :=
      if frame.openedQuoted = 0 then
        draft.setFrame { frame with mode := .plain, isQuoted := false }
      else draft
    let draft := { draft with isQuoted := true }
    if c = '"' then draft.addDoubleQuote purpose else draft.addQuoteMark purpose

/-- Reads a closing brace. -/
def closeBrace (draft : Draft) : Draft :=
  let frame := draft.frame
  if !frame.inner && 0 < frame.opened then
    let opened := frame.opened - 1
    let draft :=
      if opened = 0 && frame.isForParameter then draft.pop
      else draft.setFrame { frame with opened, openedQuoted := frame.openedQuoted - 1 }
    draft.close
  else draft.addChar '\x7d'

/-- Opens a parameter. -/
def openParameter (draft : Draft) (parameter : Parameter) : Draft :=
  if parameter.use = .value && !parameter.emptyIsUnset then
    (draft.open (.parameter parameter)).close
  else
    let frame := draft.frame
    let mode :=
      match parameter.use with
      | .without _ _ => .plain
      | _ => if frame.mode = .arithmetic then .doubleQuotes else frame.mode
    let draft :=
      if mode ≠ frame.mode || frame.inner then
        draft.push { mode, isQuoted := mode ≠ .plain, isForParameter := true }
      else draft
    let frame := draft.frame
    (draft.setFrame { frame with
      opened := frame.opened + 1
      openedQuoted := frame.openedQuoted + (if frame.isQuoted then 1 else 0) }).open
        (.parameter parameter)

end Draft

/-! ## Parameters -/

/-- A character that names a parameter on its own. -/
def isSpecial (c : Char) : Bool :=
  "#?$!-*@".contains c || c.isDigit

/-- The use that a character stands for. -/
def useOf? : Char → Option Use
  | '\x7d' => some .value
  | '-' => some .orElse
  | '+' => some .ifSet
  | '?' => some .orFail
  | '=' => some .orAssign
  | _ => none

/-- Takes the use of a parameter between braces, behind its name. -/
def takeUse (name : Bytes) : Reading Parameter := do
  let c ← next?
  if c = some '%' || c = some '#' then
    let sign := c.getD '%'
    let longest ← accept sign
    return { name, use := .without (sign = '#') longest }
  else
    let emptyIsUnset := c = some ':'
    let c ← if emptyIsUnset then next? else pure c
    return { name, use := (c.bind useOf?).getD .unknown, emptyIsUnset }

/-- Takes the name of a parameter between braces, if one is next. -/
def takeName? : Reading (Option Bytes) := do
  match ← peek? with
  | none => return none
  | some c =>
    let fuel ← remaining
    if startsName c then return some (← takeWhile continuesName fuel)
    else if c.isDigit then return some (← takeWhile Char.isDigit fuel)
    else return none

/-- Takes what follows a number sign between braces: either the parameter whose length is meant, or
the use of the parameter that the sign names. -/
def takeLength : Reading Parameter := do
  match ← takeName? with
  | some name =>
    return { name, use := if (← peek?) = some '\x7d' then .length else .unknown }
  | none =>
    let reader ← get
    match ← next?, ← peek? with
    | some c, some '\x7d' =>
      if c = '\x7d' then
        set reader
        takeUse ['#']
      else return { name := [c], use := if isSpecial c then .length else .unknown }
    | _, _ =>
      set reader
      takeUse ['#']

/-- Takes a parameter between braces, behind the opening one. -/
def takeBraced : Reading Parameter := do
  match ← takeName? with
  | some name => takeUse name
  | none =>
    match ← peek? with
    | none => return { name := [], use := .unknown }
    | some '\x7d' => return { name := [], use := .unknown }
    | some c =>
      skip
      if c = '#' then takeLength
      else if isSpecial c then takeUse [c]
      else return { name := [c], use := .unknown }

/-! ## Parts of words -/

/-- Reads on in a text of its own, and goes back to where the reader was. -/
def within {α : Type} (text : Bytes) (reading : Reading α) : Reading α := do
  let reader ← get
  set { reader with
    rest := text, bound := text.length, line := 1, isGivenBack := false, aliasesInUse := [] }
  let result ← reading
  modify fun inside =>
    { inside with
      rest := reader.rest, bound := reader.bound, line := reader.line, isGivenBack := false
      aliasesInUse := reader.aliasesInUse }
  return result

/-- Reads a command with here-documents of its own. -/
def withOwnDocuments {α : Type} (reading : Reading α) : Reading α := do
  let awaited := (← get).awaited
  modify fun reader => { reader with awaited := [] }
  let result ← reading
  modify fun reader => { reader with awaited }
  return result

/-- Takes the text between backquotes, behind the opening one, in at most `fuel` steps. -/
def takeBackquoted (isQuoted : Bool) : Nat → Reading Bytes
  | 0 => fail "EOF in backquote substitution"
  | fuel + 1 => do
    match ← next? with
    | none => fail "EOF in backquote substitution"
    | some c =>
      if c.toNat = 0x60 then return []
      else if c = '\\' then
        match ← peekAsIs? with
        | none => fail "EOF in backquote substitution"
        | some c =>
          skip
          let rest ← takeBackquoted isQuoted fuel
          if c = '\\' || c.toNat = 0x60 || c = '$' || (isQuoted && c = '"') then return c :: rest
          else return '\\' :: c :: rest
      else
        if c = '\n' then nextLine
        return c :: (← takeBackquoted isQuoted fuel)

/-- What reads commands: those up to a closing parenthesis, and those that make up a whole text. -/
structure CommandReading where
  parenthesized : Reading Command
  whole : Reading Command

/-- Reads what follows a dollar sign. -/
def dollar (commands : CommandReading) (purpose : Purpose) (draft : Draft) : Reading Draft := do
  match purpose, ← peek? with
  | .mark, _ | _, none => return draft.addChar '$'
  | _, some '(' =>
    skip
    if ← accept '(' then
      return (draft.open .arithmetic).push { mode := .arithmetic, isQuoted := true }
    else
      return draft.add (.command (← withOwnDocuments commands.parenthesized))
  | _, some '\x7b' =>
    skip
    let parameter ← takeBraced
    return draft.openParameter parameter
  | _, some c =>
    if startsName c then
      let name ← takeWhile continuesName (← remaining)
      return draft.openParameter { name }
    else if isSpecial c then
      skip
      return draft.openParameter { name := [c] }
    else return draft.addChar '$'

/-- Whether a backslash in front of a character stays. -/
def keepsBackslash (frame : Frame) (purpose : Purpose) (c : Char) : Bool :=
  frame.isQuoted && c ≠ '\\' && c.toNat ≠ 0x60 && c ≠ '$' &&
    (c ≠ '"' || (purpose.isDocument && frame.opened = 0)) && (c ≠ '\x7d' || frame.opened = 0)

/-- Reads what follows a backslash. -/
def backslash (purpose : Purpose) (draft : Draft) : Reading Draft := do
  match ← peekAsIs? with
  | none => return draft.add (.char '\\' true)
  | some c =>
    skip
    let draft :=
      if keepsBackslash draft.frame purpose c then draft.add (.char '\\' true) else draft
    return { draft.add (.char c true) with isQuoted := true }

/-- What is left behind the line that ends a document, if it is next. -/
def behindMark? (awaited : AwaitedDocument) (text : Bytes) : Option Bytes :=
  let text := if awaited.dropsTabs then text.dropWhile (· = '\t') else text
  if awaited.mark.isPrefixOf text then
    match text.drop awaited.mark.length with
    | [] => some []
    | '\n' :: rest => some rest
    | _ => none
  else none

/-- Reads the start of a line of a document: whether it is the one that ends the document.  Behind
tabs that are left out, a backslash at the end of the line does not join the next line to it. -/
def startLine (awaited : AwaitedDocument) (draft : Draft) : Reading (Draft × Bool) := do
  unless awaited.isLiteral do discard peek?
  let reader ← get
  match behindMark? awaited reader.rest with
  | some rest =>
    set { reader with rest, line := reader.line + 1 }
    return (draft, true)
  | none =>
    if awaited.dropsTabs then
      let rest := reader.rest.dropWhile (· = '\t')
      set { reader with rest }
      if !awaited.isLiteral && ['\\', '\n'].isPrefixOf rest then
        skip
        return (← backslash (.document awaited) draft, false)
    return (draft, false)

/-- Reads an end of line within a word, and whether the word ends there, too. -/
def newLine (purpose : Purpose) (draft : Draft) : Reading (Draft × Bool) := do
  skip
  nextLine
  let draft := draft.addChar '\n'
  match purpose with
  | .document awaited => startLine awaited draft
  | _ => return (draft, false)

/-- A character that ends a word. -/
def endsWord (c : Char) : Bool :=
  " \t\n;&|<>()".contains c

/-- Reads a character that is not plain in any mode but between single quotes. -/
def expansion? (commands : CommandReading) (purpose : Purpose) (draft : Draft) (c : Char) :
    Reading (Option Draft) := do
  if c = '\\' then
    skip
    return some (← backslash purpose draft)
  else if c = '$' then
    skip
    return some (← dollar commands purpose draft)
  else if c = '\x7d' then
    skip
    return some draft.closeBrace
  else if c.toNat = 0x60 then
    skip
    if purpose = .mark then return some { draft.addChar c with isQuoted := true }
    let text ← takeBackquoted draft.frame.isQuoted ((← remaining) + 1)
    return some (draft.add (.command (← withOwnDocuments (within text commands.whole))))
  else return none

/-- Reads a parenthesis in arithmetic. -/
def parenthesis (draft : Draft) (c : Char) : Reading Draft := do
  let frame := draft.frame
  if c = '(' then
    return (draft.setFrame { frame with parentheses := frame.parentheses + 1 }).addChar c
  else if 0 < frame.parentheses then
    return (draft.setFrame { frame with parentheses := frame.parentheses - 1 }).addChar c
  else
    if ← accept ')' then return draft.pop.close
    return draft.addChar c

/-- Reads one part of a word, and whether the word ends. -/
def readPart (commands : CommandReading) (purpose : Purpose) (draft : Draft) :
    Reading (Draft × Bool) := do
  let frame := draft.frame
  match ← if frame.mode = .singleQuotes then peekAsIs? else peek? with
  | none => return (draft, true)
  | some c =>
    if c = '\n' then
      if frame.mode = .plain && frame.opened = 0 then return (draft, true)
      return ← newLine purpose draft
    if frame.mode = .singleQuotes then
      skip
      return (if c = '\'' then draft.closeQuote purpose c else draft.addChar c, false)
    if let some draft ← expansion? commands purpose draft c then return (draft, false)
    if frame.mode = .plain && endsWord c && frame.opened = 0 then return (draft, true)
    skip
    match frame.mode with
    | .plain =>
      return (if c = '\'' || c = '"' then draft.openQuote purpose c else draft.addChar c, false)
    | .arithmetic =>
      return (← if c = '(' || c = ')' then parenthesis draft c else pure (draft.addChar c), false)
    | _ => return (if c = '"' then draft.closeQuote purpose c else draft.addChar c, false)

/-- Reads the parts of a word, in at most `fuel` steps. -/
def readParts (commands : CommandReading) (purpose : Purpose) : Nat → Draft → Reading Draft
  | 0, draft => return draft
  | fuel + 1, draft => do
    match ← readPart commands purpose draft with
    | (draft, true) => return draft
    | (draft, false) => readParts commands purpose fuel draft

/-- Reads a word to its end. -/
def readDraft (commands : CommandReading) (purpose : Purpose) (draft : Draft) :
    Reading Draft := do
  let draft ← readParts commands purpose ((← remaining) + 1) draft
  if draft.frame.mode = .arithmetic then fail "Missing '))'"
  if draft.frame.mode ≠ .plain && !purpose.isDocument then fail "Unterminated quoted string"
  if 0 < draft.frame.opened then fail "Missing '\x7d'"
  return draft

/-- Takes the text of a here-document. -/
def takeDocument (commands : CommandReading) (awaited : AwaitedDocument) : Reading Word := do
  let frame : Frame :=
    if awaited.isLiteral then { mode := .singleQuotes }
    else { mode := .doubleQuotes, isQuoted := true }
  match ← startLine awaited { frame } with
  | (_, true) => return []
  | (draft, false) => return (← readDraft commands (.document awaited) draft).parts.reverse

/-- Takes the texts of documents. -/
def takeDocumentList (commands : CommandReading) : List AwaitedDocument → Reading Unit
  | [] => return ()
  | awaited :: rest => do
    let document ← takeDocument commands awaited
    modify fun reader =>
      { reader with documents := (awaited.number, document) :: reader.documents }
    takeDocumentList commands rest

/-- Takes the texts of the documents that are awaited. -/
def takeDocuments (commands : CommandReading) : Reading Unit := do
  let awaited := (← get).awaited
  modify fun reader => { reader with awaited := [] }
  takeDocumentList commands awaited

/-! ## Tokens -/

def keywords : List String :=
  ["!", "case", "do", "done", "elif", "else", "esac", "fi", "for", "if", "in", "then", "until",
    "while", "\x7b", "\x7d"]

/-- Reads the sign of a redirection of a stream, which is next. -/
def takeRedirection (stream? : Option Nat) : Reading Token := do
  let isOutput := (← next?) = some '>'
  let kind ←
    if isOutput then
      if ← accept '>' then pure (.file .append)
      else if ← accept '|' then pure (.file .replace)
      else if ← accept '&' then pure .stream
      else pure (.file .write)
    else
      if ← accept '<' then pure (.document (← accept '-'))
      else if ← accept '&' then pure .stream
      else if ← accept '>' then pure (.file .readWrite)
      else pure (.file .read)
  let stream := stream?.getD (if isOutput then 1 else 0)
  modify fun reader => { reader with redirection := (stream, kind) }
  return .redirection

/-- The stream that the characters in front of a redirection's sign name. -/
def streamBefore? (draft : Draft) : Option (Option Nat) :=
  if draft.isQuoted then none
  else
    match draft.parts with
    | [] => some none
    | [.char c _] => if c.isDigit then some (some (c.toNat - '0'.toNat)) else none
    | _ => none

/-- Reads a word, or a redirection that starts like one. -/
def takeWordToken (commands : CommandReading) (purpose : Purpose) : Reading Token := do
  let draft ← readDraft commands purpose { frame := { mode := .plain } }
  let c ← peek?
  match if c = some '<' || c = some '>' then streamBefore? draft else none with
  | some stream? => takeRedirection stream?
  | none =>
    modify fun reader => { reader with word := draft.parts.reverse, isQuoted := draft.isQuoted }
    return .word

/-- Skips blanks and comments, in at most `fuel` steps. -/
def skipBlanks : Nat → Reading Unit
  | 0 => return ()
  | fuel + 1 => do
    match ← peek? with
    | some ' ' | some '\t' =>
      skip
      skipBlanks fuel
    | some '#' =>
      modify fun reader => { reader with rest := reader.rest.dropWhile (· ≠ '\n') }
      skipBlanks fuel
    | _ => return ()

/-- Reads the sign that a character starts. -/
def takeSign (c : Char) : Reading Token := do
  skip
  let isDouble ← if c = '&' || c = '|' || c = ';' then accept c else pure false
  return .sign (String.ofList (if isDouble then [c, c] else [c]))

/-- Reads the next token, unless one has been given back. -/
def takeToken (commands : CommandReading) (purpose : Purpose) : Reading Token := do
  let reader ← get
  if reader.isGivenBack then
    set { reader with isGivenBack := false }
    return reader.token
  skipBlanks (← remaining)
  let token ←
    match ← peek? with
    | none => pure .endOfText
    | some '\n' =>
      skip
      nextLine
      pure .newLine
    | some c => if "&|;()".contains c then takeSign c else takeWordToken commands purpose
  modify fun reader => { reader with token }
  return token

/-- Reads the next token that is not the end of a line, in at most `fuel` steps. -/
def takeTokenBehindLines (commands : CommandReading) : Nat → Reading Token
  | 0 => takeToken commands .word
  | fuel + 1 => do
    match ← takeToken commands .word with
    | .newLine =>
      takeDocuments commands
      takeTokenBehindLines commands fuel
    | token => return token

/-- The keyword that a word is, if it is one and none of it is quoted. -/
def keyword? (reader : Reader) : Option String :=
  if reader.isQuoted then none
  else (plainText? reader.word).bind fun text => keywords.find? (·.toList = text)

/-- Where a token is read. -/
structure Place where
  /-- Whether ends of lines are left out. -/
  skipsLines : Bool := false
  /-- Whether a word can be a keyword. -/
  allowsKeywords : Bool := false
  /-- Whether a word can stand for another text. -/
  allowsAliases : Bool := false

/-- The start of a command. -/
def Place.start : Place :=
  ⟨false, true, true⟩

/-- The start of a command behind something that asks for one. -/
def Place.continued : Place :=
  ⟨true, true, true⟩

/-- Forgets the texts of aliases that have been passed: whether one of them lets the word behind it
stand for another text. -/
def passAliases : Reading Bool :=
  modifyGet fun reader =>
    if reader.aliasesInUse.isEmpty then (false, reader)
    else
      let left := reader.rest.length
      let (inUse, passed) := reader.aliasesInUse.partition fun used => used.behind ≤ left
      (passed.any AliasInUse.leadsOn, { reader with aliasesInUse := inUse })

/-- The text that the last word stands for, unless that text is being read. -/
def aliasText? (reader : Reader) : Option (Bytes × Bytes) := do
  if reader.isQuoted then none
  let name ← plainText? reader.word
  let text ← reader.aliases.lookup name
  if reader.aliasesInUse.any (·.name = name) then none else some (name, text)

/-- Goes on with a text in the place of the last word. -/
def useAlias (name text : Bytes) : Reading Unit :=
  modify fun reader =>
    if text.isEmpty then reader
    else
      let leadsOn := text.getLast?.any fun c => c = ' ' || c = '\t'
      { reader with
        rest := text ++ reader.rest
        bound := text.length + reader.bound
        aliasesInUse := ⟨name, reader.rest.length, leadsOn⟩ :: reader.aliasesInUse }

/-- Reads a token in a place, in whose place at most `fuel` texts are read. -/
def nextTokenWithin (commands : CommandReading) (place : Place) : Nat → Reading Token
  | 0 => takeToken commands .word
  | fuel + 1 => do
    let token ←
      if place.skipsLines then takeTokenBehindLines commands ((← remaining) + 1)
      else takeToken commands .word
    let isLed ← passAliases
    if token ≠ .word then return token
    let reader ← get
    match if place.allowsKeywords then keyword? reader else none with
    | some text =>
      set { reader with token := .keyword text }
      return .keyword text
    | none =>
      match if place.allowsAliases || isLed then aliasText? reader else none with
      | some (name, text) =>
        useAlias name text
        nextTokenWithin commands { place with allowsAliases := true } fuel
      | none => return token

/-- How many texts aliases can put in the place of words. -/
def aliasCount : Reading Nat := do
  return 16 * ((← get).aliases.length + 1)

/-- Reads a token in a place. -/
def nextToken (commands : CommandReading) (place : Place) : Reading Token := do
  nextTokenWithin commands place (← aliasCount)

/-- Gives the last token back. -/
def giveBack : Reading Unit :=
  modify fun reader => { reader with isGivenBack := true }

/-- Fails at the last token, where another may have been expected. -/
def unexpected {α : Type} (expected : Option Token) : Reading α := do
  let behind := (expected.map fun token => " (expecting " ++ token.label ++ ")").getD ""
  fail ((← get).token.label ++ " unexpected" ++ behind)

end Reader

end ChangeFeed.Shell
