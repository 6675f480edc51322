/-
# Expansion of words

A word is expanded part by part, from the left.  A tilde at its start stands for a directory.  What
stands between quotes is not split into fields; only all arguments, one by one, become several
fields even there.  A field that is a pattern of paths becomes the paths that it matches, if there
are any.
-/

import ChangeFeed.Shell.Account
import ChangeFeed.Shell.Arithmetic
import ChangeFeed.Shell.Glob
import ChangeFeed.Shell.Splitting

namespace ChangeFeed.Shell

/-- How a word is expanded. -/
structure Manner where
  /-- Whether it stands between quotes. -/
  isQuoted : Bool := false
  /-- Whether it becomes fields. -/
  makesFields : Bool := false
  /-- Whether its own characters can be split, too. -/
  splitsText : Bool := false
  /-- Whether it is assigned, so that a colon parts paths. -/
  isAssigned : Bool := false
  deriving DecidableEq, Repr

/-- Where a part stands within a word. -/
inductive WordPlace where
  /-- In front, where a tilde stands for a directory. -/
  | start
  /-- Behind a tilde that has been replaced, together with a name. -/
  | userName
  | middle
  deriving DecidableEq, Repr

namespace Manner

/-- The region of what an expansion leaves behind. -/
def region (manner : Manner) : Region :=
  if manner.isQuoted then .whole else .split

/-- What an expansion leaves behind, as a segment. -/
def segment (manner : Manner) (text : Bytes) : Segment :=
  ⟨manner.region, text.map (.char · manner.isQuoted)⟩

end Manner

namespace Expansion

/-- What stands between arguments that are joined. -/
def joint (session : Session) (name : Bytes) (manner : Manner) : Bytes :=
  if manner.makesFields && manner.isQuoted && name = ['@'] then ['\x00']
  else
    match session.lookup? "IFS".toList with
    | none => [' ']
    | some separators =>
      if manner.makesFields && !manner.isQuoted then ['\x00'] else separators.take 1

/-- The value of a parameter, if it is set. -/
def value? (session : Session) (name : Bytes) (manner : Manner) : Option Bytes :=
  match name with
  | ['$'] => some (decimalText session.process)
  | ['?'] => some (decimalText session.status)
  | ['#'] => some (decimalText session.arguments.length)
  | ['!'] => session.lastProcess?.map fun process => decimalText process
  | ['-'] => some session.optionLetters
  | ['@'] | ['*'] => some ((joint session name manner).intercalate session.arguments)
  | name =>
    if name.all Char.isDigit then
      match digitsValue 10 name with
      | 0 => some session.name
      | position + 1 => session.arguments[position]?
    else session.lookup? name

/-- Whether a value counts as none. -/
def isUnset (parameter : Parameter) (value? : Option Bytes) : Bool :=
  match value? with
  | none => true
  | some value => parameter.emptyIsUnset && value.isEmpty

/-- Fails because a parameter is not set, for which there may be a message. -/
def failUnset {α : Type} (parameter : Parameter) (message? : Option Bytes) : Run α :=
  let standard :=
    if parameter.emptyIsUnset then "parameter not set or null" else "parameter not set"
  Run.fail (parameter.name ++ ':' :: ' ' :: message?.getD standard.toList)

/-- Fails if a parameter without a value has to have one. -/
def checkSet (parameter : Parameter) (value? : Option Bytes) : Run Unit := do
  if value?.isNone && (← get).hasOption "nounset" then
    failUnset { parameter with emptyIsUnset := false } none

/-- The segment of a parameter's value. -/
def valueSegment (session : Session) (name : Bytes) (manner : Manner) (value : Bytes) : Segment :=
  let segment := manner.segment value
  if manner.isQuoted && name = ['@'] && !session.arguments.isEmpty then
    { segment with region := .listed }
  else segment

/-- Assigns to a parameter that stands in front of a word for its value. -/
def assign (name value : Bytes) : Run Unit :=
  if isName name then Run.assign name value
  else Run.fail (name ++ ": bad variable name".toList)

/-- The output of a command within a word, without the ends of lines at its end. -/
def trimOutput (output : Bytes) : Bytes :=
  (output.reverse.dropWhile (· = '\n')).reverse.filter (· ≠ '\x00')

/-- The segment of a parameter's value as it is. -/
def plainValue (parameter : Parameter) (manner : Manner) : Run (List Segment) := do
  let session ← get
  let value? := value? session parameter.name manner
  checkSet parameter value?
  return value?.toList.map (valueSegment session parameter.name manner)

/-- Whether a character ends the name behind a tilde. -/
def endsUserName (manner : Manner) (c : Char) : Bool :=
  c = '/' || manner.isAssigned && c = ':'

/-- The name behind a tilde, up to its end, if nothing in it is quoted or expanded. -/
def userName? (manner : Manner) : List Part → Option Bytes
  | [] => some []
  | .char c false :: rest =>
    if endsUserName manner c then some [] else (userName? manner rest).map (c :: ·)
  | _ => none

/-- The directory that a tilde stands for, in front of the rest of its word. -/
def home? (session : Session) (manner : Manner) (rest : List Part) : Option Bytes := do
  let user ← userName? manner rest
  if user.isEmpty then session.lookup? "HOME".toList else Account.home? user

/-- A text that is neither split nor a pattern, in front of other segments. -/
def consQuoted (text : Bytes) (segments : List Segment) : List Segment :=
  text.foldr (fun c segments => Segment.cons (.char c true) .whole segments) segments

/-- Expands the parts of a word from a place in it on, in front of which an even number of quote
marks stands, or an odd one. -/
def parts (substitute : Command → Run Bytes) (manner : Manner) (isInside : Bool) :
    WordPlace → List Part → Run (List Segment)
  | _, [] => return []
  | _, .quoteMark :: .parameter ⟨['@'], .value, false⟩ [] :: .quoteMark :: rest => do
    if isInside then
      let values ← plainValue { name := ['@'] } manner
      let behind ← parts substitute manner true .middle rest
      return Segment.cons .mark .whole (values ++ Segment.cons .mark .whole behind)
    else
      -- all arguments between quotes leave no marks behind
      let values ← plainValue { name := ['@'] } { manner with isQuoted := true }
      return values ++ (← parts substitute manner false .middle rest)
  | _, .quoteMark :: rest => do
    return Segment.cons .mark .whole (← parts substitute manner (!isInside) .middle rest)
  | place, .char c isQuoted :: rest => do
    if place = .userName && !endsUserName manner c then
      return ← parts substitute manner isInside .userName rest
    let session ← get
    match if place = .start && c = '~' && !isQuoted then home? session manner rest else none with
    | some home => return consQuoted home (← parts substitute manner isInside .userName rest)
    | none =>
      let isSplit := manner.splitsText && !manner.isQuoted && !isInside && !isQuoted
      let place := if manner.isAssigned && c = ':' && !isQuoted then .start else .middle
      let behind ← parts substitute manner isInside place rest
      return Segment.cons (.char c isQuoted) (if isSplit then .text else .whole) behind
  | _, .command command :: rest => do
    let manner' := { manner with isQuoted := manner.isQuoted || isInside }
    let segment := manner'.segment (trimOutput (← substitute command))
    return segment :: (← parts substitute manner isInside .middle rest)
  | _, .arithmetic expression :: rest => do
    let manner' := { manner with isQuoted := manner.isQuoted || isInside }
    let value ← Arithmetic.evaluate (textOf (← parts substitute {} false .middle expression))
    let segment := manner'.segment (decimalText value)
    return segment :: (← parts substitute manner isInside .middle rest)
  | _, .parameter parameter word :: rest => do
    let manner' := { manner with isQuoted := manner.isQuoted || isInside }
    let session ← get
    let value? := value? session parameter.name manner'
    let isUnset := isUnset parameter value?
    let value := value?.getD []
    let plain : List Segment := [valueSegment session parameter.name manner' value]
    let segments ←
      match parameter.use with
      | .unknown => Run.fail "Bad substitution".toList
      | .value =>
        plainValue parameter manner'
      | .orElse =>
        if isUnset then parts substitute { manner' with splitsText := true } false .start word
        else pure plain
      | .ifSet =>
        if isUnset then pure []
        else parts substitute { manner' with splitsText := true } false .start word
      | .orAssign =>
        if isUnset then
          assign parameter.name (textOf (← parts substitute {} false .start word))
          plainValue { parameter with emptyIsUnset := false } manner'
        else pure plain
      | .orFail =>
        if isUnset then
          let message := textOf (← parts substitute {} false .start word)
          failUnset parameter (if word.isEmpty then none else some message)
        else pure plain
      | .length =>
        checkSet parameter value?
        pure [manner'.segment (decimalText value.length)]
      | .without atStart longest =>
        checkSet parameter value?
        if value?.isNone then pure []
        else
          let pattern := patternOf (← parts substitute {} false .start word)
          let value := Pattern.remove atStart longest pattern value
          pure [valueSegment session parameter.name manner' value]
    return segments ++ (← parts substitute manner isInside .middle rest)
termination_by _ word => sizeOf word
decreasing_by
  all_goals simp only [List.cons.sizeOf_spec, Part.quoteMark.sizeOf_spec, Part.char.sizeOf_spec,
    Part.parameter.sizeOf_spec, Part.command.sizeOf_spec, Part.arithmetic.sizeOf_spec]
  all_goals omega

/-- The files of a session, as patterns of paths ask for them. -/
def filesOf (session : Session) : Glob.Files where
  namesIn := session.namesIn
  isThere path := (session.fileAt? path).isSome

/-- Whether a piece can make a field a pattern. -/
def isWildcard : Piece → Bool
  | .char c false => c = '*' || c = '?' || c = '['
  | _ => false

/-- The paths that a field stands for, unless it is no pattern, or one that matches nothing: then it
is a text. -/
def pathsOf (session : Session) (field : List Piece) : List Bytes :=
  let paths :=
    if session.hasOption "noglob" || !field.any isWildcard then []
    else Glob.matches (filesOf session) (Piece.patternOf field)
  if paths.isEmpty then [Piece.textOf field] else paths

end Expansion

/-- The fields that a word expands to. -/
def expandFields (substitute : Command → Run Bytes) (word : Word) : Run (List Bytes) := do
  let segments ← Expansion.parts substitute { makesFields := true } false .start word
  let session ← get
  return (fieldsOf session.separators none segments).flatMap (Expansion.pathsOf session)

/-- The text that a word expands to. -/
def expandText (substitute : Command → Run Bytes) (word : Word) : Run Bytes := do
  return textOf (← Expansion.parts substitute {} false .start word)

/-- The text that is assigned where a word follows the name of a variable. -/
def expandAssigned (substitute : Command → Run Bytes) (word : Word) : Run Bytes := do
  return textOf (← Expansion.parts substitute { isAssigned := true } false .start word)

/-- The text of a here-document. -/
def expandDocument (substitute : Command → Run Bytes) (word : Word) : Run Bytes := do
  return textOf (← Expansion.parts substitute { isQuoted := true } false .middle word)

/-- The pattern that a word expands to. -/
def expandPattern (substitute : Command → Run Bytes) (word : Word) : Run Bytes := do
  return patternOf (← Expansion.parts substitute {} false .start word)

end ChangeFeed.Shell
