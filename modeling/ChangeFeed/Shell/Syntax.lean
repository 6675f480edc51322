/-
# Shell scripts

What a script consists of.  A word is a sequence of characters, quote marks and expansions: of
parameters, of commands and of arithmetic.  Commands are simple ones, made of words, and those that
join, repeat or choose commands; each may redirect streams.

The shell's texts are bytes.  A byte is held as the character with its number, so texts can be
compared with those of the library.
-/

import ChangeFeed.Text.Utf8

namespace ChangeFeed.Shell

/-- A text of bytes, each as the character with its number. -/
abbrev Bytes := List Char

/-- The bytes of a text. -/
def Bytes.ofText (text : String) : Bytes :=
  (Text.toBytes text.toList).map fun byte => Char.ofNat byte.toNat

/-- The bytes as numbers. -/
def Bytes.octets (bytes : Bytes) : List UInt8 :=
  bytes.map fun c => UInt8.ofNat c.toNat

/-- The text that bytes stand for. -/
def Bytes.toText (bytes : Bytes) : String :=
  Text.ofBytes bytes.octets

/-- The texts between separators. -/
def Bytes.splitOn (separator : Char) : Bytes → List Bytes
  | [] => [[]]
  | c :: rest =>
    if c = separator then [] :: splitOn separator rest
    else
      match splitOn separator rest with
      | [] => [[c]]
      | text :: texts => (c :: text) :: texts

/-- What is made of a parameter's value. -/
inductive Use where
  | value
  | length
  /-- Another word stands in for a parameter that is not set. -/
  | orElse
  /-- Another word stands in for a parameter that is not set, and is assigned to it. -/
  | orAssign
  /-- A parameter that is not set is an error. -/
  | orFail
  /-- Another word stands in for a parameter that is set. -/
  | ifSet
  /-- The value without what a pattern matches at its start, or at its end. -/
  | without (atStart longest : Bool)
  /-- A use that there is not. -/
  | unknown
  deriving DecidableEq, Repr

/-- A parameter and what is made of it. -/
structure Parameter where
  name : Bytes
  use : Use := .value
  /-- Whether an empty value counts as none. -/
  emptyIsUnset : Bool := false
  deriving DecidableEq, Repr

/-- How a file is opened. -/
inductive FileMode where
  | read
  | write
  /-- Written anew even where files are to be kept. -/
  | replace
  | append
  | readWrite
  deriving DecidableEq, Repr

mutual

/-- A part of a word. -/
inductive Part where
  | char (c : Char) (quoted : Bool)
  /-- The start or the end of a quotation. -/
  | quoteMark
  | parameter (parameter : Parameter) (word : List Part)
  /-- The output of a command. -/
  | command (command : Command)
  /-- The value of an arithmetic expression. -/
  | arithmetic (expression : List Part)

/-- What a stream is redirected to. -/
inductive Target where
  | file (mode : FileMode) (path : List Part)
  /-- To where another stream leads, or to nowhere. -/
  | stream (number : Option Nat)
  /-- To where the stream leads that a word names. -/
  | namedStream (word : List Part)
  /-- To a text within the script, by its number. -/
  | document (number : Nat)

inductive Command where
  | nothing
  | simple (line : Nat) (assignments words : List (List Part))
      (redirections : List (Nat × Target))
  | pipeline (commands : List Command)
  | negation (command : Command)
  /-- The second command runs if the first succeeds. -/
  | both (first second : Command)
  /-- The second command runs if the first fails. -/
  | either (first second : Command)
  | sequence (commands : List Command)
  /-- The command runs beside those that follow. -/
  | background (command : Command)
  | subshell (line : Nat) (command : Command) (redirections : List (Nat × Target))
  | redirected (line : Nat) (command : Command) (redirections : List (Nat × Target))
  | conditional (test positive negative : Command)
  /-- The body runs as long as the test has a result. -/
  | loop (result : Bool) (test body : Command)
  | forEach (line : Nat) (name : Bytes) (words : List (List Part)) (body : Command)
  | choice (line : Nat) (subject : List Part) (cases : List (List (List Part) × Command))
  | definition (line : Nat) (name : Bytes) (body : Command)

end

instance : Inhabited Part := ⟨.quoteMark⟩

instance : Inhabited Command := ⟨.nothing⟩

abbrev Word := List Part

abbrev Redirection := Nat × Target

/-- A letter or an underscore. -/
def startsName (c : Char) : Bool :=
  c.isAlpha || c = '_'

/-- A character of a name. -/
def continuesName (c : Char) : Bool :=
  c.isAlphanum || c = '_'

/-- Whether a text can name a variable. -/
def isName (text : Bytes) : Bool :=
  text.head?.any startsName && text.all continuesName

/-- The characters of a word, if it is nothing but characters. -/
def plainText? (word : Word) : Option Bytes :=
  word.mapM fun
    | .char c _ => some c
    | _ => none

/-- The characters of a word, without quotation. -/
def charsOf (word : Word) : Bytes :=
  word.filterMap fun
    | .char c _ => some c
    | _ => none

/-- The name in front of an equals sign, and the word behind it, if a word is an assignment. -/
def assignment? (word : Word) : Option (Bytes × Word) :=
  let isNamePart : Part → Bool
    | .char c false => continuesName c
    | _ => false
  let name := charsOf (word.takeWhile isNamePart)
  match word.dropWhile isNamePart with
  | .char '=' false :: value => if isName name then some (name, value) else none
  | _ => none

end ChangeFeed.Shell
