/-
# Service specifications

What is to be installed as a service: a name, a description, and an executable with its arguments.
A name consists of ASCII letters, digits, `-`, `_` and `.`, and neither it nor the executable is
empty.  The command line joins the executable and the arguments with spaces, each part that contains
a blank between double quotes; quotes inside a part are not escaped and empty parts are not quoted,
so parts that contain quotes, and empty ones, do not survive the way back.
-/

import ChangeFeed.Text.Blank
import ChangeFeed.Text.Quoted

namespace ChangeFeed

structure ServiceSpec where
  name : String
  description : String
  executable : String
  args : List String := []
  deriving DecidableEq, Repr

namespace ServiceSpec

/-- The description of a service that was given none. -/
def defaultDescription (name : String) : String :=
  name ++ " agent"

/-- Why a specification is refused. -/
inductive Defect where
  | emptyName
  | unsupportedName (name : String)
  | emptyExecutable
  deriving DecidableEq, Repr

def Defect.message : Defect → String
  | .emptyName => "empty service name"
  | .unsupportedName name =>
    "service name " ++ Text.quote name ++ " contains unsupported characters"
  | .emptyExecutable => "empty executable path"

/-- A character that a service name may contain. -/
def isNameChar (c : Char) : Bool :=
  c.isAlphanum || c == '-' || c == '_' || c == '.'

/-- The first defect of a specification, if it has one. -/
def defect? (spec : ServiceSpec) : Option Defect :=
  if spec.name.isEmpty then some .emptyName
  else if !spec.name.toList.all isNameChar then some (.unsupportedName spec.name)
  else if spec.executable.isEmpty then some .emptyExecutable
  else none

/-- A part of the command line, between quotes if it contains a blank. -/
def quotePart (part : String) : String :=
  if part.toList.any Text.isBlank then "\"" ++ part ++ "\"" else part

/-- The executable followed by its arguments. -/
def commandLine (spec : ServiceSpec) : String :=
  " ".intercalate ((spec.executable :: spec.args).map quotePart)

/-- The specification as diagnostics show it. -/
def debug (spec : ServiceSpec) : String :=
  "ServiceSpec \x7b name: " ++ Text.quote spec.name ++ ", description: " ++
    Text.quote spec.description ++ ", executable: " ++ Text.quote spec.executable ++ ", args: [" ++
    ", ".intercalate (spec.args.map Text.quote) ++ "] \x7d"

end ServiceSpec

end ChangeFeed
