/-
# Splitting into fields

Only what expansions leave behind is split.  Separators part fields; those of them that are blanks
stand for one together, also with another separator among them, and none at the start of a field or
at the end.  A null character parts arguments: where they are listed it parts fields without being a
blank.
-/

import ChangeFeed.Shell.Syntax

namespace ChangeFeed.Shell

/-- A piece of an expanded word: a mark of a quotation, or a character, which may be quoted. -/
inductive Piece where
  | mark
  | char (c : Char) (isQuoted : Bool)
  deriving DecidableEq, Repr

/-- How a part of an expanded word is split. -/
inductive Region where
  | whole
  /-- The value of an expansion. -/
  | split
  /-- Characters of the word itself that are split, too. -/
  | text
  /-- Arguments with null characters between them. -/
  | listed
  deriving DecidableEq, Repr

/-- A part of an expanded word. -/
structure Segment where
  region : Region
  pieces : List Piece
  deriving DecidableEq, Repr

/-- The characters of pieces. -/
def Piece.textOf (pieces : List Piece) : Bytes :=
  pieces.filterMap fun
    | .char c _ => some c
    | .mark => none

/-- Pieces as a pattern, in which quoted characters stand for themselves. -/
def Piece.patternOf (pieces : List Piece) : Bytes :=
  pieces.flatMap fun
    | .char c true => ['\\', c]
    | .char c false => [c]
    | .mark => []

/-- The characters of an expanded word. -/
def textOf (segments : List Segment) : Bytes :=
  segments.flatMap fun segment => Piece.textOf segment.pieces

/-- An expanded word as a pattern. -/
def patternOf (segments : List Segment) : Bytes :=
  segments.flatMap fun segment => Piece.patternOf segment.pieces

/-- Adds a piece in front of segments. -/
def Segment.cons (piece : Piece) (region : Region) : List Segment → List Segment
  | [] => [⟨region, [piece]⟩]
  | segment :: rest =>
    if segment.region = region then ⟨region, piece :: segment.pieces⟩ :: rest
    else ⟨region, [piece]⟩ :: segment :: rest

/-- Fields under construction: the complete ones in reverse, and the next one in reverse. -/
structure Fields where
  complete : List (List Piece) := []
  current : List Piece := []
  /-- Whether blanks are passed over, and one separator that is none. -/
  passesBlanks : Bool := false
  /-- How many fields can still be taken, if there is a limit.  When it is reached, separators
  belong to the last field, too. -/
  limit? : Option Nat := none
  /-- What the last field is if nothing but separators that can be left out follows. -/
  shorter? : Option (List Piece) := none

namespace Fields

def isBlank (c : Char) : Bool :=
  c = ' ' || c = '\t' || c = '\n' || c = '\x00'

def add (fields : Fields) (piece : Piece) : Fields :=
  { fields with current := piece :: fields.current, passesBlanks := false }

/-- Ends a field at a separator, which goes into the last one that the limit admits. -/
def finish (fields : Fields) (separator : Piece) : Fields :=
  match fields.limit? with
  | some 1 =>
    { fields with
      current := separator :: fields.current
      limit? := some 0
      shorter? := some fields.current }
  | limit? =>
    { fields with
      complete := fields.current.reverse :: fields.complete
      current := []
      limit? := limit?.map (· - 1) }

/-- Reads a character of the last field that the limit admits. -/
def extend (fields : Fields) (c : Char) (piece : Piece) (isSeparator : Bool) : Fields :=
  let current := piece :: fields.current
  if isSeparator && isBlank c then
    { fields with current, shorter? := fields.shorter? <|> some fields.current }
  else
    let shorter? := if isSeparator && fields.passesBlanks then fields.shorter? else none
    { fields with current, shorter?, passesBlanks := false }

/-- Reads a separator. -/
def separate (fields : Fields) (c : Char) (piece : Piece) (countsBlanks : Bool) : Fields :=
  if fields.passesBlanks then
    if isBlank c then fields else { fields with passesBlanks := false }
  else
    let passesBlanks := countsBlanks && isBlank c
    if fields.current.isEmpty && passesBlanks then fields
    else { fields.finish piece with passesBlanks }

/-- Reads a piece of a segment.  Behind listed arguments blanks are separators like others. -/
def read (separators : Bytes) (region : Region) (isBehindList : Bool) (fields : Fields)
    (piece : Piece) : Fields :=
  match region, piece with
  | .listed, .char '\x00' _ => fields.finish piece
  | .split, .char c _ | .text, .char c _ =>
    let isSeparator := c = '\x00' || separators.contains c
    if fields.limit? = some 0 then fields.extend c piece isSeparator
    else if isSeparator then fields.separate c piece (!isBehindList)
    else fields.add piece
  | _, _ => fields.add piece

/-- Reads segments.  Parts that are not split do not come between a region and the next. -/
def readAll (separators : Bytes) : (isBehindList : Bool) → Fields → List Segment → Fields × Bool
  | isBehindList, fields, [] => (fields, isBehindList)
  | isBehindList, fields, segment :: rest =>
    let start := { fields with passesBlanks := false }
    let fields := segment.pieces.foldl (read separators segment.region isBehindList) start
    let isBehindList :=
      match segment.region with
      | .whole => isBehindList
      | .split | .text => false
      | .listed => true
    readAll separators isBehindList fields rest

end Fields

/-- The fields of an expanded word, perhaps no more than a given number of them.  The last one is
left out if it is empty, unless it is the end of listed arguments. -/
def fieldsOf (separators : Bytes) (limit? : Option Nat) (segments : List Segment) :
    List (List Piece) :=
  let (fields, isBehindList) := Fields.readAll separators false { limit? } segments
  let current := fields.shorter?.getD fields.current
  let last := if isBehindList || !current.isEmpty then [current.reverse] else []
  fields.complete.reverse ++ last

end ChangeFeed.Shell
