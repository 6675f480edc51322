/-
# Blank characters, trimming and words

The blank characters are those with the White_Space property: 25 code points, ten of them controls
or separators below U+0100.  Trimming drops blanks at the ends of a text, and the words of a text
are its longest runs without blanks.
-/

namespace ChangeFeed.Text

/-- Has the White_Space property. -/
def isBlank (c : Char) : Bool :=
  let code := c.toNat
  (0x09 ≤ code && code ≤ 0x0d) || code == 0x20 || code == 0x85 || code == 0xa0 ||
    code == 0x1680 || (0x2000 ≤ code && code ≤ 0x200a) || code == 0x2028 || code == 0x2029 ||
    code == 0x202f || code == 0x205f || code == 0x3000

/-- The characters without the blanks in front. -/
def dropBlanks (cs : List Char) : List Char :=
  cs.dropWhile isBlank

/-- Without the characters of a class at the end. -/
def dropEndWhile (drop : Char → Bool) (cs : List Char) : List Char :=
  (cs.reverse.dropWhile drop).reverse

/-- Without blanks at either end. -/
def trimBlanks (cs : List Char) : List Char :=
  dropEndWhile isBlank (dropBlanks cs)

/-- The text without blanks at either end. -/
def trim (text : String) : String :=
  String.ofList (trimBlanks text.toList)

/-- The words of a text, in order; `word` holds the characters of the word being read, last
first. -/
def wordsFrom (word : List Char) : List Char → List (List Char)
  | [] => if word.isEmpty then [] else [word.reverse]
  | c :: rest =>
    if isBlank c then
      if word.isEmpty then wordsFrom [] rest else word.reverse :: wordsFrom [] rest
    else
      wordsFrom (c :: word) rest

/-- The longest runs of characters without blanks, in order. -/
def words (cs : List Char) : List (List Char) :=
  wordsFrom [] cs

end ChangeFeed.Text
