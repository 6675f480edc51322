/-
# Letter case

Names and words of settings do not depend on the case of their letters.  All of them consist of
ASCII characters, so other letters keep their case.
-/

namespace ChangeFeed.Text

/-- A text with its ASCII letters in lower case. -/
def lowered (text : String) : String :=
  String.ofList (text.toList.map Char.toLower)

end ChangeFeed.Text
