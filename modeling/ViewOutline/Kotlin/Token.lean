import ViewOutline.SyntaxTree
import ViewOutline.Text.Blank
import ViewOutline.Text.Search

/-!
# Kotlin tokens

What the text of a token says: whether a number is whole, what the line of a
package or an import names, and what a keyword that stands in the place of a name
denotes.
-/

namespace ViewOutline.Kotlin

/-- Whether a number is whole or has a fraction or exponent. -/
def numberKind (text : List Char) : LiteralKind :=
  let lowered := Text.lowered text
  if "0x".toList.isPrefixOf lowered || "0b".toList.isPrefixOf lowered then .int
  else if lowered.contains '.' || lowered.contains 'e' || lowered.getLast? == some 'f' then
    .double
  else .int

/-- The text after a leading keyword and the blanks around it; a text that does
not start that way is kept. -/
def afterKeyword (keyword text : List Char) : List Char :=
  let start := text.dropWhile Text.isBlank
  if keyword.isPrefixOf start then
    match start.drop keyword.length with
    | c :: rest => if Text.isBlank c then rest.dropWhile Text.isBlank else text
    | [] => text
  else text

/-- What a package or import line names: the line without its keyword and
without the semicolons at its end. -/
def headerName (keyword text : List Char) : List Char :=
  let named := Text.trim Text.isBlank (afterKeyword keyword text)
  Text.trim Text.isBlank (Text.trimEnd (· == ';') named)

/-- The literal a keyword denotes. -/
def keywordKind? (text : String) : Option LiteralKind :=
  if text = "true" ∨ text = "false" then some .boolean
  else if text = "null" then some .null
  else none

end ViewOutline.Kotlin
