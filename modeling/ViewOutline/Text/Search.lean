/-!
# Searching, cutting and ordering texts

The searches used on names and type texts: whether a text occurs in another,
what stands before and after the last occurrence of a mark, and the order of
texts by code points.
-/

namespace ViewOutline.Text

/-- Whether `part` occurs in the text. -/
def occursIn (part : List Char) : List Char → Bool
  | [] => part.isEmpty
  | c :: rest => part.isPrefixOf (c :: rest) || occursIn part rest

/-- What stands after the last occurrence of a mark, or the whole text. -/
def afterLast (mark : Char) (text : List Char) : List Char :=
  (text.reverse.takeWhile (· ≠ mark)).reverse

/-- The text before and the text after the last occurrence of `mark`.  Without
an occurrence the whole text counts as standing after it. -/
def splitLast (mark : List Char) : List Char → List Char × List Char
  | [] => ([], [])
  | c :: rest =>
      if occursIn mark rest then
        let (before, after) := splitLast mark rest
        (c :: before, after)
      else if mark.isPrefixOf (c :: rest) then
        ([], (c :: rest).drop mark.length)
      else
        ([], c :: rest)

/-- The order of texts by code points, a text before its extensions. -/
def codePointLE : List Char → List Char → Bool
  | [], _ => true
  | _ :: _, [] => false
  | a :: as, b :: bs =>
      if a.toNat < b.toNat then true
      else if b.toNat < a.toNat then false
      else codePointLE as bs

/-- The lower-case form of a letter as far as it is ASCII: the ASCII capitals
and the Kelvin sign, the one other character whose lower-case form is an ASCII
letter standing alone.  All other characters are kept. -/
def asciiLower (c : Char) : Char :=
  if c.toNat = 0x212a then 'k' else c.toLower

/-- A text in lower case as far as `asciiLower` goes, which decides every
question about the ASCII texts that occur in it. -/
def lowered (text : List Char) : List Char :=
  text.map asciiLower

end ViewOutline.Text
