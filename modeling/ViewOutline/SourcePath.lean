import ViewOutline.Text.Search

/-!
# Paths of source files

A path is a text of names between slashes; empty names and single dots do not
count.  The last name has a suffix if a dot stands in it that is neither its
first nor its last character, and the last such dot starts the suffix.
-/

namespace ViewOutline.SourcePath

/-- The names of a path. -/
def names (path : List Char) : List (List Char) :=
  (path.splitOn '/').filter fun name => name ≠ [] ∧ name ≠ ['.']

/-- The last name of a path, empty if there is none. -/
def lastName (path : List Char) : List Char :=
  (names path).getLast?.getD []

/-- A name cut before its last dot, where that dot starts a suffix. -/
def splitSuffix (name : List Char) : List Char × List Char :=
  let suffix := Text.afterLast '.' name
  let stem := name.take (name.length - suffix.length - 1)
  if '.' ∈ name ∧ suffix ≠ [] ∧ stem ≠ [] then (stem, '.' :: suffix) else (name, [])

/-- The suffix of the last name, with its dot. -/
def suffix (path : List Char) : List Char :=
  (splitSuffix (lastName path)).2

/-- The last name without its suffix. -/
def stem (path : List Char) : List Char :=
  (splitSuffix (lastName path)).1

end ViewOutline.SourcePath
