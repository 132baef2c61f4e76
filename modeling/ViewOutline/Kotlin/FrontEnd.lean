import ViewOutline.FrontEnd
import ViewOutline.Kotlin.Conversion
import ViewOutline.SourcePath

/-!
# The Kotlin front-end

Kotlin sources are recognised by their suffix, in lower case only.  The parser
is a parameter: it gives the parse tree of some bytes and says whether it met
errors, and the front-end converts what was parsed.
-/

namespace ViewOutline.Kotlin

/-- Whether a path is that of a Kotlin source. -/
def handles (path : String) : Bool :=
  let suffix := SourcePath.suffix path.toList
  suffix == ".kt".toList || suffix == ".kts".toList

/-- What a parser says about a source. -/
structure Parsed where
  root : ParseTree
  hasError : Bool

/-- The front-end of a parser. -/
def frontEnd (parse : Source → Except ParseFailure Parsed) : FrontEnd where
  handles := handles
  parse bytes path :=
    match parse bytes with
    | .ok parsed => do
        let file ← convert bytes parsed.root parsed.hasError (some path)
        return .ok (.file file)
    | .error failure => return .error failure

end ViewOutline.Kotlin
