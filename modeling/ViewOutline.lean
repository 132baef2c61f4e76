import ViewOutline.Main
import ViewOutline.Kotlin.Conversion
import ViewOutline.Kotlin.FrontEnd
import ViewOutline.Proofs.Containment.Discovery
import ViewOutline.Proofs.Containment.Numbering
import ViewOutline.Proofs.Containment.Contraction
import ViewOutline.Proofs.Statement.RecordTree
import ViewOutline.Proofs.Notes.Statement
import ViewOutline.Proofs.Notes.Member
import ViewOutline.Proofs.Nesting.Member
import ViewOutline.Proofs.Nesting.Ceiling
import ViewOutline.Proofs.Context.Operation
import ViewOutline.Proofs.Context.Program
import ViewOutline.Proofs.Context.Discipline
import ViewOutline.Proofs.File.Declaration
import ViewOutline.Proofs.File.Session
import ViewOutline.Proofs.File.Inventory
import ViewOutline.Proofs.File.Independence
import ViewOutline.Proofs.Report.Merge
import ViewOutline.Proofs.Kotlin.Placement
import ViewOutline.Proofs.Kotlin.Search
import ViewOutline.Proofs.Kotlin.Comment
import ViewOutline.Proofs.Kotlin.Transparency
import ViewOutline.Proofs.File.Remark
import ViewOutline.Proofs.Project.Isolation
import ViewOutline.Proofs.Report.Lossless
import ViewOutline.Proofs.Containment.Checker
import ViewOutline.Proofs.Containment.Preorder
import ViewOutline.Proofs.Containment.WritingOrder
import ViewOutline.Proofs.Containment.Naming
import ViewOutline.Proofs.Statement.Weaving
import ViewOutline.Proofs.Class.Member
import ViewOutline.Proofs.Class.Property
import ViewOutline.Proofs.Import.Layout
import ViewOutline.Proofs.Vocabulary.Loading
import ViewOutline.Proofs.Class.TypeText
import ViewOutline.Proofs.Class.Injection
import ViewOutline.Proofs.Import.SourceSet
import ViewOutline.Proofs.Class.Supertype
import ViewOutline.Proofs.Containment.Label
import ViewOutline.Proofs.Containment.Root
import ViewOutline.Proofs.Project.Coverage
