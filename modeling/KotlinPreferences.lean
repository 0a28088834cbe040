import KotlinPreferences.Declaration
import KotlinPreferences.Diagnostic
import KotlinPreferences.Document
import KotlinPreferences.Document.Attributes
import KotlinPreferences.Document.Builtins
import KotlinPreferences.Double
import KotlinPreferences.Failure
import KotlinPreferences.Grouping
import KotlinPreferences.Holder.Consistency
import KotlinPreferences.Holder.Generation
import KotlinPreferences.Holder.Report
import KotlinPreferences.Kinds
import KotlinPreferences.Kotlin.HolderClass
import KotlinPreferences.Kotlin.Literal
import KotlinPreferences.Malformed
import KotlinPreferences.Options
import KotlinPreferences.Output.Disk
import KotlinPreferences.Output.DiskFault
import KotlinPreferences.Output.Path
import KotlinPreferences.Output.Sink
import KotlinPreferences.Pass
import KotlinPreferences.Preference
import KotlinPreferences.Proofs.Document.Builtins
import KotlinPreferences.Proofs.Document.Comparison
import KotlinPreferences.Proofs.Document.Contents
import KotlinPreferences.Proofs.Document.DefaultConverter
import KotlinPreferences.Proofs.Document.Enlarging
import KotlinPreferences.Proofs.Document.Graph
import KotlinPreferences.Proofs.Document.Members
import KotlinPreferences.Proofs.Document.Names
import KotlinPreferences.Proofs.Document.Order
import KotlinPreferences.Proofs.Document.Reading
import KotlinPreferences.Proofs.Document.Rereading
import KotlinPreferences.Proofs.Document.Reserved
import KotlinPreferences.Proofs.Document.Verdicts
import KotlinPreferences.Proofs.Document.View
import KotlinPreferences.Proofs.Grouping
import KotlinPreferences.Proofs.Holder.Accessors
import KotlinPreferences.Proofs.Holder.Consistency
import KotlinPreferences.Proofs.Holder.Encoding
import KotlinPreferences.Proofs.Holder.Generation
import KotlinPreferences.Proofs.Holder.Preferences
import KotlinPreferences.Proofs.Kotlin.HolderClass
import KotlinPreferences.Proofs.Kotlin.Literal
import KotlinPreferences.Proofs.Output.History
import KotlinPreferences.Proofs.Output.Order
import KotlinPreferences.Proofs.Output.Overwriting
import KotlinPreferences.Proofs.Output.Places
import KotlinPreferences.Proofs.Output.Putting
import KotlinPreferences.Proofs.Output.Writing
import KotlinPreferences.Proofs.Pass.Concatenation
import KotlinPreferences.Proofs.Pass.Confinement
import KotlinPreferences.Proofs.Pass.DeclaredTypes
import KotlinPreferences.Proofs.Pass.Dependence
import KotlinPreferences.Proofs.Pass.Failing
import KotlinPreferences.Proofs.Pass.Interrupted
import KotlinPreferences.Proofs.Pass.Order
import KotlinPreferences.Proofs.Pass.Siblings
import KotlinPreferences.Proofs.Preference.Verdicts
import KotlinPreferences.Proofs.Search
import KotlinPreferences.Proofs.Service.Agreement
import KotlinPreferences.Proofs.Service.Answers
import KotlinPreferences.Proofs.Service.Refusal
import KotlinPreferences.Proofs.Service.Shown
import KotlinPreferences.Proofs.Service.Validation
import KotlinPreferences.Proofs.Steps
import KotlinPreferences.Proofs.SymbolGraph.Alike
import KotlinPreferences.Proofs.SymbolGraph.Assignability
import KotlinPreferences.Proofs.SymbolGraph.Growth
import KotlinPreferences.Proofs.SymbolGraph.Members
import KotlinPreferences.Proofs.SymbolGraph.PartOf
import KotlinPreferences.Proofs.SymbolGraph.ReadingOrder
import KotlinPreferences.Proofs.SymbolGraph.Registration
import KotlinPreferences.Proofs.SymbolGraph.Supertypes
import KotlinPreferences.Proofs.SymbolGraph.WellFormed
import KotlinPreferences.Proofs.Text.Blank
import KotlinPreferences.Proofs.Text.Fields
import KotlinPreferences.Proofs.Text.FileName
import KotlinPreferences.Proofs.TypeRef.Encoding
import KotlinPreferences.Proofs.TypeRef.Nameless
import KotlinPreferences.Proofs.TypeRef.Names
import KotlinPreferences.Proofs.TypeRef.Nesting
import KotlinPreferences.Proofs.TypeRef.Pieces
import KotlinPreferences.Proofs.TypeRef.Rendering
import KotlinPreferences.Proofs.TypeRef.Shown
import KotlinPreferences.Proofs.TypeRef.Spelling
import KotlinPreferences.Proofs.TypeRef.Splitting
import KotlinPreferences.Search
import KotlinPreferences.Service
import KotlinPreferences.Service.Request
import KotlinPreferences.Settings
import KotlinPreferences.SymbolGraph
import KotlinPreferences.SymbolGraph.DebugView
import KotlinPreferences.SymbolGraph.Supertypes
import KotlinPreferences.Text
import KotlinPreferences.Text.Blank
import KotlinPreferences.Text.Case
import KotlinPreferences.Text.CaseTable
import KotlinPreferences.Text.Fields
import KotlinPreferences.Text.FileName
import KotlinPreferences.Text.Printable
import KotlinPreferences.Text.Ranges
import KotlinPreferences.TypeRef
import KotlinPreferences.TypeRef.Reader
import KotlinPreferences.Value
import KotlinPreferences.Value.Display
import KotlinPreferences.Value.Key
import KotlinPreferences.Vocabulary
