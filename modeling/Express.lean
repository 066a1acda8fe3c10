import Express.Config.Text
import Express.Draft.Build
import Express.Schema.Diagnosis
import Express.Schema.Edition
import Express.Schema.Notation
import Express.TypeTable.Text
import Express.Proofs.Numbering
import Express.Proofs.Outcome
import Express.Proofs.Renaming
import Express.Proofs.Drafting
import Express.Proofs.Soundness
import Express.Proofs.Permanence
import Express.Proofs.History
import Express.Proofs.Settling
import Express.Proofs.Climbing
import Express.Proofs.Folding
import Express.Proofs.WellFormed
import Express.Proofs.Ranking
import Express.Proofs.Extending
import Express.Proofs.Assembly
import Express.Proofs.Faults
import Express.Proofs.Answering
import Express.Proofs.Building
import Express.Proofs.Bisecting
import Express.Proofs.Indexing
import Express.Proofs.Searching
import Express.Proofs.Tabulating
import Express.Proofs.Subtyping
import Express.Proofs.Lineage
import Express.Proofs.Levels
import Express.Proofs.Closure
import Express.Proofs.Likeness
import Express.Proofs.Growing
import Express.Proofs.Coding
import Express.Proofs.Counting
import Express.Proofs.Placing
import Express.Proofs.Naming
import Express.Proofs.Inheriting
import Express.Proofs.Inverting
import Express.Proofs.Deriving
import Express.Proofs.Reordering
import Express.Proofs.NormalForm
import Express.Proofs.Registering
import Express.Proofs.Blaming
import Express.Proofs.Clashing
import Express.Proofs.Spacing
import Express.Proofs.Descending
import Express.Proofs.Notating
import Express.Proofs.Spelling
import Express.Proofs.Lexing
import Express.Proofs.Reading
import Express.Proofs.Rereading
import Express.Proofs.Recording
import Express.Proofs.Configuring
import Express.Proofs.Bounding
import Express.Proofs.Visiting
import Express.Proofs.Lowering
import Express.Proofs.Comparing
