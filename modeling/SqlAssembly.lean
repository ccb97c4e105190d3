import SqlAssembly.Number.Binary32
import SqlAssembly.Proofs.Condition.Bracketing
import SqlAssembly.Proofs.Condition.Membership
import SqlAssembly.Proofs.Condition.Search
import SqlAssembly.Proofs.Declaration.Merging
import SqlAssembly.Proofs.Declaration.MoreFields
import SqlAssembly.Proofs.Declaration.TableName
import SqlAssembly.Proofs.Number.Exact
import SqlAssembly.Proofs.Number.FixedPoint
import SqlAssembly.Proofs.Schema.Padding
import SqlAssembly.Proofs.Statement.Assignments
import SqlAssembly.Proofs.Statement.ChangeReader
import SqlAssembly.Proofs.Statement.Erasure
import SqlAssembly.Proofs.Statement.FaultLeaves
import SqlAssembly.Proofs.Statement.Grouping
import SqlAssembly.Proofs.Statement.InsertReader
import SqlAssembly.Proofs.Statement.Ordering
import SqlAssembly.Proofs.Statement.Tracing
import SqlAssembly.Proofs.Text.Clipping
import SqlAssembly.Statement.Trace
