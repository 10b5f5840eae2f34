import SqlDraft.Config
import SqlDraft.Payload
import SqlDraft.Schema.Conditions
import SqlDraft.Proofs.Text.Quoting
import SqlDraft.Proofs.Layout
import SqlDraft.Proofs.Layout.Rendering
import SqlDraft.Proofs.Execution
import SqlDraft.Proofs.Layout.Leaves
import SqlDraft.Proofs.Operands
import SqlDraft.Proofs.Failures
import SqlDraft.Proofs.UnknownOperators
import SqlDraft.Proofs.Positional
import SqlDraft.Proofs.Masking
import SqlDraft.Proofs.DataIndependence
import SqlDraft.Proofs.Json.Plain
import SqlDraft.Proofs.Json.Unreadable
import SqlDraft.Proofs.Json.Fuel
import SqlDraft.Proofs.Schema.Keeping
import SqlDraft.Proofs.Declaring
import SqlDraft.Proofs.Changes
import SqlDraft.Proofs.Interleaving
import SqlDraft.Proofs.Naming
import SqlDraft.Proofs.SameButTables
import SqlDraft.Proofs.TableOrder
import SqlDraft.Proofs.Numerals
import SqlDraft.Proofs.Placeholders
import SqlDraft.Proofs.LastWrite
import SqlDraft.Proofs.Reported
import SqlDraft.Proofs.Accepted
import SqlDraft.Proofs.Unfolding
import SqlDraft.Proofs.StoredConditions
import SqlDraft.Proofs.Unreported
import SqlDraft.Proofs.Rejected
import SqlDraft.Proofs.Payload
import SqlDraft.Proofs.Skipping
import SqlDraft.Proofs.Degradation
import SqlDraft.Proofs.Residue
import SqlDraft.Proofs.WrappedNames
import SqlDraft.Proofs.Identifiers.Rewriting
import SqlDraft.Proofs.Identifiers.Expressions
import SqlDraft.Proofs.Identifiers.Qualifiers
import SqlDraft.Proofs.QualifiedColumns
import SqlDraft.Proofs.Schema.Nulls
import SqlDraft.Proofs.NullFields
import SqlDraft.Proofs.Logic.Grammar
import SqlDraft.Proofs.Logic.Skeleton
import SqlDraft.Proofs.Logic.Conditions
import SqlDraft.Proofs.Recognition
import SqlDraft.Proofs.PlainForms
import SqlDraft.Proofs.Limits
import SqlDraft.Proofs.ColumnLists
import SqlDraft.Proofs.MergedMappings
import SqlDraft.Proofs.LikePatterns
import SqlDraft.Proofs.SingleConditions
import SqlDraft.Proofs.Number.Literals
import SqlDraft.Proofs.NumberLiterals
