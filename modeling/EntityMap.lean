import EntityMap.Annotation.Alternatives
import EntityMap.Annotation.Display
import EntityMap.Annotation.Error
import EntityMap.Annotation.Evaluation
import EntityMap.Annotation.Expr
import EntityMap.Annotation.Lexeme
import EntityMap.Annotation.Literal
import EntityMap.Annotation.Meaning
import EntityMap.Annotation.Member
import EntityMap.Annotation.Names
import EntityMap.Annotation.Operation
import EntityMap.Annotation.Reader
import EntityMap.Annotation.Resolution
import EntityMap.CommandLine.Arguments
import EntityMap.CommandLine.Run
import EntityMap.Engine.Cell
import EntityMap.Engine.Engine
import EntityMap.Engine.Error
import EntityMap.Engine.Table
import EntityMap.Failure
import EntityMap.Interface
import EntityMap.Main
import EntityMap.Method.Query
import EntityMap.Method.Token
import EntityMap.Named
import EntityMap.Number.Binary64
import EntityMap.Number.Decimal
import EntityMap.Number.Numeral
import EntityMap.Number.Shortest
import EntityMap.Operation.Binding
import EntityMap.Operation.Explain
import EntityMap.Operation.Hydration
import EntityMap.Operation.Invocation
import EntityMap.Operation.Joins
import EntityMap.Operation.Query
import EntityMap.Operation.Save
import EntityMap.Operation.Table
import EntityMap.Operation.Validation
import EntityMap.Proofs.Engine.Rows
import EntityMap.Proofs.Finding.Interfaces
import EntityMap.Proofs.Finding.Joins
import EntityMap.Proofs.Finding.Rows
import EntityMap.Proofs.Method.Blame
import EntityMap.Proofs.Method.Cutting
import EntityMap.Proofs.Method.Expressible
import EntityMap.Proofs.Method.Grammar
import EntityMap.Proofs.Method.Lexing
import EntityMap.Proofs.Method.Phrase
import EntityMap.Proofs.Method.Predicate
import EntityMap.Proofs.Method.Reading
import EntityMap.Proofs.Method.Rendering
import EntityMap.Proofs.Method.SetFields
import EntityMap.Proofs.Method.Spelling
import EntityMap.Proofs.Named
import EntityMap.Proofs.Number.Decimal
import EntityMap.Proofs.Number.Nearest
import EntityMap.Proofs.Number.Reading
import EntityMap.Proofs.Number.Rounding
import EntityMap.Proofs.Number.Shortest
import EntityMap.Proofs.Operation.Agreement
import EntityMap.Proofs.Operation.Assignment
import EntityMap.Proofs.Operation.Confinement
import EntityMap.Proofs.Operation.Explanation
import EntityMap.Proofs.Operation.Faults
import EntityMap.Proofs.Operation.Fitting
import EntityMap.Proofs.Operation.Hydration
import EntityMap.Proofs.Operation.Naming
import EntityMap.Proofs.Operation.Parameters
import EntityMap.Proofs.Operation.Shapes
import EntityMap.Proofs.Operation.Statements
import EntityMap.Proofs.Operation.Supply
import EntityMap.Proofs.Operation.Transactions
import EntityMap.Proofs.Record
import EntityMap.Proofs.Result
import EntityMap.Proofs.Saving.Calls
import EntityMap.Proofs.Saving.Cascade
import EntityMap.Proofs.Saving.Defaults
import EntityMap.Proofs.Saving.Failure
import EntityMap.Proofs.Saving.ForeignKeys
import EntityMap.Proofs.Saving.Graph
import EntityMap.Proofs.Saving.Hierarchy
import EntityMap.Proofs.Saving.Induction
import EntityMap.Proofs.Saving.Insertions
import EntityMap.Proofs.Saving.OwnRow
import EntityMap.Proofs.Saving.Provenance
import EntityMap.Proofs.Saving.ReadBack
import EntityMap.Proofs.Saving.RowColumns
import EntityMap.Proofs.Saving.Settling
import EntityMap.Proofs.Saving.Stages
import EntityMap.Proofs.Saving.StandIns
import EntityMap.Proofs.Saving.Supply
import EntityMap.Proofs.Saving.Validation
import EntityMap.Proofs.Schema.CamelCase
import EntityMap.Proofs.Schema.DefaultLiteral
import EntityMap.Proofs.Schema.DefinitionText
import EntityMap.Proofs.Schema.Fields
import EntityMap.Proofs.Schema.Inheritance
import EntityMap.Proofs.Schema.Lookup
import EntityMap.Proofs.Schema.Physical
import EntityMap.Proofs.Schema.Registry
import EntityMap.Proofs.Schema.Uniqueness
import EntityMap.Proofs.Sql.Compilation
import EntityMap.Proofs.Sql.Condition
import EntityMap.Proofs.Sql.Definition
import EntityMap.Proofs.Sql.Numeral
import EntityMap.Proofs.Sql.NumericLiteral
import EntityMap.Proofs.Sql.Place
import EntityMap.Proofs.Sql.Scan
import EntityMap.Proofs.Sql.TableText
import EntityMap.Proofs.Sql.Token
import EntityMap.Proofs.Storage.Running
import EntityMap.Proofs.Storage.Step
import EntityMap.Proofs.Storage.Transactions
import EntityMap.Proofs.Time.Timestamps
import EntityMap.Proofs.Validation.Reads
import EntityMap.Proofs.Validation.Report
import EntityMap.Proofs.Validation.Required
import EntityMap.Proofs.Validation.Unique
import EntityMap.Proofs.Validation.Violations
import EntityMap.Record
import EntityMap.Sample
import EntityMap.Schema.Declaration
import EntityMap.Schema.Default
import EntityMap.Schema.Definition
import EntityMap.Schema.Describe
import EntityMap.Schema.Entity
import EntityMap.Schema.Error
import EntityMap.Schema.Hint
import EntityMap.Schema.SemanticType
import EntityMap.Settings
import EntityMap.Sql.Criteria
import EntityMap.Sql.FilterText
import EntityMap.Sql.Statement
import EntityMap.Storage.Connection
import EntityMap.Storage.Script
import EntityMap.Text.Blank
import EntityMap.Text.Case
import EntityMap.Text.CaseTable
import EntityMap.Text.DecimalDigit
import EntityMap.Text.Name
import EntityMap.Text.NameTable
import EntityMap.Text.NormalForm
import EntityMap.Text.NormalTable
import EntityMap.Text.Printable
import EntityMap.Text.Quoted
import EntityMap.Time.Civil
import EntityMap.Time.Moment
import EntityMap.Value.Basic
import EntityMap.Value.Conversion
import EntityMap.Value.Display
