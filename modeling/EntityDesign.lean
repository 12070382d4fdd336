import EntityDesign.Analysis
import EntityDesign.ChangeReport
import EntityDesign.CommandLine.Arguments
import EntityDesign.CommandLine.Command
import EntityDesign.CommandLine.Plan
import EntityDesign.CommandLine.Run
import EntityDesign.Compatibility
import EntityDesign.Data
import EntityDesign.Database
import EntityDesign.Design
import EntityDesign.Directory
import EntityDesign.Distinct
import EntityDesign.Document.Fault
import EntityDesign.Document.Reader
import EntityDesign.Document.Writer
import EntityDesign.Entity
import EntityDesign.Format
import EntityDesign.Identifier
import EntityDesign.Json
import EntityDesign.Listing
import EntityDesign.Main
import EntityDesign.Placeholder
import EntityDesign.Proofs.Analysis
import EntityDesign.Proofs.Catalogue
import EntityDesign.Proofs.CommandLine.Confinement
import EntityDesign.Proofs.CommandLine.Plan
import EntityDesign.Proofs.CommandLine.Redefinition
import EntityDesign.Proofs.CommandLine.Target
import EntityDesign.Proofs.Compatibility
import EntityDesign.Proofs.Connection
import EntityDesign.Proofs.Desk
import EntityDesign.Proofs.Directory
import EntityDesign.Proofs.Distinct
import EntityDesign.Proofs.Document.Comparison
import EntityDesign.Proofs.Document.Layout
import EntityDesign.Proofs.Document.NormalForm
import EntityDesign.Proofs.Document.RoundTrip
import EntityDesign.Proofs.Document.Writability
import EntityDesign.Proofs.Editing.Entity
import EntityDesign.Proofs.Editing.Legality
import EntityDesign.Proofs.Editing.Session
import EntityDesign.Proofs.Ensures
import EntityDesign.Proofs.Format
import EntityDesign.Proofs.Identifier
import EntityDesign.Proofs.InPlace
import EntityDesign.Proofs.Json.Token
import EntityDesign.Proofs.Json.Value
import EntityDesign.Proofs.Lists
import EntityDesign.Proofs.Matching
import EntityDesign.Proofs.Naming
import EntityDesign.Proofs.Numbering
import EntityDesign.Proofs.Numbering.Search
import EntityDesign.Proofs.Placeholder.Binding
import EntityDesign.Proofs.Placeholder.Formation
import EntityDesign.Proofs.Placeholder.Pattern
import EntityDesign.Proofs.Placeholder.Scan
import EntityDesign.Proofs.Reconciliation.Accounting
import EntityDesign.Proofs.Reconciliation.Addition
import EntityDesign.Proofs.Reconciliation.Cascade
import EntityDesign.Proofs.Reconciliation.Consistency
import EntityDesign.Proofs.Reconciliation.Course
import EntityDesign.Proofs.Reconciliation.Fit
import EntityDesign.Proofs.Reconciliation.Idempotence
import EntityDesign.Proofs.Reconciliation.Operation
import EntityDesign.Proofs.Reconciliation.Ownership
import EntityDesign.Proofs.Reconciliation.Recheck
import EntityDesign.Proofs.Reconciliation.RecordShape
import EntityDesign.Proofs.Reconciliation.Recording
import EntityDesign.Proofs.Reconciliation.Refresh
import EntityDesign.Proofs.Reconciliation.Refusal
import EntityDesign.Proofs.Reconciliation.Report
import EntityDesign.Proofs.Reconciliation.Session
import EntityDesign.Proofs.Reconciliation.Sweep
import EntityDesign.Proofs.Reconciliation.Verdict
import EntityDesign.Proofs.Reconciliation.Visit
import EntityDesign.Proofs.Registry
import EntityDesign.Proofs.Sqlite.ConnectionString
import EntityDesign.Proofs.Sqlite.DeclaredType
import EntityDesign.Proofs.Text.Digits
import EntityDesign.Proofs.Text.Integer
import EntityDesign.Proofs.Text.Lowercase
import EntityDesign.Proofs.Text.Run
import EntityDesign.Proofs.Text.Trim
import EntityDesign.Proofs.Validation
import EntityDesign.Proofs.Validation.Flaw
import EntityDesign.Proofs.Validation.WellFormed
import EntityDesign.Proofs.Xml.AttributeValue
import EntityDesign.Proofs.Xml.Legal.Token
import EntityDesign.Proofs.Xml.Legal.Tree
import EntityDesign.Proofs.Xml.Markup
import EntityDesign.Proofs.Xml.Offence
import EntityDesign.Proofs.Xml.Token
import EntityDesign.Proofs.Xml.Tree
import EntityDesign.Proofs.Yaml.Block
import EntityDesign.Proofs.Yaml.Character
import EntityDesign.Proofs.Yaml.Collection
import EntityDesign.Proofs.Yaml.Cursor
import EntityDesign.Proofs.Yaml.Document
import EntityDesign.Proofs.Yaml.Flow
import EntityDesign.Proofs.Yaml.Node
import EntityDesign.Proofs.Yaml.Scalar
import EntityDesign.Reconciliation
import EntityDesign.Registry
import EntityDesign.Registry.Reader
import EntityDesign.Registry.Writer
import EntityDesign.Signature
import EntityDesign.Sqlite.ConnectionString
import EntityDesign.Sqlite.DeclaredType
import EntityDesign.Sqlite.Image
import EntityDesign.Sqlite.Location
import EntityDesign.Sqlite.Schema
import EntityDesign.Sqlite.Statement
import EntityDesign.Sqlite.Table
import EntityDesign.Sqlite.Token
import EntityDesign.Storage
import EntityDesign.Text.Alphabetic
import EntityDesign.Text.Blank
import EntityDesign.Text.Digits
import EntityDesign.Text.Encoding
import EntityDesign.Text.Integer
import EntityDesign.Text.Lowercase
import EntityDesign.Text.Numeric
import EntityDesign.Text.Ranges
import EntityDesign.Text.Word
import EntityDesign.TypeName
import EntityDesign.Validation
import EntityDesign.Vocabulary
import EntityDesign.Xml.AttributeValue
import EntityDesign.Xml.Character
import EntityDesign.Xml.Fault
import EntityDesign.Xml.Markup
import EntityDesign.Xml.Node
import EntityDesign.Xml.Token
import EntityDesign.Xml.Tree
import EntityDesign.Yaml.Block
import EntityDesign.Yaml.Character
import EntityDesign.Yaml.Cursor
import EntityDesign.Yaml.Fault
import EntityDesign.Yaml.Flow
import EntityDesign.Yaml.Implicit
import EntityDesign.Yaml.Node
import EntityDesign.Yaml.Printer
import EntityDesign.Yaml.Scalar
