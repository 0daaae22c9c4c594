import SchemaKit.Catalog.Basic
import SchemaKit.Catalog.Document
import SchemaKit.Catalog.Lint
import SchemaKit.CommandLine
import SchemaKit.Config.Basic
import SchemaKit.Config.Dotenv
import SchemaKit.Config.Level
import SchemaKit.Decimal.Binary
import SchemaKit.Decimal.Digits
import SchemaKit.Decimal.Ratio
import SchemaKit.Decimal.Shortest
import SchemaKit.Diff.Align
import SchemaKit.Diff.Basic
import SchemaKit.Diff.Meeting
import SchemaKit.Diff.Merge
import SchemaKit.Diff.Printer
import SchemaKit.Diff.Tidy
import SchemaKit.Disk.Basic
import SchemaKit.Disk.Tree
import SchemaKit.Drift.Basic
import SchemaKit.Drift.Fault
import SchemaKit.Entity
import SchemaKit.Format.Address
import SchemaKit.Format.Basic
import SchemaKit.Format.Clock
import SchemaKit.Format.Mailbox
import SchemaKit.Fresh
import SchemaKit.Generate.Basic
import SchemaKit.Generate.Log
import SchemaKit.Json.Basic
import SchemaKit.Json.Canonical
import SchemaKit.Json.Float
import SchemaKit.Json.Numeral
import SchemaKit.Json.Pointer
import SchemaKit.Json.Printer
import SchemaKit.Json.Reader
import SchemaKit.Json.Record
import SchemaKit.Json.Writable
import SchemaKit.Main
import SchemaKit.Merge
import SchemaKit.Outcome
import SchemaKit.Pattern.Basic
import SchemaKit.Pattern.Category
import SchemaKit.Pattern.Parser
import SchemaKit.Pattern.Property
import SchemaKit.Pattern.Script
import SchemaKit.Proofs.Catalog.Atomicity
import SchemaKit.Proofs.Catalog.Comparison
import SchemaKit.Proofs.Catalog.Documents
import SchemaKit.Proofs.Catalog.Files
import SchemaKit.Proofs.Catalog.Hoisting
import SchemaKit.Proofs.Catalog.Invariant
import SchemaKit.Proofs.Catalog.Log
import SchemaKit.Proofs.Catalog.Order
import SchemaKit.Proofs.Catalog.Overt
import SchemaKit.Proofs.Catalog.Readding
import SchemaKit.Proofs.Catalog.References
import SchemaKit.Proofs.Catalog.Stability
import SchemaKit.Proofs.CommandLine.Overriding
import SchemaKit.Proofs.Config.Layers
import SchemaKit.Proofs.Decimal.Rounding
import SchemaKit.Proofs.Decimal.Shortest
import SchemaKit.Proofs.Disk.Paths
import SchemaKit.Proofs.Drift.Conformance
import SchemaKit.Proofs.Drift.Naming
import SchemaKit.Proofs.Drift.Reordering
import SchemaKit.Proofs.Drift.Spots
import SchemaKit.Proofs.Drift.Transparency
import SchemaKit.Proofs.Generate.Names
import SchemaKit.Proofs.Generate.Written
import SchemaKit.Proofs.Json.Canonical
import SchemaKit.Proofs.Json.Consumed
import SchemaKit.Proofs.Json.Depth
import SchemaKit.Proofs.Json.Double
import SchemaKit.Proofs.Json.Grammar
import SchemaKit.Proofs.Json.Kept
import SchemaKit.Proofs.Json.Leading
import SchemaKit.Proofs.Json.Length
import SchemaKit.Proofs.Json.Nearest
import SchemaKit.Proofs.Json.Numeral
import SchemaKit.Proofs.Json.Reading
import SchemaKit.Proofs.Json.RoundTrip
import SchemaKit.Proofs.Json.Sorted
import SchemaKit.Proofs.Json.Survival
import SchemaKit.Proofs.Json.Writable
import SchemaKit.Proofs.Merge.Conjunction
import SchemaKit.Proofs.Merge.Flatten
import SchemaKit.Proofs.Merge.Iteration
import SchemaKit.Proofs.Merge.Meaning
import SchemaKit.Proofs.Merge.Numbers
import SchemaKit.Proofs.Merge.Overlay
import SchemaKit.Proofs.Outcome.RoundTrip
import SchemaKit.Proofs.Outcome.Shape
import SchemaKit.Proofs.Schema.Derived
import SchemaKit.Proofs.Schema.Encoding
import SchemaKit.Proofs.Results
import SchemaKit.Proofs.Schema.Placing
import SchemaKit.Proofs.Schema.Proper
import SchemaKit.Proofs.Schema.Redirecting
import SchemaKit.Proofs.Shape.Tags
import SchemaKit.Proofs.Text.Bytes
import SchemaKit.Proofs.Text.Kebab
import SchemaKit.Proofs.Text.Parts
import SchemaKit.Proofs.Users.Acceptance
import SchemaKit.Proofs.Users.History
import SchemaKit.Proofs.Users.Identifier
import SchemaKit.Proofs.Users.RoundTrip
import SchemaKit.Proofs.Users.Writes
import SchemaKit.Proofs.Validation.Clean
import SchemaKit.Proofs.Validation.Remainder
import SchemaKit.Proofs.Validation.Reporting
import SchemaKit.Proofs.Validation.Sorting
import SchemaKit.Schema.Basic
import SchemaKit.Schema.Key
import SchemaKit.Schema.Printer
import SchemaKit.Schema.Reader
import SchemaKit.Schema.Refs
import SchemaKit.Shape.Basic
import SchemaKit.Shape.Derive
import SchemaKit.Shape.Tag
import SchemaKit.Text.Base64
import SchemaKit.Text.Blank
import SchemaKit.Text.Hex
import SchemaKit.Text.Kebab
import SchemaKit.Text.Letter
import SchemaKit.Text.Printable
import SchemaKit.Text.Quoted
import SchemaKit.Text.Split
import SchemaKit.Text.Truth
import SchemaKit.Text.Utf8
import SchemaKit.Uri.Basic
import SchemaKit.Uri.Escape
import SchemaKit.Users.Account
import SchemaKit.Users.Basic
import SchemaKit.Users.Index
import SchemaKit.Users.Role
import SchemaKit.Validation.Check
import SchemaKit.Validation.Compile
import SchemaKit.Validation.Constraint
import SchemaKit.Validation.Fault
import SchemaKit.Validation.Keyword
import SchemaKit.Validation.Report
import SchemaKit.Validation.Scope
import SchemaKit.Yaml.Basic
import SchemaKit.Yaml.Reader
import SchemaKit.Yaml.Scalar
import SchemaKit.Yaml.Table
