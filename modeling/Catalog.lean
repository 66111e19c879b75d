import Catalog.Canonical.Document
import Catalog.Canonical.Pipeline
import Catalog.Clock
import Catalog.Command.Files
import Catalog.Command.Line
import Catalog.Command.Log
import Catalog.Command.Run
import Catalog.Command.Text
import Catalog.Context
import Catalog.Decimal.Binary64
import Catalog.Decimal.Shortest
import Catalog.Error
import Catalog.Image.Challenge
import Catalog.Image.Client
import Catalog.Image.HostPolicy
import Catalog.Image.Manifest
import Catalog.Image.Reference
import Catalog.Json.Basic
import Catalog.Json.Cursor
import Catalog.Json.Fault
import Catalog.Json.Layout
import Catalog.Json.Printer
import Catalog.Json.Reader
import Catalog.Migration.Diff
import Catalog.Migration.Report
import Catalog.Migration.Run
import Catalog.Ownership.Bundle
import Catalog.Ownership.Declaration
import Catalog.Ownership.Native
import Catalog.Ownership.Outcome
import Catalog.Ownership.Verifier
import Catalog.Package.Artifact
import Catalog.Package.Basic
import Catalog.Package.RegistryType
import Catalog.Package.Server
import Catalog.Package.Shape
import Catalog.Package.Transport
import Catalog.Record.Basic
import Catalog.Record.File
import Catalog.Record.Memory
import Catalog.Schema
import Catalog.Settings.Basic
import Catalog.Settings.Environment
import Catalog.Settings.File
import Catalog.Table
import Catalog.Text.Alphanumeric
import Catalog.Text.Blank
import Catalog.Text.Composition
import Catalog.Text.Cut
import Catalog.Text.Digits
import Catalog.Text.Direction
import Catalog.Text.Forms
import Catalog.Text.Joining
import Catalog.Text.Lowercase
import Catalog.Text.Mark
import Catalog.Text.Utf8
import Catalog.Text.Visible
import Catalog.Toml.Basic
import Catalog.Toml.Reader
import Catalog.Url.Address
import Catalog.Url.Basic
import Catalog.Url.Domain
import Catalog.Url.Host
import Catalog.Url.Path
import Catalog.Url.Percent
import Catalog.Url.Punycode
import Catalog.Validation.Finding
import Catalog.Validation.Server
import Catalog.Validation.Transport
import Catalog.Web.Exchange
import Catalog.Web.Lookup
import Catalog.Main
import Catalog.Proofs.Canonical.Bounded
import Catalog.Proofs.Canonical.Decoded
import Catalog.Proofs.Canonical.Document
import Catalog.Proofs.Canonical.Frame
import Catalog.Proofs.Canonical.Image
import Catalog.Proofs.Canonical.Order
import Catalog.Proofs.Canonical.Shape
import Catalog.Proofs.Canonical.Unchanged
import Catalog.Proofs.Context.Derivation
import Catalog.Proofs.Except
import Catalog.Proofs.Image.Anonymity
import Catalog.Proofs.Image.Challenge
import Catalog.Proofs.Image.HostPolicy
import Catalog.Proofs.Image.Hub
import Catalog.Proofs.Image.Negotiation
import Catalog.Proofs.Image.Parts
import Catalog.Proofs.Image.Platform
import Catalog.Proofs.Image.Printed
import Catalog.Proofs.Json.Reads
import Catalog.Proofs.Json.ReadsInteger
import Catalog.Proofs.Json.ReadsLayout
import Catalog.Proofs.Migration.Accounting
import Catalog.Proofs.Migration.Agree
import Catalog.Proofs.Migration.Diff
import Catalog.Proofs.Migration.File
import Catalog.Proofs.Migration.Interchange
import Catalog.Proofs.Migration.KeepsOwn
import Catalog.Proofs.Migration.Memory
import Catalog.Proofs.Migration.Misdirected
import Catalog.Proofs.Migration.Rerun
import Catalog.Proofs.Migration.Resume
import Catalog.Proofs.Migration.Survey
import Catalog.Proofs.Migration.Tally
import Catalog.Proofs.Migration.Total
import Catalog.Proofs.Ownership.Marker
import Catalog.Proofs.Ownership.Page
import Catalog.Proofs.Ownership.Verified
import Catalog.Proofs.Package.RoundTrip
import Catalog.Proofs.Record.Commit
import Catalog.Proofs.Record.Interleaving
import Catalog.Proofs.Settings.Environment
import Catalog.Proofs.Text.Pattern
import Catalog.Proofs.Validation.Canonical
import Catalog.Proofs.Validation.Complete
import Catalog.Proofs.Validation.Strict
import Catalog.Proofs.Validation.Transport
