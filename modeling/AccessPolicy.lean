import AccessPolicy.Ascending
import AccessPolicy.Decimal
import AccessPolicy.Decision.Authorize
import AccessPolicy.Decision.Event
import AccessPolicy.Decision.Json
import AccessPolicy.Decision.Response
import AccessPolicy.Digest.Sha256
import AccessPolicy.Engine.Basic
import AccessPolicy.Engine.Metrics
import AccessPolicy.Entity.Store
import AccessPolicy.Entity.Uid
import AccessPolicy.Expr.Basic
import AccessPolicy.Expr.Eval
import AccessPolicy.Expr.Fault
import AccessPolicy.Expr.Json
import AccessPolicy.Ip.Address
import AccessPolicy.Ip.Range
import AccessPolicy.Json.Basic
import AccessPolicy.Json.Printer
import AccessPolicy.Json.Reader
import AccessPolicy.Long
import AccessPolicy.Pattern
import AccessPolicy.Policy.Basic
import AccessPolicy.Policy.Json
import AccessPolicy.Policy.Scope
import AccessPolicy.Policy.Set
import AccessPolicy.Proofs.Ascending
import AccessPolicy.Proofs.Decision.Concatenation
import AccessPolicy.Proofs.Decision.Conditions
import AccessPolicy.Proofs.Decision.Folding
import AccessPolicy.Proofs.Decision.Json
import AccessPolicy.Proofs.Decision.Log
import AccessPolicy.Proofs.Decision.Membership
import AccessPolicy.Proofs.Decision.Rule
import AccessPolicy.Proofs.Entity.Ancestors
import AccessPolicy.Proofs.Entity.Building
import AccessPolicy.Proofs.Entity.Search
import AccessPolicy.Proofs.Entity.Slice
import AccessPolicy.Proofs.Entity.UidText
import AccessPolicy.Proofs.Expr.Blame
import AccessPolicy.Proofs.Expr.Core
import AccessPolicy.Proofs.Expr.Invariant
import AccessPolicy.Proofs.Expr.Json
import AccessPolicy.Proofs.Expr.Raise
import AccessPolicy.Proofs.Expr.Reached
import AccessPolicy.Proofs.Expr.Step
import AccessPolicy.Proofs.Expr.Truth
import AccessPolicy.Proofs.Ip.AddressText
import AccessPolicy.Proofs.Json.Rearranged
import AccessPolicy.Proofs.Json.Text
import AccessPolicy.Proofs.Policy.Additions
import AccessPolicy.Proofs.Policy.Digest
import AccessPolicy.Proofs.Policy.Json
import AccessPolicy.Proofs.Text.Escape
import AccessPolicy.Proofs.Text.Pieces
import AccessPolicy.Proofs.Value.Json
import AccessPolicy.Proofs.Value.Order
import AccessPolicy.Request.Basic
import AccessPolicy.Request.Json
import AccessPolicy.Text.Blank
import AccessPolicy.Text.Digits
import AccessPolicy.Text.Escape
import AccessPolicy.Text.Fields
import AccessPolicy.Text.Name
import AccessPolicy.Text.Printable
import AccessPolicy.Value.Basic
import AccessPolicy.Value.Collection
import AccessPolicy.Value.Json
import AccessPolicy.Value.Order
import AccessPolicy.Value.Text
import AccessPolicy.Proofs.Request.Context
import AccessPolicy.Proofs.Engine.Current
import AccessPolicy.Proofs.Engine.Listing
import AccessPolicy.Proofs.Engine.Metrics
import AccessPolicy.Proofs.Policy.Runs
import AccessPolicy.Proofs.Pattern.Pieces
import AccessPolicy.Proofs.Value.Canonical
import AccessPolicy.Proofs.Expr.Canonical
import AccessPolicy.Proofs.Policy.Canonical
import AccessPolicy.Proofs.Expr.Arithmetic
import AccessPolicy.Proofs.Expr.Attributes
import AccessPolicy.Proofs.Ip.Block
import AccessPolicy.Proofs.Ip.Grammar
import AccessPolicy.Proofs.Ip.RangeText
import AccessPolicy.Proofs.Decimal.Comparison
import AccessPolicy.Proofs.Decimal.Writing
import AccessPolicy.Proofs.Pattern.Source
import AccessPolicy.Proofs.Expr.Extensionality
import AccessPolicy.Proofs.Text.Quoted
import AccessPolicy.Proofs.Entity.UidGrammar
import AccessPolicy.Proofs.Entity.UidDistinct
import AccessPolicy.Proofs.Expr.Positions
import AccessPolicy.Proofs.Decision.Positions
