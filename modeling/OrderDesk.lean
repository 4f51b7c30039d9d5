import OrderDesk.Bytes.Base64
import OrderDesk.Bytes.Basic
import OrderDesk.Cipher.Aes
import OrderDesk.Cipher.Gcm
import OrderDesk.DatabaseUrl
import OrderDesk.Decimal.Binary64
import OrderDesk.Decimal.Shortest
import OrderDesk.Demo
import OrderDesk.Desk.Call
import OrderDesk.Desk.Service
import OrderDesk.Digest
import OrderDesk.Failure
import OrderDesk.Gate.Basic
import OrderDesk.Gate.Cache
import OrderDesk.Http.Answer
import OrderDesk.Http.Field
import OrderDesk.Http.IntegerText
import OrderDesk.Http.Issue
import OrderDesk.Http.Request
import OrderDesk.Http.Route
import OrderDesk.Http.Schema
import OrderDesk.Http.Target
import OrderDesk.Json.Encoding
import OrderDesk.Json.Value
import OrderDesk.Json.Parser
import OrderDesk.Json.Printer
import OrderDesk.Main
import OrderDesk.Metrics.Basic
import OrderDesk.Metrics.Exposition
import OrderDesk.Net.Address
import OrderDesk.Net.Network
import OrderDesk.Order.Basic
import OrderDesk.Order.Callback
import OrderDesk.Order.Cancel
import OrderDesk.Order.Create
import OrderDesk.Order.Detail
import OrderDesk.Order.Listing
import OrderDesk.Order.Status
import OrderDesk.Order.Refund
import OrderDesk.Order.Settle
import OrderDesk.Order.View
import OrderDesk.Catalog
import OrderDesk.RateLimit
import OrderDesk.Security.Setting
import OrderDesk.Security.Update
import OrderDesk.Session.Identity
import OrderDesk.Session.Issue
import OrderDesk.Session.Key
import OrderDesk.Settings
import OrderDesk.Settings.Named
import OrderDesk.Store.Basic
import OrderDesk.Store.Export
import OrderDesk.Store.Rows
import OrderDesk.Store.Schema
import OrderDesk.Store.Work
import OrderDesk.Text.Basic
import OrderDesk.Text.Case
import OrderDesk.Text.CaseTable
import OrderDesk.Text.CodePoint
import OrderDesk.Text.Integer
import OrderDesk.Text.Quoted
import OrderDesk.Time.Instant
import OrderDesk.Wallet.Account
import OrderDesk.Wallet.Basic
import OrderDesk.Wallet.Movement
import OrderDesk.Webhook.Verifier
import OrderDesk.Proofs.Store.Rows
import OrderDesk.Proofs.Wallet.Posting
import OrderDesk.Proofs.Desk.Service
import OrderDesk.Proofs.Order.Handling
import OrderDesk.Proofs.Order.Placing
import OrderDesk.Proofs.Desk.Commit
import OrderDesk.Proofs.Desk.Atomicity
import OrderDesk.Proofs.Wallet.Agreement
import OrderDesk.Proofs.Order.Accounting
import OrderDesk.Proofs.Order.Reference
import OrderDesk.Proofs.Order.Conservation
import OrderDesk.Proofs.Order.Numbering
import OrderDesk.Proofs.Order.Binding
import OrderDesk.Proofs.Order.Recall
import OrderDesk.Proofs.Order.Keyless
import OrderDesk.Proofs.Order.Race
import OrderDesk.Proofs.Order.Blindness
import OrderDesk.Proofs.Desk.History
import OrderDesk.Proofs.Order.Once
import OrderDesk.Proofs.Order.Collection
import OrderDesk.Proofs.Order.Redelivery
import OrderDesk.Proofs.Order.Changing
import OrderDesk.Proofs.Order.Lifecycle
import OrderDesk.Proofs.Order.Closure
import OrderDesk.Proofs.Order.Timing
import OrderDesk.Proofs.Order.Details
import OrderDesk.Proofs.Desk.Outside
import OrderDesk.Proofs.Desk.Permanence
import OrderDesk.Proofs.Text.Case
import OrderDesk.Proofs.Wallet.Currency
import OrderDesk.Proofs.Order.Currency
import OrderDesk.Proofs.Order.Ownership
import OrderDesk.Proofs.Order.Viewing
import OrderDesk.Proofs.Desk.Isolation
import OrderDesk.Proofs.Http.Routing
import OrderDesk.Proofs.Http.Handler
import OrderDesk.Proofs.Http.Mediation
import OrderDesk.Proofs.Failure
import OrderDesk.Proofs.Text.Integer
import OrderDesk.Proofs.Text.Parts
import OrderDesk.Proofs.Bytes.Base64
import OrderDesk.Proofs.Cipher.Gcm
import OrderDesk.Proofs.Decimal.Whole
import OrderDesk.Proofs.Gate.Clock
import OrderDesk.Proofs.Gate.Signed
import OrderDesk.Proofs.Webhook.Signature
import OrderDesk.Proofs.Webhook.Verifier
import OrderDesk.Proofs.Store.Breaking
import OrderDesk.Proofs.Desk.Soundness
import OrderDesk.Proofs.Order.Containment
import OrderDesk.Proofs.Desk.Containment
import OrderDesk.Proofs.Desk.Overtaxing
import OrderDesk.Proofs.Order.Filing
import OrderDesk.Proofs.Order.Reading
import OrderDesk.Proofs.Desk.Reading
import OrderDesk.Proofs.Wallet.Decision
import OrderDesk.Proofs.Order.Settlement
import OrderDesk.Proofs.Order.Price
import OrderDesk.Proofs.Order.Notes
import OrderDesk.Proofs.Order.Selection
import OrderDesk.Proofs.Order.Paging
import OrderDesk.Proofs.Net.Network
import OrderDesk.Proofs.Webhook.Allowlist
import OrderDesk.Proofs.Gate.Verdict
import OrderDesk.Proofs.Text.Digits
import OrderDesk.Proofs.Time.Instant
import OrderDesk.Proofs.Json.Strings
import OrderDesk.Proofs.Json.Objects
import OrderDesk.Proofs.Gate.Canonical
import OrderDesk.Proofs.Session.Token
import OrderDesk.Proofs.Session.Claims
import OrderDesk.Proofs.Session.Signing
import OrderDesk.Proofs.Session.RoundTrip
import OrderDesk.Proofs.Session.Genuine
import OrderDesk.Proofs.Session.Breaking
import OrderDesk.Proofs.Text.Lower
import OrderDesk.Proofs.Security.Patching
import OrderDesk.Proofs.Security.Folding
import OrderDesk.Proofs.Gate.Turns
import OrderDesk.Proofs.Gate.Loading
import OrderDesk.Proofs.Gate.Updates
import OrderDesk.Proofs.Quota.Counting
import OrderDesk.Proofs.Quota.Windows
import OrderDesk.Proofs.Quota.Granting
import OrderDesk.Proofs.Time.Calendar
import OrderDesk.Proofs.Time.Written
import OrderDesk.Proofs.Order.Answering
import OrderDesk.Proofs.Desk.Showing
import OrderDesk.Proofs.Order.Dating
import OrderDesk.Proofs.Desk.Timekeeping
import OrderDesk.Proofs.Order.Sequence
import OrderDesk.Proofs.Order.Path
import OrderDesk.Proofs.Metrics.Sampling
import OrderDesk.Proofs.Order.Tallying
