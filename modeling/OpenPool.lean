import OpenPool.Library.Bytes
import OpenPool.Library.HashChain
import OpenPool.Library.Tiling
import OpenPool.Library.StateMachine
import OpenPool.Library.Fallible
import OpenPool.Library.Table
import OpenPool.Library.Sha256
import OpenPool.Library.Json
import OpenPool.Library.Residues
import OpenPool.Library.Checked
import OpenPool.Library.Lease
import OpenPool.Library.Paging
import OpenPool.Library.Firsts
import OpenPool.Protocol.Domain
import OpenPool.Protocol.Ledger
import OpenPool.Protocol.WellFormed
import OpenPool.Protocol.Draw
import OpenPool.Protocol.Fairness
import OpenPool.Protocol.Reduction
import OpenPool.Protocol.Allocation
import OpenPool.Protocol.Proof
import OpenPool.Verifier.Semantics
import OpenPool.Verifier.TrapFree
import OpenPool.Verifier.Exactness
import OpenPool.Verifier.Commitment
import OpenPool.Store.Schema
import OpenPool.Store.Conversions
import OpenPool.Store.Jobs
import OpenPool.Store.Raffles
import OpenPool.Store.Invoices
import OpenPool.Store.Draws
import OpenPool.Store.Payouts
import OpenPool.Store.Machine
import OpenPool.Store.Lifecycle
import OpenPool.Store.RaffleSteps
import OpenPool.Store.DrawSteps
import OpenPool.Store.JobSteps
import OpenPool.Store.InvoiceInvariant
import OpenPool.Store.LedgerInvariant
import OpenPool.Store.DrawInvariant
import OpenPool.Store.Reachable
import OpenPool.Store.LedgerCorrectness
import OpenPool.Store.ProofCorrectness
import OpenPool.Store.LastPayout
import OpenPool.Store.StatusCorrectness
import OpenPool.Library.Process
import OpenPool.Worker.Services
import OpenPool.Worker.Reconcile
import OpenPool.Store.Monotone
import OpenPool.Store.Frames
import OpenPool.Worker.World
import OpenPool.Worker.Invariant
import OpenPool.Store.Outcomes
import OpenPool.Worker.Answers
import OpenPool.Worker.Safety
import OpenPool.Worker.Runs
import OpenPool.Worker.PayoutCorrectness
import OpenPool.Worker.SettlementCorrectness
import OpenPool.Worker.CancelCorrectness
import OpenPool.Worker.ClosingCorrectness
import OpenPool.Worker.Blocks
import OpenPool.Worker.DrawCorrectness
import OpenPool.Worker.BlockCorrectness
import OpenPool.Worker.SelectionCorrectness
import OpenPool.Worker.PublicationCorrectness
import OpenPool.Store.CloseCorrectness
import OpenPool.Store.PriceCorrectness
import OpenPool.Store.SettlementReplay
import OpenPool.Store.Queue
import OpenPool.Store.Outbox
import OpenPool.Store.LeaseCorrectness
import OpenPool.Store.AttemptBudget
import OpenPool.Store.QueueRefinement
import OpenPool.Store.PublicEntries
import OpenPool.Store.PagingCorrectness
import OpenPool.Store.WebhookCorrectness
import OpenPool.Library.Hex
import OpenPool.Protocol.Encoding
import OpenPool.Store.Terms
import OpenPool.Store.PublicReads
import OpenPool.Store.Catalogue
import OpenPool.Store.Audit
import OpenPool.Store.PublicInvoices
import OpenPool.Store.Recipients
import OpenPool.Store.Moves
import OpenPool.Store.Publication
import OpenPool.Store.PublicResults
import OpenPool.Library.Traces
import OpenPool.Library.Text
import OpenPool.Library.Hmac
import OpenPool.Api.Http
import OpenPool.Api.AddressCipher
import OpenPool.Api.Logins
import OpenPool.Api.Webhook
import OpenPool.Api.Requests
import OpenPool.Api.Handlers
import OpenPool.Api.Routes
import OpenPool.Api.System
import OpenPool.Worker.Requested
import OpenPool.Worker.Grounds
import OpenPool.Api.Runs
import OpenPool.Api.Identity
import OpenPool.Api.Attempts
import OpenPool.Api.Origins
import OpenPool.Api.Ownership
import OpenPool.Api.Evidence
import OpenPool.Api.Collection
import OpenPool.Api.Moves
import OpenPool.Api.Settlement
import OpenPool.Api.Operator
import OpenPool.Api.Payments
import OpenPool.Api.Drawing
import OpenPool.Api.Results
