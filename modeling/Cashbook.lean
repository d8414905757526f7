import Cashbook.Main
import Cashbook.Service.Endpoints
import Cashbook.Service.Settings
import Cashbook.Proofs.Chat.Confirmation
import Cashbook.Proofs.Chat.Torn
import Cashbook.Proofs.Evolution
import Cashbook.Proofs.Intake
import Cashbook.Proofs.Invariants
import Cashbook.Proofs.Isolation
import Cashbook.Proofs.Ledger.Balances
import Cashbook.Proofs.Ledger.Bindings
import Cashbook.Proofs.Ledger.Changes
import Cashbook.Proofs.Ledger.Moving
import Cashbook.Proofs.Ledger.Pairing
import Cashbook.Proofs.Ledger.Recording
import Cashbook.Proofs.Ledger.References
import Cashbook.Proofs.Ledger.Series
import Cashbook.Proofs.Ledger.Solvency
import Cashbook.Proofs.Ledger.Sums
import Cashbook.Proofs.Money.Reading
import Cashbook.Proofs.Money.Stored
import Cashbook.Proofs.Naming
import Cashbook.Proofs.Naming.Ledger
import Cashbook.Proofs.Naming.Services
import Cashbook.Proofs.Operations
import Cashbook.Proofs.OutOfRange
import Cashbook.Proofs.Posting.Interleaving
import Cashbook.Proofs.Posting.Outcome
import Cashbook.Proofs.Posting.Requests
import Cashbook.Proofs.Posting.Schedule
import Cashbook.Proofs.Posting.Sufficiency
import Cashbook.Proofs.Service.Tokens
import Cashbook.Proofs.Services
import Cashbook.Proofs.Ledger.Grouping
import Cashbook.Proofs.Ledger.Batches
import Cashbook.Proofs.Ledger.Credits
import Cashbook.Proofs.Ledger.ExactSums
import Cashbook.Proofs.Ledger.Reordering
import Cashbook.Proofs.Ledger.Signs
import Cashbook.Proofs.Posting.Movements
import Cashbook.Proofs.Date.Order
import Cashbook.Proofs.Date.Steps
import Cashbook.Proofs.Posting.Installments
import Cashbook.Proofs.Chat.BelowOne
import Cashbook.Proofs.Ledger.Listing
import Cashbook.Proofs.Posting.Appending
import Cashbook.Proofs.Summary
import Cashbook.Proofs.Chat.Sentences
import Cashbook.Proofs.Chat.Commands
import Cashbook.Proofs.Money.Rendering
import Cashbook.Proofs.Money.WholeCents
import Cashbook.Proofs.Ledger.Accounts
import Cashbook.Proofs.Ledger.Ranges
import Cashbook.Proofs.Ledger.Newest
import Cashbook.Proofs.Chat.Categories
import Cashbook.Proofs.Wording.Totals
import Cashbook.Proofs.Service.Deadlines
import Cashbook.Proofs.Date.Literal
import Cashbook.Proofs.Ledger.Numbers
import Cashbook.Proofs.Ledger.Lasting
