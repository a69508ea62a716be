import Bookkeeping.CommandLine.Journal
import Bookkeeping.Diagnosis.Driver
import Bookkeeping.Diagnosis.Reading
import Bookkeeping.Json.Report
import Bookkeeping.Main
import Bookkeeping.Migration
import Bookkeeping.Settings
import Bookkeeping.Store.Plain
import Bookkeeping.Text.Key
import Bookkeeping.UseCase.Command
import Bookkeeping.Proofs.Ledger.Basic
import Bookkeeping.Proofs.Row.RoundTrip
import Bookkeeping.Proofs.Diagnosis.Message
import Bookkeeping.Proofs.Ledger.Reference
import Bookkeeping.Proofs.Store.Statement
import Bookkeeping.Proofs.Store.Work
import Bookkeeping.Proofs.Ledger.Keys
import Bookkeeping.Proofs.Ledger.Balance
import Bookkeeping.Proofs.Clients.Updates
import Bookkeeping.Proofs.Ledger.Outcome
import Bookkeeping.Proofs.Ledger.Posting
import Bookkeeping.Proofs.Clients.Basic
import Bookkeeping.Proofs.Spending.Checks
import Bookkeeping.Proofs.Spending.Tags
import Bookkeeping.Proofs.Spending.Outcome
import Bookkeeping.Proofs.UnitOfWork.Calls
import Bookkeeping.Proofs.UnitOfWork.Commands
import Bookkeeping.Proofs.Ledger.Deletion
import Bookkeeping.Proofs.Ledger.Deed
import Bookkeeping.Proofs.Ledger.WellFormed
import Bookkeeping.Proofs.Store.Intact
import Bookkeeping.Proofs.Permanence.Statement
import Bookkeeping.Proofs.Permanence.Commands
import Bookkeeping.Proofs.Guards.Statement
import Bookkeeping.Proofs.Guards.Delete
import Bookkeeping.Proofs.Guards.Register
import Bookkeeping.Proofs.Guards.Calls
import Bookkeeping.Proofs.Ledger.Run
import Bookkeeping.Proofs.Ledger.Failure
import Bookkeeping.Proofs.Ledger.Growth
import Bookkeeping.Proofs.Failure.Entities
import Bookkeeping.Proofs.Failure.Commands
import Bookkeeping.Proofs.Failure.Specific
import Bookkeeping.Proofs.Ledger.Solvency
import Bookkeeping.Proofs.UnitOfWork.Payments
import Bookkeeping.Proofs.Migration.Guards
import Bookkeeping.Proofs.Guards.Native
import Bookkeeping.Proofs.Guards.Unguarded
import Bookkeeping.Proofs.Guards.Commands
import Bookkeeping.Proofs.Guards.Naming
import Bookkeeping.Proofs.Ledger.Effect
import Bookkeeping.Proofs.Account.History
import Bookkeeping.Proofs.Payment.Commute
import Bookkeeping.Proofs.Label.TagNames
import Bookkeeping.Proofs.Row.Entities
import Bookkeeping.Proofs.Money.Grammar
import Bookkeeping.Proofs.Receiving.Outcome
import Bookkeeping.Proofs.Ledger.Listing
import Bookkeeping.Proofs.Ledger.Readback
import Bookkeeping.Proofs.Ledger.Search
import Bookkeeping.Proofs.Diagnosis.Meaning
import Bookkeeping.Proofs.UnitOfWork.Leftovers
import Bookkeeping.Proofs.Error.Reclassify
import Bookkeeping.Proofs.InPlace.Activity
import Bookkeeping.Proofs.InPlace.Transitions
import Bookkeeping.Proofs.Label.Edits
import Bookkeeping.Proofs.Register.Links
import Bookkeeping.Proofs.Diagnosis.Announcement
import Bookkeeping.Proofs.Diagnosis.GuardMessage
import Bookkeeping.Proofs.Migration.Turns
import Bookkeeping.Proofs.Text.Capitals
import Bookkeeping.Proofs.Label.TagCase
import Bookkeeping.Proofs.Label.AsciiNames
