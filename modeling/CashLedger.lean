import CashLedger.Amount
import CashLedger.Backend
import CashLedger.Backend.Interference
import CashLedger.Balance
import CashLedger.Calendar
import CashLedger.Debt
import CashLedger.Engine.Balances
import CashLedger.Engine.Debts
import CashLedger.Engine.Exchanges
import CashLedger.Engine.Integrity
import CashLedger.Engine.Operation
import CashLedger.Engine.Posting
import CashLedger.Engine.Records
import CashLedger.Engine.Request
import CashLedger.Error
import CashLedger.Exchange
import CashLedger.Id
import CashLedger.Json
import CashLedger.Json.Form
import CashLedger.Json.Requests
import CashLedger.Kind
import CashLedger.Limits
import CashLedger.Log
import CashLedger.Main
import CashLedger.Money
import CashLedger.Node.Filter
import CashLedger.Node.Filter.Rule
import CashLedger.Node.Line
import CashLedger.Node.Run
import CashLedger.Node.Settings
import CashLedger.Proofs.Accounts
import CashLedger.Proofs.Alone
import CashLedger.Proofs.Alone.Debts
import CashLedger.Proofs.Alone.Exchanges
import CashLedger.Proofs.Answers
import CashLedger.Proofs.Backends
import CashLedger.Proofs.Barter
import CashLedger.Proofs.Books
import CashLedger.Proofs.Calendar
import CashLedger.Proofs.Companies
import CashLedger.Proofs.Conduct
import CashLedger.Proofs.Consistent
import CashLedger.Proofs.Course
import CashLedger.Proofs.Currencies
import CashLedger.Proofs.Desk
import CashLedger.Proofs.Dialogue
import CashLedger.Proofs.Engine.Answers
import CashLedger.Proofs.Engine.Balances
import CashLedger.Proofs.Engine.Companies
import CashLedger.Proofs.Engine.Debts
import CashLedger.Proofs.Engine.Effects
import CashLedger.Proofs.Engine.Enactment
import CashLedger.Proofs.Engine.Exchanges
import CashLedger.Proofs.Engine.Footprints
import CashLedger.Proofs.Engine.Grounds
import CashLedger.Proofs.Engine.Movements
import CashLedger.Proofs.Engine.Openings
import CashLedger.Proofs.Engine.Outcome
import CashLedger.Proofs.Engine.Overflows
import CashLedger.Proofs.Engine.Posting
import CashLedger.Proofs.Engine.Records
import CashLedger.Proofs.Engine.Refusals
import CashLedger.Proofs.Engine.Revisions
import CashLedger.Proofs.Engine.TwinRequests
import CashLedger.Proofs.Engine.TwinRows
import CashLedger.Proofs.Engine.Twins
import CashLedger.Proofs.Filed
import CashLedger.Proofs.Findings
import CashLedger.Proofs.Footprint
import CashLedger.Proofs.Forms
import CashLedger.Proofs.Funds
import CashLedger.Proofs.Halted
import CashLedger.Proofs.Integrity
import CashLedger.Proofs.Isolation
import CashLedger.Proofs.Json
import CashLedger.Proofs.Legs
import CashLedger.Proofs.Lending
import CashLedger.Proofs.Listings
import CashLedger.Proofs.Mirror
import CashLedger.Proofs.Overflows
import CashLedger.Proofs.Owners
import CashLedger.Proofs.Placement
import CashLedger.Proofs.Redone
import CashLedger.Proofs.Replacements
import CashLedger.Proofs.Replacements.Debts
import CashLedger.Proofs.Replacements.Exchanges
import CashLedger.Proofs.Replacements.Records
import CashLedger.Proofs.Serial
import CashLedger.Proofs.Session
import CashLedger.Proofs.Sql.Rows
import CashLedger.Proofs.Store.Accounts
import CashLedger.Proofs.Store.Commit
import CashLedger.Proofs.Store.Follows
import CashLedger.Proofs.Store.History
import CashLedger.Proofs.Store.Listing
import CashLedger.Proofs.Store.Mandate
import CashLedger.Proofs.Store.Movements
import CashLedger.Proofs.Store.Ordering
import CashLedger.Proofs.Store.Paired
import CashLedger.Proofs.Store.Postgres
import CashLedger.Proofs.Store.Reordered
import CashLedger.Proofs.Store.Replay
import CashLedger.Proofs.Store.Schema
import CashLedger.Proofs.Store.Sole
import CashLedger.Proofs.Store.Succession
import CashLedger.Proofs.Store.Table
import CashLedger.Proofs.Store.Tallies
import CashLedger.Proofs.Store.Twins
import CashLedger.Proofs.Store.Unit
import CashLedger.Proofs.Store.Updates
import CashLedger.Proofs.Store.Versions
import CashLedger.Proofs.Store.Visit
import CashLedger.Proofs.Store.Written
import CashLedger.Proofs.Supply
import CashLedger.Proofs.Text.UpperCase
import CashLedger.Proofs.Timestamp
import CashLedger.Proofs.Twins
import CashLedger.Proofs.Undoing
import CashLedger.Proofs.Unwinding
import CashLedger.Proofs.Uuid
import CashLedger.Record
import CashLedger.Sql.Cell
import CashLedger.Sql.Replies
import CashLedger.Sql.Rows
import CashLedger.Sql.Schema
import CashLedger.Sql.Server
import CashLedger.Sql.Statement
import CashLedger.Store.Memory
import CashLedger.Store.Postgres
import CashLedger.Store.Table
import CashLedger.Store.Tables
import CashLedger.Supply
import CashLedger.Text.Alphanumeric
import CashLedger.Text.Blank
import CashLedger.Text.Pattern
import CashLedger.Text.Pattern.CharSet
import CashLedger.Text.Pattern.Symbol
import CashLedger.Text.UpperCase
import CashLedger.Timestamp
import CashLedger.Timestamp.Text
import CashLedger.Uuid
import CashLedger.Work
import CashLedger.World
