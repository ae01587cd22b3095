import TournamentDesk.CommandLine
import TournamentDesk.Decimal.Layout
import TournamentDesk.Decimal.Numeral
import TournamentDesk.Decimal.Shortest
import TournamentDesk.Deed
import TournamentDesk.Http.Endpoint
import TournamentDesk.Http.Form
import TournamentDesk.Http.MediaType
import TournamentDesk.Http.Message
import TournamentDesk.Http.Service
import TournamentDesk.Http.Target
import TournamentDesk.Json.Reading
import TournamentDesk.Json.Record
import TournamentDesk.Json.Token
import TournamentDesk.Json.Value
import TournamentDesk.Main
import TournamentDesk.Office.Basic
import TournamentDesk.Office.Decisions
import TournamentDesk.Office.Problem
import TournamentDesk.Office.Rounds
import TournamentDesk.Office.View
import TournamentDesk.Proofs.Decimal.Arithmetic
import TournamentDesk.Proofs.Decimal.Fractions
import TournamentDesk.Proofs.Decimal.Overflow
import TournamentDesk.Proofs.Decimal.Packing
import TournamentDesk.Proofs.Decimal.Rounding
import TournamentDesk.Proofs.Http.Acceptance
import TournamentDesk.Proofs.Http.Access
import TournamentDesk.Proofs.Http.Discretion
import TournamentDesk.Proofs.Http.Reachable
import TournamentDesk.Proofs.Http.Rejection
import TournamentDesk.Proofs.Http.Requests
import TournamentDesk.Proofs.Json.Doubles
import TournamentDesk.Proofs.Json.Finite
import TournamentDesk.Proofs.Json.Fractions
import TournamentDesk.Proofs.Json.Records
import TournamentDesk.Proofs.Json.RoundTrip
import TournamentDesk.Proofs.Json.Strings
import TournamentDesk.Proofs.Office.Acceptance
import TournamentDesk.Proofs.Office.Books
import TournamentDesk.Proofs.Office.Enrolment
import TournamentDesk.Proofs.Office.Faults
import TournamentDesk.Proofs.Office.Operations
import TournamentDesk.Proofs.Office.Refusals
import TournamentDesk.Proofs.Office.Requests
import TournamentDesk.Proofs.Office.Restarts
import TournamentDesk.Proofs.Office.Rollback
import TournamentDesk.Proofs.Office.Runs
import TournamentDesk.Proofs.Office.Saved
import TournamentDesk.Proofs.Office.Spelling
import TournamentDesk.Proofs.Office.Variants
import TournamentDesk.Proofs.Office.Waiting
import TournamentDesk.Proofs.Registration.Record
import TournamentDesk.Proofs.Storage.FileStore
import TournamentDesk.Proofs.Storage.Tree
import TournamentDesk.Proofs.Swiss.Choice
import TournamentDesk.Proofs.Swiss.Coherence
import TournamentDesk.Proofs.Swiss.Conservation
import TournamentDesk.Proofs.Swiss.Matching
import TournamentDesk.Proofs.Swiss.NewRound
import TournamentDesk.Proofs.Swiss.Percentages
import TournamentDesk.Proofs.Swiss.Permanence
import TournamentDesk.Proofs.Swiss.Places
import TournamentDesk.Proofs.Swiss.Progress
import TournamentDesk.Proofs.Swiss.Reachable
import TournamentDesk.Proofs.Swiss.Record
import TournamentDesk.Proofs.Swiss.Rematches
import TournamentDesk.Proofs.Swiss.Reports
import TournamentDesk.Proofs.Swiss.Seating
import TournamentDesk.Proofs.Swiss.Tallies
import TournamentDesk.Proofs.Text.Names
import TournamentDesk.Proofs.Text.Symbols
import TournamentDesk.Proofs.Time.Instant
import TournamentDesk.Registration.Entrant
import TournamentDesk.Registration.Queue
import TournamentDesk.Settings.Address
import TournamentDesk.Settings.Basic
import TournamentDesk.Settings.Environment
import TournamentDesk.Settings.EnvironmentFile
import TournamentDesk.Storage.Fault
import TournamentDesk.Storage.FileStore
import TournamentDesk.Storage.Path
import TournamentDesk.Storage.Records
import TournamentDesk.Storage.Tree
import TournamentDesk.Swiss.Basic
import TournamentDesk.Swiss.Record
import TournamentDesk.Swiss.Refusal
import TournamentDesk.Swiss.Rounds
import TournamentDesk.Swiss.Search
import TournamentDesk.Swiss.Standings
import TournamentDesk.Swiss.Verb
import TournamentDesk.Text.Blank
import TournamentDesk.Text.CaseData
import TournamentDesk.Text.LetterData
import TournamentDesk.Text.Letters
import TournamentDesk.Text.LowerCase
import TournamentDesk.Text.PrintData
import TournamentDesk.Text.Quoted
import TournamentDesk.Text.Scan
import TournamentDesk.Text.Symbols
import TournamentDesk.Time.Date
import TournamentDesk.Time.Instant
import TournamentDesk.Proofs.Swiss.Rows
import TournamentDesk.Proofs.Swiss.Points
import TournamentDesk.Proofs.Swiss.Ranking
import TournamentDesk.Proofs.Storage.Directories
import TournamentDesk.Proofs.Storage.Replacement
import TournamentDesk.Proofs.Registration.Lookup
import TournamentDesk.Proofs.Http.Tables
import TournamentDesk.Proofs.Http.Admission
import TournamentDesk.Proofs.Settings.Sources
import TournamentDesk.Proofs.Swiss.Backtracking
import TournamentDesk.Proofs.Swiss.Budget
