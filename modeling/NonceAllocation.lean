import NonceAllocation.Config.File
import NonceAllocation.Record.Format
import NonceAllocation.Tracker.Session
import NonceAllocation.Wallet
import NonceAllocation.Proofs.Tracker.Assignment
import NonceAllocation.Proofs.Ledger.Confirmation
import NonceAllocation.Proofs.Tracker.Verdict
import NonceAllocation.Proofs.Registry.Build
import NonceAllocation.Proofs.Json.Decode
import NonceAllocation.Proofs.Config.Listing
import NonceAllocation.Proofs.Ledger.Operations
import NonceAllocation.Proofs.Ledger.FiniteMap
import NonceAllocation.Proofs.Decision.Order
import NonceAllocation.Proofs.Decision.Change
import NonceAllocation.Proofs.Ledger.Noninterference
import NonceAllocation.Proofs.Ledger.Advance
import NonceAllocation.Proofs.Tracker.Journal
import NonceAllocation.Proofs.Tracker.Calls
import NonceAllocation.Proofs.Tracker.Presence
import NonceAllocation.Proofs.Tracker.Serial
import NonceAllocation.Proofs.Text.Bytes
import NonceAllocation.Proofs.Text.Hex
import NonceAllocation.Proofs.Text.Digits
import NonceAllocation.Proofs.Json.Token
import NonceAllocation.Proofs.Json.Written
import NonceAllocation.Proofs.Json.Fields
import NonceAllocation.Proofs.Json.Structure
import NonceAllocation.Proofs.Record.RoundTrip
import NonceAllocation.Proofs.Record.Account
import NonceAllocation.Proofs.Config.Reference
import NonceAllocation.Proofs.Config.RoundTrip
import NonceAllocation.Proofs.Config.Settings
import NonceAllocation.Proofs.Registry.Construction
import NonceAllocation.Proofs.Registry.Requests
import NonceAllocation.Proofs.Registry.Operations
import NonceAllocation.Proofs.Registry.Wallet
import NonceAllocation.Proofs.Ledger.Settlement
import NonceAllocation.Proofs.Decision.Width
import NonceAllocation.Proofs.Config.Grammar
import NonceAllocation.Proofs.Config.Setting
import NonceAllocation.Proofs.Filecoin.Grammar
import NonceAllocation.Proofs.Filecoin.Spelling
import NonceAllocation.Proofs.Evm.Account
import NonceAllocation.Proofs.Config.Resolution
import NonceAllocation.Proofs.Json.Extent
import NonceAllocation.Proofs.Json.Scan
import NonceAllocation.Proofs.Json.Place
import NonceAllocation.Proofs.Json.Exchange
import NonceAllocation.Proofs.Config.Exchange
import NonceAllocation.Proofs.Config.Variables
import NonceAllocation.Proofs.Config.Indirection
import NonceAllocation.Proofs.Record.Building
import NonceAllocation.Proofs.Decision.Run
import NonceAllocation.Proofs.Decision.Frontier
