import Custody.Broker.Basic
import Custody.Broker.Event
import Custody.Broker.Hall
import Custody.Broker.Refusal
import Custody.Broker.Request
import Custody.Broker.Roster
import Custody.Broker.Stats
import Custody.Decimal.Integer
import Custody.Decimal.Notation
import Custody.Decimal.Shortest
import Custody.Environment.File
import Custody.Environment.Line
import Custody.Json.Fault
import Custody.Json.Input
import Custody.Json.Number
import Custody.Json.Progress
import Custody.Json.Record
import Custody.Json.Scalar
import Custody.Json.Skip
import Custody.Json.Text
import Custody.Log.Filter
import Custody.Log.Line
import Custody.Log.Subscriber
import Custody.Proofs.Broker.Roster
import Custody.Proofs.Hall.Abandonment
import Custody.Proofs.Hall.Arrivals
import Custody.Proofs.Hall.Conservation
import Custody.Proofs.Hall.Draining
import Custody.Proofs.Hall.Failures
import Custody.Proofs.Hall.Ledger
import Custody.Proofs.Hall.Limits
import Custody.Proofs.Hall.Noninterference
import Custody.Proofs.Hall.Taking
import Custody.Proofs.Hall.Unregistration
import Custody.Proofs.Ranking
import Custody.Proofs.Ring.Changes
import Custody.Proofs.Ring.Cursor
import Custody.Proofs.Ring.Cycle
import Custody.Proofs.Ring.Frame
import Custody.Proofs.Settings.Environment
import Custody.Proofs.Settings.Naming
import Custody.Proofs.Shared.Producers
import Custody.Proofs.Shelf.Basic
import Custody.Proofs.Shelf.Frames
import Custody.Proofs.Shelf.Plain
import Custody.Proofs.Shelf.Queues
import Custody.Proofs.Shelf.RankedQueues
import Custody.Proofs.Shelf.Rings
import Custody.Proofs.Shelf.Staleness
import Custody.Proofs.Shelf.Steps
import Custody.Proofs.Shelf.Strangers
import Custody.Proofs.Shelf.Valid
import Custody.Proofs.Shelf.Walks
import Custody.Queue
import Custody.RankedQueue
import Custody.Registry
import Custody.Ring.Basic
import Custody.Ring.Cursor
import Custody.Ring.Description
import Custody.ServingOrder
import Custody.Settings.Basic
import Custody.Settings.Environment
import Custody.Settings.Json
import Custody.Settings.Roster
import Custody.Shared
import Custody.Text.Alphanumeric
import Custody.Text.Blank
import Custody.Text.Printable
import Custody.Text.Quoted
import Custody.Text.Ranges
import Custody.Text.Structure
