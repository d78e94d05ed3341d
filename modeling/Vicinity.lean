import Vicinity.Beacon
import Vicinity.Channel
import Vicinity.Config
import Vicinity.Decimal.Numeral
import Vicinity.Decimal.Shortest
import Vicinity.Detected
import Vicinity.Distance
import Vicinity.Distance.Fusion
import Vicinity.Engine.Basic
import Vicinity.Engine.Evaluation
import Vicinity.Engine.Inbound
import Vicinity.Engine.Operation
import Vicinity.Engine.Presence
import Vicinity.Engine.Query
import Vicinity.Engine.Registry
import Vicinity.Entity
import Vicinity.Entity.Id
import Vicinity.Error
import Vicinity.Event
import Vicinity.EventStream
import Vicinity.Filter
import Vicinity.Filter.Expr
import Vicinity.Group
import Vicinity.Json.Basic
import Vicinity.Json.Decoder
import Vicinity.Json.Fold
import Vicinity.Json.Node
import Vicinity.Json.Printer
import Vicinity.Json.Token
import Vicinity.Message
import Vicinity.Network
import Vicinity.Poi
import Vicinity.Policy
import Vicinity.Pool
import Vicinity.Proofs.Advertising
import Vicinity.Proofs.Attendance
import Vicinity.Proofs.Cadence
import Vicinity.Proofs.Channel
import Vicinity.Proofs.Crossings
import Vicinity.Proofs.Decimal.Doubles
import Vicinity.Proofs.Decimal.Rounding
import Vicinity.Proofs.Departure
import Vicinity.Proofs.DistanceUpdate
import Vicinity.Proofs.Distances
import Vicinity.Proofs.Echo
import Vicinity.Proofs.Ending
import Vicinity.Proofs.Engine.Amid
import Vicinity.Proofs.Engine.Deeds
import Vicinity.Proofs.Engine.Evaluation
import Vicinity.Proofs.Engine.Facts
import Vicinity.Proofs.Engine.Notices
import Vicinity.Proofs.Engine.Persona
import Vicinity.Proofs.Engine.Publishing
import Vicinity.Proofs.Engine.Step
import Vicinity.Proofs.Engine.Surroundings
import Vicinity.Proofs.Engine.Tasks
import Vicinity.Proofs.Engine.Tellings
import Vicinity.Proofs.Engine.Time
import Vicinity.Proofs.Engine.Utterances
import Vicinity.Proofs.Engine.Waiting
import Vicinity.Proofs.EventStream
import Vicinity.Proofs.Exchange
import Vicinity.Proofs.Filter.Comparison
import Vicinity.Proofs.Filter.Faults
import Vicinity.Proofs.Filter.Form
import Vicinity.Proofs.Filter.Meaning
import Vicinity.Proofs.Filter.Text
import Vicinity.Proofs.Fusion
import Vicinity.Proofs.Geofence
import Vicinity.Proofs.GhostSwitch
import Vicinity.Proofs.Handles
import Vicinity.Proofs.Interference
import Vicinity.Proofs.Json.Numerals
import Vicinity.Proofs.Json.Order
import Vicinity.Proofs.Json.Reading
import Vicinity.Proofs.Json.Tokens
import Vicinity.Proofs.Json.Trees
import Vicinity.Proofs.LastSeen
import Vicinity.Proofs.Legibility
import Vicinity.Proofs.Listening
import Vicinity.Proofs.Matching
import Vicinity.Proofs.Membership
import Vicinity.Proofs.Message.Codec
import Vicinity.Proofs.Message.Legible
import Vicinity.Proofs.Message.Parts
import Vicinity.Proofs.Naming
import Vicinity.Proofs.Offline
import Vicinity.Proofs.PeerReport
import Vicinity.Proofs.Places
import Vicinity.Proofs.Pool.Accounts
import Vicinity.Proofs.Pool.Counters
import Vicinity.Proofs.Pool.Nesting
import Vicinity.Proofs.Pool.Settling
import Vicinity.Proofs.Query
import Vicinity.Proofs.Registry
import Vicinity.Proofs.Runs
import Vicinity.Proofs.SelfUpdate
import Vicinity.Proofs.Session
import Vicinity.Proofs.Silence
import Vicinity.Proofs.Singling
import Vicinity.Proofs.TimerTable
import Vicinity.Proofs.Timers
import Vicinity.Subscription
import Vicinity.Text.Blank
import Vicinity.Text.CaseTable
import Vicinity.Text.Lowercase
import Vicinity.Text.PrintableTable
import Vicinity.Text.Quoted
import Vicinity.Text.Ranges
import Vicinity.Text.Span
import Vicinity.Text.Split
import Vicinity.Text.Utf8
import Vicinity.Timers
import Vicinity.Timestamp
import Vicinity.Transport
import Vicinity.Uuid
