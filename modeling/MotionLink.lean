import MotionLink.CommandLine.Rehearsal
import MotionLink.Link.Loopback
import MotionLink.Main
import MotionLink.Proofs.Number.ReadBack
import MotionLink.Proofs.Command.Acceptance
import MotionLink.Proofs.Command.RoundTrip
import MotionLink.Proofs.Text.Utf8
import MotionLink.Proofs.Link.Delivery
import MotionLink.Proofs.Link.Exchange
import MotionLink.Proofs.Link.Pairing
import MotionLink.Proofs.Link.Sent
import MotionLink.Proofs.Link.Refusal
import MotionLink.Proofs.Log.Chunks
import MotionLink.Proofs.Log.Sessions
import MotionLink.Proofs.Log.Journal
import MotionLink.Proofs.Log.Records
import MotionLink.Proofs.Log.Reports
import MotionLink.Proofs.Log.Stopping
import MotionLink.Proofs.Log.Twins
import MotionLink.Proofs.Wire.Conservation
import MotionLink.Proofs.Json.OneLine
import MotionLink.Proofs.Json.ReadBack
import MotionLink.Proofs.Json.LongerTexts
import MotionLink.Proofs.Json.Nesting
import MotionLink.Proofs.Terminal.Entries
import MotionLink.Proofs.Terminal.Objects
import MotionLink.Proofs.Terminal.Limit
import MotionLink.Proofs.Terminal.Quota
import MotionLink.Proofs.Link.Interruptions
import MotionLink.Proofs.Link.Heard
import MotionLink.Proofs.CommandLine.Requests
import MotionLink.Proofs.Terminal.Failure
import MotionLink.Proofs.Log.Histories
import MotionLink.Proofs.Log.Lines
import MotionLink.Proofs.Log.Rounds
import MotionLink.Proofs.Terminal.Visible
import MotionLink.Proofs.Terminal.Strays
import MotionLink.Proofs.Terminal.Colors
import MotionLink.Proofs.Log.Containers
import MotionLink.Proofs.Log.Pieces
import MotionLink.Proofs.Log.Markup
import MotionLink.Proofs.Log.Payloads
import MotionLink.Proofs.Log.Flattening
import MotionLink.Proofs.Log.Bounds
import MotionLink.Proofs.Terminal.Capacity
import MotionLink.Proofs.Command.FirstFault
import MotionLink.Proofs.Command.Canonical
import MotionLink.Proofs.Command.Filled
import MotionLink.Proofs.Text.Margins
import MotionLink.Proofs.Command.Spellings
import MotionLink.Proofs.Command.WellFormed
import MotionLink.Proofs.Command.Angles
import MotionLink.Proofs.Command.Stripping
import MotionLink.Proofs.Wire.Calls
import MotionLink.Proofs.Wire.Terminators
import MotionLink.Proofs.Wire.Held
import MotionLink.Proofs.Wire.Queue
import MotionLink.Proofs.Log.Interruptions
