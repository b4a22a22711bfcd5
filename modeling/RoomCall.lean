import RoomCall.Text.Blank
import RoomCall.Text.Quoted
import RoomCall.Text.Decimal
import RoomCall.Text.Percent
import RoomCall.Text.Mark
import RoomCall.Json.Reader
import RoomCall.Json.Printer
import RoomCall.Supply
import RoomCall.Candidate
import RoomCall.Room
import RoomCall.Description.Kind
import RoomCall.Announcement
import RoomCall.Description.Section
import RoomCall.Description.Streams
import RoomCall.Signal.Reading
import RoomCall.Signal.Writing
import RoomCall.Relay
import RoomCall.Inventory
import RoomCall.Roster
import RoomCall.Engine.Rehearsal
import RoomCall.Negotiation
import RoomCall.Phone.Ending
import RoomCall.Phone.Run
import RoomCall.Timeline
import RoomCall.Phone.Snapshot
import RoomCall.Host.Run
import RoomCall.Stage.Run
import RoomCall.Tool.Run
import RoomCall.Main
import RoomCall.Engine.Wire
import RoomCall.Phone.Report
import RoomCall.Phone.Pump
import RoomCall.Json.Numeral
import RoomCall.Json.Spelling
import RoomCall.Json.Tree
import RoomCall.Tool.Files
import RoomCall.Proofs.Negotiation.Requests
import RoomCall.Proofs.Phone.Effects
import RoomCall.Proofs.Phone.Standing
import RoomCall.Proofs.Phone.Moves
import RoomCall.Proofs.Phone.Handling
import RoomCall.Proofs.Phone.Coherence
import RoomCall.Proofs.Phone.Reached
import RoomCall.Proofs.Phone.Candidates
import RoomCall.Proofs.Json.Members
import RoomCall.Proofs.Signal.RoundTrip
import RoomCall.Proofs.Phone.Sending
import RoomCall.Proofs.Phone.Provenance
import RoomCall.Proofs.Network.Authenticity
import RoomCall.Proofs.Negotiation.Foresight
import RoomCall.Proofs.Negotiation.Scripted
import RoomCall.Proofs.Description.Masking
import RoomCall.Proofs.Duet.Basic
import RoomCall.Proofs.Duet.Letters
import RoomCall.Proofs.Phone.Steadiness
import RoomCall.Proofs.Duet.Opening
import RoomCall.Proofs.Duet.Hearing
import RoomCall.Proofs.Duet.Agreement
import RoomCall.Proofs.Negotiation.Usage
import RoomCall.Proofs.Phone.Chronicle
import RoomCall.Proofs.Phone.Course
import RoomCall.Proofs.Phone.Following
import RoomCall.Proofs.Phone.Discourse
import RoomCall.Proofs.Phone.InviteTimer
import RoomCall.Proofs.Phone.Work
import RoomCall.Proofs.Phone.Engines
import RoomCall.Proofs.Phone.Tracking
import RoomCall.Proofs.Phone.Announcements
import RoomCall.Proofs.Phone.Foreign
import RoomCall.Proofs.Phone.Given
import RoomCall.Proofs.Phone.FirstAnswer
import RoomCall.Proofs.Phone.ArrivalOrder
import RoomCall.Proofs.Phone.Readiness
import RoomCall.Proofs.Phone.Hiring
import RoomCall.Proofs.Phone.RelayRequests
import RoomCall.Proofs.Phone.Waiting
import RoomCall.Proofs.Phone.Credentials
import RoomCall.Proofs.Phone.Ringing
import RoomCall.Proofs.Negotiation.Streams
import RoomCall.Proofs.Phone.Streams
import RoomCall.Proofs.Phone.Log
import RoomCall.Proofs.Phone.Refusal
import RoomCall.Proofs.Description.Matching
import RoomCall.Proofs.Description.Unmasking
import RoomCall.Proofs.Json.Sorting
import RoomCall.Proofs.Signal.Undoing
import RoomCall.Proofs.Phone.Progression
import RoomCall.Proofs.Negotiation.Load
import RoomCall.Proofs.Phone.Load
import RoomCall.Proofs.Duet.Quiescence
import RoomCall.Proofs.Description.Listing
import RoomCall.Proofs.Signal.Purposes
import RoomCall.Proofs.Description.Lines
import RoomCall.Proofs.Description.Chapters
import RoomCall.Proofs.Description.Exposure
import RoomCall.Proofs.Signal.Disclosure
import RoomCall.Proofs.Json.Normal
import RoomCall.Proofs.Json.Canonical
import RoomCall.Proofs.Signal.Forms
import RoomCall.Proofs.Host.Forms
import RoomCall.Proofs.Host.Acceptance
import RoomCall.Proofs.Host.Log
import RoomCall.Proofs.Host.Runs
import RoomCall.Proofs.Host.Dispatch
import RoomCall.Proofs.Host.Shutdown
import RoomCall.Proofs.Host.Posting
import RoomCall.Proofs.Host.Delivery
import RoomCall.Proofs.Stage.Seats
import RoomCall.Proofs.Negotiation.Interleaving
import RoomCall.Proofs.Description.Outline
import RoomCall.Proofs.Signal.Decoding
import RoomCall.Proofs.Phone.Lingering
import RoomCall.Proofs.Host.Hearing
import RoomCall.Proofs.Host.Expiry
import RoomCall.Proofs.Host.Lifetimes
import RoomCall.Proofs.Negotiation.Operations
import RoomCall.Proofs.Negotiation.Guards
import RoomCall.Proofs.Negotiation.Pieces
import RoomCall.Proofs.Negotiation.Integrity
import RoomCall.Proofs.Negotiation.Likeness
import RoomCall.Proofs.Negotiation.Rejection
import RoomCall.Proofs.Negotiation.Terminal
import RoomCall.Proofs.Description.Codec
import RoomCall.Proofs.Description.Blocks
import RoomCall.Proofs.Relay.Expiry
import RoomCall.Proofs.Text.Percent
import RoomCall.Proofs.Relay.Uris
import RoomCall.Proofs.Inventory.History
