import Sorotte.Protocol.Payloads
import Sorotte.Framework.Program
import Sorotte.Server.State
import Sorotte.Server.Maintenance
import Sorotte.Server.ReadinessGate
import Sorotte.Server.PlaybackRequests
import Sorotte.Server.RoomBuffering
import Sorotte.Server.PlaybackBarrier
import Sorotte.Server.PlaybackStart
import Sorotte.Server.Readiness
import Sorotte.Server.Sessions
import Sorotte.Server.Handlers
import Sorotte.Server.Runs
import Sorotte.Server.Dispatch
import Sorotte.Ideal.System
import Sorotte.Framework.Maps
import Sorotte.Refinement.Mapping
import Sorotte.Refinement.Gate
import Sorotte.Refinement.Policy
import Sorotte.Refinement.Barrier
import Sorotte.Refinement.Start
import Sorotte.Ideal.Frames
import Sorotte.Refinement.Requests
import Sorotte.Refinement.Cohort
import Sorotte.Refinement.Intents
import Sorotte.Refinement.Members
import Sorotte.Client.Outbox
import Sorotte.Framework.Runs
import Sorotte.Client.OutboxQueue
import Sorotte.Client.OutboxInvariant
import Sorotte.Client.OutboxRuns
import Sorotte.Persistence.Store
import Sorotte.Persistence.RoundTrip
import Sorotte.Persistence.Service
import Sorotte.Persistence.ServiceRuns
import Sorotte.Coordinator.Commands
import Sorotte.Coordinator.Coordination
import Sorotte.Coordinator.Operations
import Sorotte.Coordinator.RateFrames
import Sorotte.Coordinator.RateOverride
import Sorotte.Coordinator.CatchupSpeed
import Sorotte.Framework.Success
import Sorotte.Membership.Frame
import Sorotte.Membership.QuietUpdates
import Sorotte.Membership.Members
import Sorotte.Membership.SeatEdits
import Sorotte.Membership.Moves
import Sorotte.Membership.Attaching
import Sorotte.Membership.Detaching
import Sorotte.Membership.Tracking
import Sorotte.Membership.Coherence
import Sorotte.Membership.Samples
import Sorotte.Membership.Walks
import Sorotte.Membership.Commands
import Sorotte.Membership.IntentWalks
import Sorotte.Membership.SetWalks
import Sorotte.Membership.MessageWalks
import Sorotte.Properties.Readiness
import Sorotte.Properties.Samples
import Sorotte.Json.Scan
import Sorotte.Protocol.Codec
import Sorotte.Json.Strings
import Sorotte.Protocol.KeyScanner
import Sorotte.Protocol.LineItems
import Sorotte.Lifecycle.State
import Sorotte.Lifecycle.Delivery
import Sorotte.Lifecycle.Attempts
import Sorotte.Lifecycle.Compaction
import Sorotte.Lifecycle.Reducer
import Sorotte.Lifecycle.Moves
import Sorotte.Lifecycle.Walks
import Sorotte.Lifecycle.Frames
import Sorotte.Lifecycle.Settled
import Sorotte.Lifecycle.SettledAttempts
import Sorotte.Resources.Accounts
import Sorotte.Client.Coalescing
import Sorotte.Client.CoalescedTail
import Sorotte.Membership.Names
import Sorotte.Server.Listing
import Sorotte.Properties.Usernames
import Sorotte.Lifecycle.SettledInputs
import Sorotte.Lifecycle.SettledSteps
import Sorotte.Framework.SoleMatch
import Sorotte.Lifecycle.PlaylistBinding
import Sorotte.Properties.PlaylistMatching
import Sorotte.Lifecycle.SeekFrames
import Sorotte.Lifecycle.SeekSeats
import Sorotte.Lifecycle.SeekRuns
import Sorotte.Lifecycle.SeekBudget
import Sorotte.Properties.SystemSeeks
import Sorotte.Session.LocalPlaylist
import Sorotte.Session.Selection
import Sorotte.Session.Undo
import Sorotte.Properties.PlaylistEdits
import Sorotte.Fingerprint.Entries
import Sorotte.Fingerprint.Codecs
import Sorotte.Properties.Fingerprints
import Sorotte.Framework.TextCursor
import Sorotte.Settings.PythonLiterals
import Sorotte.Settings.IniEscapes
import Sorotte.Settings.LiteralReads
import Sorotte.Properties.SettingLiterals
import Sorotte.Fingerprint.PcmStream
import Sorotte.Fingerprint.Reservoir
import Sorotte.Fingerprint.TopRanked
import Sorotte.Properties.AudioLandmarks
import Sorotte.Transition.Classifier
import Sorotte.Transition.Steps
import Sorotte.Desync.Correction
import Sorotte.Desync.Steps
import Sorotte.Properties.NativeGestures
import Sorotte.Properties.DesyncRuns
import Sorotte.Status.Session
import Sorotte.Status.Evidence
import Sorotte.Status.Steps
import Sorotte.Properties.ParticipantStatus
import Sorotte.Framework.Intervals
import Sorotte.Coordinator.SeekableRanges
import Sorotte.Properties.BufferedTargets
import Sorotte.Framework.RoundRobin
import Sorotte.Fingerprint.Selection
import Sorotte.Properties.LandmarkSelection
import Sorotte.Framework.FloatBits
import Sorotte.Ping.Challenges
import Sorotte.Ping.History
import Sorotte.Properties.LatencyMeasurements
import Sorotte.Framework.Tally
import Sorotte.Framework.Base64Text
import Sorotte.Fingerprint.Alignment
import Sorotte.Fingerprint.OffsetBins
import Sorotte.Fingerprint.Decision
import Sorotte.Fingerprint.Wire
import Sorotte.Properties.WireMatching
import Sorotte.Framework.PercentEncoding
import Sorotte.PlaylistWire.Payloads
import Sorotte.PlaylistWire.Codecs
import Sorotte.PlaylistWire.Sidecar
import Sorotte.Properties.PlaylistRoundTrips
import Sorotte.Framework.QuotaLedger
import Sorotte.Framework.Frame
import Sorotte.Quotas.Runs
import Sorotte.Quotas.Loading
import Sorotte.Properties.RoomQuotas
import Sorotte.Refinement.Sessions
import Sorotte.Refinement.Departures
import Sorotte.Refinement.Selections
import Sorotte.Refinement.Commands
import Sorotte.Refinement.Playstate
import Sorotte.Refinement.Runs
import Sorotte.Ideal.Runs
import Sorotte.Ideal.Starts
import Sorotte.Ideal.Transport
import Sorotte.Ideal.Lifecycle
import Sorotte.Ideal.History
import Sorotte.Ideal.Commits
import Sorotte.Ideal.Completion
import Sorotte.Ideal.Allocation
import Sorotte.Ideal.Presence
import Sorotte.Properties.ServerRefinement
import Sorotte.Properties.CoordinatedStarts
import Sorotte.Framework.Chronicle
import Sorotte.Ideal.Authority
import Sorotte.Ideal.Epochs
import Sorotte.Ideal.Generations
import Sorotte.Ideal.Replays
import Sorotte.Ideal.Owners
import Sorotte.Refinement.Staging
import Sorotte.Refinement.Restricted
import Sorotte.Properties.UserPauses
import Sorotte.Properties.RoomHistories
import Sorotte.Properties.PlaylistRaces
