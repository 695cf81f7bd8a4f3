import EdgeKvm.Audio.Delivery
import EdgeKvm.Audio.JitterBuffer
import EdgeKvm.Audio.LossReporter
import EdgeKvm.Audio.Packet
import EdgeKvm.Audio.Playout
import EdgeKvm.Audio.Redirects
import EdgeKvm.Audio.Resampler
import EdgeKvm.Audio.Ring
import EdgeKvm.Audio.RingTurns
import EdgeKvm.Audio.Routing
import EdgeKvm.Audio.RoutingGuarantees
import EdgeKvm.Audio.RoutingTurns
import EdgeKvm.Audio.Stream
import EdgeKvm.Clipboard.Cancels
import EdgeKvm.Clipboard.Convergence
import EdgeKvm.Clipboard.DesktopTurns
import EdgeKvm.Clipboard.Desktops
import EdgeKvm.Clipboard.Exchange
import EdgeKvm.Clipboard.HeldInput
import EdgeKvm.Clipboard.Integrity
import EdgeKvm.Clipboard.Item
import EdgeKvm.Clipboard.LiveCalls
import EdgeKvm.Clipboard.LiveState
import EdgeKvm.Clipboard.LiveTurns
import EdgeKvm.Clipboard.Offered
import EdgeKvm.Clipboard.PasteSession
import EdgeKvm.Clipboard.PasteTurns
import EdgeKvm.Clipboard.Pastes
import EdgeKvm.Clipboard.Receiver
import EdgeKvm.Clipboard.RoundTrip
import EdgeKvm.Clipboard.Schedule
import EdgeKvm.Clipboard.Streams
import EdgeKvm.Clipboard.Transfer
import EdgeKvm.Clipboard.Turns
import EdgeKvm.Clipboard.Withholding
import EdgeKvm.Config.File
import EdgeKvm.Config.Migration
import EdgeKvm.Config.RoundTrip
import EdgeKvm.Config.Safety
import EdgeKvm.Dialling.Apart
import EdgeKvm.Dialling.Node
import EdgeKvm.Dialling.OneConnection
import EdgeKvm.Input.CaptureTrace
import EdgeKvm.Input.Crossing
import EdgeKvm.Input.EisEvents
import EdgeKvm.Input.EmergencyChord
import EdgeKvm.Input.Geometry
import EdgeKvm.Input.Injectors
import EdgeKvm.Input.IntegralDelta
import EdgeKvm.Input.Keymap
import EdgeKvm.Input.Modifiers
import EdgeKvm.Input.PortalCapture
import EdgeKvm.Input.PortalGuarantees
import EdgeKvm.Input.StuckKeys
import EdgeKvm.Input.WindowsCapture
import EdgeKvm.Lib.Ascending
import EdgeKvm.Lib.Budget
import EdgeKvm.Lib.Cut
import EdgeKvm.Lib.Device
import EdgeKvm.Lib.Disk
import EdgeKvm.Lib.Fallible
import EdgeKvm.Lib.Feed
import EdgeKvm.Lib.Handler
import EdgeKvm.Lib.Inodes
import EdgeKvm.Lib.Json
import EdgeKvm.Lib.Keyed
import EdgeKvm.Lib.Lines
import EdgeKvm.Lib.Lockstep
import EdgeKvm.Lib.Log
import EdgeKvm.Lib.Machine
import EdgeKvm.Lib.MessagePack
import EdgeKvm.Lib.Ordered
import EdgeKvm.Lib.Packets
import EdgeKvm.Lib.Ring
import EdgeKvm.Lib.Rounding
import EdgeKvm.Lib.Sides
import EdgeKvm.Lib.Slices
import EdgeKvm.Lib.Spaced
import EdgeKvm.Lib.Table
import EdgeKvm.Lib.Toml
import EdgeKvm.Lib.Transit
import EdgeKvm.Notification.Authority
import EdgeKvm.Notification.Bridge
import EdgeKvm.Notification.Budget
import EdgeKvm.Notification.Commits
import EdgeKvm.Notification.Deliveries
import EdgeKvm.Notification.Encoding
import EdgeKvm.Notification.Guarantees
import EdgeKvm.Notification.Hub
import EdgeKvm.Notification.Invariant
import EdgeKvm.Notification.Lifetimes
import EdgeKvm.Notification.Link
import EdgeKvm.Notification.Mirror
import EdgeKvm.Notification.MirrorRuns
import EdgeKvm.Notification.MirrorSnapshots
import EdgeKvm.Notification.MirrorTurns
import EdgeKvm.Notification.Numbering
import EdgeKvm.Notification.Persisting
import EdgeKvm.Notification.PhoneGuarantees
import EdgeKvm.Notification.PhoneHistory
import EdgeKvm.Notification.PhoneRemovals
import EdgeKvm.Notification.PhoneSnapshots
import EdgeKvm.Notification.PhoneSource
import EdgeKvm.Notification.PhoneText
import EdgeKvm.Notification.PhoneTurns
import EdgeKvm.Notification.Preservation
import EdgeKvm.Notification.Progress
import EdgeKvm.Notification.Projections
import EdgeKvm.Notification.Protocol
import EdgeKvm.Notification.Replica
import EdgeKvm.Notification.Representation
import EdgeKvm.Notification.SessionLink
import EdgeKvm.Notification.Snapshots
import EdgeKvm.Notification.Start
import EdgeKvm.Notification.Store
import EdgeKvm.Notification.Stored
import EdgeKvm.Notification.System
import EdgeKvm.Notification.Views
import EdgeKvm.Pairing.Approval
import EdgeKvm.Pairing.Control
import EdgeKvm.Pairing.ControlNames
import EdgeKvm.Pairing.PhoneSessions
import EdgeKvm.Pairing.PinTable
import EdgeKvm.Pairing.Pins
import EdgeKvm.Pairing.SessionList
import EdgeKvm.Pairing.Window
import EdgeKvm.Pairing.WindowChecks
import EdgeKvm.Session.Agreement
import EdgeKvm.Session.Arming
import EdgeKvm.Session.Audio
import EdgeKvm.Session.AudioAgreement
import EdgeKvm.Session.AudioEnds
import EdgeKvm.Session.AudioTurns
import EdgeKvm.Session.CaptureFailure
import EdgeKvm.Session.Commands
import EdgeKvm.Session.Connector
import EdgeKvm.Session.ConnectorAudio
import EdgeKvm.Session.ConnectorTurns
import EdgeKvm.Session.Coordinator
import EdgeKvm.Session.Handover
import EdgeKvm.Session.HeartbeatPing
import EdgeKvm.Session.Injection
import EdgeKvm.Session.Listener
import EdgeKvm.Session.ListenerAudio
import EdgeKvm.Session.ListenerTurns
import EdgeKvm.Session.Liveness
import EdgeKvm.Session.Pair
import EdgeKvm.Session.Protocol
import EdgeKvm.Session.Receiving
import EdgeKvm.Session.Role
import EdgeKvm.Session.SingleController
import EdgeKvm.Session.StoredRoles
import EdgeKvm.Session.StoredTurns
import EdgeKvm.Session.WindowsConnector
import EdgeKvm.Session.WindowsForwarding
import EdgeKvm.Session.WindowsGuards
import EdgeKvm.Session.WindowsLoop
import EdgeKvm.Session.WindowsTurns
import EdgeKvm.Storage.AtomicWrite
import EdgeKvm.Transport.SecureFrames
