import Audiopipe.Foundation.GuardedRuns
import Audiopipe.Foundation.Simulations
import Audiopipe.Foundation.BoundedQueues
import Audiopipe.Foundation.EventTraces
import Audiopipe.Foundation.LinearTokens
import Audiopipe.Foundation.Locks
import Audiopipe.Foundation.StridedLists
import Audiopipe.Foundation.Iterators
import Audiopipe.Mixing.TrackSelector
import Audiopipe.Mixing.RingTransfer
import Audiopipe.Mixing.TransferLaws
import Audiopipe.Mixing.WriteThenRead
import Audiopipe.Mixing.WholeFrames
import Audiopipe.Mixing.TrackColumns
import Audiopipe.Mixing.AsyncWrite
import Audiopipe.Mixing.ConcurrentCalls
import Audiopipe.Mixing.StereoSessions
import Audiopipe.Mixing.StereoPhases
import Audiopipe.Mixing.StereoPairing
import Audiopipe.Mixing.SelectorText
import Audiopipe.Splitter.SampleLabels
import Audiopipe.Splitter.MergedSamples
import Audiopipe.Splitter.SplitThenMerge
import Audiopipe.Splitter.AcceptedSelections
import Audiopipe.Audio.CaptureCallback
import Audiopipe.Audio.PlaybackCallback
import Audiopipe.Foundation.ByteFormats
import Audiopipe.Foundation.TextFormats
import Audiopipe.Streamer.PacketFormat
import Audiopipe.Streamer.ReceiveLoop
import Audiopipe.Streamer.ReceiverTasks
import Audiopipe.Streamer.PacketIsolation
import Audiopipe.Streamer.PlayoutBudget
import Audiopipe.Streamer.AtomicPackets
import Audiopipe.Streamer.FrameCancellation
import Audiopipe.Streamer.Sender
import Audiopipe.Streamer.Pacing
import Audiopipe.Control.Messages
import Audiopipe.Control.PacketJson
import Audiopipe.Control.PacketFraming
import Audiopipe.Control.ServerTasks
import Audiopipe.Control.RequestLedger
import Audiopipe.Control.StreamAcceptance
import Audiopipe.Control.StreamIds
import Audiopipe.Control.HandleOwnership
import Audiopipe.Control.StreamClosing
import Audiopipe.Control.LockOrder
import Audiopipe.Control.DeadlockFreedom
import Audiopipe.Audio.OutputSetup
import Audiopipe.Audio.ConfigSelection
import Audiopipe.Control.ConnectionCleanup
import Audiopipe.Session.SelectorAgreement
import Audiopipe.Session.StopCalls
import Audiopipe.Session.SenderStart
import Audiopipe.Session.ClientTasks
import Audiopipe.Session.ClientLocks
import Audiopipe.Session.ClientStop
import Audiopipe.Foundation.LossyStreams
import Audiopipe.Mixing.ChannelStreams
import Audiopipe.Session.AudioPath
import Audiopipe.Session.AudioFidelity
import Audiopipe.Session.ControlNetwork
import Audiopipe.Session.StreamGrants
import Audiopipe.Session.GrantedSenders
import Audiopipe.Session.HandshakeProgress
import Audiopipe.Foundation.FiniteWork
import Audiopipe.Control.ClosedStreams
import Audiopipe.Control.ServerSettles
