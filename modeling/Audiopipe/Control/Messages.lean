import Audiopipe.Streamer.ReceiveLoop

/-!
# The messages of the control connection
-/

namespace Audiopipe.Control.Messages

open Audiopipe.Mixing.TrackSelector
open Audiopipe.Streamer.PacketFormat
open Audiopipe.Streamer.ReceiveLoop

inductive ControlError where
  | generalError
  | streamIdNotFound
  | audioStreamError (error : UdpServerHandleError)
deriving DecidableEq

inductive ControlRequest where
  | openStream (sel : MixerTrackSelector)
  | closeStream (streamId : Uuid)
deriving DecidableEq

inductive ControlResponse where
  | stream (id : Uuid) (port : UInt16) (bufferSize sampleRate : ℕ)
  | ok
  | error (error : ControlError)
deriving DecidableEq

/-- What can go wrong with one message. -/
inductive PacketError where
  | packetSendError
  | serdeError
  | packetReadError
deriving DecidableEq, Repr

/--
The connection packet of `tcp_client`.  The selector that the client was
started with is a parameter of the function but not of the request.
-/
def connectionPacket (_sel : MixerTrackSelector) : ControlRequest :=
  .openStream (.stereo 0 1)

end Audiopipe.Control.Messages
