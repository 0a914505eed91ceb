import RadioBoard.Flash
import RadioBoard.Rfic
import RadioBoard.Streaming
import RadioBoard.Transport
import RadioBoard.Trigger

/-!
The collaborators of the board beside the transport, and all of them together.
-/

namespace RadioBoard

namespace Peer

inductive Call
  | startRfic (params : Rfic.Params)
  | rfic (driver : Rfic.Handle) (c : Rfic.Call)
  | releaseRfic (driver : Rfic.Handle)
  | streaming (c : Streaming.Call)
  | removeStream (s : Streaming.StreamHandle)
  /-- Stops the worker of a synchronous stream and gives its buffers back. -/
  | stopSync (s : Streaming.SyncHandle)
  | flash (c : Flash.Call)
  | trigger (c : Trigger.Call)

/-- The transceiver driver fails with status codes. A release cannot fail. -/
abbrev Call.Answer : Call → Type
  | startRfic _ => Except Int32 Rfic.Handle
  | rfic _ c => Except Int32 c.Reply
  | streaming c => Except Error c.Reply
  | releaseRfic _ | removeStream _ | stopSync _ => Unit
  | flash c => Except Error c.Reply
  | trigger c => Except Error c.Reply

abbrev interface : Interface := ⟨Call, Call.Answer⟩

end Peer

/-- All calls that the board makes. -/
abbrev boardInterface : Interface := Transport.interface.sum Peer.interface

end RadioBoard
