import BubotCoap.MessageLayer

set_option autoImplicit false

/-!
# The UDP protocol object

`coap_udp_protocol.py`: what happens to a request once the message layer has
assigned it a transaction.
-/
namespace BubotCoap.CoapUdpProtocol
open PythonData Messages Transactions MessageLayer FallibleState

/-- The three ways on, and the fourth of having nothing to resend. -/
inductive Dispatch where
  | resend (response : Message)
  | nothing
  | sendAck (tid : ℕ)
  | receiveRequest (tid : ℕ)
  deriving DecidableEq

def dispatch (tid : ℕ) (s : State) : Dispatch :=
  let t := s.heap.cell tid
  if t.request.duplicated ∧ t.completed then
    match t.response with
    | some response => .resend response
    | none => .nothing
  else if t.request.duplicated ∧ ¬ t.completed then .sendAck tid
  else .receiveRequest tid

theorem dispatch_new (tid : ℕ) (s : State) (h : (s.heap.cell tid).request.duplicated = false) :
    dispatch tid s = .receiveRequest tid := by
  unfold dispatch
  dsimp only
  rw [h]
  rfl

/-- `datagram_received_request` up to the point where it leaves the message layer. Its own log line
does not raise: `datagram_received` has written the same message before. -/
def datagramReceivedRequest (now : ℚ) (message : Message) : Action PyErr State Dispatch := do
  let tid ← MessageLayer.receiveRequest now message
  let s ← Action.get
  pure (dispatch tid s)

theorem datagramReceivedRequest_duplicate (now : ℚ) (message : Message) (address : Address)
    (tid : ℕ) (s : State) (hsource : message.source = some address)
    (h : duplicateOf message address s = some tid) :
    datagramReceivedRequest now message s =
      (.ok (dispatch tid (s.update tid markDuplicated)), s.update tid markDuplicated) := by
  have hreceive : MessageLayer.receiveRequest now message s =
      (.ok tid, s.update tid markDuplicated) := by
    unfold MessageLayer.receiveRequest
    rw [hsource]
    dsimp only
    rw [h]
  unfold datagramReceivedRequest
  rw [Action.bind_ok _ hreceive, Action.bind_get]
  rfl

end BubotCoap.CoapUdpProtocol
