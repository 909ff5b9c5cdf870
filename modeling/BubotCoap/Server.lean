import BubotCoap.BlockLayer
import BubotCoap.CoapUdpProtocol
import BubotCoap.ObserveLayer
import BubotCoap.RequestLayer

set_option autoImplicit false

/-!
# The server

`server.py` and the request path of `coap_udp_protocol.py`: one received request
taken through all layers. The server keeps a record of the handlers it has run
and the messages it has sent, each with the number of the reception that
caused it.
-/
namespace BubotCoap.Server
open PythonData Defines Utils Messages OrderedDict Transactions Resources FallibleState

/-- A message handed to an endpoint. `anyPort` is a source without a port. -/
structure Datagram where
  message : Message
  anyPort : Bool
  deriving DecidableEq

structure State (ω : Type) where
  message : MessageLayer.State
  block : BlockLayer.State
  observe : ObserveLayer.Relations
  app : Application ω
  /-- The transactions whose lock is never released again. -/
  held : List ℕ
  received : ℕ
  calls : List (ℕ × Call)
  sent : List (ℕ × Datagram)

variable {ω : Type}

def State.new (startingMid : ℕ) (app : Application ω) : State ω where
  message := MessageLayer.State.new startingMid
  block := ⟨Dict.empty, Dict.empty, Dict.empty, Dict.empty⟩
  observe := Dict.empty
  app := app
  held := []
  received := 0
  calls := []
  sent := []

namespace State

def transaction (s : State ω) (tid : ℕ) : Transaction := s.message.heap.cell tid

def setTransaction (s : State ω) (tid : ℕ) (t : Transaction) : State ω :=
  { s with message := { s.message with heap := s.message.heap.set tid t } }

end State

section Layers
variable {α : Type} (tid : ℕ)

def onMessage (x : Action PyErr MessageLayer.State α) : Action Stop (State ω) α :=
  Action.zoom State.message (fun m s => { s with message := m }) Stop.raised x

def onBlock (x : Action PyErr (BlockLayer.State × Transaction) α) : Action Stop (State ω) α :=
  Action.zoom (fun s => (s.block, s.transaction tid))
    (fun p s => { s with block := p.1 }.setTransaction tid p.2) Stop.raised x

def onRelations (x : Action PyErr ObserveLayer.Relations α) : Action Stop (State ω) α :=
  Action.zoom State.observe (fun o s => { s with observe := o }) Stop.raised x

def onObserve (x : Action PyErr (ObserveLayer.Relations × Transaction) α) :
    Action Stop (State ω) α :=
  Action.zoom (fun s => (s.observe, s.transaction tid))
    (fun p s => { s with observe := p.1 }.setTransaction tid p.2) Stop.raised x

def onHeap (x : Action PyErr (ObserveLayer.Relations × Heap) α) : Action Stop (State ω) α :=
  Action.zoom (fun s => (s.observe, s.message.heap))
    (fun p s => { s with observe := p.1, message := { s.message with heap := p.2 } }) Stop.raised x

/-- The handlers that are run are recorded. -/
def onScene (x : Action Stop (Scene ω) α) : Action Stop (State ω) α :=
  Action.zoom (fun s => ⟨s.app, [], s.transaction tid⟩)
    (fun p s => { s with
      app := p.app
      calls := s.calls ++ p.calls.map fun c => (s.received, c) }.setTransaction tid p.transaction)
    id x

end Layers

def getTransaction (tid : ℕ) : Action Stop (State ω) Transaction := do
  let s ← Action.get
  pure (s.transaction tid)

def updateResource (rid : ℕ) (f : Resource → Resource) : Action Stop (State ω) Unit :=
  Action.modify fun s => { s with app := s.app.update rid f }

def sendDatagram (datagram : Datagram) : Action Stop (State ω) Unit :=
  Action.modify fun s => { s with sent := s.sent ++ [(s.received, datagram)] }

/-- The first use of an observer's transaction as a context manager, which it is not, raises. -/
def notify (resource : ℕ) : Action Stop (State ω) Unit := do
  match ← onHeap (ObserveLayer.notify resource) with
  | [] => pure ()
  | _ :: _ => Action.raise (.raised .attributeError)

def notifyMarked (resource : Option ℕ) : Action Stop (State ω) Unit := do
  let s ← Action.get
  match resource with
  | none => pure ()
  | some rid =>
    if (s.app.resources rid).changed then do
      notify rid
      updateResource rid fun r => r.setChanged false
    else if (s.app.resources rid).deleted then do
      notify rid
      updateResource rid fun r => r.setDeleted false
    else pure ()

def counterOf (app : Application ω) (t : Transaction) : Option ℕ :=
  t.resource.bind fun rid => (app.resources rid).counter

/-- The log line at the end of `send_response`, which leaves the code of an empty message behind. -/
def logResponse (P : Rendering.Platform) (tid : ℕ) : Action Stop (State ω) Unit := fun s =>
  match (s.transaction tid).response with
  | none => (.ok (), s)
  | some response =>
    (((Rendering.linePrint P response).mapError .failed).map fun _ => (),
      s.setTransaction tid
        { s.transaction tid with response := some (Rendering.printed response) })

/-- `send_response` of the message layer, with its log line. -/
def sendResponse (handlers : Handlers ω) (rng : Bytes) (tid : ℕ) : Action Stop (State ω) Unit := do
  let _ ← onMessage (MessageLayer.sendResponse rng tid)
  logResponse handlers.platform tid

/-- The part of `receive_request` behind the request layer. -/
def reply (handlers : Handlers ω) (rng : Bytes) (now : ℚ) (tid : ℕ) :
    Action Stop (State ω) Unit := do
  let t ← getTransaction tid
  notifyMarked t.resource
  let s ← Action.get
  onObserve tid (ObserveLayer.sendResponse now tid (counterOf s.app (s.transaction tid)))
  onBlock tid BlockLayer.sendResponse
  sendResponse handlers rng tid
  let t ← getTransaction tid
  match t.response with
  | none => pure ()
  | some response => sendDatagram ⟨response, t.request.multicast⟩

/-- The part of `receive_request` behind the block layer. -/
def answer (handlers : Handlers ω) (rng : Bytes) (now : ℚ) (tid : ℕ) :
    Action Stop (State ω) Unit := do
  let t ← getTransaction tid
  onRelations (ObserveLayer.receiveRequest now tid t.request)
  if t.resource = none then onScene tid (RequestLayer.receiveRequest handlers rng)
  reply handlers rng now tid

/-- The body of `receive_request`, run with the transaction's lock. -/
def process (handlers : Handlers ω) (rng : Bytes) (now : ℚ) (tid : ℕ) :
    Action Stop (State ω) Unit := do
  onBlock tid (BlockLayer.receiveRequest rng)
  let t ← getTransaction tid
  if t.blockTransfer then do
    sendResponse handlers rng tid
    let t ← getTransaction tid
    match t.response with
    | none => Action.raise (.raised .attributeError)
    | some response => sendDatagram ⟨response, false⟩
  else answer handlers rng now tid

/-- Handle requests coming from the udp socket. A task that waits for itself keeps the lock. -/
def receiveRequest (handlers : Handlers ω) (rng : Bytes) (now : ℚ) (tid : ℕ) :
    Action Stop (State ω) Unit := fun s =>
  if tid ∈ s.held then (.error .deadlocked, s)
  else
    match process handlers rng now tid s with
    | (.error .deadlocked, s) => (.error .deadlocked, { s with held := tid :: s.held })
    | result => result

def sendAck (tid : ℕ) : Action Stop (State ω) Unit := fun s =>
  if tid ∈ s.held then (.error .deadlocked, s)
  else
    let request := (s.transaction tid).request
    if request.acknowledged = false ∧ request.type = some .CON then
      (do
        let ack ← onMessage
          (MessageLayer.sendAckOfRequest tid { Message.new .message with type := some .ACK })
        if ack.type ≠ none ∧ ack.mid ≠ none then sendDatagram ⟨ack, false⟩) s
    else (.ok (), s)

/-- The transaction that takes over a request which is no duplicate. -/
def nextTransaction (request : Message) (address : Address) (s : State ω) : ℕ :=
  (MessageLayer.answered request address s.message).getD s.message.heap.next

/-- The message layer waits for the lock of a transaction that takes over another request. -/
def waits (request : Message) (s : State ω) : Bool :=
  match request.source with
  | none => false
  | some address =>
    MessageLayer.duplicateOf request address s.message = none ∧
      nextTransaction request address s ∈ s.held

def datagramReceivedRequest (handlers : Handlers ω) (rng : Bytes) (now : ℚ) (request : Message) :
    Action Stop (State ω) Unit := fun s =>
  if waits request s then (.error .deadlocked, s)
  else
    (do
      match ← onMessage (CoapUdpProtocol.datagramReceivedRequest now request) with
      | .resend response => sendDatagram ⟨response, false⟩
      | .nothing => pure ()
      | .sendAck tid => sendAck tid
      | .receiveRequest tid => receiveRequest handlers rng now tid) s

def purge (now : ℚ) (s : State ω) : State ω :=
  let (dropped, message) := MessageLayer.purge exchangeLifetime now s.message
  { s with
    message := message
    block := dropped.foldl (fun block k => BlockLayer.purge k block) s.block }

end BubotCoap.Server
