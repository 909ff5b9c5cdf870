import BubotCoap.CallbackLayer
import BubotCoap.FreshExecution
import BubotCoap.MessagePairing
import BubotCoap.RetransmitLoop

set_option autoImplicit false

/-!
# A node that sends requests

`Server.send_message` and the response path of `coap_udp_protocol.py`, for a node
that is client and server at once. Each step is one coroutine up to where it is
suspended; the endpoint over which the node sends is the one it was given.
-/
namespace BubotCoap.Client
open PythonData Defines Utils Messages OrderedDict Transactions Resources FallibleState Rendering

structure Node (ω : Type) where
  server : Server.State ω
  callback : CallbackLayer.State
  /-- What the node has sent for its own requests, acknowledgements included. -/
  sent : List Message

variable {ω : Type}

def Node.new (startingMid : ℕ) (app : Application ω) : Node ω :=
  ⟨Server.State.new startingMid app, CallbackLayer.State.new, []⟩

def Node.transaction (n : Node ω) (tid : ℕ) : Transaction := n.server.transaction tid

section Layers
variable {α : Type} (tid : ℕ)

def onMessage (x : Action PyErr MessageLayer.State α) : Action Failure (Node ω) α :=
  Action.zoom (fun n => n.server.message)
    (fun m n => { n with server := { n.server with message := m } }) .raised x

def onBlockState (x : Action PyErr BlockLayer.State α) : Action Failure (Node ω) α :=
  Action.zoom (fun n => n.server.block)
    (fun b n => { n with server := { n.server with block := b } }) .raised x

def onBlock (x : Action PyErr (BlockLayer.State × Transaction) α) : Action Failure (Node ω) α :=
  Action.zoom (fun n => (n.server.block, n.transaction tid))
    (fun p n => { n with server := { n.server with block := p.1 }.setTransaction tid p.2 })
    .raised x

def onRelations (x : Action PyErr ObserveLayer.Relations α) : Action Failure (Node ω) α :=
  Action.zoom (fun n => n.server.observe)
    (fun o n => { n with server := { n.server with observe := o } }) .raised x

def onObserve (x : Action PyErr (ObserveLayer.Relations × Transaction) α) :
    Action Failure (Node ω) α :=
  Action.zoom (fun n => (n.server.observe, n.transaction tid))
    (fun p n => { n with server := { n.server with observe := p.1 }.setTransaction tid p.2 })
    .raised x

def onCallback (x : Action Failure CallbackLayer.State α) : Action Failure (Node ω) α :=
  Action.zoom Node.callback (fun c n => { n with callback := c }) id x

end Layers

def getTransaction (tid : ℕ) : Action Failure (Node ω) Transaction := do
  let n ← Action.get
  pure (n.transaction tid)

def updateTransaction (tid : ℕ) (f : Transaction → Transaction) : Action Failure (Node ω) Unit :=
  Action.modify fun n =>
    { n with server := n.server.setTransaction tid (f (n.transaction tid)) }

section EmptyMessages
open MessageLayer

/-- `send_empty` for the response of a transaction, with an acknowledgement of it. -/
def sendAckOfResponse (rng : Bytes) (tid : ℕ) (message : Message) :
    Action PyErr MessageLayer.State Message := do
  let s ← Action.get
  match (s.heap.cell tid).response with
  | none => Action.raise .attributeError
  | some response => do
    Action.modify fun s => s.update tid fun t =>
      { t with response := some (response.setAcknowledged true), completed := true }
    let message ← Action.ofExcept (message.setMid response.mid)
    let message ← Action.ofExcept (message.setCode (some Codes.empty))
    let message ← Action.ofExcept (message.setToken rng response.token)
    pure { message with
      destination := response.source
      source := response.destination
      scheme := some response.schemeText }

/-- `send_empty` for the response of a transaction, with a reset of it. -/
def sendRstOfResponse (rng : Bytes) (tid : ℕ) (message : Message) :
    Action PyErr MessageLayer.State Message := do
  let s ← Action.get
  match (s.heap.cell tid).response with
  | none => Action.raise .attributeError
  | some response => do
    Action.modify fun s => s.update tid fun t =>
      { t with response := some (response.setRejected true), completed := true }
    let message ←
      match response.mid with
      | some mid => pure { message with mid := some mid }
      | none => do
        let mid ← fetchMid
        Action.ofExcept (message.setMid (some mid))
    let message ← Action.ofExcept (message.setCode (some Codes.empty))
    let message ← Action.ofExcept (message.setToken rng response.token)
    pure { message with
      destination := response.source
      scheme := some response.schemeText }

/-- `send_empty` without a transaction: the one to whose response the message belongs is looked
up among those of received requests. -/
def sendEmpty (rng : Bytes) (message : Message) : Action PyErr MessageLayer.State Message :=
  fun s =>
    match message.destination with
    | none => (.error .typeError, s)
    | some address =>
      match (s.transactions.get? (key address (midArg message.mid))).or
          (s.transactionsToken.get? (key address (tokenArg message.token))) with
      | none => (.ok message, s)
      | some tid =>
        match message.type with
        | some .ACK => sendAckOfResponse rng tid message s
        | some .RST => sendRstOfResponse rng tid message s
        | _ => (.ok message, s)

end EmptyMessages

variable (P : Platform) (address : Address)

/-- `send_datagram`, with the endpoint's own `send_message` behind it. -/
def sendDatagram (message : Message) : Action Failure (Node ω) Message := do
  let message ← Action.ofExcept (RetransmitLoop.Loop.sendMessage P ⟨address, .udp⟩ message)
  Action.modify fun n => { n with sent := n.sent ++ [message] }
  pure message

/-- The request that is sent is the object the transaction holds, and the endpoint has set its
source before anything can fail. -/
def sendRequestOf (tid : ℕ) : Action Failure (Node ω) Unit := do
  updateTransaction tid fun t => { t with request := { t.request with source := some address } }
  let t ← getTransaction tid
  let request ← sendDatagram P address t.request
  updateTransaction tid fun t => { t with request := request }

/-- `send_message` with a request. `rng` are the eight bytes of `fetch_token`. -/
def sendMessage (now : ℚ) (rng : Bytes) (noResponse : Bool) (request : Message) :
    Action Failure (Node ω) Unit := do
  let request := { request with token := some (request.token.getD rng) }
  onRelations (ObserveLayer.sendRequest now request)
  let request ← onBlockState (BlockLayer.sendRequest request)
  if noResponse then do
    let _request ← sendDatagram P address request
    pure ()
  else do
    let tid ← onMessage (MessagePairing.sendRequest now rng request)
    sendRequestOf P address tid
    let t ← getTransaction tid
    let _line ← Action.ofExcept (linePrint P t.request)
    onCallback (Action.modify (CallbackLayer.wait t.request))

/-- `send_message` with an empty message. -/
def sendEmptyMessage (rng : Bytes) (message : Message) : Action Failure (Node ω) Unit := do
  onRelations (ObserveLayer.sendEmpty message)
  let message ← onMessage (sendEmpty rng message)
  let _message ← sendDatagram P address message
  pure ()

/-- `send_ack` with the response of the transaction. -/
def sendAck (rng : Bytes) (tid : ℕ) : Action Failure (Node ω) Unit := do
  let t ← getTransaction tid
  match t.response with
  | none => Action.raise (.raised .attributeError)
  | some response =>
    if response.acknowledged = false ∧ response.type = some .CON then do
      let ack ← onMessage
        (sendAckOfResponse rng tid { Message.new .message with type := some .ACK })
      if ack.type ≠ none ∧ ack.mid ≠ none then do
        let _ack ← sendDatagram P address ack
        pure ()

/-- The former request is sent again with the next block. A failure to send it ends the transaction
and is not told to anyone. -/
def sendBlockRequest (now : ℚ) (rng : Bytes) (tid : ℕ) : Action Failure (Node ω) Unit := do
  let t ← getTransaction tid
  let tid ← onMessage (MessagePairing.sendRequest now rng t.request)
  updateTransaction tid fun t => { t with request := t.request.setAcknowledged false }
  fun n =>
    match sendRequestOf P address tid n with
    | (.error _, n) => updateTransaction tid (fun t => { t with completed := true }) n
    | result => result

/-- The acknowledgement of a notification is made; the coroutine that would send it is not
awaited. -/
def acknowledgeNotification (rng : Bytes) (tid : ℕ) : Action Failure (Node ω) Unit := do
  let _ack ← onMessage (sendAckOfResponse rng tid { Message.new .message with type := some .ACK })
  pure ()

/-- What follows the block layer for a response that ends its exchange. -/
def deliver (rng : Bytes) (tid : ℕ) : Action Failure (Node ω) Unit := do
  onObserve tid ObserveLayer.receiveResponse
  let t ← getTransaction tid
  if t.notification then acknowledgeNotification rng tid
  let t ← getTransaction tid
  match t.response with
  | none => Action.raise (.raised .attributeError)
  | some response => onCallback (CallbackLayer.setResult P response)

def datagramReceivedResponse (now : ℚ) (rng : Bytes) (response : Message) :
    Action Failure (Node ω) Unit := do
  let _line ← Action.ofExcept (linePrint P response)
  let (paired, isConfirmable) ← onMessage (MessagePairing.receiveResponse (printed response))
  match paired with
  | none => pure ()
  | some tid => do
    if isConfirmable then sendAck P address rng tid
    let _ ← onBlock tid (BlockLayer.receiveResponse rng)
    let t ← getTransaction tid
    if t.blockTransfer then sendBlockRequest P address now rng tid
    else deliver P rng tid

/-- A datagram that is refused draws the message id of a reset whose coroutine is not awaited. -/
def datagramReceivedBadMessage : Action Failure (Node ω) Unit := do
  let _mid ← onMessage MessageLayer.fetchMid
  pure ()

def datagramReceivedMessage (ipv6 : Text → Bool) (message : Message) :
    Action Failure (Node ω) Unit := do
  let _line ← Action.ofExcept (linePrint P message)
  match ← onMessage (MessagePairing.receiveEmpty ipv6 (printed message)) with
  | none => pure ()
  | some tid => onObserve tid (ObserveLayer.receiveEmpty (printed message))

/-- What can happen to the node. -/
inductive Event where
  | send (rng : Bytes) (noResponse : Bool) (request : Message)
  | sendEmpty (rng : Bytes) (message : Message)
  | response (rng : Bytes) (response : Message)
  | empty (message : Message)
  | request (rng : Bytes) (request : Message)
  | badMessage
  | purge
  | interrupt (waiter : ℕ) (e : CallbackLayer.Interrupt) (atOnce overrides : Bool)
  | wakeUp (waiter : ℕ)
  | cancelWaited (e : CallbackLayer.Interrupt)

abbrev Timed := ℚ × Event

variable (ipv6 : Text → Bool) (handlers : Handlers ω)

def step (n : Node ω) (e : Timed) : Node ω :=
  match e.2 with
  | .send rng noResponse request => (sendMessage P address e.1 rng noResponse request n).2
  | .sendEmpty rng message => (sendEmptyMessage P address rng message n).2
  | .response rng response => (datagramReceivedResponse P address e.1 rng response n).2
  | .empty message => (datagramReceivedMessage P ipv6 message n).2
  | .request rng request =>
    { n with server := FreshExecution.step handlers n.server (e.1, .receive rng request) }
  | .badMessage => (datagramReceivedBadMessage n).2
  | .purge => { n with server := Server.purge e.1 n.server }
  | .interrupt i e atOnce overrides =>
    { n with callback := CallbackLayer.interrupt i e atOnce overrides n.callback }
  | .wakeUp i => { n with callback := CallbackLayer.wakeUp i n.callback }
  | .cancelWaited e => { n with callback := CallbackLayer.cancelWaited e n.callback }

def run (startingMid : ℕ) (app : Application ω) (events : List Timed) : Node ω :=
  Runs.run (step P address ipv6 handlers) (Node.new startingMid app) events

end BubotCoap.Client
