import BubotCoap.MessageLayer

set_option autoImplicit false

/-!
# Pairing of requests, responses and empty messages

The rest of `layers/message_layer.py`: the requests this node sends, and the
transactions to which received responses and empty messages belong.
-/
namespace BubotCoap.MessagePairing
open PythonData Defines Utils Messages OrderedDict Transactions MessageLayer FallibleState

def allCoapNodes : Text := "224.0.1.187".toList

def allCoapNodesIpv6 : Text := "FF00::FD".toList

/-- A request of this node without a type, a message id or a token is given one. `rng` are the
eight bytes of `fetch_token`. -/
def completeRequest (rng : Bytes) (request : Message) : Action PyErr State Message := fun s =>
  let request := { request with type := some (request.type.getD .CON) }
  match request.mid with
  | some _ => (.ok { request with token := some (request.token.getD rng) }, s)
  | none =>
    match request.setMid (some s.currentMid) with
    | .error e => (.error e, (fetchMid s).2)
    | .ok request =>
      (.ok { request with token := some (request.token.getD rng) }, (fetchMid s).2)

/-- A multicast request waits for responses under the address it is sent from. -/
def storeSent (tid : ℕ) (request : Message) (address : Address) : Action PyErr State ℕ := fun s =>
  if request.multicast then
    match request.source with
    | none => (.error .typeError, s)
    | some source =>
      (.ok tid, { s with
        transactionsSentToken :=
          s.transactionsSentToken.insert (key source (tokenArg request.token)) tid })
  else
    (.ok tid, { s with
      transactionsSent := s.transactionsSent.insert (key address (midArg request.mid)) tid
      transactionsSentToken :=
        s.transactionsSentToken.insert (key address (tokenArg request.token)) tid })

def sendRequest (now : ℚ) (rng : Bytes) (request : Message) : Action PyErr State ℕ := fun s =>
  if request.kind ≠ .request then (.error .assertionError, s)
  else
    match request.destination with
    | none => (.error .typeError, s)
    | some address =>
      match completeRequest rng { request with timestamp := some now } s with
      | (.error e, s) => (.error e, s)
      | (.ok request, s) =>
        let (tid, heap) := s.heap.alloc (Transaction.new request now)
        storeSent tid request address { s with heap := heap }

/-- The transaction of the request to which a response belongs, unless its token is another. -/
def matchResponse (response : Message) (address destination : Address) (s : State) : Option ℕ :=
  let sameToken := fun tid => decide (response.token = (s.heap.cell tid).request.token)
  match s.transactionsSent.get? (key address (midArg response.mid)) with
  | some tid =>
    if response.type = some .ACK ∨ response.type = some .RST then
      if sameToken tid then some tid else none
    else byToken sameToken
  | none => byToken sameToken
where
  byToken (sameToken : ℕ → Bool) : Option ℕ :=
    match s.transactionsSentToken.get? (key address (tokenArg response.token)) with
    | some tid => some tid
    | none => (s.transactionsSentToken.get? (key destination (tokenArg response.token))).filter
        sameToken

/-- The transaction of the response, and whether it has to be acknowledged. -/
def receiveResponse (response : Message) : Action PyErr State (Option ℕ × Bool) := fun s =>
  match response.source with
  | none => (.error .typeError, s)
  | some address =>
    match response.destination with
    | none => (.error .typeError, s)
    | some destination =>
      match matchResponse response address destination s with
      | none => (.ok (none, false), s)
      | some tid =>
        (.ok (some tid, decide (response.type = some .CON)), s.update tid fun t =>
          { acknowledgeRequest t with completed := true, response := some response })

/-- The stored transaction to which an empty message belongs. `ipv6` tells the family of a host's
address. -/
def matchEmpty (ipv6 : Text → Bool) (message : Message) (address : Address) (s : State) :
    Option ℕ :=
  let multicast : Address := (if ipv6 address.1 then allCoapNodesIpv6 else allCoapNodes, address.2)
  (s.transactions.get? (key address (midArg message.mid))).or <|
    (s.transactionsToken.get? (key address (tokenArg message.token))).or <|
      (s.transactions.get? (key multicast (midArg message.mid))).or <|
        s.transactionsToken.get? (key multicast (tokenArg message.token))

/-- The message of the transaction that is marked by an empty message of the type: the request,
or once that is acknowledged the response. -/
def pairEmpty (type : Option MsgType) (t : Transaction) : Except PyErr Transaction :=
  match type with
  | some .ACK =>
    if t.request.acknowledged = false then
      .ok { t with request := t.request.setAcknowledged true }
    else
      match t.response with
      | none => .ok t
      | some response =>
        if response.acknowledged = false then
          .ok { t with response := some (response.setAcknowledged true) }
        else .ok t
  | some .RST =>
    if t.request.acknowledged = false then
      .ok { t with request := t.request.setRejected true }
    else
      match t.response with
      | none => .error .attributeError
      | some response =>
        if response.acknowledged = false then
          .ok { t with response := some (response.setRejected true) }
        else .ok t
  | some .CON => .ok { t with request := t.request.setAcknowledged true }
  | _ => .ok t

def receiveEmpty (ipv6 : Text → Bool) (message : Message) : Action PyErr State (Option ℕ) :=
  fun s =>
    match message.source with
    | none => (.error .typeError, s)
    | some address =>
      match matchEmpty ipv6 message address s with
      | none => (.ok none, s)
      | some tid =>
        match pairEmpty message.type (s.heap.cell tid) with
        | .error e => (.error e, s)
        | .ok t => (.ok (some tid), s.update tid fun _ => t)

end BubotCoap.MessagePairing
