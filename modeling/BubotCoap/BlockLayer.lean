import BubotCoap.Messages
import BubotCoap.OrderedDict
import BubotCoap.Transactions

set_option autoImplicit false

/-!
# The block layer

`layers/block_layer.py`. Every operation works on the layer's tables and on one
transaction (or one request that is to be sent), and what it changed before it
raised stays changed.
-/
namespace BubotCoap.BlockLayer
open PythonData Defines Utils Messages OrderedDict Transactions FallibleState

structure BlockItem where
  byte : ℕ
  num : ℕ
  m : ℕ
  size : ℕ
  payload : Option Payload
  contentType : Value
  deriving DecidableEq

structure State where
  block1Sent : Dict Key BlockItem
  block2Sent : Dict Key BlockItem
  block1Receive : Dict Key BlockItem
  block2Receive : Dict Key BlockItem

def State.new : State := ⟨Dict.empty, Dict.empty, Dict.empty, Dict.empty⟩

/-- A payload counts as true unless it is `None` or empty. -/
def truthy : Option Payload → Bool
  | some p => decide (0 < p.length)
  | none => false

def incomplete (rng : Bytes) : Action PyErr (State × Transaction) Unit := fun (s, t) =>
  let t := { t with blockTransfer := true }
  match Message.initFromRequest rng t.request with
  | .error e => (.error e, s, t)
  | .ok response =>
    (.ok (), s, { t with
      response := some { response with code := some Codes.requestEntityIncomplete } })

def error (rng : Bytes) (code : ℕ) : Action PyErr (State × Transaction) Unit := fun (s, t) =>
  let t := { t with blockTransfer := true }
  match Message.initFromRequest rng t.request with
  | .error e => (.error e, s, t)
  | .ok response =>
    (.ok (), s, { t with response := some { response with type := some .RST, code := some code } })

/-- A Block2 option in a request: the next block of a known exchange, or early negotiation. -/
def receiveBlock2Request (k : Key) (num m size : ℕ) : Action PyErr (State × Transaction) Unit :=
  fun (s, t) =>
    match s.block2Receive.get? k with
    | some item =>
      (.ok (), { s with
          block2Receive :=
            s.block2Receive.insert k { item with num := num, size := size, m := m } },
        { t with
          completed := truthy item.payload || t.completed
          request := t.request.delBlock2 })
    | none =>
      (.ok (), { s with
          block2Receive := s.block2Receive.insert k ⟨num * size, num, m, size, none, .none⟩ },
        { t with request := t.request.delBlock2 })

/-- What follows once a Block1 request's payload is part of `item`: end of blockwise, or the
request for more. -/
def acceptBlock1 (rng : Bytes) (k : Key) (num m size : ℕ) (item : BlockItem) :
    Action PyErr (State × Transaction) Unit := fun (s, t) =>
  if m = 0 then
    (.ok (), { s with block1Receive := s.block1Receive.erase k }, { t with
      request := (t.request.setPayload item.payload).delBlock1
      blockTransfer := false })
  else
    let s := { s with block1Receive := s.block1Receive.insert k item }
    let t := { t with blockTransfer := true }
    match Message.initFromRequest rng t.request with
    | .error e => (.error e, s, t)
    | .ok response =>
      let response := { response with code := some Codes.continueCode }
      match response.setBlock1 num m size with
      | .error e => (.error e, s, { t with response := some response })
      | .ok response =>
        (.ok (), { s with
            block1Receive := s.block1Receive.insert k
              { item with byte := size, num := num + 1, size := size, m := m } },
          { t with response := some response })

/-- A Block1 option in a request: the n-th block, or the first one. -/
def receiveBlock1Request (rng : Bytes) (k : Key) (num m size : ℕ) :
    Action PyErr (State × Transaction) Unit := fun (s, t) =>
  match s.block1Receive.get? k with
  | some item =>
    if num ≠ item.num ∨ t.request.contentType ≠ item.contentType then incomplete rng (s, t)
    else
      match appendPayload item.payload t.request.payload with
      | .error e => (.error e, s, t)
      | .ok payload => acceptBlock1 rng k num m size { item with payload := payload } (s, t)
  | none =>
    if num ≠ 0 then incomplete rng (s, t)
    else
      acceptBlock1 rng k num m size ⟨size, num, m, size, t.request.payload, t.request.contentType⟩
        (s, t)

def receiveRequest (rng : Bytes) : Action PyErr (State × Transaction) Unit := fun (s, t) =>
  match t.request.block2 with
  | .error e => (.error e, s, t)
  | .ok (some (num, m, size)) =>
    match t.request.source with
    | none => (.error .typeError, s, t)
    | some address =>
      receiveBlock2Request (key address (tokenArg t.request.token)) num m size (s, t)
  | .ok none =>
    match t.request.block1 with
    | .error e => (.error e, s, t)
    | .ok none => (.ok (), s, t)
    | .ok (some (num, m, size)) =>
      match t.request.source with
      | none => (.error .typeError, s, t)
      | some address =>
        receiveBlock1Request rng (key address (tokenArg t.request.token)) num m size (s, t)

/-- The block after an acknowledged one, taken from the payload that is being sent. -/
def nextBlock1 (k : Key) (item : BlockItem) (nSize : ℕ) :
    Action PyErr (State × Transaction) Unit := fun (s, t) =>
  let size := if nSize < item.size then nSize else item.size
  let request := t.request.delMid.delBlock1
  match item.payload with
  | none =>
    (.error .typeError,
      { s with block1Sent := s.block1Sent.insert k { item with size := size } },
      { t with request := request })
  | some payload =>
    let byte := item.byte + size
    let m := if payload.length ≤ byte then 0 else 1
    let request := request.setPayload (some (payload.slice item.byte byte))
    let s := { s with
      block1Sent := s.block1Sent.insert k
        { item with size := size, num := item.num + 1, byte := byte, m := m } }
    match request.setBlock1 (item.num + 1) m size with
    | .error e => (.error e, s, { t with request := request })
    | .ok request => (.ok (), s, { t with request := request })

def returned (r : Except PyErr Unit × State × Transaction) :
    Except PyErr Bool × State × Transaction := (r.1.map fun _ => true, r.2)

/-- A Block1 option in the response to a request sent in blocks. `False` stands for the case in
which `None` is returned. -/
def receiveBlock1Response (k : Key) (item : BlockItem) (num size : ℕ) :
    Action PyErr (State × Transaction) Bool := fun (s, t) =>
  if item.m = 0 then
    (.ok true, s, { t with blockTransfer := false, request := t.request.delBlock1 })
  else
    let t := { t with blockTransfer := true }
    if num ≠ item.num then (.ok false, s, t)
    else returned (nextBlock1 k item size (s, t))

def requestBlock2 (item : BlockItem) : Action PyErr (State × Transaction) Unit := fun (s, t) =>
  let request := t.request.delMid.delBlock2
  match request.setBlock2 item.num 0 item.size with
  | .error e => (.error e, s, { t with request := request })
  | .ok request => (.ok (), s, { t with request := request })

/-- The content type of the exchange, once the response has set one that is missing. -/
def expectedType (item : BlockItem) (response : Message) : Value :=
  if item.contentType = .none then response.contentType else item.contentType

def receiveMoreBlock2 (rng : Bytes) (k : Key) (num m size : ℕ) (response : Message) :
    Action PyErr (State × Transaction) Unit := fun (s, t) =>
  let t := { t with blockTransfer := true }
  match s.block2Sent.get? k with
  | some item =>
    if num ≠ item.num then error rng Codes.requestEntityIncomplete (s, t)
    else
      let item := { item with contentType := expectedType item response }
      if item.contentType ≠ response.contentType then
        error rng Codes.unsupportedContentFormat
          ({ s with block2Sent := s.block2Sent.insert k item }, t)
      else
        let item := { item with byte := item.byte + size, num := num + 1, size := size, m := m }
        match appendPayload item.payload response.payload with
        | .error e => (.error e, { s with block2Sent := s.block2Sent.insert k item }, t)
        | .ok payload =>
          let item := { item with payload := payload }
          requestBlock2 item ({ s with block2Sent := s.block2Sent.insert k item }, t)
  | none =>
    let item : BlockItem :=
      ⟨size, num + 1, m, size, response.payload, response.contentType⟩
    requestBlock2 item ({ s with block2Sent := s.block2Sent.insert k item }, t)

def receiveLastBlock2 (rng : Bytes) (k : Key) (response : Message) :
    Action PyErr (State × Transaction) Unit := fun (s, t) =>
  let t := { t with blockTransfer := false }
  match s.block2Sent.get? k with
  | some item =>
    if item.contentType ≠ response.contentType then
      error rng Codes.unsupportedContentFormat (s, t)
    else
      match appendPayload item.payload response.payload with
      | .error e => (.error e, s, t)
      | .ok payload =>
        (.ok (), { s with block2Sent := s.block2Sent.erase k },
          { t with response := some (response.setPayload payload) })
  | none => (.ok (), s, t)

/-- The part of `receive_response` behind the test for a Block1 exchange. -/
def receiveBlock2Response (rng : Bytes) (k : Key) (response : Message) :
    Action PyErr (State × Transaction) Unit := fun (s, t) =>
  match response.block2 with
  | .error e => (.error e, s, t)
  | .ok (some (num, m, size)) =>
    if m = 1 then receiveMoreBlock2 rng k num m size response (s, t)
    else receiveLastBlock2 rng k response (s, t)
  | .ok none => (.ok (), s, { t with blockTransfer := false })

def receiveResponse (rng : Bytes) : Action PyErr (State × Transaction) Bool := fun (s, t) =>
  match t.response with
  | none => (.error .attributeError, s, t)
  | some response =>
    match response.source with
    | none => (.error .typeError, s, t)
    | some address =>
      let k := key address (tokenArg response.token)
      match s.block1Sent.get? k with
      | none => returned (receiveBlock2Response rng k response (s, t))
      | some item =>
        match response.block1 with
        | .error e => (.error e, s, t)
        | .ok none => returned (receiveBlock2Response rng k response (s, t))
        | .ok (some (num, _, size)) => receiveBlock1Response k item num size (s, t)

def moreBlocks (num size length : ℕ) : ℕ := if num * size + size > length then 0 else 1

def blockResponse (request response : Message) (item : BlockItem) (payload : Payload) :
    Except PyErr Message := do
  let response := response.delSize2
  let response ←
    if request.size2 = some (.int 0) ∨ payload.length > maxPayload then
      response.setSize2 payload.length
    else .ok response
  let response :=
    (response.setPayload (some (payload.slice item.byte (item.byte + item.size)))).delBlock2
  response.setBlock2 item.num (moreBlocks item.num item.size payload.length) item.size

/-- The entry of which a block is to be sent, with the payload: a stored one, or the response's. -/
def outgoingItem (s : State) (k : Key) (response : Option Message) :
    Option (BlockItem × Payload) :=
  match s.block2Receive.get? k, response.bind Message.payload with
  | some item, payload =>
    match item.payload, payload with
    | some stored, _ => some (item, stored)
    | none, some p =>
      some ({ item with
        payload := some p
        contentType := (response.map Message.contentType).getD .none }, p)
    | none, none => none
  | none, some p =>
    if p.length > maxPayload then
      some (⟨0, 0, 1, maxPayload, some p, (response.map Message.contentType).getD .none⟩, p)
    else none
  | none, none => none

def sendResponse : Action PyErr (State × Transaction) Unit := fun (s, t) =>
  match t.request.source with
  | none => (.error .typeError, s, t)
  | some address =>
    let k := key address (tokenArg t.request.token)
    match outgoingItem s k t.response with
    | none => (.ok (), s, t)
    | some (item, payload) =>
      let s := { s with block2Receive := s.block2Receive.insert k item }
      match t.response with
      | none => (.error .attributeError, s, t)
      | some response =>
        match blockResponse t.request response item payload with
        | .error e => (.error e, s, t)
        | .ok response =>
          (.ok (), { s with
              block2Receive := s.block2Receive.insert k
                { item with byte := item.byte + item.size, num := item.num + 1 } },
            { t with response := some response })

def purge (k : Key) (s : State) : State := { s with block2Receive := s.block2Receive.erase k }

/-- The first block of a payload, whose size and number are those of the request's own Block1
option if it has one. -/
def firstBlock1 (num size : ℕ) (request : Message) :
    Action PyErr State Message := fun s =>
  match request.destination with
  | none => (.error .typeError, s)
  | some address =>
    match request.payload with
    | none => (.error .typeError, s)
    | some payload =>
      let m := moreBlocks num size payload.length
      match request.delSize1.setSize1 payload.length with
      | .error e => (.error e, s)
      | .ok request =>
        let s := { s with
          block1Sent := s.block1Sent.insert (key address (tokenArg request.token))
            ⟨size, num, m, size, some payload, request.contentType⟩ }
        match (request.setPayload (some (payload.slice 0 size))).delBlock1.setBlock1 num m size with
        | .error e => (.error e, s)
        | .ok request => (.ok request, s)

def sendRequest (request : Message) : Action PyErr State Message := fun s =>
  match request.block1 with
  | .error e => (.error e, s)
  | .ok (some (num, _, size)) => firstBlock1 num size request s
  | .ok none =>
    if (request.payload.map Payload.length).getD 0 > maxPayload then
      firstBlock1 0 maxPayload request s
    else
      match request.block2 with
      | .error e => (.error e, s)
      | .ok none => (.ok request, s)
      | .ok (some (num, m, size)) =>
        match request.destination with
        | none => (.error .typeError, s)
        | some address =>
          (.ok request, { s with
            block2Sent := s.block2Sent.insert (key address (tokenArg request.token))
              ⟨size, num, m, size, some (.str []), .none⟩ })

structure Entries where
  block1Sent : Option BlockItem
  block2Sent : Option BlockItem
  block1Receive : Option BlockItem
  block2Receive : Option BlockItem

def State.under (s : State) (k : Key) : Entries :=
  ⟨s.block1Sent.get? k, s.block2Sent.get? k, s.block1Receive.get? k, s.block2Receive.get? k⟩

end BubotCoap.BlockLayer
