import BubotCoap.OrderedDict
import BubotCoap.Transactions

set_option autoImplicit false

/-!
# The observe layer

`layers/observe_layer.py`: the table of observing relations. An item refers to
the transaction of the observing request by its number.
-/
namespace BubotCoap.ObserveLayer
open PythonData Defines Utils Messages OrderedDict Transactions FallibleState

structure ObserveItem where
  timestamp : ℚ
  nonCounter : Option ℕ
  allowed : Bool
  transaction : Option ℕ

abbrev Relations := Dict Key ObserveItem

def relationKey (request : Message) (address : Address) : Key :=
  key address (tokenArg request.token)

/-- A relation of the node's own: it has no counter and no transaction. -/
def sendRequest (now : ℚ) (request : Message) : Action PyErr Relations Unit := fun s =>
  if request.observe = some (.int 0) then
    match request.destination with
    | none => (.error .typeError, s)
    | some address => (.ok (), s.insert (relationKey request address) ⟨now, none, true, none⟩)
  else (.ok (), s)

def receiveResponse : Action PyErr (Relations × Transaction) Unit := fun (s, t) =>
  match t.response with
  | none => (.error .attributeError, s, t)
  | some response =>
    match response.source with
    | none => (.error .typeError, s, t)
    | some address =>
      if s.contains (relationKey response address) ∧ response.type = some .CON then
        (.ok (), s, { t with notification := true })
      else (.ok (), s, t)

def sendEmpty (message : Message) : Action PyErr Relations Unit := fun s =>
  match message.destination with
  | none => (.error .typeError, s)
  | some address =>
    if message.type = some .RST then (.ok (), s.erase (relationKey message address)) else (.ok (), s)

def receiveRequest (now : ℚ) (tid : ℕ) (request : Message) : Action PyErr Relations Unit := fun s =>
  if request.observe = some (.int 0) then
    match request.source with
    | none => (.error .typeError, s)
    | some address =>
      let k := relationKey request address
      (.ok (), s.insert k ⟨now, some 0, s.contains k, some tid⟩)
  else if request.observe = some (.int 1) then
    match request.source with
    | none => (.error .typeError, s)
    | some address => (.ok (), s.erase (relationKey request address))
  else (.ok (), s)

/-- A reset in reply to a notification. -/
def receiveEmpty (empty : Message) : Action PyErr (Relations × Transaction) Unit := fun (s, t) =>
  if empty.type = some .RST then
    match t.request.source with
    | none => (.error .typeError, s, t)
    | some address =>
      (.ok (), s.erase (relationKey t.request address), { t with completed := true })
  else (.ok (), s, t)

/-- Finalize to add the client to the list of observers. `counter` is the Observe counter of the
transaction's resource, if that resource is observable. -/
def sendResponse (now : ℚ) (tid : ℕ) (counter : Option ℕ) :
    Action PyErr (Relations × Transaction) Unit := fun (s, t) =>
  match t.request.source with
  | none => (.error .typeError, s, t)
  | some address =>
    let k := relationKey t.request address
    match s.get? k with
    | none => (.ok (), s, t)
    | some item =>
      match t.response with
      | none => (.error .attributeError, s, t)
      | some response =>
        if response.code = some Codes.content then
          match counter with
          | none => (.ok (), s.erase k, t)
          | some count =>
            match response.setObserve (.int count) with
            | .error e => (.error e, s, t)
            | .ok response =>
              (.ok (),
                s.insert k { item with allowed := true, transaction := some tid, timestamp := now },
                { t with response := some response })
        else
          match response.code with
          | none => (.error .typeError, s, t)
          | some code =>
            if Codes.errorLowerBound ≤ code then (.ok (), s.erase k, t) else (.ok (), s, t)

def notificationType (nonCounter : Option ℕ) (requestType : Option MsgType) :
    Except PyErr (Option MsgType × Option ℕ) :=
  match nonCounter with
  | none => .error .typeError
  | some n =>
    if n > maxNonNotifications ∨ requestType = some .CON then .ok (some .CON, some 0)
    else if requestType = some .NON then .ok (some .NON, some (n + 1))
    else .ok (none, some n)

/-- Prepares the notification of one relation, if it is on the resource. -/
def notifyItem (resource : ℕ) (k : Key) (item : ObserveItem) :
    Action PyErr (Relations × Heap) (Option ℕ) := fun (s, heap) =>
  match item.transaction with
  | none => (.error .attributeError, s, heap)
  | some tid =>
    let t := heap.cell tid
    if t.resource = some resource then
      match notificationType item.nonCounter t.request.type with
      | .error e => (.error e, s, heap)
      | .ok (type, nonCounter) =>
        match t.response with
        | none =>
          -- a NON notification is counted before its type is set
          let s := if type = some .NON then s.insert k { item with nonCounter := nonCounter } else s
          (.error .attributeError, s, heap)
        | some response =>
          let response :=
            { response with type := type.or response.type, mid := none, token := none }
          (.ok (some tid), s.insert k { item with nonCounter := nonCounter },
            heap.set tid { t with response := some response, resource := some resource })
    else (.ok none, s, heap)

def notifyKeys (resource : ℕ) : List Key → Action PyErr (Relations × Heap) (List ℕ)
  | [] => pure []
  | k :: ks => fun (s, heap) =>
    match s.get? k with
    | none => (.error .keyError, s, heap)
    | some item => (do
        let first ← notifyItem resource k item
        let rest ← notifyKeys resource ks
        pure (first.toList ++ rest)) (s, heap)

def notify (resource : ℕ) : Action PyErr (Relations × Heap) (List ℕ) := fun (s, heap) =>
  notifyKeys resource (s.entries.map Prod.fst) (s, heap)

def removeSubscriber (message : Message) : Action PyErr (Relations × Heap) Unit :=
  fun (s, heap) =>
    match message.destination with
    | none => (.error .typeError, s, heap)
    | some address =>
      let k := relationKey message address
      match s.get? k with
      | none => (.ok (), s, heap)
      | some item =>
        match item.transaction with
        | none => (.error .attributeError, s, heap)
        | some tid =>
          (.ok (), s.erase k, heap.set tid { heap.cell tid with completed := true })

end BubotCoap.ObserveLayer
