import BubotCoap.OrderedDict
import BubotCoap.Transactions

set_option autoImplicit false

/-!
# The message layer

`layers/message_layer.py`: matching of duplicates by message id and of requests
and responses by token.
-/
namespace BubotCoap.MessageLayer
open PythonData Defines Utils Messages OrderedDict Transactions FallibleState

structure State where
  heap : Heap
  transactions : Dict Key ℕ
  transactionsToken : Dict Key ℕ
  transactionsSent : Dict Key ℕ
  transactionsSentToken : Dict Key ℕ
  currentMid : ℕ

def State.new (startingMid : ℕ) : State :=
  ⟨Heap.empty, Dict.empty, Dict.empty, Dict.empty, Dict.empty, startingMid⟩

def State.update (s : State) (tid : ℕ) (f : Transaction → Transaction) : State :=
  { s with heap := s.heap.set tid (f (s.heap.cell tid)) }

def fetchMid : Action PyErr State ℕ := fun s =>
  (.ok s.currentMid, { s with currentMid := (s.currentMid + 1) % 65535 })

/-- Too old, or completed. -/
def expired (heap : Heap) (timeoutTime now : ℚ) (tid : ℕ) : Bool :=
  decide ((heap.cell tid).timestamp + timeoutTime < now) || (heap.cell tid).completed

def keepsKey (heap : Heap) (timeoutTime now : ℚ) (table : Dict Key ℕ) (k : Key) : Bool :=
  match table.get? k with
  | some tid => !expired heap timeoutTime now tid
  | none => true

/-- The token keys that are dropped go on to the block layer. -/
def purge (timeoutTime now : ℚ) (s : State) : List Key × State :=
  let dropped := (s.transactionsToken.entries.map Prod.fst).filter fun k =>
    !keepsKey s.heap timeoutTime now s.transactionsToken k
  (dropped, { s with
    transactions := s.transactions.keep (keepsKey s.heap timeoutTime now s.transactions)
    transactionsToken :=
      s.transactionsToken.keep (keepsKey s.heap timeoutTime now s.transactionsToken) })

def keyMid (request : Message) (address : Address) : Key :=
  if request.multicast then .mid request.mid else key address (midArg request.mid)

def keyToken (request : Message) (address : Address) : Key :=
  if request.multicast then .token request.token else key address (tokenArg request.token)

/-- The stored transaction of which a request is a duplicate. A unicast request without a message
id, or with message id 0, is never one. -/
def duplicateOf (request : Message) (address : Address) (s : State) : Option ℕ :=
  if request.multicast then s.transactionsToken.get? (keyToken request address)
  else
    match request.mid with
    | none => none
    | some mid => if mid = 0 then none else s.transactions.get? (keyMid request address)

def markDuplicated (t : Transaction) : Transaction :=
  { t with request := { t.request with duplicated := true } }

/-- The stored transaction of the token, if it already has a response. -/
def answered (request : Message) (address : Address) (s : State) : Option ℕ :=
  match s.transactionsToken.get? (keyToken request address) with
  | some tid => if (s.heap.cell tid).response.isSome then some tid else none
  | none => none

/-- A request that is no duplicate: its transaction is the answered one of its token, or new. -/
def storeRequest (request : Message) (address : Address) (s : State) : ℕ × State :=
  match answered request address s with
  | some tid =>
    (tid, { s.update tid fun t => { t with request := request } with
      transactions := s.transactions.insert (keyMid request address) tid })
  | none =>
    let (tid, heap) := s.heap.alloc (Transaction.new request (request.timestamp.getD 0))
    (tid, { s with
      heap := heap
      transactionsToken := s.transactionsToken.insert (keyToken request address) tid
      transactions := s.transactions.insert (keyMid request address) tid })

def receiveRequest (now : ℚ) (request : Message) : Action PyErr State ℕ := fun s =>
  match request.source with
  | none => (.error .typeError, s)
  | some address =>
    match duplicateOf request address s with
    | some tid => (.ok tid, s.update tid markDuplicated)
    | none =>
      let (tid, s) := storeRequest { request with timestamp := some now } address s
      (.ok tid, s)

/-- The type of a response that has none. A piggybacked one takes over the message id, and its
transaction is completed. -/
def setResponseType (rng : Bytes) (t : Transaction) (response : Message) :
    Except PyErr (Message × Bool) :=
  match response.type with
  | some _ => .ok (response, t.completed)
  | none =>
    if t.request.type = some .CON ∧ t.request.acknowledged = false then do
      let response ← { response with type := some .ACK }.setMid t.request.mid
      .ok (response.setAcknowledged true, true)
    else if t.request.type = some .NON then
      .ok ({ response with type := some .NON }, t.completed)
    else do
      let response ← { response with type := some .CON }.setToken rng t.request.token
      .ok (response, t.completed)

def acknowledgeRequest (t : Transaction) : Transaction :=
  { t with request := t.request.setAcknowledged true }

/-- A response without a message id gets the next one, and its transaction is stored under it. -/
def setResponseMid (tid : ℕ) (response : Message) : Action PyErr State Unit := fun s =>
  match response.mid with
  | some _ => (.ok (), s)
  | none =>
    let mid := s.currentMid
    let s := (fetchMid s).2
    match response.setMid (some mid) with
    | .error e => (.error e, s)
    | .ok response =>
      let s := s.update tid fun t => { t with response := some response }
      match response.destination with
      | none => (.error .typeError, s)
      | some address =>
        (.ok (), { s with
          transactions := s.transactions.insert (key address (midArg response.mid)) tid })

/-- `None` is returned for a transaction without a response. The log line at the end is left to the
server, which knows the platform. -/
def sendResponse (rng : Bytes) (tid : ℕ) : Action PyErr State (Option ℕ) := fun s =>
  match (s.heap.cell tid).response with
  | none => (.ok none, s.update tid fun t => { t with completed := true })
  | some response =>
    match setResponseType rng (s.heap.cell tid) response with
    | .error e => (.error e, s)
    | .ok (response, completed) =>
      let s := s.update tid fun t => { t with response := some response, completed := completed }
      match setResponseMid tid response s with
      | (.error e, s) => (.error e, s)
      | (.ok (), s) => (.ok (some tid), s.update tid acknowledgeRequest)

def sendAckOfRequest (tid : ℕ) (message : Message) : Action PyErr State Message := do
  Action.modify fun s => s.update tid fun t => { acknowledgeRequest t with completed := true }
  let s ← Action.get
  let request := (s.heap.cell tid).request
  let message ← Action.ofExcept (message.setMid request.mid)
  let message ← Action.ofExcept (message.setCode (some Codes.empty))
  pure { message with
    destination := request.source
    source := request.destination
    scheme := some request.schemeText }

def responseMid (t : Transaction) (response : Message) : Option ℤ :=
  if response.type = none ∧ t.request.type = some .CON ∧ t.request.acknowledged = false then
    t.request.mid
  else response.mid

/-- The key under which a transaction is stored when its response is sent: that of a message id
of this node's own, which a response without one is given. -/
def ownKey (s : State) (tid : ℕ) : Option Key :=
  match (s.heap.cell tid).response with
  | none => none
  | some response =>
    match responseMid (s.heap.cell tid) response, response.destination with
    | none, some address => some (key address (.int s.currentMid))
    | _, _ => none

@[simp] theorem update_transactions (s : State) (tid : ℕ) (f : Transaction → Transaction) :
    (s.update tid f).transactions = s.transactions := rfl

@[simp] theorem update_transactionsToken (s : State) (tid : ℕ) (f : Transaction → Transaction) :
    (s.update tid f).transactionsToken = s.transactionsToken := rfl

@[simp] theorem update_currentMid (s : State) (tid : ℕ) (f : Transaction → Transaction) :
    (s.update tid f).currentMid = s.currentMid := rfl

@[simp] theorem update_cell_self (s : State) (tid : ℕ) (f : Transaction → Transaction) :
    (s.update tid f).heap.cell tid = f (s.heap.cell tid) := by
  simp [State.update]

theorem storeRequest_transactions (request : Message) (address : Address) (s : State) :
    (storeRequest request address s).2.transactions =
      s.transactions.insert (keyMid request address) (storeRequest request address s).1 := by
  unfold storeRequest
  split <;> rfl

/-- Receiving a request changes the table of message ids at most under the request's key. -/
theorem receiveRequest_transactions (now : ℚ) (request : Message) (s : State) :
    (receiveRequest now request s).2.transactions = s.transactions ∨
      ∃ address tid, request.source = some address ∧
        (receiveRequest now request s).2.transactions =
          s.transactions.insert (keyMid request address) tid := by
  unfold receiveRequest
  split
  · exact Or.inl rfl
  · next address hsource =>
    split
    · exact Or.inl rfl
    · exact Or.inr ⟨address, _, hsource, storeRequest_transactions _ _ _⟩

theorem setMid_eq (m m' : Message) (mid : Option ℤ) (h : m.setMid mid = .ok m') :
    m' = { m with mid := mid } := by
  unfold Message.setMid at h
  split at h
  · split_ifs at h
    exact (Except.ok.inj h).symm
  · exact (Except.ok.inj h).symm

theorem setToken_eq (rng : Bytes) (m m' : Message) (token : Option Bytes)
    (h : m.setToken rng token = .ok m') : m' = { m with token := some (token.getD rng) } := by
  unfold Message.setToken at h
  split at h
  · split_ifs at h
    exact (Except.ok.inj h).symm
  · exact (Except.ok.inj h).symm

theorem setResponseType_mid (rng : Bytes) (t : Transaction) (response response' : Message)
    (completed : Bool) (h : setResponseType rng t response = .ok (response', completed)) :
    response'.mid = responseMid t response ∧ response'.destination = response.destination := by
  unfold setResponseType at h
  unfold responseMid
  split at h
  · next hty =>
    obtain ⟨rfl, _⟩ := Prod.mk.inj (Except.ok.inj h)
    simp [hty]
  · next hty =>
    split_ifs at h with hcon hnon
    · obtain ⟨r, hr, h⟩ := (bind_eq_ok _ _ _).mp h
      obtain ⟨rfl, _⟩ := Prod.mk.inj (Except.ok.inj h)
      rw [setMid_eq _ _ _ hr, if_pos ⟨hty, hcon⟩]
      exact ⟨rfl, rfl⟩
    · obtain ⟨rfl, _⟩ := Prod.mk.inj (Except.ok.inj h)
      rw [if_neg fun hc => hcon hc.2]
      exact ⟨rfl, rfl⟩
    · obtain ⟨r, hr, h⟩ := (bind_eq_ok _ _ _).mp h
      obtain ⟨rfl, _⟩ := Prod.mk.inj (Except.ok.inj h)
      rw [setToken_eq _ _ _ _ hr, if_neg fun hc => hcon hc.2]
      exact ⟨rfl, rfl⟩

theorem setResponseMid_transactions (tid : ℕ) (response : Message) (s : State) :
    (setResponseMid tid response s).2.transactions = s.transactions ∨
      ∃ address, response.mid = none ∧ response.destination = some address ∧
        (setResponseMid tid response s).2.transactions =
          s.transactions.insert (key address (.int s.currentMid)) tid := by
  unfold setResponseMid
  split
  · exact Or.inl rfl
  · next hmid =>
    dsimp only
    split
    · exact Or.inl rfl
    · next r hr =>
      have hr' := setMid_eq _ _ _ hr
      split
      · exact Or.inl rfl
      · next address hdest =>
        refine Or.inr ⟨address, hmid, ?_, ?_⟩
        · rw [← hdest, hr']
        · rw [hr']
          rfl

theorem sendResponse_transactions (rng : Bytes) (tid : ℕ) (s : State) :
    (sendResponse rng tid s).2.transactions = s.transactions ∨
      ∃ k, ownKey s tid = some k ∧
        (sendResponse rng tid s).2.transactions = s.transactions.insert k tid := by
  unfold sendResponse ownKey
  cases hresponse : (s.heap.cell tid).response with
  | none => exact Or.inl rfl
  | some response =>
    dsimp only
    cases htype : setResponseType rng (s.heap.cell tid) response with
    | error e => exact Or.inl rfl
    | ok r =>
      obtain ⟨response', completed⟩ := r
      obtain ⟨hmid, hdest⟩ := setResponseType_mid _ _ _ _ _ htype
      dsimp only
      set s' := s.update tid fun t => { t with response := some response', completed := completed }
        with hs'
      have htables := setResponseMid_transactions tid response' s'
      have hfinal : ∀ r : Except PyErr Unit × State,
          (match r with
            | (.error e, s) => ((.error e : Except PyErr (Option ℕ)), s)
            | (.ok (), s) => (.ok (some tid), s.update tid acknowledgeRequest)).2.transactions =
            r.2.transactions := by
        rintro ⟨_ | _, s⟩ <;> rfl
      rw [hfinal]
      rcases htables with heq | ⟨address, hnone, haddress, heq⟩
      · exact Or.inl heq
      · refine Or.inr ⟨key address (.int s.currentMid), ?_, heq⟩
        rw [← hmid, hnone, ← hdest, haddress]

section Frames
variable (tid : ℕ)

theorem update_cell_of_ne (s : State) (i : ℕ) (f : Transaction → Transaction)
    (h : tid ≠ i) : (s.update i f).heap.cell tid = s.heap.cell tid :=
  Heap.set_cell_of_ne s.heap i tid _ h

theorem update_response (s : State) (i : ℕ) (f : Transaction → Transaction)
    (h : ∀ t, (f t).response = t.response) :
    ((s.update i f).heap.cell tid).response = (s.heap.cell tid).response := by
  by_cases hi : tid = i
  · rw [hi, update_cell_self, h]
  · rw [update_cell_of_ne tid s i f hi]

end Frames

section Sending
variable (tid : ℕ) (R : State → State → Prop) (refl : ∀ s, R s s)
  (trans : ∀ s t u, R s t → R t u → R s u) (fetches : ∀ s, R s (fetchMid s).2)
  (updates : ∀ s f, R s (s.update tid f))
  (stores : ∀ s k, R s { s with transactions := s.transactions.insert k tid })
include refl trans fetches updates stores

theorem setResponseMid_frame (response : Message) (s : State) :
    R s (setResponseMid tid response s).2 := by
  unfold setResponseMid
  split
  · exact refl s
  · dsimp only
    split
    · exact fetches s
    · next response' _ =>
      have hupdated := trans _ _ _ (fetches s)
        (updates (fetchMid s).2 fun t => { t with response := some response' })
      split
      · exact hupdated
      · exact trans _ _ _ hupdated (stores _ _)

theorem sendResponse_frame (rng : Bytes) (s : State) : R s (sendResponse rng tid s).2 := by
  unfold sendResponse
  split
  · exact updates s fun t => { t with completed := true }
  · split
    · exact refl s
    · next response completed _ =>
      dsimp only
      have hupdated := updates s
        fun t => { t with response := some response, completed := completed }
      have hmid := setResponseMid_frame tid R refl trans fetches updates stores response
        (s.update tid fun t => { t with response := some response, completed := completed })
      split
      · next heq =>
        rw [heq] at hmid
        exact trans _ _ _ hupdated hmid
      · next heq =>
        rw [heq] at hmid
        exact trans _ _ _ (trans _ _ _ hupdated hmid) (updates _ _)

end Sending

theorem sendResponse_cell (tid : ℕ) (rng : Bytes) (i : ℕ) (s : State) (h : tid ≠ i) :
    (sendResponse rng i s).2.heap.cell tid = s.heap.cell tid := by
  refine sendResponse_frame i (fun s s' => s'.heap.cell tid = s.heap.cell tid) ?_ ?_ ?_ ?_ ?_ rng s
  · exact fun _ => rfl
  · exact fun _ _ _ h h' => h'.trans h
  · exact fun _ => rfl
  · exact fun s f => update_cell_of_ne tid s i f h
  · exact fun _ _ => rfl

end BubotCoap.MessageLayer
