import BubotCoap.Deduplication
import BubotCoap.MessageTables

set_option autoImplicit false

namespace BubotCoap.Acknowledgements
open PythonData Defines Utils Messages OrderedDict Transactions MessageLayer MessagePairing
  MessageTables Runs FallibleState
open Deduplication (sampleClient sampleGet)

inductive Side where
  | request
  | response
  deriving DecidableEq

def held (t : Transaction) : Side → Option Message
  | .request => some t.request
  | .response => t.response

/-- A confirmable message that has been sent. `number` tells which of the responses of its
transaction it is. -/
structure Sent where
  side : Side
  tid : ℕ
  number : ℕ
  peer : Address
  mid : ℤ
  deriving DecidableEq

structure Node where
  layer : State
  /-- The transactions of received requests. -/
  served : List ℕ
  /-- The transactions of the node's own requests. -/
  own : List ℕ
  /-- How many times the response of a transaction has been replaced. -/
  replaced : ℕ → ℕ
  /-- The messages that are not acknowledged or rejected yet. -/
  awaited : List Sent

namespace Node

def new (startingMid : ℕ) : Node := ⟨State.new startingMid, [], [], fun _ => 0, []⟩

def replace (tid : ℕ) (s : Node) : Node :=
  { s with replaced := fun i => if i = tid then s.replaced i + 1 else s.replaced i }

/-- The message of a transaction, if it is one that has to be acknowledged. -/
def confirmable (side : Side) (tid : ℕ) (s : Node) : List Sent :=
  match held (s.layer.heap.cell tid) side with
  | none => []
  | some m =>
    match m.type, m.destination, m.mid with
    | some .CON, some peer, some mid =>
      if m.acknowledged ∨ m.multicast then [] else [⟨side, tid, s.replaced tid, peer, mid⟩]
    | _, _, _ => []

end Node

/-- What can happen to the layer. Other layers may give a transaction a new response, and change
it in any other way. -/
inductive Event where
  | receiveRequest (request : Message)
  | receiveResponse (response : Message)
  | receiveEmpty (message : Message)
  | sendRequest (rng : Bytes) (request : Message)
  | sendResponse (rng : Bytes) (tid : ℕ)
  | respond (tid : ℕ) (response : Message)
  | touch (tid : ℕ) (f : Transaction → Transaction)
  | purge

abbrev Timed := ℚ × Event

def answers (message : Message) (m : Sent) : Bool :=
  decide ((message.type = some .ACK ∨ message.type = some .RST) ∧
    message.source = some m.peer ∧ message.mid = some m.mid)

section Step
variable (ipv6 : Text → Bool) (s : Node)

def receiveRequest (now : ℚ) (request : Message) : Node :=
  match MessageLayer.receiveRequest now request s.layer with
  | (.ok tid, layer) => { s with layer := layer, served := tid :: s.served }
  | (.error _, layer) => { s with layer := layer }

/-- A response answers its request, acknowledged or not. -/
def receiveResponse (response : Message) : Node :=
  match MessagePairing.receiveResponse response s.layer with
  | (.ok (some tid, _), layer) =>
    { s.replace tid with
      layer := layer
      awaited := s.awaited.filter fun m => !decide (m.side = .request ∧ m.tid = tid) }
  | (_, layer) => { s with layer := layer }

def receiveEmpty (message : Message) : Node :=
  { s with
    layer := (MessagePairing.receiveEmpty ipv6 message s.layer).2
    awaited := s.awaited.filter fun m => !answers message m }

def sendRequest (now : ℚ) (rng : Bytes) (request : Message) : Node × List Sent :=
  match MessagePairing.sendRequest now rng request s.layer with
  | (.ok tid, layer) =>
    let s := { s with layer := layer, own := tid :: s.own }
    (s, s.confirmable .request tid)
  | (.error _, layer) => ({ s with layer := layer }, [])

/-- Only transactions of received requests are responded to. -/
def sendResponse (rng : Bytes) (tid : ℕ) : Node × List Sent :=
  if tid ∈ s.served then
    match MessageLayer.sendResponse rng tid s.layer with
    | (.ok (some _), layer) =>
      let s := { s with layer := layer }
      (s, s.confirmable .response tid)
    | (_, layer) => ({ s with layer := layer }, [])
  else (s, [])

def sending (p : Node × List Sent) : Node := { p.1 with awaited := p.1.awaited ++ p.2 }

def step (e : Timed) : Node :=
  match e.2 with
  | .receiveRequest request => receiveRequest s e.1 request
  | .receiveResponse response => receiveResponse s response
  | .receiveEmpty message => receiveEmpty ipv6 s message
  | .sendRequest rng request => sending (sendRequest s e.1 rng request)
  | .sendResponse rng tid => sending (sendResponse s rng tid)
  | .respond tid response =>
    { s.replace tid with
      layer := s.layer.update tid fun t => { t with response := some response } }
  | .touch tid f => { s with layer := s.layer.update tid f }
  | .purge => { s with layer := (MessageLayer.purge exchangeLifetime e.1 s.layer).2 }

end Step

def flags (s : Node) (tid : ℕ) (side : Side) : Option (Bool × Bool) :=
  (held (s.layer.heap.cell tid) side).map fun m => (m.acknowledged, m.rejected)

/-- Of all messages just `m` has been marked, as acknowledged or as rejected. -/
structure Marks (type : Option MsgType) (m : Sent) (s s' : Node) : Prop where
  current : m.side = .response → s'.replaced m.tid = m.number
  marked : flags s' m.tid m.side = some (decide (type = some .ACK), decide (type = some .RST))
  others : ∀ tid side, (tid, side) ≠ (m.tid, m.side) → flags s' tid side = flags s tid side

/-- Every empty message marks the message of the peer's that it acknowledges or rejects. -/
def EachMarked (ipv6 : Text → Bool) (startingMid : ℕ) (events : List Timed) : Prop :=
  ∀ pre now message post m, events = pre ++ (now, Event.receiveEmpty message) :: post →
    m ∈ (run (step ipv6) (Node.new startingMid) pre).awaited → answers message m = true →
    Marks message.type m (run (step ipv6) (Node.new startingMid) pre)
      (run (step ipv6) (Node.new startingMid) (pre ++ [(now, .receiveEmpty message)]))

section Apart

/-- The transactions of received requests and those of the node's own are kept apart. -/
structure Apart (s : Node) : Prop where
  leads : Leads s.served s.own s.layer
  disjoint : ∀ tid ∈ s.served, tid ∉ s.own
  served_lt : ∀ tid ∈ s.served, tid < s.layer.heap.next
  own_lt : ∀ tid ∈ s.own, tid < s.layer.heap.next
  awaited : ∀ m ∈ s.awaited, m.side = .request → m.tid ∈ s.own

variable (ipv6 : Text → Bool) (s : Node)

theorem mem_confirmable (side : Side) (tid : ℕ) (m : Sent) (h : m ∈ s.confirmable side tid) :
    ∃ message, held (s.layer.heap.cell tid) side = some message ∧ message.type = some .CON ∧
      message.acknowledged = false ∧ message.destination = some m.peer ∧
      message.mid = some m.mid ∧ m.side = side ∧ m.tid = tid ∧ m.number = s.replaced tid := by
  unfold Node.confirmable at h
  split at h
  · cases h
  · next message hheld =>
    split at h
    · next peer mid htype hdestination hmid =>
      split at h
      · cases h
      · next hunmarked =>
        rw [List.mem_singleton] at h
        subst h
        refine ⟨message, hheld, htype, ?_, hdestination, hmid, rfl, rfl, rfl⟩
        exact Bool.eq_false_iff.mpr fun hack => hunmarked (Or.inl hack)
    · cases h

theorem apart_update (tid : ℕ) (f : Transaction → Transaction) (h : Apart s) :
    Apart { s with layer := s.layer.update tid f } :=
  ⟨⟨h.leads.transactions, h.leads.transactionsToken, h.leads.transactionsSent,
    h.leads.transactionsSentToken⟩, h.disjoint, h.served_lt, h.own_lt, h.awaited⟩

theorem receiveRequest_apart (now : ℚ) (request : Message) (h : Apart s) :
    Apart (receiveRequest s now request) := by
  unfold receiveRequest
  split
  · next tid layer heq =>
    obtain ⟨hleads, htid⟩ := leads_receiveRequest s.served s.own s.layer now request tid layer
      h.leads heq
    have hown : tid ∉ s.own := by
      rcases htid with ⟨hmem, _⟩ | ⟨hnew, _⟩
      · exact h.disjoint tid hmem
      · intro hmem
        have hlt := h.own_lt tid hmem
        omega
    have hnext : tid < layer.heap.next ∧ s.layer.heap.next ≤ layer.heap.next := by
      rcases htid with ⟨hmem, hnext⟩ | ⟨hnew, hnext⟩
      · have hlt := h.served_lt tid hmem
        omega
      · omega
    refine ⟨hleads, ?_, ?_, ?_, h.awaited⟩
    · intro i hi
      rcases List.mem_cons.mp hi with rfl | hmem
      · exact hown
      · exact h.disjoint i hmem
    · intro i hi
      rcases List.mem_cons.mp hi with rfl | hmem
      · exact hnext.1
      · exact Nat.lt_of_lt_of_le (h.served_lt i hmem) hnext.2
    · intro i hi
      exact Nat.lt_of_lt_of_le (h.own_lt i hi) hnext.2
  · next e layer heq =>
    rw [receiveRequest_error s.layer now request e layer heq]
    exact h

theorem receiveResponse_apart (response : Message) (h : Apart s) :
    Apart (receiveResponse s response) := by
  unfold receiveResponse
  generalize hr : MessagePairing.receiveResponse response s.layer = r
  obtain ⟨result, layer⟩ := r
  rcases receiveResponse_pairs s.layer response result layer hr with
    ⟨rfl, hnone⟩ | ⟨tid, b, address, destination, rfl, _, rfl⟩
  · split
    · next tid b layer heq => exact absurd (congrArg Prod.fst heq) (hnone tid b)
    · next heq =>
      cases heq
      exact h
  · have hupdated := apart_update s tid (fun t =>
      { acknowledgeRequest t with completed := true, response := some response }) h
    exact ⟨hupdated.leads, h.disjoint, h.served_lt, h.own_lt,
      fun m hm => h.awaited m (List.mem_filter.mp hm).1⟩

theorem receiveEmpty_apart (message : Message) (h : Apart s) :
    Apart (receiveEmpty ipv6 s message) := by
  have hawaited : ∀ m ∈ (receiveEmpty ipv6 s message).awaited, m.side = .request → m.tid ∈ s.own :=
    fun m hm => h.awaited m (List.mem_filter.mp hm).1
  have hpairs := receiveEmpty_pairs s.layer ipv6 message
  unfold receiveEmpty at hawaited ⊢
  rcases hpairs with heq | ⟨_, tid, t, _, _, _, heq⟩
  · rw [heq] at hawaited ⊢
    exact ⟨h.leads, h.disjoint, h.served_lt, h.own_lt, hawaited⟩
  · rw [heq] at hawaited ⊢
    have hupdated := apart_update s tid (fun _ => t) h
    exact ⟨hupdated.leads, h.disjoint, h.served_lt, h.own_lt, hawaited⟩

theorem sendRequest_apart (now : ℚ) (rng : Bytes) (request : Message) (h : Apart s) :
    Apart (sending (sendRequest s now rng request)) := by
  have hrequests := sendRequest_requests s.served s.own s.layer now rng request h.leads
  unfold sendRequest
  generalize MessagePairing.sendRequest now rng request s.layer = r at hrequests
  obtain ⟨result, layer⟩ := r
  have hserved : ∀ i ∈ s.served, i < layer.heap.next :=
    fun i hi => Nat.lt_of_lt_of_le (h.served_lt i hi) hrequests.next
  have hown : ∀ i ∈ s.own, i < layer.heap.next :=
    fun i hi => Nat.lt_of_lt_of_le (h.own_lt i hi) hrequests.next
  rcases hrequests.leads with ⟨⟨e, he⟩, hleads⟩ | ⟨hok, hleads, hnext⟩
  · change result = _ at he
    subst he
    refine ⟨hleads, h.disjoint, hserved, hown, ?_⟩
    intro m hm
    change m ∈ s.awaited ++ [] at hm
    rw [List.append_nil] at hm
    exact h.awaited m hm
  · change result = _ at hok
    subst hok
    refine ⟨hleads, ?_, hserved, ?_, ?_⟩
    · intro i hi hmem
      rcases List.mem_cons.mp hmem with rfl | hmem
      · exact Nat.lt_irrefl _ (h.served_lt _ hi)
      · exact h.disjoint i hi hmem
    · intro i hi
      rcases List.mem_cons.mp hi with rfl | hmem
      · exact (Nat.lt_succ_self _).trans_eq hnext.symm
      · exact hown i hmem
    · intro m hm hside
      rcases List.mem_append.mp hm with hold | hsent
      · exact List.mem_cons_of_mem _ (h.awaited m hold hside)
      · dsimp only at hsent
        obtain ⟨_, _, _, _, _, _, _, htid, _⟩ := mem_confirmable _ _ _ m hsent
        rw [htid]
        exact List.mem_cons_self

theorem sendResponse_apart (rng : Bytes) (tid : ℕ) (h : Apart s) :
    Apart (sending (sendResponse s rng tid)) := by
  have hnone : ∀ t : Node, Apart t → Apart (sending (t, [])) := by
    intro t ht
    refine ⟨ht.leads, ht.disjoint, ht.served_lt, ht.own_lt, fun m hm => ?_⟩
    change m ∈ t.awaited ++ [] at hm
    rw [List.append_nil] at hm
    exact ht.awaited m hm
  unfold sendResponse
  split
  · next hmem =>
    obtain ⟨hleads, hnext⟩ := leads_sendResponse s.served s.own s.layer rng tid h.leads hmem
    generalize MessageLayer.sendResponse rng tid s.layer = r at hleads hnext
    obtain ⟨result, layer⟩ := r
    have hapart : Apart { s with layer := layer } :=
      ⟨hleads, h.disjoint, fun i hi => (h.served_lt i hi).trans_eq hnext.symm,
        fun i hi => (h.own_lt i hi).trans_eq hnext.symm, h.awaited⟩
    split
    · next heq =>
      cases heq
      refine ⟨hapart.leads, h.disjoint, hapart.served_lt, hapart.own_lt, ?_⟩
      intro m hm hside
      rcases List.mem_append.mp hm with hold | hsent
      · exact h.awaited m hold hside
      · obtain ⟨_, _, _, _, _, _, hresponse, _⟩ := mem_confirmable _ _ _ m hsent
        rw [hresponse] at hside
        cases hside
    · next heq =>
      cases heq
      exact hnone _ hapart
  · exact hnone s h

theorem step_apart (e : Timed) (h : Apart s) : Apart (step ipv6 s e) := by
  obtain ⟨now, event⟩ := e
  cases event with
  | receiveRequest request => exact receiveRequest_apart s now request h
  | receiveResponse response => exact receiveResponse_apart s response h
  | receiveEmpty message => exact receiveEmpty_apart ipv6 s message h
  | sendRequest rng request => exact sendRequest_apart s now rng request h
  | sendResponse rng tid => exact sendResponse_apart s rng tid h
  | respond tid response =>
    have hupdated := apart_update s tid (fun t => { t with response := some response }) h
    exact ⟨hupdated.leads, h.disjoint, h.served_lt, h.own_lt, h.awaited⟩
  | touch tid f => exact apart_update s tid f h
  | purge =>
    exact ⟨⟨leadsTo_keep _ _ _ h.leads.transactions, leadsTo_keep _ _ _ h.leads.transactionsToken,
      h.leads.transactionsSent, h.leads.transactionsSentToken⟩, h.disjoint, h.served_lt, h.own_lt,
      h.awaited⟩

theorem run_apart (startingMid : ℕ) (events : List Timed) :
    Apart (run (step ipv6) (Node.new startingMid) events) := by
  refine run_induction (step ipv6) (fun _ => Apart) (Node.new startingMid) events ?_ ?_
  · refine ⟨⟨leadsTo_empty _, leadsTo_empty _, leadsTo_empty _, leadsTo_empty _⟩, ?_, ?_, ?_, ?_⟩
    · exact fun _ h => absurd h List.not_mem_nil
    · exact fun _ h => absurd h List.not_mem_nil
    · exact fun _ h => absurd h List.not_mem_nil
    · exact fun _ h => absurd h List.not_mem_nil
  · exact fun pre e _ _ h => step_apart ipv6 _ e h

/-- No empty message ever marks a request of the node's own. -/
theorem own_request_unmarked (startingMid : ℕ) (events : List Timed) (now : ℚ) (message : Message)
    (tid : ℕ) (side : Side)
    (h : tid ∈ (run (step ipv6) (Node.new startingMid) events).own) :
    flags (step ipv6 (run (step ipv6) (Node.new startingMid) events)
        (now, .receiveEmpty message)) tid side =
      flags (run (step ipv6) (Node.new startingMid) events) tid side := by
  have hapart := run_apart ipv6 startingMid events
  generalize run (step ipv6) (Node.new startingMid) events = s at h hapart
  unfold flags
  change (held ((MessagePairing.receiveEmpty ipv6 message s.layer).2.heap.cell tid) side).map _ = _
  rcases receiveEmpty_pairs s.layer ipv6 message with heq | ⟨address, i, t, _, hmatch, _, heq⟩
  · rw [heq]
  · have hserved := matchEmpty_served s.served s.own s.layer ipv6 message address i hapart.leads
      hmatch
    have hne : tid ≠ i := fun hi => hapart.disjoint i hserved (hi ▸ h)
    rw [heq, update_cell_of_ne tid s.layer i _ hne]

end Apart

section Waiting
variable (ipv6 : Text → Bool) (m : Sent) (s : Node)

/-- The transaction has a response of some type that is not acknowledged. -/
def Pending (t : Transaction) : Prop :=
  ∃ response, t.response = some response ∧ response.type ≠ none ∧ response.acknowledged = false

/-- The response that was sent is still that of its transaction, and found under its key. -/
structure Waiting : Prop where
  served : m.tid ∈ s.served
  found : s.layer.transactions.get? (key m.peer (.int m.mid)) = some m.tid
  current : s.replaced m.tid = m.number
  pending : Pending (s.layer.heap.cell m.tid)

/-- The message is taken for an acknowledgement or a reset of the transaction's response. -/
def Reaches (message : Message) (tid : ℕ) : Prop :=
  (message.type = some .ACK ∨ message.type = some .RST) ∧
    (s.layer.heap.cell tid).request.acknowledged = true ∧
    ∃ address, message.source = some address ∧ matchEmpty ipv6 message address s.layer = some tid

/-- The step leaves the response that was sent to its transaction, unmarked, and its entry to its
key. -/
structure Spares (e : Timed) : Prop where
  requests : ∀ request address, e.2 = .receiveRequest request → request.source = some address →
    duplicateOf request address s.layer = none →
    keyMid request address ≠ key m.peer (.int m.mid)
  empties : ∀ message, e.2 = .receiveEmpty message → ¬ Reaches ipv6 s message m.tid
  responses : ∀ rng tid, e.2 = .sendResponse rng tid →
    tid = m.tid ∨ ownKey s.layer tid ≠ some (key m.peer (.int m.mid))
  others : ∀ tid response, e.2 = .respond tid response → tid ≠ m.tid
  touches : ∀ f, e.2 = .touch m.tid f → Pending (f (s.layer.heap.cell m.tid))
  purges : e.2 = .purge → expired s.layer.heap exchangeLifetime e.1 m.tid = false

theorem Pending.congr (t t' : Transaction) (h : t'.response = t.response) (ht : Pending t) :
    Pending t' := by
  obtain ⟨response, hresponse, hpending⟩ := ht
  exact ⟨response, h.trans hresponse, hpending⟩

theorem pairEmpty_response (type : Option MsgType) (t t' : Transaction)
    (hr : pairEmpty type t = .ok t')
    (h : t.request.acknowledged = true → ¬ (type = some .ACK ∨ type = some .RST)) :
    t'.response = t.response := by
  unfold pairEmpty at hr
  split at hr
  · split at hr
    · cases hr
      rfl
    · next hacknowledged =>
      exact absurd (Or.inl rfl) (h (by simpa using hacknowledged))
  · split at hr
    · cases hr
      rfl
    · next hacknowledged =>
      exact absurd (Or.inr rfl) (h (by simpa using hacknowledged))
  · cases hr
    rfl
  · cases hr
    rfl

theorem setResponseMid_pending (tid : ℕ) (response : Message) (layer : State)
    (hcell : (layer.heap.cell tid).response = some response) (htype : response.type ≠ none)
    (hunmarked : response.acknowledged = false) :
    Pending ((setResponseMid tid response layer).2.heap.cell tid) := by
  unfold setResponseMid
  split
  · exact ⟨response, hcell, htype, hunmarked⟩
  · dsimp only
    split
    · exact ⟨response, hcell, htype, hunmarked⟩
    · next response' hset =>
      have hpending : Pending (((fetchMid layer).2.update tid fun t =>
          { t with response := some response' }).heap.cell tid) := by
        rw [update_cell_self]
        refine ⟨response', rfl, ?_, ?_⟩
        · rw [setMid_eq _ _ _ hset]
          exact htype
        · rw [setMid_eq _ _ _ hset]
          exact hunmarked
      split
      · exact hpending
      · exact hpending

/-- A response that has a type is sent again as it is, but for the message id. -/
theorem sendResponse_pending (rng : Bytes) (tid : ℕ) (layer : State)
    (h : Pending (layer.heap.cell tid)) :
    Pending ((MessageLayer.sendResponse rng tid layer).2.heap.cell tid) := by
  obtain ⟨response, hresponse, htype, hunmarked⟩ := h
  have hset : setResponseType rng (layer.heap.cell tid) response =
      .ok (response, (layer.heap.cell tid).completed) := by
    unfold setResponseType
    split
    · rfl
    · next hnone => exact absurd hnone htype
  unfold MessageLayer.sendResponse
  rw [hresponse]
  dsimp only
  rw [hset]
  dsimp only
  have hpending := setResponseMid_pending tid response
    (layer.update tid fun t =>
      { t with response := some response, completed := (layer.heap.cell tid).completed })
    (by rw [update_cell_self]) htype hunmarked
  split
  · next heq =>
    rw [heq] at hpending
    exact hpending
  · next heq =>
    rw [heq] at hpending
    refine hpending.congr _ _ ?_
    rw [update_cell_self]
    rfl

theorem waiting_receiveRequest (now : ℚ) (request : Message) (h : Waiting m s) (hapart : Apart s)
    (hkey : ∀ address, request.source = some address →
      duplicateOf request address s.layer = none →
      keyMid request address ≠ key m.peer (.int m.mid)) :
    Waiting m (receiveRequest s now request) := by
  unfold receiveRequest
  split
  · next tid layer heq =>
    unfold MessageLayer.receiveRequest at heq
    split at heq
    · cases heq
    · next address hsource =>
      split at heq
      · cases heq
        refine ⟨List.mem_cons_of_mem _ h.served, h.found, h.current, h.pending.congr _ _ ?_⟩
        exact update_response m.tid s.layer tid _ fun _ => rfl
      · next hfresh =>
        have hne : keyMid { request with timestamp := some now } address ≠
            key m.peer (.int m.mid) := hkey address hsource hfresh
        have htables := storeRequest_transactions { request with timestamp := some now } address
          s.layer
        have hresponse : ((storeRequest { request with timestamp := some now } address
            s.layer).2.heap.cell m.tid).response = (s.layer.heap.cell m.tid).response := by
          unfold storeRequest
          split
          · next i _ =>
            exact update_response m.tid s.layer i
              (fun t => { t with request := { request with timestamp := some now } }) fun _ => rfl
          · have hlt := hapart.served_lt m.tid h.served
            exact congrArg Transaction.response
              (Heap.alloc_cell_of_ne s.layer.heap m.tid _ (Nat.ne_of_lt hlt))
        cases heq
        refine ⟨List.mem_cons_of_mem _ h.served, ?_, h.current, h.pending.congr _ _ hresponse⟩
        change (storeRequest _ address s.layer).2.transactions.get? _ = _
        rw [htables, Dict.get?_insert_of_ne _ _ fun hk => hne hk.symm]
        exact h.found
  · next e layer heq =>
    rw [receiveRequest_error s.layer now request e layer heq]
    exact h

theorem waiting_receiveResponse (response : Message) (h : Waiting m s) (hapart : Apart s) :
    Waiting m (receiveResponse s response) := by
  unfold receiveResponse
  generalize hr : MessagePairing.receiveResponse response s.layer = r
  obtain ⟨result, layer⟩ := r
  rcases receiveResponse_pairs s.layer response result layer hr with
    ⟨rfl, hnone⟩ | ⟨tid, b, address, destination, rfl, hmatch, rfl⟩
  · split
    · next tid b layer heq => exact absurd (congrArg Prod.fst heq) (hnone tid b)
    · next heq =>
      cases heq
      exact h
  · have hown := matchResponse_own s.served s.own s.layer response address destination tid
      hapart.leads hmatch
    have hne : m.tid ≠ tid := fun htid => hapart.disjoint m.tid h.served (htid ▸ hown)
    refine ⟨h.served, h.found, (if_neg hne).trans h.current, h.pending.congr _ _ ?_⟩
    exact congrArg Transaction.response (update_cell_of_ne m.tid s.layer tid _ hne)

theorem waiting_receiveEmpty (message : Message) (h : Waiting m s)
    (hmissed : ¬ Reaches ipv6 s message m.tid) : Waiting m (receiveEmpty ipv6 s message) := by
  unfold receiveEmpty
  rcases receiveEmpty_pairs s.layer ipv6 message with
    heq | ⟨address, tid, t, hsource, hmatch, ht, heq⟩
  · rw [heq]
    exact ⟨h.served, h.found, h.current, h.pending⟩
  · rw [heq]
    refine ⟨h.served, h.found, h.current, h.pending.congr _ _ ?_⟩
    by_cases htid : m.tid = tid
    · subst htid
      have hresponse := pairEmpty_response message.type _ t ht fun hacknowledged htype =>
        hmissed ⟨htype, hacknowledged, address, hsource, hmatch⟩
      rw [update_cell_self]
      exact hresponse
    · exact congrArg Transaction.response (update_cell_of_ne m.tid s.layer tid _ htid)

theorem waiting_sendRequest (now : ℚ) (rng : Bytes) (request : Message) (h : Waiting m s)
    (hapart : Apart s) : Waiting m (sending (sendRequest s now rng request)) := by
  have hrequests := sendRequest_requests s.served s.own s.layer now rng request hapart.leads
  have hcell := hrequests.cell m.tid (hapart.served_lt m.tid h.served)
  have htransactions := hrequests.transactions
  unfold sendRequest
  generalize MessagePairing.sendRequest now rng request s.layer = r at hcell htransactions
  obtain ⟨result, layer⟩ := r
  dsimp only at hcell htransactions
  have hfound := h.found
  rw [← htransactions] at hfound
  have hpending := h.pending.congr _ _ (congrArg Transaction.response hcell)
  cases result with
  | error e => exact ⟨h.served, hfound, h.current, hpending⟩
  | ok tid => exact ⟨h.served, hfound, h.current, hpending⟩

theorem waiting_sendResponse (rng : Bytes) (tid : ℕ) (h : Waiting m s)
    (hown : tid = m.tid ∨ ownKey s.layer tid ≠ some (key m.peer (.int m.mid))) :
    Waiting m (sending (sendResponse s rng tid)) := by
  have hfound : (MessageLayer.sendResponse rng tid s.layer).2.transactions.get?
      (key m.peer (.int m.mid)) = some m.tid := by
    rcases sendResponse_transactions rng tid s.layer with heq | ⟨k, hk, heq⟩
    · rw [heq]
      exact h.found
    · rw [heq]
      by_cases hkey : key m.peer (.int m.mid) = k
      · rw [hkey, Dict.get?_insert_self]
        rcases hown with htid | hother
        · rw [htid]
        · exact absurd (hkey ▸ hk) hother
      · rw [Dict.get?_insert_of_ne _ _ hkey]
        exact h.found
  have hpending : Pending ((MessageLayer.sendResponse rng tid s.layer).2.heap.cell m.tid) := by
    by_cases htid : m.tid = tid
    · rw [← htid]
      exact sendResponse_pending rng m.tid s.layer h.pending
    · rw [sendResponse_cell m.tid rng tid s.layer htid]
      exact h.pending
  unfold sendResponse
  split
  · generalize MessageLayer.sendResponse rng tid s.layer = r at hfound hpending
    obtain ⟨result, layer⟩ := r
    split
    · next heq =>
      cases heq
      exact ⟨h.served, hfound, h.current, hpending⟩
    · next heq =>
      cases heq
      exact ⟨h.served, hfound, h.current, hpending⟩
  · exact ⟨h.served, h.found, h.current, h.pending⟩

theorem step_waiting (e : Timed) (h : Waiting m s) (hapart : Apart s)
    (hspares : Spares ipv6 m s e) : Waiting m (step ipv6 s e) := by
  obtain ⟨now, event⟩ := e
  cases event with
  | receiveRequest request =>
    exact waiting_receiveRequest m s now request h hapart fun address =>
      hspares.requests request address rfl
  | receiveResponse response => exact waiting_receiveResponse m s response h hapart
  | receiveEmpty message =>
    exact waiting_receiveEmpty ipv6 m s message h (hspares.empties message rfl)
  | sendRequest rng request => exact waiting_sendRequest m s now rng request h hapart
  | sendResponse rng tid => exact waiting_sendResponse m s rng tid h (hspares.responses rng tid rfl)
  | respond tid response =>
    have hne := hspares.others tid response rfl
    refine ⟨h.served, h.found, ?_, ?_⟩
    · exact (if_neg hne.symm).trans h.current
    · refine h.pending.congr _ _ ?_
      exact congrArg Transaction.response (update_cell_of_ne m.tid s.layer tid _ hne.symm)
  | touch tid f =>
    refine ⟨h.served, h.found, h.current, ?_⟩
    by_cases htid : tid = m.tid
    · subst htid
      change Pending ((s.layer.update m.tid f).heap.cell m.tid)
      rw [update_cell_self]
      exact hspares.touches f rfl
    · refine h.pending.congr _ _ ?_
      exact congrArg Transaction.response (update_cell_of_ne m.tid s.layer tid f (Ne.symm htid))
  | purge =>
    have hkept : keepsKey s.layer.heap exchangeLifetime now s.layer.transactions
        (key m.peer (.int m.mid)) = true := by
      unfold keepsKey
      rw [h.found]
      dsimp only
      rw [hspares.purges rfl]
      rfl
    refine ⟨h.served, ?_, h.current, h.pending⟩
    change (s.layer.transactions.keep _).get? _ = _
    rw [Dict.get?_keep, hkept]
    exact h.found

theorem sent_waiting (rng : Bytes) (hsent : m ∈ (sendResponse s rng m.tid).2)
    (hown : (ownKey s.layer m.tid).isSome) : Waiting m (sending (sendResponse s rng m.tid)) := by
  unfold sendResponse at hsent ⊢
  by_cases hserved : m.tid ∈ s.served
  · rw [if_pos hserved] at hsent ⊢
    generalize hr : MessageLayer.sendResponse rng m.tid s.layer = r at hsent
    obtain ⟨result, layer⟩ := r
    split at hsent
    · next heq =>
      cases heq
      obtain ⟨response, peer, mid, hresponse, hpeer, hmid, htransactions⟩ :=
        sendResponse_stored rng m.tid s.layer layer _ hown hr
      obtain ⟨message, hheld, htype, hunmarked, hdestination, hid, _, _, hnumber⟩ :=
        mem_confirmable _ _ _ m hsent
      cases hresponse.symm.trans hheld
      cases hpeer.symm.trans hdestination
      cases hmid.symm.trans hid
      refine ⟨hserved, ?_, hnumber.symm, response, hresponse, ?_, hunmarked⟩
      · change layer.transactions.get? _ = _
        rw [htransactions, Dict.get?_insert_self]
      · rw [htype]
        exact Option.some_ne_none _
    · exact absurd hsent List.not_mem_nil
  · rw [if_neg hserved] at hsent
    exact absurd hsent List.not_mem_nil

theorem run_waiting (events : List Timed) (h : Waiting m s) (hapart : Apart s)
    (hspares : ∀ pre e post, events = pre ++ e :: post →
      Spares ipv6 m (run (step ipv6) s pre) e) : Waiting m (run (step ipv6) s events) := by
  have hboth := run_induction (step ipv6) (fun _ s => Waiting m s ∧ Apart s) s events ⟨h, hapart⟩
    fun pre e post hsplit hs => ⟨step_waiting ipv6 m _ e hs.1 hs.2 (hspares pre e post hsplit),
      step_apart ipv6 _ e hs.2⟩
  exact hboth.1

/-- Once the request is acknowledged, it is the response that is marked. -/
theorem pairEmpty_pending (type : Option MsgType) (t : Transaction) (h : Pending t)
    (hready : t.request.acknowledged = true) (htype : type = some .ACK ∨ type = some .RST) :
    ∃ marked : Message, pairEmpty type t = .ok { t with response := some marked } ∧
      (marked.acknowledged, marked.rejected) =
        (decide (type = some .ACK), decide (type = some .RST)) := by
  obtain ⟨response, hresponse, _, hunmarked⟩ := h
  have hread : ¬ t.request.acknowledged = false := by simp [hready]
  rcases htype with rfl | rfl
  · refine ⟨response.setAcknowledged true, ?_, rfl⟩
    unfold pairEmpty
    dsimp only
    rw [if_neg hread, hresponse]
    dsimp only
    rw [if_pos hunmarked]
  · refine ⟨response.setRejected true, ?_, rfl⟩
    unfold pairEmpty
    dsimp only
    rw [if_neg hread, hresponse]
    dsimp only
    rw [if_pos hunmarked]

theorem waiting_marks (now : ℚ) (message : Message) (h : Waiting m s) (hside : m.side = .response)
    (hready : (s.layer.heap.cell m.tid).request.acknowledged = true)
    (hanswers : answers message m = true) :
    Marks message.type m s (step ipv6 s (now, .receiveEmpty message)) := by
  obtain ⟨htype, hsource, hmid⟩ := of_decide_eq_true hanswers
  have hmatch : matchEmpty ipv6 message m.peer s.layer = some m.tid := by
    unfold matchEmpty
    dsimp only
    rw [hmid]
    change (s.layer.transactions.get? (key m.peer (.int m.mid))).or _ = _
    rw [h.found, Option.some_or]
  obtain ⟨marked, hpair, hflags⟩ := pairEmpty_pending message.type _ h.pending hready htype
  have hlayer : (MessagePairing.receiveEmpty ipv6 message s.layer).2 = s.layer.update m.tid fun _ =>
      { s.layer.heap.cell m.tid with response := some marked } := by
    unfold MessagePairing.receiveEmpty
    rw [hsource]
    dsimp only
    rw [hmatch]
    dsimp only
    rw [hpair]
  have hcell : (step ipv6 s (now, .receiveEmpty message)).layer.heap.cell m.tid =
      { s.layer.heap.cell m.tid with response := some marked } := by
    change (MessagePairing.receiveEmpty ipv6 message s.layer).2.heap.cell m.tid = _
    rw [hlayer, update_cell_self]
  refine ⟨fun _ => h.current, ?_, ?_⟩
  · unfold flags
    rw [hcell, hside]
    exact congrArg some hflags
  · intro tid side hne
    unfold flags
    by_cases htid : tid = m.tid
    · subst htid
      rw [hcell]
      cases side with
      | request => rfl
      | response => exact absurd (hside ▸ rfl) hne
    · have hother : (step ipv6 s (now, .receiveEmpty message)).layer.heap.cell tid =
          s.layer.heap.cell tid := by
        change (MessagePairing.receiveEmpty ipv6 message s.layer).2.heap.cell tid = _
        rw [hlayer, update_cell_of_ne tid s.layer m.tid _ htid]
      rw [hother]

end Waiting

section Runs
variable (ipv6 : Text → Bool)

/-- The message is a response that was given its message id when it was sent, each step since has
spared it, and the request it belongs to is acknowledged. -/
structure Undisturbed (start : Node) (events : List Timed) (m : Sent) : Prop where
  side : m.side = .response
  since : ∃ before now rng after, events = before ++ (now, Event.sendResponse rng m.tid) :: after ∧
    m ∈ (sendResponse (run (step ipv6) start before) rng m.tid).2 ∧
    (ownKey (run (step ipv6) start before).layer m.tid).isSome ∧
    ∀ pre e post, after = pre ++ e :: post →
      Spares ipv6 m (run (step ipv6) start (before ++ (now, .sendResponse rng m.tid) :: pre)) e
  ready : ((run (step ipv6) start events).layer.heap.cell m.tid).request.acknowledged = true

/-- In a run in which the messages to which empty ones are sent back are undisturbed responses,
every empty message marks the one it acknowledges or rejects, and no other. -/
theorem empty_messages_mark (startingMid : ℕ) (events : List Timed)
    (undisturbed : ∀ pre now message post m,
      events = pre ++ (now, Event.receiveEmpty message) :: post →
      m ∈ (run (step ipv6) (Node.new startingMid) pre).awaited → answers message m = true →
      Undisturbed ipv6 (Node.new startingMid) pre m) : EachMarked ipv6 startingMid events := by
  intro pre now message post m hsplit hawaited hanswers
  have hundisturbed := undisturbed pre now message post m hsplit hawaited hanswers
  obtain ⟨before, sentAt, rng, after, hpre, hsent, hown, hspares⟩ := hundisturbed.since
  have hapart := run_apart ipv6 startingMid (before ++ [(sentAt, .sendResponse rng m.tid)])
  have hwaiting := sent_waiting m (run (step ipv6) (Node.new startingMid) before) rng hsent hown
  rw [run_concat] at hapart
  have hfinal := run_waiting ipv6 m _ after hwaiting hapart fun q e q' hq => by
    have hspared := hspares q e q' hq
    rw [run_append, run_cons] at hspared
    exact hspared
  have hstate : run (step ipv6) (Node.new startingMid) pre = run (step ipv6)
      (sending (sendResponse (run (step ipv6) (Node.new startingMid) before) rng m.tid)) after := by
    rw [hpre, run_append, run_cons]
    rfl
  rw [run_concat]
  refine waiting_marks ipv6 m _ now message ?_ hundisturbed.side hundisturbed.ready hanswers
  rw [hstate]
  exact hfinal

end Runs

def sampleAck (peer : Address) (mid : ℤ) : Message :=
  { Message.new .message with
    type := some .ACK
    mid := some mid
    code := some Codes.empty
    source := some peer }

def sampleReply : Message :=
  { Message.new .response with
    code := some Codes.content
    destination := some sampleClient }

/-- A request is acknowledged and then answered by a message of its own, which is acknowledged. -/
def sampleSeparate : List Timed :=
  [(0, .receiveRequest (sampleGet .CON 500)), (1, .touch 0 acknowledgeRequest),
    (2, .respond 0 sampleReply), (3, .sendResponse [] 0),
    (4, .receiveEmpty (sampleAck sampleClient 1))]

theorem empty_messages_mark_sample : EachMarked (fun _ => false) 1 sampleSeparate := by
  refine empty_messages_mark (fun _ => false) 1 sampleSeparate ?_
  intro pre now message post m hsplit hawaited _
  have hlength := congrArg List.length hsplit
  simp only [sampleSeparate, List.length_append, List.length_cons, List.length_nil] at hlength
  rcases pre with _ | ⟨e₁, _ | ⟨e₂, _ | ⟨e₃, _ | ⟨e₄, _ | ⟨e₅, pre⟩⟩⟩⟩⟩
  · cases hsplit
  · cases hsplit
  · cases hsplit
  · cases hsplit
  · cases hsplit
    have hone : (run (step fun _ => false) (Node.new 1) (sampleSeparate.take 4)).awaited =
        [⟨.response, 0, 1, sampleClient, 1⟩] := by decide +kernel
    have hm : m = ⟨.response, 0, 1, sampleClient, 1⟩ := by
      rw [← List.mem_singleton, ← hone]
      exact hawaited
    subst hm
    refine ⟨rfl, ⟨sampleSeparate.take 3, 3, [], [], rfl, by decide +kernel, by decide +kernel, ?_⟩,
      by decide +kernel⟩
    intro pre e post hnil
    exact absurd hnil (by simp)
  · simp only [List.length_cons] at hlength
    omega

def sampleOwn : List Timed :=
  [(0, .sendRequest [] { Message.new .request with
      code := some Codes.get, destination := some sampleClient }),
    (1, .receiveEmpty (sampleAck sampleClient 1))]

/-- The acknowledgement of a request is not paired with it. -/
theorem own_request_not_acknowledged : ¬ EachMarked (fun _ => false) 1 sampleOwn := by
  intro h
  have hmarks := h [(0, .sendRequest [] { Message.new .request with
      code := some Codes.get, destination := some sampleClient })] 1 (sampleAck sampleClient 1) []
    ⟨.request, 0, 0, sampleClient, 1⟩ rfl (by decide +kernel) (by decide +kernel)
  have hflags : flags (run (step fun _ => false) (Node.new 1) sampleOwn) 0 .request =
      some (false, false) := by decide +kernel
  have hmarked := hmarks.marked
  change flags (run (step fun _ => false) (Node.new 1) sampleOwn) 0 .request = _ at hmarked
  rw [hflags] at hmarked
  exact absurd hmarked (by decide)

end BubotCoap.Acknowledgements
