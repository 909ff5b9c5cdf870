import BubotCoap.ExchangeKeys
import BubotCoap.ExchangeTables

set_option autoImplicit false

namespace BubotCoap.ExchangeIsolation
open PythonData Utils Messages OrderedDict Transactions FallibleState ExchangeKeys ExchangeTables
open FallibleState.Action (Commutes commutes_zoom)

/-- The connections of a TCP endpoint, by number. -/
abbrev Pool := Dict Key ℕ

def poolKey (address : Address) : Key := strAppendHash [.str address.1, .int address.2]

def connectionMade (address : Address) (connection : ℕ) : Action PyErr Pool Unit :=
  Action.modify fun pool => pool.insert (poolKey address) connection

def connectionLost (address : Address) : Action PyErr Pool Unit :=
  Action.modify fun pool => pool.erase (poolKey address)

/-- The connection over which `TcpCoapEndpoint.send` sends. -/
def send (address : Address) : Action PyErr Pool ℕ := fun pool =>
  match pool.get? (poolKey address) with
  | none => (.error .keyError, pool)
  | some connection => (.ok connection, pool)

/-- The tables of a node that are indexed by keys of exchanges, with the transactions. -/
structure Exchanges where
  message : MessageLayer.State
  block : BlockLayer.State
  relations : ObserveLayer.Relations
  pool : Pool

section Layers
variable {α : Type}

def onMessage (x : Action PyErr MessageLayer.State α) : Action PyErr Exchanges α :=
  Action.zoom Exchanges.message (fun m s => { s with message := m }) id x

def onBlockState (x : Action PyErr BlockLayer.State α) : Action PyErr Exchanges α :=
  Action.zoom Exchanges.block (fun b s => { s with block := b }) id x

def onRelations (x : Action PyErr ObserveLayer.Relations α) : Action PyErr Exchanges α :=
  Action.zoom Exchanges.relations (fun o s => { s with relations := o }) id x

def onPool (x : Action PyErr Pool α) : Action PyErr Exchanges α :=
  Action.zoom Exchanges.pool (fun c s => { s with pool := c }) id x

def Exchanges.transaction (s : Exchanges) (tid : ℕ) : Transaction := s.message.heap.cell tid

def Exchanges.withHeap (s : Exchanges) (heap : Heap) : Exchanges :=
  { s with message := { s.message with heap := heap } }

variable (tid : ℕ)

def onBlock (x : Action PyErr (BlockLayer.State × Transaction) α) : Action PyErr Exchanges α :=
  Action.zoom (fun s => (s.block, s.transaction tid))
    (fun q s => { s with block := q.1 }.withHeap (s.message.heap.set tid q.2)) id x

def onObserve (x : Action PyErr (ObserveLayer.Relations × Transaction) α) :
    Action PyErr Exchanges α :=
  Action.zoom (fun s => (s.relations, s.transaction tid))
    (fun q s => { s with relations := q.1 }.withHeap (s.message.heap.set tid q.2)) id x

def onHeap (x : Action PyErr (ObserveLayer.Relations × Heap) α) : Action PyErr Exchanges α :=
  Action.zoom (fun s => (s.relations, s.message.heap))
    (fun q s => { s with relations := q.1 }.withHeap q.2) id x

end Layers

/-- The operations of the layers that look for an exchange. -/
inductive Operation where
  | receiveRequest (now : ℚ) (request : Message)
  | receiveResponse (response : Message)
  | receiveEmpty (ipv6 : Text → Bool) (message : Message)
  | sendRequest (now : ℚ) (rng : Bytes) (request : Message)
  | sendResponse (rng : Bytes) (tid : ℕ)
  | sendEmpty (rng : Bytes) (message : Message)
  | blockReceiveRequest (rng : Bytes) (tid : ℕ)
  | blockReceiveResponse (rng : Bytes) (tid : ℕ)
  | blockSendRequest (request : Message)
  | blockSendResponse (tid : ℕ)
  | observeReceiveRequest (now : ℚ) (tid : ℕ) (request : Message)
  | observeReceiveResponse (tid : ℕ)
  | observeReceiveEmpty (empty : Message) (tid : ℕ)
  | observeSendRequest (now : ℚ) (request : Message)
  | observeSendResponse (now : ℚ) (tid : ℕ) (counter : Option ℕ)
  | observeSendEmpty (message : Message)
  | removeSubscriber (message : Message)
  | connectionMade (address : Address) (connection : ℕ)
  | connectionLost (address : Address)
  | send (address : Address)

namespace Operation

/-- What an operation returns. -/
def Returned : Operation → Type
  | .receiveRequest _ _ | .sendRequest _ _ _ | .send _ => ℕ
  | .receiveResponse _ => Option ℕ × Bool
  | .receiveEmpty _ _ | .sendResponse _ _ => Option ℕ
  | .sendEmpty _ _ | .blockSendRequest _ => Message
  | .blockReceiveResponse _ _ => Bool
  | _ => Unit

def run : (op : Operation) → Action PyErr Exchanges op.Returned
  | .receiveRequest now request => onMessage (MessageLayer.receiveRequest now request)
  | .receiveResponse response => onMessage (MessagePairing.receiveResponse response)
  | .receiveEmpty ipv6 message => onMessage (MessagePairing.receiveEmpty ipv6 message)
  | .sendRequest now rng request => onMessage (MessagePairing.sendRequest now rng request)
  | .sendResponse rng tid => onMessage (MessageLayer.sendResponse rng tid)
  | .sendEmpty rng message => onMessage (Client.sendEmpty rng message)
  | .blockReceiveRequest rng tid => onBlock tid (BlockLayer.receiveRequest rng)
  | .blockReceiveResponse rng tid => onBlock tid (BlockLayer.receiveResponse rng)
  | .blockSendRequest request => onBlockState (BlockLayer.sendRequest request)
  | .blockSendResponse tid => onBlock tid BlockLayer.sendResponse
  | .observeReceiveRequest now tid request =>
    onRelations (ObserveLayer.receiveRequest now tid request)
  | .observeReceiveResponse tid => onObserve tid ObserveLayer.receiveResponse
  | .observeReceiveEmpty empty tid => onObserve tid (ObserveLayer.receiveEmpty empty)
  | .observeSendRequest now request => onRelations (ObserveLayer.sendRequest now request)
  | .observeSendResponse now tid counter =>
    onObserve tid (ObserveLayer.sendResponse now tid counter)
  | .observeSendEmpty message => onRelations (ObserveLayer.sendEmpty message)
  | .removeSubscriber message => onHeap (ObserveLayer.removeSubscriber message)
  | .connectionMade address connection => onPool (ExchangeIsolation.connectionMade address connection)
  | .connectionLost address => onPool (ExchangeIsolation.connectionLost address)
  | .send address => onPool (ExchangeIsolation.send address)

/-- The endpoint to which an operation belongs: the sender of a received message, or the receiver of
one that is sent. -/
def peer (s : Exchanges) : Operation → Option Address
  | .receiveRequest _ request => request.source
  | .receiveResponse response => response.source
  | .receiveEmpty _ message => message.source
  | .sendRequest _ _ request => request.destination
  | .sendResponse _ tid => (s.transaction tid).response.bind Message.destination
  | .sendEmpty _ message => message.destination
  | .blockReceiveRequest _ tid => (s.transaction tid).request.source
  | .blockReceiveResponse _ tid => (s.transaction tid).response.bind Message.source
  | .blockSendRequest request => request.destination
  | .blockSendResponse tid => (s.transaction tid).request.source
  | .observeReceiveRequest _ _ request => request.source
  | .observeReceiveResponse tid => (s.transaction tid).response.bind Message.source
  | .observeReceiveEmpty _ tid => (s.transaction tid).request.source
  | .observeSendRequest _ request => request.destination
  | .observeSendResponse _ tid _ => (s.transaction tid).request.source
  | .observeSendEmpty message => message.destination
  | .removeSubscriber message => message.destination
  | .connectionMade address _ => some address
  | .connectionLost address => some address
  | .send address => some address

def messageIds (m : Message) : List HashArg := [midArg m.mid, tokenArg m.token]

/-- The message ids and tokens an operation works with. -/
def ids (s : Exchanges) : Operation → List HashArg
  | .receiveRequest _ request => messageIds request
  | .receiveResponse response => messageIds response
  | .receiveEmpty _ message => messageIds message
  | .sendRequest _ rng request => sentIds s.message rng request
  | .sendResponse _ _ => [.int s.message.currentMid]
  | .sendEmpty _ message => messageIds message
  | .blockReceiveRequest _ tid => [tokenArg (s.transaction tid).request.token]
  | .blockReceiveResponse _ tid =>
    ((s.transaction tid).response.map fun response => tokenArg response.token).toList
  | .blockSendRequest request => [tokenArg request.token]
  | .blockSendResponse tid => [tokenArg (s.transaction tid).request.token]
  | .observeReceiveRequest _ _ request => [tokenArg request.token]
  | .observeReceiveResponse tid =>
    ((s.transaction tid).response.map fun response => tokenArg response.token).toList
  | .observeReceiveEmpty _ tid => [tokenArg (s.transaction tid).request.token]
  | .observeSendRequest _ request => [tokenArg request.token]
  | .observeSendResponse _ tid _ => [tokenArg (s.transaction tid).request.token]
  | .observeSendEmpty message => [tokenArg message.token]
  | .removeSubscriber message => [tokenArg message.token]
  | .connectionMade _ _ => [.other]
  | .connectionLost _ => [.other]
  | .send _ => [.other]

/-- The keys under which an operation looks if there is nothing under those of the endpoint: those at
the address where a response arrived, and those of the group for an empty message. -/
def further : Operation → List Key
  | .receiveResponse response =>
    (response.destination.map fun own => key own (tokenArg response.token)).toList
  | .receiveEmpty ipv6 message =>
    (message.source.map fun address =>
      (messageIds message).map (key (group ipv6 address))).getD []
  | _ => []

theorem further_receiveResponse (response : Message) (a : Address)
    (h : response.destination = some a) :
    (receiveResponse response).further = [key a (tokenArg response.token)] := by
  change (response.destination.map fun own => key own (tokenArg response.token)).toList = _
  rw [h]
  rfl

theorem further_receiveEmpty (ipv6 : Text → Bool) (message : Message) (e : Address)
    (h : message.source = some e) :
    (receiveEmpty ipv6 message).further = (messageIds message).map (key (group ipv6 e)) := by
  change (message.source.map fun address =>
    (messageIds message).map (key (group ipv6 address))).getD [] = _
  rw [h]
  rfl

def arrivedAt : Operation → Option Address
  | .receiveResponse response => response.destination
  | _ => none

def multicast : Operation → Bool
  | .receiveRequest _ request => request.multicast
  | .sendRequest _ _ request => request.multicast
  | _ => false

end Operation

section Keys
variable (p : Key → Bool)

/-- The entries of all tables under the keys `p`. -/
def Exchanges.keep (s : Exchanges) : Exchanges where
  message := keepMessage p s.message
  block := keepBlock p s.block
  relations := s.relations.keep p
  pool := s.pool.keep p

variable (s : Exchanges) {α : Type}

theorem commutes_onMessage (x : Action PyErr MessageLayer.State α)
    (h : Commutes (keepMessage p) x s.message) : Commutes (Exchanges.keep p) (onMessage x) s :=
  commutes_zoom _ _ _ _ _ x s rfl (fun _ => rfl) h

theorem commutes_onBlockState (x : Action PyErr BlockLayer.State α)
    (h : Commutes (keepBlock p) x s.block) : Commutes (Exchanges.keep p) (onBlockState x) s :=
  commutes_zoom _ _ _ _ _ x s rfl (fun _ => rfl) h

theorem commutes_onRelations (x : Action PyErr ObserveLayer.Relations α)
    (h : Commutes (Dict.keep · p) x s.relations) :
    Commutes (Exchanges.keep p) (onRelations x) s :=
  commutes_zoom _ _ _ _ _ x s rfl (fun _ => rfl) h

theorem commutes_onPool (x : Action PyErr Pool α) (h : Commutes (Dict.keep · p) x s.pool) :
    Commutes (Exchanges.keep p) (onPool x) s :=
  commutes_zoom _ _ _ _ _ x s rfl (fun _ => rfl) h

theorem commutes_onBlock (tid : ℕ) (x : Action PyErr (BlockLayer.State × Transaction) α)
    (h : CommutesBlock p x s.block (s.transaction tid)) :
    Commutes (Exchanges.keep p) (onBlock tid x) s :=
  commutes_zoom _ _ _ _ _ x s rfl (fun _ => rfl) h

theorem commutes_onObserve (tid : ℕ) (x : Action PyErr (ObserveLayer.Relations × Transaction) α)
    (h : CommutesObserve p x s.relations (s.transaction tid)) :
    Commutes (Exchanges.keep p) (onObserve tid x) s :=
  commutes_zoom _ _ _ _ _ x s rfl (fun _ => rfl) h

theorem commutes_onHeap (x : Action PyErr (ObserveLayer.Relations × Heap) α)
    (h : Commutes (Prod.map (Dict.keep · p) id) x (s.relations, s.message.heap)) :
    Commutes (Exchanges.keep p) (onHeap x) s :=
  commutes_zoom _ _ _ _ _ x s rfl (fun _ => rfl) h

section Ids
variable (Q : Key → Prop) (e : Address)

theorem forall_messageIds (m : Message) (h : ∀ id ∈ Operation.messageIds m, Q (key e id)) :
    Q (key e (midArg m.mid)) ∧ Q (key e (tokenArg m.token)) :=
  ⟨h _ List.mem_cons_self, h _ (List.mem_cons_of_mem _ List.mem_cons_self)⟩

theorem forall_poolKey (h : ∀ id ∈ [HashArg.other], Q (key e id)) : Q (poolKey e) := by
  have hkey : poolKey e = key e .other := by simp [poolKey, key, strAppendHash, renderArg]
  rw [hkey]
  exact h _ (List.mem_singleton_self _)

section Peer
variable (address : Option Address) (hpeer : address = some e) (id : HashArg)
  (h : ∀ id' ∈ [id], Q (key e id'))
include hpeer h

theorem forall_peer (a : Address) (ha : address = some a) : Q (key a id) := by
  cases hpeer.symm.trans ha
  exact h _ (List.mem_singleton_self _)

theorem forall_peerKey (k : Key) (hk : address.map (fun a => key a id) = some k) : Q k := by
  obtain ⟨a, ha, rfl⟩ := Option.map_eq_some_iff.mp hk
  exact forall_peer Q e address hpeer id h a ha

end Peer

section Response
variable (t : Transaction) (address : Message → Option Address)
  (hpeer : t.response.bind address = some e)
include hpeer

theorem response_peer (response : Message) (hresponse : t.response = some response) :
    address response = some e := by
  rwa [hresponse, Option.bind_some] at hpeer

theorem forall_response
    (h : ∀ id ∈ (t.response.map fun response => tokenArg response.token).toList, Q (key e id))
    (response : Message) (hresponse : t.response = some response) (a : Address)
    (ha : address response = some a) : Q (key a (tokenArg response.token)) := by
  rw [hresponse] at h
  exact forall_peer Q e _ (response_peer e t address hpeer response hresponse) _ h a ha

theorem forall_responseKey
    (h : ∀ id ∈ (t.response.map fun response => tokenArg response.token).toList, Q (key e id))
    (k : Key) (hk : (t.response.bind fun response =>
      (address response).map fun a => key a (tokenArg response.token)) = some k) : Q k := by
  obtain ⟨response, hresponse, hk⟩ := Option.bind_eq_some_iff.mp hk
  obtain ⟨a, ha, rfl⟩ := Option.map_eq_some_iff.mp hk
  exact forall_response Q e t address hpeer h response hresponse a ha

end Response

end Ids

/-- Where a unicast operation looks all entries are kept: it does the same with the others gone. -/
theorem commutes_run (op : Operation) (e : Address) (hunicast : op.multicast = false)
    (hpeer : op.peer s = some e) (hids : ∀ id ∈ op.ids s, p (key e id) = true)
    (hfurther : ∀ k ∈ op.further, p k = true) :
    Commutes (Exchanges.keep p) op.run s := by
  cases op with
  | receiveRequest now request =>
    obtain ⟨hmid, htoken⟩ := forall_messageIds (p · = true) e request hids
    refine commutes_onMessage p s _ (receiveRequest_commutes p s.message now request e hpeer ?_ ?_)
    · unfold MessageLayer.keyMid
      rw [show request.multicast = false from hunicast]
      exact hmid
    · unfold MessageLayer.keyToken
      rw [show request.multicast = false from hunicast]
      exact htoken
  | receiveResponse response =>
    obtain ⟨hmid, htoken⟩ := forall_messageIds (p · = true) e response hids
    refine commutes_onMessage p s _ ?_
    cases hdestination : response.destination with
    | none =>
      unfold Commutes MessagePairing.receiveResponse
      rw [show response.source = some e from hpeer, hdestination]
      rfl
    | some destination =>
      have hown : key destination (tokenArg response.token) ∈
          (Operation.receiveResponse response).further := by
        rw [Operation.further_receiveResponse response destination hdestination]
        exact List.mem_singleton_self _
      exact receiveResponse_commutes p s.message response e destination hpeer hdestination hmid
        htoken (hfurther _ hown)
  | receiveEmpty ipv6 message =>
    obtain ⟨hmid, htoken⟩ := forall_messageIds (p · = true) e message hids
    rw [Operation.further_receiveEmpty ipv6 message e hpeer] at hfurther
    have hfound := forall_messageIds (p · = true) (group ipv6 e) message fun id hid =>
      hfurther _ (List.mem_map_of_mem hid)
    exact commutes_onMessage p s _ (receiveEmpty_commutes p s.message ipv6 message e hpeer hmid
      htoken hfound.1 hfound.2)
  | sendRequest now rng request =>
    exact commutes_onMessage p s _
      (sendRequest_commutes p s.message now rng request e hunicast hpeer hids)
  | sendResponse rng tid =>
    refine commutes_onMessage p s _ (sendResponse_commutes p s.message rng tid ?_)
    intro response address hresponse hdestination
    exact forall_peer (p · = true) e response.destination
      (response_peer e (s.transaction tid) Message.destination hpeer response hresponse) _ hids
      address hdestination
  | sendEmpty rng message =>
    obtain ⟨hmid, htoken⟩ := forall_messageIds (p · = true) e message hids
    exact commutes_onMessage p s _ (sendEmpty_commutes p s.message rng message e hpeer hmid htoken)
  | blockReceiveRequest rng tid =>
    exact commutes_onBlock p s tid _ (receiveBlockRequest_commutes p rng s.block _
      (forall_peerKey (p · = true) e _ hpeer _ hids))
  | blockReceiveResponse rng tid =>
    exact commutes_onBlock p s tid _ (receiveBlockResponse_commutes p rng s.block _
      (forall_responseKey (p · = true) e _ Message.source hpeer hids))
  | blockSendRequest request =>
    exact commutes_onBlockState p s _ (sendBlockRequest_commutes p s.block request
      (forall_peerKey (p · = true) e _ hpeer _ hids))
  | blockSendResponse tid =>
    exact commutes_onBlock p s tid _ (sendBlockResponse_commutes p s.block _
      (forall_peerKey (p · = true) e _ hpeer _ hids))
  | observeReceiveRequest now tid request =>
    exact commutes_onRelations p s _ (observeReceiveRequest_commutes p s.relations now tid request
      (forall_peer (p · = true) e _ hpeer _ hids))
  | observeReceiveResponse tid =>
    exact commutes_onObserve p s tid _ (observeReceiveResponse_commutes p s.relations _
      fun response address hresponse hsource =>
        forall_response (p · = true) e _ Message.source hpeer hids response hresponse address hsource)
  | observeReceiveEmpty empty tid =>
    exact commutes_onObserve p s tid _ (observeReceiveEmpty_commutes p s.relations _ empty)
  | observeSendRequest now request =>
    exact commutes_onRelations p s _ (observeSendRequest_commutes p s.relations now request
      (forall_peer (p · = true) e _ hpeer _ hids))
  | observeSendResponse now tid counter =>
    exact commutes_onObserve p s tid _ (observeSendResponse_commutes p s.relations _ now tid counter
      (forall_peer (p · = true) e _ hpeer _ hids))
  | observeSendEmpty message =>
    exact commutes_onRelations p s _ (observeSendEmpty_commutes p s.relations message)
  | removeSubscriber message =>
    exact commutes_onHeap p s _ (removeSubscriber_commutes p s.relations message s.message.heap
      (forall_peer (p · = true) e _ hpeer _ hids))
  | connectionMade address connection =>
    cases (hpeer : some address = some e)
    have hk := forall_poolKey (p · = true) e hids
    exact commutes_onPool p s _ (Action.commutes_modify _ _ _ (Dict.keep_insert _ p _ connection hk))
  | connectionLost address =>
    exact commutes_onPool p s _ (Action.commutes_modify _ _ _ (Dict.keep_erase _ p _))
  | send address =>
    cases (hpeer : some address = some e)
    have hk := forall_poolKey (p · = true) e hids
    refine commutes_onPool p s _ ?_
    unfold Commutes ExchangeIsolation.send
    rw [Dict.get?_keep_of_true _ p _ hk]
    split <;> rfl

end Keys

section Frames
variable (k : Key)

/-- What all the tables hold under one key. -/
structure Entries where
  message : List (Option ℕ)
  block : BlockLayer.Entries
  relation : Option ObserveLayer.ObserveItem
  connection : Option ℕ

def Exchanges.under (s : Exchanges) : Entries where
  message := underMessage k s.message
  block := s.block.under k
  relation := s.relations.get? k
  connection := s.pool.get? k

variable (s : Exchanges) {α : Type}

theorem under_onMessage (x : Action PyErr MessageLayer.State α)
    (h : underMessage k (x s.message).2 = underMessage k s.message) :
    (onMessage x s).2.under k = s.under k :=
  congrArg (fun entries => { s.under k with message := entries }) h

theorem under_onBlockState (x : Action PyErr BlockLayer.State α)
    (h : (x s.block).2.under k = s.block.under k) : (onBlockState x s).2.under k = s.under k :=
  congrArg (fun entries => { s.under k with block := entries }) h

theorem under_onRelations (x : Action PyErr ObserveLayer.Relations α)
    (h : (x s.relations).2.get? k = s.relations.get? k) :
    (onRelations x s).2.under k = s.under k :=
  congrArg (fun item => { s.under k with relation := item }) h

theorem under_onPool (x : Action PyErr Pool α) (h : (x s.pool).2.get? k = s.pool.get? k) :
    (onPool x s).2.under k = s.under k :=
  congrArg (fun connection => { s.under k with connection := connection }) h

theorem under_onBlock (tid : ℕ) (x : Action PyErr (BlockLayer.State × Transaction) α)
    (h : (x (s.block, s.transaction tid)).2.1.under k = s.block.under k) :
    (onBlock tid x s).2.under k = s.under k :=
  congrArg (fun entries => { s.under k with block := entries }) h

theorem under_onObserve (tid : ℕ) (x : Action PyErr (ObserveLayer.Relations × Transaction) α)
    (h : (x (s.relations, s.transaction tid)).2.1.get? k = s.relations.get? k) :
    (onObserve tid x s).2.under k = s.under k :=
  congrArg (fun item => { s.under k with relation := item }) h

theorem under_onHeap (x : Action PyErr (ObserveLayer.Relations × Heap) α)
    (h : (x (s.relations, s.message.heap)).2.1.get? k = s.relations.get? k) :
    (onHeap x s).2.under k = s.under k :=
  congrArg (fun item => { s.under k with relation := item }) h

theorem under_run (op : Operation) (e : Address) (hunicast : op.multicast = false)
    (hpeer : op.peer s = some e) (hids : ∀ id ∈ op.ids s, k ≠ key e id) :
    (op.run s).2.under k = s.under k := by
  cases op with
  | receiveRequest now request =>
    obtain ⟨hmid, htoken⟩ := forall_messageIds (k ≠ ·) e request hids
    refine under_onMessage k s _ (under_receiveRequest s.message k now request e hpeer ?_ ?_)
    · unfold MessageLayer.keyMid
      rw [show request.multicast = false from hunicast]
      exact hmid
    · unfold MessageLayer.keyToken
      rw [show request.multicast = false from hunicast]
      exact htoken
  | receiveResponse response =>
    exact under_onMessage k s _ (under_receiveResponse s.message k response)
  | receiveEmpty ipv6 message =>
    exact under_onMessage k s _ (under_receiveEmpty s.message k ipv6 message)
  | sendRequest now rng request =>
    exact under_onMessage k s _
      (under_sendRequest s.message k now rng request e hunicast hpeer hids)
  | sendResponse rng tid =>
    refine under_onMessage k s _ (under_sendResponse s.message k rng tid ?_)
    intro response address hresponse hdestination
    exact forall_peer (k ≠ ·) e response.destination
      (response_peer e (s.transaction tid) Message.destination hpeer response hresponse) _ hids
      address hdestination
  | sendEmpty rng message => exact under_onMessage k s _ (under_sendEmpty s.message k rng message)
  | blockReceiveRequest rng tid =>
    exact under_onBlock k s tid _ (BlockFrames.under_receiveRequest rng s.block _ k
      fun hk => forall_peerKey (k ≠ ·) e _ hpeer _ hids k hk rfl)
  | blockReceiveResponse rng tid =>
    exact under_onBlock k s tid _ (BlockFrames.under_receiveResponse rng s.block _ k
      fun hk => forall_responseKey (k ≠ ·) e _ Message.source hpeer hids k hk rfl)
  | blockSendRequest request =>
    exact under_onBlockState k s _ (BlockFrames.under_sendRequest request s.block k
      fun hk => forall_peerKey (k ≠ ·) e _ hpeer _ hids k hk rfl)
  | blockSendResponse tid =>
    exact under_onBlock k s tid _ (BlockFrames.under_sendResponse s.block _ k
      fun hk => forall_peerKey (k ≠ ·) e _ hpeer _ hids k hk rfl)
  | observeReceiveRequest now tid request =>
    exact under_onRelations k s _ (get?_observeReceiveRequest s.relations k now tid request
      (forall_peer (k ≠ ·) e _ hpeer _ hids))
  | observeReceiveResponse tid =>
    exact under_onObserve k s tid _
      (congrArg (Dict.get? · k) (observeReceiveResponse_same s.relations _))
  | observeReceiveEmpty empty tid =>
    exact under_onObserve k s tid _ (get?_observeReceiveEmpty s.relations _ k empty
      (forall_peer (k ≠ ·) e _ hpeer _ hids))
  | observeSendRequest now request =>
    exact under_onRelations k s _ (get?_observeSendRequest s.relations k now request
      (forall_peer (k ≠ ·) e _ hpeer _ hids))
  | observeSendResponse now tid counter =>
    exact under_onObserve k s tid _ (get?_observeSendResponse s.relations _ k now tid counter
      (forall_peer (k ≠ ·) e _ hpeer _ hids))
  | observeSendEmpty message =>
    exact under_onRelations k s _ (get?_observeSendEmpty s.relations k message
      (forall_peer (k ≠ ·) e _ hpeer _ hids))
  | removeSubscriber message =>
    exact under_onHeap k s _ (get?_removeSubscriber s.relations k message s.message.heap
      (forall_peer (k ≠ ·) e _ hpeer _ hids))
  | connectionMade address connection =>
    cases (hpeer : some address = some e)
    exact under_onPool k s _ (Dict.get?_insert_of_ne _ _ (forall_poolKey (k ≠ ·) e hids))
  | connectionLost address =>
    cases (hpeer : some address = some e)
    exact under_onPool k s _ (Dict.get?_erase_of_ne _ (forall_poolKey (k ≠ ·) e hids))
  | send address =>
    refine under_onPool k s _ ?_
    unfold ExchangeIsolation.send
    split <;> rfl

end Frames

section Isolation
variable (multicasts : Bool) (own : Address → Prop)

/-- The operation belongs to an exchange of a node, which has the addresses `own`, with the endpoint,
under valid ids. Requests to groups are among them only if `multicasts` is set. -/
structure Operation.Serves (op : Operation) (s : Exchanges) (e : Address) : Prop where
  casts : op.multicast = true → multicasts = true
  peer : op.peer s = some e
  ids : ∀ id ∈ op.ids s, ValidId id
  arrived : ∀ a, op.arrivedAt = some a → own a

/-- In some state an operation for the endpoint makes, changes or removes an entry under the key. -/
def Made (e : Address) (k : Key) : Prop :=
  ∃ (op : Operation) (s : Exchanges),
    op.Serves multicasts own s e ∧ (op.run s).2.under k ≠ s.under k

/-- No key of one endpoint is a key of the other, and whichever entries made for `e₁` are gone, an
operation for `e₂` returns and leaves what it would with them. -/
structure Isolated (e₁ e₂ : Address) : Prop where
  keys : ∀ id₁ id₂, ValidId id₁ → ValidId id₂ → key e₁ id₁ ≠ key e₂ id₂
  unmatched : ∀ (op : Operation) (s : Exchanges) (left : Key → Bool),
    op.Serves multicasts own s e₂ → (∀ k, left k = false → Made multicasts own e₁ k) →
    op.run (s.keep left) = ((op.run s).1, (op.run s).2.keep left)

end Isolation

/-- A key of the endpoint is that of a token at the other address. -/
def SharesToken (e a : Address) : Prop :=
  ∃ id token, ValidId id ∧ ValidId (tokenArg token) ∧ key e id = key a (tokenArg token)

/-- Nothing that is looked for in an exchange with `e₂` has a key of `e₁`: the texts do not overlap,
nor that of `e₁` with the group's at the port of `e₂`, and at the node's own addresses no token has
such a key. -/
structure Apart (own : Address → Prop) (e₁ e₂ : Address) : Prop where
  texts : ¬ Overlap e₁ e₂
  groups : ∀ ipv6, ¬ Overlap e₁ (group ipv6 e₂)
  own : ∀ a, own a → ¬ SharesToken e₁ a

section Sufficient
variable (own : Address → Prop)

theorem unicast_of_serves (op : Operation) (s : Exchanges) (e : Address)
    (h : op.Serves false own s e) : op.multicast = false := by
  by_contra hmulticast
  cases h.casts (Bool.eq_true_of_not_eq_false hmulticast)

theorem made_key (e : Address) (k : Key) (h : Made false own e k) :
    ∃ id, ValidId id ∧ k = key e id := by
  obtain ⟨op, s, hserves, hmade⟩ := h
  by_contra hno
  refine hmade (under_run k s op e (unicast_of_serves own op s e hserves) hserves.peer ?_)
  intro id hid heq
  exact hno ⟨id, hserves.ids id hid, heq⟩

/-- What is looked for besides the endpoint's own keys is not a key of an endpoint that is apart. -/
theorem further_ne (e₁ e₂ : Address) (h : Apart own e₁ e₂) (op : Operation) (s : Exchanges)
    (hserves : op.Serves false own s e₂) (id : HashArg) (hid : ValidId id) :
    key e₁ id ∉ op.further := by
  intro hmem
  cases op with
  | receiveResponse response =>
    obtain ⟨a, ha, hkey⟩ := Option.map_eq_some_iff.mp (Option.mem_toList.mp hmem)
    have htoken : ValidId (tokenArg response.token) :=
      hserves.ids _ (List.mem_cons_of_mem _ List.mem_cons_self)
    exact h.own a (hserves.arrived a ha) ⟨id, response.token, hid, htoken, hkey.symm⟩
  | receiveEmpty ipv6 message =>
    rw [Operation.further_receiveEmpty ipv6 message e₂ hserves.peer] at hmem
    obtain ⟨id', hid', hkey⟩ := List.mem_map.mp hmem
    exact h.groups ipv6 ((overlap_iff _ _).mpr
      ⟨id, id', hid, hserves.ids id' hid', hkey.symm⟩)
  | _ => cases hmem

theorem isolated_of_apart (e₁ e₂ : Address) (h : Apart own e₁ e₂) :
    Isolated false own e₁ e₂ := by
  refine ⟨fun id₁ id₂ h₁ h₂ heq => h.texts ((overlap_iff e₁ e₂).mpr ⟨id₁, id₂, h₁, h₂, heq⟩), ?_⟩
  intro op s left hserves hleft
  have hkept : ∀ k, (∀ id, ValidId id → k ≠ key e₁ id) → left k = true := by
    intro k hk
    by_contra hno
    obtain ⟨id, hid, heq⟩ := made_key own e₁ k (hleft k (Bool.eq_false_iff.mpr hno))
    exact hk id hid heq
  refine commutes_run left s op e₂ (unicast_of_serves own op s e₂ hserves) hserves.peer ?_ ?_
  · intro id hid
    refine hkept _ fun id₁ hid₁ heq => h.texts ((overlap_iff e₁ e₂).mpr ?_)
    exact ⟨id₁, id, hid₁, hserves.ids id hid, heq.symm⟩
  · intro k hk
    refine hkept k fun id hid heq => ?_
    rw [heq] at hk
    exact further_ne own e₁ e₂ h op s hserves id hid hk

end Sufficient

section Necessary
open MessageLayer MessagePairing

variable (multicasts : Bool) (own : Address → Prop) (e₁ e₂ : Address)

def emptyExchanges : Exchanges := ⟨State.new 0, BlockLayer.State.new, Dict.empty, Dict.empty⟩

def midOf : HashArg → Option ℤ
  | .int n => some n
  | _ => none

def tokenOf : HashArg → Option Bytes
  | .bytes b => some b
  | _ => none

theorem valid_ids (id : HashArg) (h : ValidId id) :
    ValidId (midArg (midOf id)) ∧ ValidId (tokenArg (tokenOf id)) ∧
      (id = midArg (midOf id) ∨ id = tokenArg (tokenOf id)) := by
  cases id with
  | str t => exact h.elim
  | int n => exact ⟨h, trivial, Or.inl rfl⟩
  | bytes b => exact ⟨trivial, h, Or.inr rfl⟩
  | other => exact ⟨trivial, trivial, Or.inl rfl⟩

theorem storeRequest_stored (request : Message) (address : Address) (s : MessageLayer.State) :
    (storeRequest request address s).2.transactionsToken.get? (keyToken request address) =
      some (storeRequest request address s).1 := by
  unfold storeRequest
  split
  · next tid hanswered =>
    unfold answered at hanswered
    split at hanswered
    · next tid' htid =>
      split_ifs at hanswered
      cases hanswered
      exact htid
    · cases hanswered
  · exact Dict.get?_insert_self _ _ _

def requestOf (e : Address) (id : HashArg) : Message := { Message.new .request with
  source := some e
  mid := midOf id
  token := tokenOf id }

theorem receiveRequest_first (e : Address) (id : HashArg) :
    (receiveRequest 0 (requestOf e id) (State.new 0)).2 =
      (storeRequest { requestOf e id with timestamp := some 0 } e (State.new 0)).2 := by
  have hduplicate : duplicateOf (requestOf e id) e (State.new 0) = none := by
    unfold duplicateOf
    rw [if_neg (show ¬ (requestOf e id).multicast = true from Bool.false_ne_true)]
    split
    · rfl
    · split <;> rfl
  have hsource : (requestOf e id).source = some e := rfl
  unfold receiveRequest
  split
  · next hnone =>
    cases hsource.symm.trans hnone
  · next address haddress =>
    cases hsource.symm.trans haddress
    rw [hduplicate]

/-- A first request is stored under its two keys. -/
theorem receiveRequest_stored (e : Address) (id : HashArg) :
    (receiveRequest 0 (requestOf e id) (State.new 0)).2.transactions.get?
        (key e (midArg (midOf id))) ≠ none ∧
      (receiveRequest 0 (requestOf e id) (State.new 0)).2.transactionsToken.get?
        (key e (tokenArg (tokenOf id))) ≠ none := by
  let stamped : Message := { requestOf e id with timestamp := some 0 }
  have hmid : keyMid stamped e = key e (midArg (midOf id)) := rfl
  have htoken : keyToken stamped e = key e (tokenArg (tokenOf id)) := rfl
  rw [receiveRequest_first, ← hmid, ← htoken, storeRequest_transactions, storeRequest_stored,
    Dict.get?_insert_self]
  exact ⟨Option.some_ne_none _, Option.some_ne_none _⟩

/-- Every key of an endpoint is made, by a first request under the id. -/
theorem made_of_valid (e : Address) (id : HashArg) (h : ValidId id) :
    Made multicasts own e (key e id) := by
  obtain ⟨hmid, htoken, hid⟩ := valid_ids id h
  refine ⟨.receiveRequest 0 (requestOf e id), emptyExchanges,
    ⟨fun h => absurd h Bool.false_ne_true, rfl, ?_, fun a ha => nomatch ha⟩, ?_⟩
  · intro id' hid'
    rcases List.mem_pair.mp hid' with rfl | rfl
    · exact hmid
    · exact htoken
  · intro hsame
    have htables : underMessage (key e id) (receiveRequest 0 (requestOf e id) (State.new 0)).2 =
        [none, none, none, none] := congrArg Entries.message hsame
    obtain ⟨hmids, htokens⟩ := receiveRequest_stored e id
    have hnone := List.cons.inj htables
    rcases hid with heq | heq
    · exact hmids (heq ▸ hnone.1)
    · exact htokens (heq ▸ (List.cons.inj hnone.2).1)

/-- The tables with one entry, for a transaction under the token. -/
def sole (k : Key) (token : Option Bytes) : Exchanges :=
  { emptyExchanges with message := { State.new 0 with
      heap := Heap.empty.set 0 (Transaction.new { Message.new .request with token := token } 0)
      transactions := Dict.empty.insert k 0
      transactionsToken := Dict.empty.insert k 0
      transactionsSentToken := Dict.empty.insert k 0 } }

theorem get?_gone (k k' : Key) :
    ((Dict.empty.insert k 0).keep fun k' => k' ≠ k).get? k' = (none : Option ℕ) := by
  rw [Dict.get?_keep]
  by_cases h : k' = k
  · rw [if_neg (by simp [h])]
  · rw [if_pos (by simp [h]), Dict.get?_insert_of_ne _ _ h, Dict.get?_empty]

def emptyOf (e : Address) (id : HashArg) : Message := { Message.new .message with
  source := some e
  mid := midOf id
  token := tokenOf id }

theorem onMessage_ok {α : Type} (x : Action PyErr State α) (s : Exchanges) (v : α)
    (h : (x s.message).1 = .ok v) : (onMessage x s).1 = .ok v := by
  unfold onMessage Action.zoom
  dsimp only
  rw [h]
  rfl

theorem run_receiveEmpty (ipv6 : Text → Bool) (e : Address) (id : HashArg) (s : Exchanges) :
    (onMessage (receiveEmpty ipv6 (emptyOf e id)) s).1 =
      .ok (matchEmpty ipv6 (emptyOf e id) e s.message) := by
  have hsource : (emptyOf e id).source = some e := rfl
  refine onMessage_ok _ s _ ?_
  unfold receiveEmpty
  split
  · next hnone => cases hsource.symm.trans hnone
  · next address haddress =>
    cases hsource.symm.trans haddress
    cases matchEmpty ipv6 (emptyOf e id) e s.message <;> rfl

variable {multicasts own e₁ e₂} in
/-- Without an entry made for the other endpoint an operation returns the same. -/
theorem Isolated.same (h : Isolated multicasts own e₁ e₂) (op : Operation) (s : Exchanges) (k : Key)
    (hserves : op.Serves multicasts own s e₂) (hmade : Made multicasts own e₁ k) :
    (op.run (s.keep fun k' => k' ≠ k)).1 = (op.run s).1 := by
  have hleft : ∀ k', decide (k' ≠ k) = false → Made multicasts own e₁ k' := by
    intro k' hk'
    rw [of_not_not (of_decide_eq_false hk')]
    exact hmade
  rw [h.unmatched op s _ hserves hleft]

theorem not_isolated_group (ipv6 : Text → Bool) (h : Overlap e₁ (group ipv6 e₂)) :
    ¬ Isolated multicasts own e₁ e₂ := by
  intro hisolated
  obtain ⟨id₁, id₂, hid₁, hid₂, heq⟩ := (overlap_iff _ _).mp h
  obtain ⟨hmid, htoken, hid⟩ := valid_ids id₂ hid₂
  have hserves : (Operation.receiveEmpty ipv6 (emptyOf e₂ id₂)).Serves multicasts own
      (sole (key e₁ id₁) none) e₂ := by
    refine ⟨fun h => absurd h Bool.false_ne_true, rfl, ?_, fun a ha => nomatch ha⟩
    intro id hid
    rcases List.mem_pair.mp hid with rfl | rfl
    · exact hmid
    · exact htoken
  have hrun := hisolated.same _ _ _ hserves (made_of_valid multicasts own e₁ id₁ hid₁)
  have hgone : matchEmpty ipv6 (emptyOf e₂ id₂) e₂
      ((sole (key e₁ id₁) none).keep fun k => k ≠ key e₁ id₁).message = none := by
    simp only [matchEmpty, Exchanges.keep, keepMessage, sole, get?_gone, Option.or_none]
  have hfound : matchEmpty ipv6 (emptyOf e₂ id₂) e₂ (sole (key e₁ id₁) none).message ≠ none := by
    intro hnone
    simp only [matchEmpty, Option.or_eq_none_iff] at hnone
    obtain ⟨-, -, hmids, htokens⟩ := hnone
    rcases hid with hid | hid
    · rw [hid] at heq
      rw [heq] at hmids
      cases (Dict.get?_insert_self _ _ _).symm.trans hmids
    · rw [hid] at heq
      rw [heq] at htokens
      cases (Dict.get?_insert_self _ _ _).symm.trans htokens
  have hsame := (run_receiveEmpty ipv6 e₂ id₂ _).symm.trans
    (hrun.trans (run_receiveEmpty ipv6 e₂ id₂ _))
  exact hfound ((Except.ok.inj hsame).symm.trans hgone)

/-- A response that has arrived at the address `a`. -/
def responseOf (e a : Address) (token : Option Bytes) : Message := { Message.new .response with
  source := some e
  destination := some a
  token := token }

theorem run_receiveResponse (e a : Address) (token : Option Bytes) (s : Exchanges) :
    (onMessage (receiveResponse (responseOf e a token)) s).1 =
      .ok (matchResponse (responseOf e a token) e a s.message, false) := by
  have hsource : (responseOf e a token).source = some e := rfl
  have hdestination : (responseOf e a token).destination = some a := rfl
  refine onMessage_ok _ s _ ?_
  unfold receiveResponse
  split
  · next hnone => cases hsource.symm.trans hnone
  · next address haddress =>
    cases hsource.symm.trans haddress
    split
    · next hnone => cases hdestination.symm.trans hnone
    · next destination hfound =>
      cases hdestination.symm.trans hfound
      cases matchResponse (responseOf e a token) e a s.message <;> rfl

/-- Where nothing is stored for a message id, the token is looked for at both addresses. -/
theorem matchResponse_eq (e a : Address) (token : Option Bytes) (s : State)
    (h : s.transactionsSent.get? (key e .other) = none) :
    matchResponse (responseOf e a token) e a s =
      (s.transactionsSentToken.get? (key e (tokenArg token))).or
        ((s.transactionsSentToken.get? (key a (tokenArg token))).filter
          fun tid => decide (token = (s.heap.cell tid).request.token)) := by
  unfold matchResponse
  rw [show key e (midArg (responseOf e a token).mid) = key e .other from rfl, h]
  unfold matchResponse.byToken
  rw [show (responseOf e a token).token = token from rfl]
  cases s.transactionsSentToken.get? (key e (tokenArg token)) <;> rfl

theorem not_isolated_own (a : Address) (ha : own a) (h : SharesToken e₁ a) :
    ¬ Isolated multicasts own e₁ e₂ := by
  intro hisolated
  obtain ⟨id, token, hid, htoken, heq⟩ := h
  have hserves : (Operation.receiveResponse (responseOf e₂ a token)).Serves multicasts own
      (sole (key e₁ id) token) e₂ := by
    refine ⟨fun h => absurd h Bool.false_ne_true, rfl, fun id' hid' => ?_, fun a' ha' => ?_⟩
    · rcases List.mem_pair.mp hid' with rfl | rfl
      · trivial
      · exact htoken
    · cases ha'
      exact ha
  have hrun := hisolated.same _ _ _ hserves (made_of_valid multicasts own e₁ id hid)
  have hgone : matchResponse (responseOf e₂ a token) e₂ a
      ((sole (key e₁ id) token).keep fun k => k ≠ key e₁ id).message = none := by
    rw [matchResponse_eq _ _ _ _ (by simp [Exchanges.keep, keepMessage, sole, Dict.get?_keep,
      State.new])]
    simp only [Exchanges.keep, keepMessage, sole, get?_gone, Option.none_or, Option.filter_none]
  have hfound : matchResponse (responseOf e₂ a token) e₂ a
      (sole (key e₁ id) token).message ≠ none := by
    have hown : (sole (key e₁ id) token).message.transactionsSentToken.get?
        (key a (tokenArg token)) = some 0 := by
      rw [← heq]
      exact Dict.get?_insert_self _ _ _
    have hsame : token = ((sole (key e₁ id) token).message.heap.cell 0).request.token := rfl
    rw [matchResponse_eq _ _ _ _ rfl, hown]
    intro hnone
    obtain ⟨-, hfilter⟩ := Option.or_eq_none_iff.mp hnone
    rw [Option.filter_eq_none_iff] at hfilter
    exact hfilter 0 rfl (decide_eq_true hsame)
  have hsame := (run_receiveResponse e₂ a token _).symm.trans
    (hrun.trans (run_receiveResponse e₂ a token _))
  exact hfound ((congrArg Prod.fst (Except.ok.inj hsame)).symm.trans hgone)

/-- A request that the endpoint has sent to a group. -/
def toGroup (token : Bytes) (e : Address) : Message := { Message.new .request with
  source := some e
  token := some token
  multicast := true }

/-- A multicast request is stored under its bare token, whoever sent it, so that copies of it from
several interfaces are dropped: one of another endpoint is taken for a copy as well. -/
theorem not_isolated_multicast : ¬ Isolated true own e₁ e₂ := by
  intro h
  have hserves : ∀ e s, (Operation.receiveRequest 0 (toGroup [7] e)).Serves true own s e := by
    intro e s
    refine ⟨fun _ => rfl, rfl, fun id hid => ?_, fun a ha => nomatch ha⟩
    rcases List.mem_pair.mp hid with rfl | rfl
    · trivial
    · exact Nat.le_add_left 1 255
  let s := ((Operation.receiveRequest 0 (toGroup [7] e₁)).run emptyExchanges).2
  have hmade : Made true own e₁ (.token (some [7])) := by
    refine ⟨_, emptyExchanges, hserves e₁ _, fun hsame => ?_⟩
    cases congrArg Entries.message hsame
  cases h.same _ s _ (hserves e₂ s) hmade

theorem apart_of_isolated (h : Isolated multicasts own e₁ e₂) :
    multicasts = false ∧ Apart own e₁ e₂ := by
  refine ⟨Bool.eq_false_iff.mpr ?_, ⟨fun hoverlap => ?_, ?_, ?_⟩⟩
  · rintro rfl
    exact not_isolated_multicast own e₁ e₂ h
  · obtain ⟨id₁, id₂, h₁, h₂, heq⟩ := (overlap_iff e₁ e₂).mp hoverlap
    exact h.keys id₁ id₂ h₁ h₂ heq
  · exact fun ipv6 hgroup => not_isolated_group multicasts own e₁ e₂ ipv6 hgroup h
  · exact fun a ha hshares => not_isolated_own multicasts own e₁ e₂ a ha hshares h

end Necessary

/-- Two endpoints share no key, nothing of the one is matched to an entry of the other, and each
keeps its own ids apart, exactly if no multicast requests are exchanged and each of them is apart
from what is looked for in an exchange with the other. -/
theorem isolated_iff (multicasts : Bool) (own : Address → Prop) (e₁ e₂ : Address) :
    (Isolated multicasts own e₁ e₂ ∧ Isolated multicasts own e₂ e₁ ∧
        Separated e₁ ∧ Separated e₂) ↔
      multicasts = false ∧ Apart own e₁ e₂ ∧ Apart own e₂ e₁ := by
  constructor
  · rintro ⟨h, h', -⟩
    obtain ⟨hunicast, hapart⟩ := apart_of_isolated multicasts own e₁ e₂ h
    exact ⟨hunicast, hapart, (apart_of_isolated multicasts own e₂ e₁ h').2⟩
  · rintro ⟨rfl, h, h'⟩
    exact ⟨isolated_of_apart own e₁ e₂ h, isolated_of_apart own e₂ e₁ h', separated e₁,
      separated e₂⟩

/-- Message 12 of port 5683 and message 2 of port 56831 have one key. -/
theorem not_isolated_ports :
    ("10.0.0.1".toList, 5683) ≠ ("10.0.0.1".toList, 56831) ∧ ValidId (.int 12) ∧ ValidId (.int 2) ∧
      key ("10.0.0.1".toList, 5683) (.int 12) = key ("10.0.0.1".toList, 56831) (.int 2) ∧
      ¬ Isolated false (fun a => a = ("10.0.0.9".toList, 5683)) ("10.0.0.1".toList, 5683)
        ("10.0.0.1".toList, 56831) := by
  have hkey : key ("10.0.0.1".toList, 5683) (.int 12) =
      key ("10.0.0.1".toList, 56831) (.int 2) := by decide +kernel
  have h₁ : ValidId (.int 12) := ⟨by omega, by omega⟩
  have h₂ : ValidId (.int 2) := ⟨by omega, by omega⟩
  exact ⟨by decide, h₁, h₂, hkey, fun h => h.keys _ _ h₁ h₂ hkey⟩

end BubotCoap.ExchangeIsolation
