import BubotCoap.BlockSteps
import BubotCoap.ExchangeKeys
import BubotCoap.MessageTables

set_option autoImplicit false

namespace BubotCoap.ClientLayers
open PythonData Defines Utils Messages OrderedDict Transactions MessageLayer MessagePairing
  MessageTables ExchangeKeys FallibleState

section Kinship

/-- What no step of an exchange changes in its request. -/
structure Kin (m m' : Message) : Prop where
  kind : m'.kind = m.kind
  token : m'.token = m.token
  destination : m'.destination = m.destination
  multicast : m'.multicast = m.multicast

theorem Kin.refl (m : Message) : Kin m m := ⟨rfl, rfl, rfl, rfl⟩

theorem Kin.symm (m m' : Message) (h : Kin m m') : Kin m' m :=
  ⟨h.kind.symm, h.token.symm, h.destination.symm, h.multicast.symm⟩

theorem Kin.trans (m m' m'' : Message) (h : Kin m m') (h' : Kin m' m'') : Kin m m'' :=
  ⟨h'.kind.trans h.kind, h'.token.trans h.token, h'.destination.trans h.destination,
    h'.multicast.trans h.multicast⟩

theorem kin_addOption (m m' : Message) (o : Options.CoapOption) (h : m.addOption o = .ok m') :
    Kin m m' := by
  unfold Message.addOption at h
  cases hos : m.options.add o with
  | error e =>
    rw [hos] at h
    cases h
  | ok os =>
    rw [hos] at h
    cases h
    exact ⟨rfl, rfl, rfl, rfl⟩

theorem kin_addNew (m m' : Message) (item : OptionItem) (v : Value)
    (h : m.addNew item v = .ok m') : Kin m m' := by
  obtain ⟨o, _, ho⟩ := (bind_eq_ok _ _ _).mp h
  exact kin_addOption m m' o ho

theorem kin_setAcknowledged (m : Message) (b : Bool) : Kin m (m.setAcknowledged b) := by
  cases b <;> exact ⟨rfl, rfl, rfl, rfl⟩

end Kinship

section BlockLayer
open BlockLayer
variable (s : BlockLayer.State) (t : Transaction) (k : Key)

/-- The response as it was received, but for its payload. -/
def Rejoined (response : Message) (t : Transaction) : Prop :=
  ∃ payload, t.response = some (response.setPayload payload)

/-- What the block layer does with a response: the request stays one of its exchange, and where the
exchange ends the response is as it was received, but for its payload. -/
structure Settles {β : Type} (response : Message) (t : Transaction)
    (r : Except PyErr β × BlockLayer.State × Transaction) : Prop where
  kin : Kin t.request r.2.2.request
  rejoined : ∀ b, r.1 = .ok b → r.2.2.blockTransfer = false → Rejoined response r.2.2

theorem settles_transfer {β : Type} (response : Message)
    (r : Except PyErr β × BlockLayer.State × Transaction) (hkin : Kin t.request r.2.2.request)
    (h : r.2.2.blockTransfer = true) : Settles response t r := by
  refine ⟨hkin, fun _ _ hfalse => ?_⟩
  rw [h] at hfalse
  cases hfalse

theorem settles_raised {β : Type} (response : Message) (e : PyErr) (t' : Transaction)
    (hkin : Kin t.request t'.request) :
    Settles response t ((.error e, s, t') : Except PyErr β × BlockLayer.State × Transaction) := by
  refine ⟨hkin, fun b hb => ?_⟩
  cases hb

theorem settles_returned (response : Message)
    (r : Except PyErr Unit × BlockLayer.State × Transaction) (h : Settles response t r) :
    Settles response t (returned r) := by
  obtain ⟨result, s', t'⟩ := r
  refine ⟨h.kin, fun b hb => ?_⟩
  cases result with
  | error e => cases hb
  | ok u => exact h.rejoined u rfl

theorem settles_error (rng : Bytes) (code : ℕ) (response : Message) :
    Settles response t (BlockLayer.error rng code (s, t)) := by
  unfold BlockLayer.error
  dsimp only
  split <;> exact settles_transfer t response _ (Kin.refl _) rfl

theorem settles_nextBlock1 (item : BlockItem) (size : ℕ) (response : Message)
    (htransfer : t.blockTransfer = true) :
    Settles response t (nextBlock1 k item size (s, t)) := by
  unfold nextBlock1
  cases item.payload with
  | none => exact settles_transfer t response _ ⟨rfl, rfl, rfl, rfl⟩ htransfer
  | some payload =>
    dsimp only
    split
    · exact settles_transfer t response _ ⟨rfl, rfl, rfl, rfl⟩ htransfer
    · next request hset =>
      have hkin := kin_addNew _ _ _ _ hset
      exact settles_transfer t response _
        ⟨hkin.kind, hkin.token, hkin.destination, hkin.multicast⟩ htransfer

theorem settles_requestBlock2 (item : BlockItem) (response : Message)
    (htransfer : t.blockTransfer = true) :
    Settles response t (requestBlock2 item (s, t)) := by
  unfold requestBlock2
  dsimp only
  split
  · exact settles_transfer t response _ ⟨rfl, rfl, rfl, rfl⟩ htransfer
  · next request hset =>
    have hkin := kin_addNew _ _ _ _ hset
    exact settles_transfer t response _
      ⟨hkin.kind, hkin.token, hkin.destination, hkin.multicast⟩ htransfer

theorem Settles.congr {β : Type} (response : Message) (t' : Transaction)
    (r : Except PyErr β × BlockLayer.State × Transaction) (h : Settles response t' r)
    (hrequest : t'.request = t.request) : Settles response t r :=
  ⟨hrequest ▸ h.kin, h.rejoined⟩

theorem settles_receiveMoreBlock2 (rng : Bytes) (num m size : ℕ) (response : Message) :
    Settles response t (receiveMoreBlock2 rng k num m size response (s, t)) := by
  unfold receiveMoreBlock2
  dsimp only
  split
  · split
    · exact (settles_error s { t with blockTransfer := true } rng _ response).congr t _ _ _ rfl
    · split
      · exact (settles_error _ { t with blockTransfer := true } rng _ response).congr t _ _ _ rfl
      · split
        · exact settles_raised _ t response _ _ (Kin.refl _)
        · exact (settles_requestBlock2 _ { t with blockTransfer := true } _ response rfl).congr
            t _ _ _ rfl
  · exact (settles_requestBlock2 _ { t with blockTransfer := true } _ response rfl).congr
      t _ _ _ rfl

theorem settles_receiveLastBlock2 (rng : Bytes) (response : Message)
    (hresponse : t.response = some response) :
    Settles response t (receiveLastBlock2 rng k response (s, t)) := by
  unfold receiveLastBlock2
  dsimp only
  split
  · split
    · exact (settles_error s { t with blockTransfer := false } rng _ response).congr t _ _ _ rfl
    · split
      · exact settles_raised _ t response _ _ (Kin.refl _)
      · next payload _ => exact ⟨Kin.refl _, fun _ _ _ => ⟨payload, rfl⟩⟩
  · exact ⟨Kin.refl _, fun _ _ _ => ⟨response.payload, hresponse⟩⟩

theorem settles_receiveBlock2Response (rng : Bytes) (response : Message)
    (hresponse : t.response = some response) :
    Settles response t (receiveBlock2Response rng k response (s, t)) := by
  unfold receiveBlock2Response
  dsimp only
  split
  · exact settles_raised _ t response _ _ (Kin.refl _)
  · split
    · exact settles_receiveMoreBlock2 s t k rng _ _ _ response
    · exact settles_receiveLastBlock2 s t k rng response hresponse
  · exact ⟨Kin.refl _, fun _ _ _ => ⟨response.payload, hresponse⟩⟩

theorem settles_receiveBlock1Response (item : BlockItem) (num size : ℕ) (response : Message)
    (hresponse : t.response = some response) :
    Settles response t (receiveBlock1Response k item num size (s, t)) := by
  unfold receiveBlock1Response
  dsimp only
  split
  · exact ⟨⟨rfl, rfl, rfl, rfl⟩, fun _ _ _ => ⟨response.payload, hresponse⟩⟩
  · split
    · exact settles_transfer t response _ (Kin.refl _) rfl
    · exact (settles_returned _ response _
        (settles_nextBlock1 s { t with blockTransfer := true } k item size response rfl)).congr
          t _ _ _ rfl

theorem settles_receiveResponse (rng : Bytes) (response : Message)
    (hresponse : t.response = some response) :
    Settles response t (BlockLayer.receiveResponse rng (s, t)) := by
  have hblock2 := fun k => settles_returned t response _
    (settles_receiveBlock2Response s t k rng response hresponse)
  unfold BlockLayer.receiveResponse
  simp only [hresponse]
  cases response.source with
  | none => exact settles_raised s t response _ t (Kin.refl _)
  | some address =>
    dsimp only
    cases s.block1Sent.get? (key address (tokenArg response.token)) with
    | none => exact hblock2 _
    | some item =>
      dsimp only
      cases response.block1 with
      | error e => exact settles_raised s t response _ t (Kin.refl _)
      | ok block =>
        cases block with
        | none => exact hblock2 _
        | some block =>
          obtain ⟨num, m, size⟩ := block
          exact settles_receiveBlock1Response s t _ item num size response hresponse

theorem receiveResponse_plain (rng : Bytes) (response : Message) (address : Address)
    (hresponse : t.response = some response) (hsource : response.source = some address)
    (hblock1 : response.block1 = .ok none) (hblock2 : response.block2 = .ok none) :
    BlockLayer.receiveResponse rng (s, t) = (.ok true, s, { t with blockTransfer := false }) := by
  have hplain : ∀ k', returned (receiveBlock2Response rng k' response (s, t)) =
      (.ok true, s, { t with blockTransfer := false }) := by
    intro k'
    unfold receiveBlock2Response
    rw [hblock2]
    rfl
  unfold BlockLayer.receiveResponse
  conv_lhs => simp only [hresponse, hsource, hblock1]
  cases s.block1Sent.get? (key address (tokenArg response.token)) with
  | none => exact hplain _
  | some item => exact hplain _

theorem kin_firstBlock1 (num size : ℕ) (request request' : Message)
    (h : (firstBlock1 num size request s).1 = .ok request') : Kin request request' := by
  unfold firstBlock1 at h
  split at h
  · cases h
  · split at h
    · cases h
    · dsimp only at h
      split at h
      · cases h
      · next sized hsize =>
        split at h
        · cases h
        · next blocked hblock =>
          cases h
          have hsized := kin_addNew _ _ _ _ hsize
          have hblocked := kin_addNew _ _ _ _ hblock
          refine Kin.trans _ sized _ ?_ ?_
          · exact ⟨hsized.kind, hsized.token, hsized.destination, hsized.multicast⟩
          · exact ⟨hblocked.kind, hblocked.token, hblocked.destination, hblocked.multicast⟩

theorem kin_sendRequest (request request' : Message)
    (h : (BlockLayer.sendRequest request s).1 = .ok request') : Kin request request' := by
  unfold BlockLayer.sendRequest at h
  split at h
  · cases h
  · exact kin_firstBlock1 s _ _ request request' h
  · split at h
    · exact kin_firstBlock1 s _ _ request request' h
    · split at h
      · cases h
      · cases h
        exact Kin.refl _
      · split at h
        · cases h
        · cases h
          exact Kin.refl _

end BlockLayer

section Tokens

/-- The tokens of the requests are of one length and pairwise different. -/
structure Fresh (requests : List Message) : Prop where
  nodup : (requests.map Message.token).Nodup
  length : ∃ n, ∀ q ∈ requests, ∃ token, q.token = some token ∧ token.length = n

theorem Fresh.of_append (requests later : List Message) (h : Fresh (requests ++ later)) :
    Fresh requests := by
  obtain ⟨n, hn⟩ := h.length
  have hnodup := h.nodup
  rw [List.map_append] at hnodup
  exact ⟨hnodup.of_append_left, n, fun q hq => hn q (List.mem_append_left later hq)⟩

theorem Fresh.eq_of_token (requests : List Message) (h : Fresh requests) (q q' : Message)
    (hq : q ∈ requests) (hq' : q' ∈ requests) (htoken : q.token = q'.token) : q = q' :=
  List.inj_on_of_nodup_map h.nodup hq hq' htoken

theorem key_token_eq (e e' : Address) (token token' : Bytes)
    (hlength : token.length = token'.length)
    (h : key e (tokenArg (some token)) = key e' (tokenArg (some token'))) :
    token = token' ∧ endpointText e = endpointText e' := by
  rw [key_eq_iff] at h
  have hrender : (renderArg (tokenArg (some token))).length =
      (renderArg (tokenArg (some token'))).length := by
    change (hexlify token).length = (hexlify token').length
    rw [hexlify_length, hexlify_length, hlength]
  obtain ⟨htext, htoken⟩ := List.append_inj' h hrender
  exact ⟨hexlify_injective token token' htoken, htext⟩

end Tokens

section Requests
variable (requests : List Message) (served own : List ℕ) (m : MessageLayer.State)

/-- The tables of sent requests: each entry is of a request of the list, under a key of its
token, which for a unicast request is that of its destination. -/
structure Holds : Prop where
  leads : Leads served own m
  owned : ∀ i ∈ own, ∃ q ∈ requests, Kin q (m.heap.cell i).request
  disjoint : ∀ i ∈ served, i ∉ own
  served_lt : ∀ i ∈ served, i < m.heap.next
  own_lt : ∀ i ∈ own, i < m.heap.next
  token : ∀ k i, m.transactionsSentToken.get? k = some i → ∃ q ∈ requests, ∃ address,
    Kin q (m.heap.cell i).request ∧ k = key address (tokenArg q.token) ∧
      (q.multicast = false → q.destination = some address)

/-- A response to the request from its destination finds a transaction of the request. -/
def Stored (q : Message) : Prop :=
  ∃ address i, q.destination = some address ∧
    m.transactionsSentToken.get? (key address (tokenArg q.token)) = some i ∧
      Kin q (m.heap.cell i).request

variable {requests served own m}

theorem Holds.mono (h : Holds requests served own m) (requests' : List Message)
    (hsub : requests ⊆ requests') : Holds requests' served own m := by
  refine ⟨h.leads, ?_, h.disjoint, h.served_lt, h.own_lt, ?_⟩
  · intro i hi
    obtain ⟨q, hq, hkin⟩ := h.owned i hi
    exact ⟨q, hsub hq, hkin⟩
  · intro k i hk
    obtain ⟨q, hq, address, hrest⟩ := h.token k i hk
    exact ⟨q, hsub hq, address, hrest⟩

/-- The tables stay, and the transactions may change but for what is the exchange's. -/
structure Leaves (m m' : MessageLayer.State) : Prop where
  transactions : m'.transactions = m.transactions
  transactionsToken : m'.transactionsToken = m.transactionsToken
  sent : m'.transactionsSent = m.transactionsSent
  sentToken : m'.transactionsSentToken = m.transactionsSentToken
  next : m'.heap.next = m.heap.next
  kin : ∀ i, Kin (m.heap.cell i).request (m'.heap.cell i).request

theorem leaves_refl (m : MessageLayer.State) : Leaves m m :=
  ⟨rfl, rfl, rfl, rfl, rfl, fun _ => Kin.refl _⟩

theorem leaves_of_eq (m m' : MessageLayer.State) (h : m' = m) : Leaves m m' := by
  subst h
  exact leaves_refl m'

theorem Leaves.trans (m m' m'' : MessageLayer.State) (h : Leaves m m') (h' : Leaves m' m'') :
    Leaves m m'' where
  transactions := h'.transactions.trans h.transactions
  transactionsToken := h'.transactionsToken.trans h.transactionsToken
  sent := h'.sent.trans h.sent
  sentToken := h'.sentToken.trans h.sentToken
  next := h'.next.trans h.next
  kin := fun i => (h.kin i).trans _ _ _ (h'.kin i)

theorem leaves_update (m : MessageLayer.State) (tid : ℕ) (f : Transaction → Transaction)
    (hf : Kin (m.heap.cell tid).request (f (m.heap.cell tid)).request) :
    Leaves m (m.update tid f) := by
  refine ⟨rfl, rfl, rfl, rfl, rfl, fun i => ?_⟩
  by_cases heq : i = tid
  · subst heq
    rw [update_cell_self]
    exact hf
  · rw [update_cell_of_ne i m tid f heq]
    exact Kin.refl _

theorem Holds.leaves (h : Holds requests served own m) (m' : MessageLayer.State)
    (hm : Leaves m m') : Holds requests served own m' := by
  refine ⟨⟨?_, ?_, ?_, ?_⟩, ?_, h.disjoint, ?_, ?_, ?_⟩
  · rw [hm.transactions]
    exact h.leads.transactions
  · rw [hm.transactionsToken]
    exact h.leads.transactionsToken
  · rw [hm.sent]
    exact h.leads.transactionsSent
  · rw [hm.sentToken]
    exact h.leads.transactionsSentToken
  · intro i hi
    obtain ⟨q, hq, hkin⟩ := h.owned i hi
    exact ⟨q, hq, hkin.trans _ _ _ (hm.kin i)⟩
  · rw [hm.next]
    exact h.served_lt
  · rw [hm.next]
    exact h.own_lt
  · intro k i hk
    rw [hm.sentToken] at hk
    obtain ⟨q, hq, address, hkin, hkey, hunicast⟩ := h.token k i hk
    exact ⟨q, hq, address, hkin.trans _ _ _ (hm.kin i), hkey, hunicast⟩

theorem Stored.leaves (m m' : MessageLayer.State) (q : Message) (hq : Stored m q)
    (hm : Leaves m m') : Stored m' q := by
  obtain ⟨address, i, hdestination, hget, hkin⟩ := hq
  exact ⟨address, i, hdestination, hm.sentToken ▸ hget, hkin.trans _ _ _ (hm.kin i)⟩

theorem Holds.congr (h : Holds requests served own m) (m' : MessageLayer.State) (served' : List ℕ)
    (leads : Leads served' own m') (disjoint : ∀ i ∈ served', i ∉ own)
    (served_lt : ∀ i ∈ served', i < m'.heap.next) (next : m.heap.next ≤ m'.heap.next)
    (sentToken : m'.transactionsSentToken = m.transactionsSentToken)
    (cell : ∀ i ∈ own, m'.heap.cell i = m.heap.cell i) : Holds requests served' own m' := by
  refine ⟨leads, ?_, disjoint, served_lt, fun i hi => (h.own_lt i hi).trans_le next, ?_⟩
  · intro i hi
    rw [cell i hi]
    exact h.owned i hi
  · intro k i hk
    rw [sentToken] at hk
    rw [cell i (h.leads.transactionsSentToken k i hk)]
    exact h.token k i hk

theorem Stored.congr (h : Holds requests served own m) (m' : MessageLayer.State) (q : Message)
    (hq : Stored m q) (sentToken : m'.transactionsSentToken = m.transactionsSentToken)
    (cell : ∀ i ∈ own, m'.heap.cell i = m.heap.cell i) : Stored m' q := by
  obtain ⟨address, i, hdestination, hget, hkin⟩ := hq
  refine ⟨address, i, hdestination, sentToken ▸ hget, ?_⟩
  rw [cell i (h.leads.transactionsSentToken _ i hget)]
  exact hkin

end Requests

section Sending
variable (now : ℚ) (rng : Bytes) (request : Message) (m : MessageLayer.State)

theorem completeRequest_kin (token : Bytes) (htoken : request.token = some token)
    (request' : Message) (m' : MessageLayer.State)
    (hr : completeRequest rng request m = (.ok request', m')) :
    Kin request request' ∧ ∃ mid, m' = { m with currentMid := mid } := by
  have hsame : some (request.token.getD rng) = request.token := by
    rw [htoken]
    rfl
  have hstate := completeRequest_state m rng request
  rw [hr] at hstate
  refine ⟨?_, hstate⟩
  unfold completeRequest at hr
  dsimp only at hr
  split at hr
  · cases hr
    exact ⟨rfl, hsame, rfl, rfl⟩
  · split at hr
    · cases hr
    · next numbered hset =>
      cases hr
      rw [setMid_eq _ _ _ hset]
      exact ⟨rfl, hsame, rfl, rfl⟩

/-- The new transaction of a request that is sent, and the key under which it waits. -/
structure Enters (tid : ℕ) (m' : MessageLayer.State) : Prop where
  tid_eq : tid = m.heap.next
  next : m'.heap.next = m.heap.next + 1
  kin : Kin request (m'.heap.cell tid).request
  token : ∃ address, m'.transactionsSentToken =
      m.transactionsSentToken.insert (key address (tokenArg request.token)) tid ∧
    (request.multicast = false → request.destination = some address)

theorem storeSent_enters (tid : ℕ) (request' : Message) (address : Address)
    (m₀ m' : MessageLayer.State) (hkin : Kin request request')
    (hdestination : request.destination = some address)
    (hr : storeSent tid request' address m₀ = (.ok tid, m')) :
    m'.heap = m₀.heap ∧ ∃ address', m'.transactionsSentToken =
      m₀.transactionsSentToken.insert (key address' (tokenArg request.token)) tid ∧
        (request.multicast = false → request.destination = some address') := by
  unfold storeSent at hr
  split at hr
  · next hmulticast =>
    split at hr
    · cases hr
    · next source _ =>
      cases hr
      refine ⟨rfl, source, by rw [← hkin.token], fun hunicast => ?_⟩
      rw [← hkin.multicast, hmulticast] at hunicast
      cases hunicast
  · cases hr
    exact ⟨rfl, address, by rw [← hkin.token], fun _ => hdestination⟩

theorem sendRequest_enters (token : Bytes) (htoken : request.token = some token) (tid : ℕ)
    (m' : MessageLayer.State)
    (hr : MessagePairing.sendRequest now rng request m = (.ok tid, m')) :
    Enters request m tid m' := by
  unfold MessagePairing.sendRequest at hr
  split at hr
  · cases hr
  · split at hr
    · cases hr
    · next address hdestination =>
      split at hr
      · cases hr
      · next request' m₀ hcomplete =>
        obtain ⟨hkin, mid, rfl⟩ := completeRequest_kin rng { request with timestamp := some now } m
          token htoken request' m₀ hcomplete
        have hkin' : Kin request request' :=
          ⟨hkin.kind, hkin.token, hkin.destination, hkin.multicast⟩
        dsimp only at hr
        have htid : tid = m.heap.next := by
          unfold storeSent at hr
          split at hr
          · split at hr
            · cases hr
            · cases hr
              rfl
          · cases hr
            rfl
        subst htid
        obtain ⟨hheap, address', htable, hunicast⟩ := storeSent_enters request _ request' address
          _ m' hkin' hdestination hr
        refine ⟨rfl, ?_, ?_, address', htable, hunicast⟩
        · rw [hheap]
          rfl
        · rw [hheap]
          have hcell : ((m.heap.alloc (Transaction.new request' now)).2.cell m.heap.next) =
              Transaction.new request' now := Heap.alloc_cell_self m.heap _
          change Kin request ((m.heap.alloc (Transaction.new request' now)).2.cell
            m.heap.next).request
          rw [hcell]
          exact hkin'

theorem sendRequest_refused (e : PyErr) (m' : MessageLayer.State)
    (hr : MessagePairing.sendRequest now rng request m = (.error e, m')) :
    m'.transactionsSentToken = m.transactionsSentToken := by
  unfold MessagePairing.sendRequest at hr
  split at hr
  · cases hr
    rfl
  · split at hr
    · cases hr
      rfl
    · next address _ =>
      obtain ⟨mid, hstate⟩ := completeRequest_state m rng { request with timestamp := some now }
      split at hr
      · next heq =>
        rw [heq] at hstate
        change _ = ({ m with currentMid := mid } : MessageLayer.State) at hstate
        cases hr
        exact (congrArg State.transactionsSentToken hstate :)
      · next heq =>
        rw [heq] at hstate
        dsimp only at hr
        unfold storeSent at hr
        split at hr
        · split at hr
          · cases hr
            exact (congrArg State.transactionsSentToken hstate :)
          · cases hr
        · cases hr

variable {requests : List Message} {served own : List ℕ}

/-- Sending a request of the list, for the first time or again, keeps every other request where
it was. -/
theorem sendRequest_holds (h : Holds requests served own m) (hfresh : Fresh requests) (q : Message)
    (hq : q ∈ requests) (hkin : Kin q request) :
    ∃ own', own ⊆ own' ∧
      Holds requests served own' (MessagePairing.sendRequest now rng request m).2 ∧
      (∀ w q', q' ∈ requests → Kin q' w → Stored m w →
        Stored (MessagePairing.sendRequest now rng request m).2 w) ∧
      ∀ tid, (MessagePairing.sendRequest now rng request m).1 = .ok tid →
        tid ∈ own' ∧
          Kin q ((MessagePairing.sendRequest now rng request m).2.heap.cell tid).request ∧
          (q.multicast = false → Stored (MessagePairing.sendRequest now rng request m).2 q) := by
  obtain ⟨n, hlength⟩ := hfresh.length
  obtain ⟨token, htoken, hn⟩ := hlength q hq
  have hrequests := sendRequest_requests served own m now rng request h.leads
  generalize hr : MessagePairing.sendRequest now rng request m = r at hrequests
  obtain ⟨result, m'⟩ := r
  have hcell : ∀ i ∈ own, m'.heap.cell i = m.heap.cell i :=
    fun i hi => hrequests.cell i (h.own_lt i hi)
  have hserved : ∀ i ∈ served, i < m'.heap.next :=
    fun i hi => (h.served_lt i hi).trans_le hrequests.next
  cases result with
  | error e =>
    have hsent := sendRequest_refused now rng request m e m' hr
    have hleads : Leads served own m' := by
      rcases hrequests.leads with ⟨_, hleads⟩ | ⟨hok, _⟩
      · exact hleads
      · cases hok
    refine ⟨own, List.Subset.refl _, h.congr m' served hleads h.disjoint hserved hrequests.next
      hsent hcell, fun w _ _ _ hw => hw.congr h m' w hsent hcell, fun tid htid => ?_⟩
    cases htid
  | ok tid =>
    have henters := sendRequest_enters now rng request m token (hkin.token.trans htoken) tid m' hr
    obtain ⟨address, htable, hunicast⟩ := henters.token
    have hleads : Leads served (tid :: own) m' := by
      rcases hrequests.leads with ⟨⟨e, herror⟩, _⟩ | ⟨_, hleads, _⟩
      · cases herror
      · rw [henters.tid_eq]
        exact hleads
    have hsame : Kin q (m'.heap.cell tid).request := hkin.trans _ _ _ henters.kin
    refine ⟨tid :: own, List.subset_cons_self _ _, ⟨hleads, ?_, ?_, hserved, ?_, ?_⟩, ?_, ?_⟩
    · intro i hi
      rcases List.mem_cons.mp hi with rfl | hi
      · exact ⟨q, hq, hsame⟩
      · rw [hcell i hi]
        exact h.owned i hi
    · intro i hi hown
      rcases List.mem_cons.mp hown with rfl | hown
      · have hlt := h.served_lt i hi
        have htid := henters.tid_eq
        omega
      · exact h.disjoint i hi hown
    · intro i hi
      have hnext : m'.heap.next = m.heap.next + 1 := henters.next
      change i < m'.heap.next
      rcases List.mem_cons.mp hi with rfl | hi
      · have htid := henters.tid_eq
        omega
      · have hlt := h.own_lt i hi
        omega
    · intro k i hk
      rw [htable] at hk
      by_cases heq : k = key address (tokenArg request.token)
      · rw [heq, Dict.get?_insert_self] at hk
        cases hk
        refine ⟨q, hq, address, hsame, ?_, fun hq' => ?_⟩
        · rw [heq, hkin.token]
        · rw [← hkin.destination]
          exact hunicast (hkin.multicast.trans hq')
      · rw [Dict.get?_insert_of_ne _ _ heq] at hk
        rw [hcell i (h.leads.transactionsSentToken k i hk)]
        exact h.token k i hk
    · intro w q' hq' hkin' hw
      obtain ⟨address', i, hdestination, hget, hkinw⟩ := hw
      by_cases heq : key address' (tokenArg w.token) = key address (tokenArg request.token)
      · -- the key is that of the request, so the token is, and `w` is of its exchange
        obtain ⟨token', htoken', hn'⟩ := hlength q' hq'
        rw [hkin'.token, hkin.token, htoken', htoken] at heq
        have htokens := (key_token_eq address' address token' token (hn'.trans hn.symm) heq).1
        have hqq : q' = q := hfresh.eq_of_token requests q' q hq' hq
          (by rw [htoken', htoken, htokens])
        subst hqq
        refine ⟨address', tid, hdestination, ?_, ?_⟩
        · rw [htable, hkin'.token, htoken', heq, hkin.token, htoken]
          exact Dict.get?_insert_self _ _ _
        · exact (hkin'.symm _ _).trans _ _ _ hsame
      · refine ⟨address', i, hdestination, ?_, ?_⟩
        · rw [htable, Dict.get?_insert_of_ne _ _ heq]
          exact hget
        · rw [hcell i (h.leads.transactionsSentToken _ i hget)]
          exact hkinw
    · rintro tid' htid'
      cases htid'
      refine ⟨List.mem_cons_self, hsame, fun hq' => ⟨address, tid, ?_, ?_, hsame⟩⟩
      · rw [← hkin.destination]
        exact hunicast (hkin.multicast.trans hq')
      · rw [htable, hkin.token]
        exact Dict.get?_insert_self _ _ _

end Sending

end BubotCoap.ClientLayers
