import BubotCoap.Client
import BubotCoap.ClientLayers
import BubotCoap.TextOptions

set_option autoImplicit false

namespace BubotCoap.ClientSteps
open PythonData Defines Utils Options Messages OrderedDict Transactions Resources MessageLayer
  FallibleState Rendering Client ClientLayers

variable {ω : Type} (P : Platform) (address : Address)

/-- A response as `datagram_received` hands it on. -/
structure Received (r : Message) (source destination : Address) : Prop where
  source : r.source = some source
  destination : r.destination = some destination
  token : ∃ token, r.token = some token ∧ token.length ≤ 15
  mid : ∀ mid, r.mid = some mid → 0 ≤ mid ∧ mid ≤ 65535
  unacknowledged : r.acknowledged = false
  printable : Printable P r

/-- It carries no part of a body. -/
structure Whole (r : Message) : Prop where
  block1 : r.block1 = .ok none
  block2 : r.block2 = .ok none

/-- The response as the waiter gets it, marked as acknowledged or not. -/
def Settled (r m : Message) : Prop := m = printed r ∨ m = (printed r).setAcknowledged true

/-- The transaction holds the response, and the waiters are as they were. -/
structure Shows (tid : ℕ) (m : Message) (callback : CallbackLayer.State) (n : Node ω) : Prop where
  response : (n.transaction tid).response = some m
  callback : n.callback = callback

section Acknowledging
variable (rng : Bytes) (tid : ℕ)

def ackOf (m : Message) (token : Bytes) : Message :=
  { Message.new .message with
    type := some .ACK
    mid := m.mid
    code := some Codes.empty
    token := some token
    destination := m.source
    source := m.destination
    scheme := some m.schemeText }

theorem empty_mem_codes : Codes.empty ∈ Codes.list := by decide

theorem sendMessage_ackOf (m : Message) (token : Bytes) (mid : ℤ) (hmid : m.mid = some mid)
    (hrange : 0 ≤ mid ∧ mid ≤ 65535) (htoken : token.length ≤ 15) :
    ∃ sent, RetransmitLoop.Loop.sendMessage P ⟨address, .udp⟩ (ackOf m token) = .ok sent := by
  have hprintable : Printable P { ackOf m token with source := some address } := by
    refine ⟨empty_mem_codes, ?_, ?_⟩
    · intro o ho
      cases ho
    · intro payload hpayload
      cases hpayload
  obtain ⟨line, hline⟩ := (linePrint_ok_iff P _).mpr hprintable
  obtain ⟨n, rfl⟩ := Int.eq_ofNat_of_zero_le hrange.1
  have hbytes := UdpRoundTrip.serialize_eq (printed { ackOf m token with source := some address })
    .ACK Codes.empty n token rfl rfl hmid rfl (by decide) (by omega) htoken fun o ho => by cases ho
  unfold RetransmitLoop.Loop.sendMessage
  dsimp only
  rw [hline]
  change ∃ sent, ((SerializerUdp.serialize
    (printed { ackOf m token with source := some address })).mapError .raised >>= fun _ =>
      .ok (printed { ackOf m token with source := some address })) = .ok sent
  rw [hbytes]
  exact ⟨_, rfl⟩

theorem sendAckOfResponse_ok (m : Message) (token : Bytes) (s : MessageLayer.State)
    (hresponse : (s.heap.cell tid).response = some m) (htoken : m.token = some token)
    (hlength : token.length ≤ 15) (hmid : ∀ mid, m.mid = some mid → 0 ≤ mid ∧ mid ≤ 65535) :
    sendAckOfResponse rng tid { Message.new .message with type := some .ACK } s =
      (.ok (ackOf m token), s.update tid fun t =>
        { t with response := some (m.setAcknowledged true), completed := true }) := by
  have hsetMid : ∀ a : Message, a.setMid m.mid = .ok { a with mid := m.mid } := by
    intro a
    unfold Message.setMid
    cases h : m.mid with
    | none => rfl
    | some mid =>
      have hle := hmid mid h
      dsimp only
      rw [if_neg (by omega)]
  have hsetToken : ∀ a : Message, a.setToken rng m.token = .ok { a with token := some token } := by
    intro a
    unfold Message.setToken
    rw [htoken]
    dsimp only
    rw [if_neg (by omega)]
  have hsetCode : ∀ a : Message, a.setCode (some Codes.empty) =
      .ok { a with code := some Codes.empty } := by
    intro a
    unfold Message.setCode
    dsimp only
    rw [if_pos empty_mem_codes]
  unfold sendAckOfResponse
  rw [Action.bind_get]
  simp only [hresponse]
  rw [Action.bind_ok _ (Action.modify_apply _ _), hsetMid,
    Action.bind_ok _ (Action.ofExcept_apply _ _), hsetCode,
    Action.bind_ok _ (Action.ofExcept_apply _ _), hsetToken,
    Action.bind_ok _ (Action.ofExcept_apply _ _)]
  rfl

variable {tid}

theorem onMessage_ok {α : Type} (x : Action PyErr MessageLayer.State α) (n : Node ω) (a : α)
    (m : MessageLayer.State) (h : x n.server.message = (.ok a, m)) :
    onMessage x n = (.ok a, { n with server := { n.server with message := m } }) :=
  Action.zoom_ok _ _ _ x n a m h

theorem onBlock_ok {α : Type} (x : Action PyErr (BlockLayer.State × Transaction) α) (n : Node ω)
    (a : α) (b : BlockLayer.State) (t : Transaction)
    (h : x (n.server.block, n.transaction tid) = (.ok a, b, t)) :
    onBlock tid x n =
      (.ok a, { n with server := { n.server with block := b }.setTransaction tid t }) :=
  Action.zoom_ok _ _ _ x n a (b, t) h

theorem onObserve_ok {α : Type} (x : Action PyErr (ObserveLayer.Relations × Transaction) α)
    (n : Node ω) (a : α) (o : ObserveLayer.Relations) (t : Transaction)
    (h : x (n.server.observe, n.transaction tid) = (.ok a, o, t)) :
    onObserve tid x n =
      (.ok a, { n with server := { n.server with observe := o }.setTransaction tid t }) :=
  Action.zoom_ok _ _ _ x n a (o, t) h

theorem onMessage_sendAckOfResponse (m : Message) (callback : CallbackLayer.State) (n : Node ω)
    (hshows : Shows tid m callback n) (token : Bytes) (htoken : m.token = some token)
    (hlength : token.length ≤ 15) (hmid : ∀ mid, m.mid = some mid → 0 ≤ mid ∧ mid ≤ 65535) :
    ∃ n', onMessage (sendAckOfResponse rng tid { Message.new .message with type := some .ACK }) n =
      (.ok (ackOf m token), n') ∧ Shows tid (m.setAcknowledged true) callback n' := by
  refine ⟨_, onMessage_ok _ n _ _
    (sendAckOfResponse_ok rng tid m token n.server.message hshows.response htoken hlength hmid),
    ?_, hshows.callback⟩
  exact congrArg Transaction.response (update_cell_self n.server.message tid _)

theorem sendAck_ok (m : Message) (callback : CallbackLayer.State) (n : Node ω)
    (hshows : Shows tid m callback n) (token : Bytes) (htoken : m.token = some token)
    (hlength : token.length ≤ 15) (hmid : ∀ mid, m.mid = some mid → 0 ≤ mid ∧ mid ≤ 65535)
    (hconfirmable : m.type = some .CON) (hunacknowledged : m.acknowledged = false) :
    ∃ n', sendAck P address rng tid n = (.ok (), n') ∧
      Shows tid (m.setAcknowledged true) callback n' := by
  obtain ⟨n₁, hack, hshows₁⟩ := onMessage_sendAckOfResponse rng m callback n hshows token htoken
    hlength hmid
  have hget : getTransaction tid n = (.ok (n.transaction tid), n) := rfl
  unfold sendAck
  rw [Action.bind_ok _ hget]
  simp only [hshows.response]
  rw [if_pos ⟨hunacknowledged, hconfirmable⟩, Action.bind_ok _ hack]
  cases h : m.mid with
  | none =>
    rw [if_neg fun hsend => hsend.2 h]
    exact ⟨n₁, rfl, hshows₁⟩
  | some mid =>
    obtain ⟨sent, hsent⟩ := sendMessage_ackOf P address m token mid h (hmid mid h) hlength
    have hdatagram : sendDatagram P address (ackOf m token) n₁ =
        (.ok sent, { n₁ with sent := n₁.sent ++ [sent] }) := by
      unfold sendDatagram
      rw [hsent]
      rfl
    have hmid' : (ackOf m token).mid ≠ none := by
      change m.mid ≠ none
      rw [h]
      exact Option.some_ne_none mid
    rw [if_pos ⟨Option.some_ne_none _, hmid'⟩, Action.bind_ok _ hdatagram]
    exact ⟨_, rfl, hshows₁.response, hshows₁.callback⟩

end Acknowledging

section Delivery
variable {tid : ℕ} (rng : Bytes) (m : Message) (callback : CallbackLayer.State) (n : Node ω)
  (source : Address) (token : Bytes)

theorem receiveResponse_observed (s : ObserveLayer.Relations) (t : Transaction)
    (hresponse : t.response = some m) (hsource : m.source = some source) :
    ∃ b, ObserveLayer.receiveResponse (s, t) = (.ok (), s, { t with notification := b }) := by
  obtain ⟨request, response, resource, timestamp, completed, blockTransfer, notification, tcp⟩ := t
  dsimp only at hresponse
  subst hresponse
  unfold ObserveLayer.receiveResponse
  simp only [hsource]
  split
  · exact ⟨true, rfl⟩
  · exact ⟨notification, rfl⟩

/-- The response goes to the waiter. A notification is marked as acknowledged before, while its
acknowledgement is not sent. -/
theorem deliver_ok (hshows : Shows tid m callback n) (hsource : m.source = some source)
    (htoken : m.token = some token) (hlength : token.length ≤ 15)
    (hmid : ∀ mid, m.mid = some mid → 0 ≤ mid ∧ mid ≤ 65535) :
    ∃ m', (m' = m ∨ m' = m.setAcknowledged true) ∧
      (deliver P rng tid n).2.callback = (CallbackLayer.setResult P m' callback).2 := by
  obtain ⟨b, hobserved⟩ := receiveResponse_observed m source n.server.observe (n.transaction tid)
    hshows.response hsource
  have hobserve : onObserve tid ObserveLayer.receiveResponse n = (.ok (), { n with
      server := n.server.setTransaction tid { n.transaction tid with notification := b } }) :=
    onObserve_ok _ n () _ _ hobserved
  have hget : ∀ n : Node ω, getTransaction tid n = (.ok (n.transaction tid), n) := fun _ => rfl
  have hlast : ∀ (f : Transaction → Action Failure (Node ω) Unit) (m' : Message) (n' : Node ω),
      Shows tid m' callback n' →
      (∀ t, t.response = some m' → f t = onCallback (CallbackLayer.setResult P m')) →
      ((getTransaction tid >>= f) n').2.callback = (CallbackLayer.setResult P m' callback).2 := by
    intro f m' n' h' hf
    rw [Action.bind_ok _ (hget n'), hf _ h'.response]
    change (CallbackLayer.setResult P m' n'.callback).2 = _
    rw [h'.callback]
  unfold deliver
  rw [Action.bind_ok _ hobserve]
  generalize hn : ({ n with server := n.server.setTransaction tid _ } : Node ω) = n₁
  have hshows₁ : Shows tid m callback n₁ := by
    subst hn
    refine ⟨?_, hshows.callback⟩
    exact (congrArg Transaction.response
      (Heap.set_cell_self n.server.message.heap tid _)).trans hshows.response
  rw [Action.bind_ok _ (hget n₁)]
  dsimp only
  by_cases hnotified : (n₁.transaction tid).notification = true
  · rw [if_pos hnotified]
    obtain ⟨n₂, hack, hshows₂⟩ := onMessage_sendAckOfResponse rng m callback n₁ hshows₁ token
      htoken hlength hmid
    have hpart : acknowledgeNotification rng tid n₁ = (.ok (), n₂) := by
      unfold acknowledgeNotification
      rw [Action.bind_ok _ hack]
      rfl
    refine ⟨m.setAcknowledged true, Or.inr rfl, ?_⟩
    rw [Action.bind_ok _ hpart]
    exact hlast _ _ n₂ hshows₂ fun t ht => by simp only [ht]
  · rw [if_neg hnotified]
    exact ⟨m, Or.inl rfl, hlast _ m n₁ hshows₁ fun t ht => by simp only [ht]⟩

end Delivery

section Reception
variable (now : ℚ) (rng : Bytes) (r : Message) (source destination : Address) (n : Node ω)

/-- The transaction with which a response is paired, and with the response in it. -/
def paired (tid : ℕ) : Node ω :=
  { n with server := { n.server with
      message := n.server.message.update tid fun t =>
        { acknowledgeRequest t with completed := true, response := some (printed r) } } }

theorem whole_response (hreceived : Received P r source destination) (hwhole : Whole r) :
    (MessagePairing.matchResponse (printed r) source destination n.server.message = none ∧
        (datagramReceivedResponse P address now rng r n).2.callback = n.callback) ∨
      ∃ tid m, MessagePairing.matchResponse (printed r) source destination n.server.message =
          some tid ∧ Settled r m ∧
        (datagramReceivedResponse P address now rng r n).2.callback =
          (CallbackLayer.setResult P m n.callback).2 := by
  obtain ⟨line, hline⟩ := (linePrint_ok_iff P r).mpr hreceived.printable
  obtain ⟨token, htoken, hlength⟩ := hreceived.token
  have hsource : (printed r).source = some source := hreceived.source
  have hdestination : (printed r).destination = some destination := hreceived.destination
  have hget : ∀ (tid : ℕ) (n : Node ω), getTransaction tid n = (.ok (n.transaction tid), n) :=
    fun _ _ => rfl
  unfold datagramReceivedResponse
  rw [Action.bind_ok _ (show Action.ofExcept (linePrint P r) n = (.ok line, n) by rw [hline]; rfl)]
  cases hmatch : MessagePairing.matchResponse (printed r) source destination n.server.message with
  | none =>
    have hnone : MessagePairing.receiveResponse (printed r) n.server.message =
        (.ok (none, false), n.server.message) := by
      unfold MessagePairing.receiveResponse
      simp only [hsource, hdestination, hmatch]
    rw [Action.bind_ok _ (onMessage_ok _ n _ _ hnone)]
    exact Or.inl ⟨rfl, rfl⟩
  | some tid =>
    have hsome : MessagePairing.receiveResponse (printed r) n.server.message =
        (.ok (some tid, decide (r.type = some .CON)), (paired r n tid).server.message) := by
      unfold MessagePairing.receiveResponse
      simp only [hsource, hdestination, hmatch]
      rfl
    rw [Action.bind_ok _ (onMessage_ok _ n _ _ hsome)]
    have hshows : Shows tid (printed r) n.callback (paired r n tid) := by
      refine ⟨?_, rfl⟩
      exact congrArg Transaction.response (update_cell_self n.server.message tid _)
    have hblock : ∀ (m : Message) (n' : Node ω), Shows tid m n.callback n' →
        m.source = some source → m.token = some token →
        (∀ mid, m.mid = some mid → 0 ≤ mid ∧ mid ≤ 65535) → m.options = r.options →
        ∃ m', (m' = m ∨ m' = m.setAcknowledged true) ∧
          ((do
            let _ ← onBlock tid (BlockLayer.receiveResponse rng)
            let t ← getTransaction tid
            if t.blockTransfer then sendBlockRequest P address now rng tid
            else deliver P rng tid : Action Failure (Node ω) Unit) n').2.callback =
            (CallbackLayer.setResult P m' n.callback).2 := by
      intro m n' hshows' hsource' htoken' hmid' hoptions'
      have hblock1 : m.block1 = .ok none := by
        unfold Message.block1 Message.block
        rw [hoptions']
        exact hwhole.block1
      have hblock2 : m.block2 = .ok none := by
        unfold Message.block2 Message.block
        rw [hoptions']
        exact hwhole.block2
      have hplain := receiveResponse_plain n'.server.block (n'.transaction tid) rng m source
        hshows'.response hsource' hblock1 hblock2
      have hlayer : onBlock tid (BlockLayer.receiveResponse rng) n' = (.ok true, { n' with
          server := n'.server.setTransaction tid
            { n'.transaction tid with blockTransfer := false } }) :=
        onBlock_ok _ n' true _ _ hplain
      rw [Action.bind_ok _ hlayer]
      generalize hn : ({ n' with server := n'.server.setTransaction tid _ } : Node ω) = n₁
      have hcell : n₁.transaction tid = { n'.transaction tid with blockTransfer := false } := by
        subst hn
        exact Heap.set_cell_self n'.server.message.heap tid _
      have hshows₁ : Shows tid m n.callback n₁ := by
        refine ⟨?_, ?_⟩
        · rw [hcell]
          exact hshows'.response
        · subst hn
          exact hshows'.callback
      rw [Action.bind_ok _ (hget tid n₁), hcell]
      exact deliver_ok P rng m n.callback n₁ source token hshows₁ hsource' htoken' hlength hmid'
    by_cases hcon : r.type = some .CON
    · obtain ⟨n₁, hack, hshows₁⟩ := sendAck_ok P address rng (printed r) n.callback
        (paired r n tid) hshows token htoken hlength hreceived.mid hcon hreceived.unacknowledged
      obtain ⟨m', hm', hcallback⟩ := hblock ((printed r).setAcknowledged true) n₁ hshows₁ hsource
        htoken hreceived.mid rfl
      refine Or.inr ⟨tid, m', rfl, ?_, ?_⟩
      · rcases hm' with rfl | rfl
        · exact Or.inr rfl
        · exact Or.inr rfl
      · simp only [hcon, decide_true, ↓reduceIte]
        rw [← hcallback]
        change ((sendAck P address rng tid >>= _) (paired r n tid)).2.callback = _
        rw [Action.bind_ok _ hack]
    · obtain ⟨m', hm', hcallback⟩ := hblock (printed r) (paired r n tid) hshows hsource htoken
        hreceived.mid rfl
      refine Or.inr ⟨tid, m', rfl, hm', ?_⟩
      simp only [hcon, decide_false, Bool.false_eq_true, ↓reduceIte]
      rw [← hcallback]
      rfl

end Reception

end BubotCoap.ClientSteps
