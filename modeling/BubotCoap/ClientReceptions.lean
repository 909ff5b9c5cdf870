import BubotCoap.ClientInvariant

set_option autoImplicit false

namespace BubotCoap.ClientReceptions
open PythonData Defines Utils Messages OrderedDict Transactions Resources MessageLayer
  MessageTables ActionTriples OwnTransactions FallibleState Rendering Client ClientLayers
  ClientSteps ClientInvariant ExchangeKeys

variable {ω : Type}

/-- The response as it was received, but for its payload and its marks. -/
def Reported (r m : Message) : Prop :=
  ∃ payload, m = (printed r).setPayload payload ∨
    m = ((printed r).setPayload payload).setAcknowledged true

def Shown (r : Message) (response : Option Message) : Prop := ∀ m, response = some m → Reported r m

theorem reported_printed (r : Message) : Reported r (printed r) := ⟨(printed r).payload, Or.inl rfl⟩

theorem Reported.setAcknowledged (r m : Message) (h : Reported r m) :
    Reported r (m.setAcknowledged true) := by
  obtain ⟨payload, rfl | rfl⟩ := h
  · exact ⟨payload, Or.inr rfl⟩
  · exact ⟨payload, Or.inr rfl⟩

theorem Reported.setPayload (r m : Message) (h : Reported r m) (payload : Option Payload) :
    Reported r (m.setPayload payload) := by
  obtain ⟨_, rfl | rfl⟩ := h
  · exact ⟨payload, Or.inl rfl⟩
  · exact ⟨payload, Or.inr rfl⟩

theorem Reported.token (r m : Message) (h : Reported r m) : m.token = r.token := by
  obtain ⟨payload, rfl | rfl⟩ := h <;> rfl

section Working
variable {requests : List Message} {c : CallbackLayer.State} {P : Platform} {address : Address}
  {q : Message} {tid : ℕ} (now : ℚ) (rng : Bytes) (r : Message)

theorem sendAckOfResponse_state (i : ℕ) (message : Message) (m : MessageLayer.State) :
    (sendAckOfResponse rng i message m).2 = m ∨ ∃ response,
      (m.heap.cell i).response = some response ∧
      (sendAckOfResponse rng i message m).2 = m.update i fun _ => { m.heap.cell i with
        response := some (response.setAcknowledged true), completed := true } := by
  unfold sendAckOfResponse
  rw [Action.bind_get]
  cases hresponse : (m.heap.cell i).response with
  | none => exact Or.inl rfl
  | some response =>
    refine Or.inr ⟨response, rfl, ?_⟩
    dsimp only
    rw [Action.bind_ok _ (Action.modify_apply _ _), Action.bind_apply, Action.ofExcept_apply]
    cases message.setMid response.mid with
    | error e => rfl
    | ok numbered =>
      dsimp only
      rw [Action.bind_apply, Action.ofExcept_apply]
      cases numbered.setCode (some Codes.empty) with
      | error e => rfl
      | ok coded =>
        dsimp only
        rw [Action.bind_apply, Action.ofExcept_apply]
        cases coded.setToken rng response.token <;> rfl

theorem stays_sendAckOfResponse (message : Message) :
    Stays requests c q False (Shown r) tid
      (onMessage (sendAckOfResponse rng tid message) : Action Failure (Node ω) Message) := by
  refine stays_onMessage _ fun m => ?_
  rcases sendAckOfResponse_state rng tid message m with heq | ⟨response, hresponse, heq⟩
  · rw [heq]
    exact ⟨leaves_refl m, id⟩
  · rw [heq, update_cell_self]
    refine ⟨leaves_update m tid _ (Kin.refl _), fun hshown m' hm' => ?_⟩
    cases hm'
    exact (hshown response hresponse).setAcknowledged

theorem stays_sendAck :
    Stays requests c q False (Shown r) tid
      (sendAck P address rng tid : Action Failure (Node ω) Unit) := by
  refine triple_bind _ _ (stays_getTransaction tid) fun t => ?_
  cases t.response with
  | none => exact triple_raise _ fun n hn => hn.2.ended
  | some response =>
    dsimp only
    split
    · refine Triple.conseq ?_ (fun n hn => hn.2) (fun _ _ h => h) fun _ h => h
      refine triple_bind _ _ (stays_sendAckOfResponse rng r _) fun ack => ?_
      split
      · exact triple_bind _ _ (stays_sendDatagram ack) fun _ => triple_pure _ fun _ h => h
      · exact triple_pure _ fun _ h => h
    · exact triple_pure _ fun n hn => hn.2

theorem stays_acknowledgeNotification :
    Stays requests c q False (Shown r) tid
      (acknowledgeNotification rng tid : Action Failure (Node ω) Unit) :=
  triple_bind _ _ (stays_sendAckOfResponse rng r _) fun _ => triple_pure _ fun _ h => h

theorem ends_sendBlockRequest (R : Option Message → Prop) (hfresh : Fresh requests)
    (hq : q ∈ requests) :
    Triple (Working requests c q False R tid)
      (sendBlockRequest P address now rng tid : Action Failure (Node ω) Unit)
      (fun _ => Ended requests c) (Ended requests c) := by
  refine triple_bind _ _ (stays_getTransaction tid) fun t => ?_
  refine triple_given _ (F := Kin q t.request) (fun n hn => hn.1 ▸ hn.2.kin) fun hkin => ?_
  refine Triple.conseq ?_ (fun n hn => hn.2.ended) (fun _ _ h => h) fun _ h => h
  refine triple_bind _ _ (enters_sendRequest now rng t.request hfresh hq hkin) fun tid' => ?_
  refine triple_bind _ _ (stays_updateTransaction _
    (fun t _ => kin_setAcknowledged t.request false) fun _ h => h) fun _ => ?_
  have hsent : Stays requests c q (q.multicast = false) (fun _ => True) tid'
      (sendRequestOf P address tid' : Action Failure (Node ω) Unit) := stays_sendRequestOf
  have hended : ∀ n : Node ω, Ended requests c n → Ended requests c
      (updateTransaction tid' (fun t => { t with completed := true }) n).2 :=
    fun n hn => hn.leaves (leaves_update n.server.message tid'
      (fun t => { t with completed := true }) (Kin.refl _)) rfl rfl
  refine ⟨?_, ?_⟩
  · intro n hn a n' hr
    generalize hresult : sendRequestOf P address tid' n = result at hr
    obtain ⟨result, n₁⟩ := result
    cases result with
    | ok u =>
      cases hr
      exact (hsent.returns n hn _ _ hresult).ended
    | error e =>
      have hafter := hended n₁ (hsent.raises n hn _ _ hresult)
      cases hr
      exact hafter
  · intro n hn e n' hr
    generalize hresult : sendRequestOf P address tid' n = result at hr
    obtain ⟨result, n₁⟩ := result
    cases result with
    | ok u => cases hr
    | error e => cases hr

/-- Some response as it was received has been handed to the waiters, or none. -/
def Handed (requests : List Message) (c : CallbackLayer.State) (P : Platform) (r : Message)
    (n : Node ω) : Prop :=
  ∃ c', Ended requests c' n ∧ (c' = c ∨ ∃ m, Reported r m ∧ c' = (CallbackLayer.setResult P m c).2)

theorem handed_of_ended {n : Node ω} (h : Ended requests c n) : Handed requests c P r n :=
  ⟨c, h, Or.inl rfl⟩

theorem handed_setResult (m : Message) (hslots : Slots c) (hreported : Reported r m) :
    Triple (Ended requests c)
      (onCallback (CallbackLayer.setResult P m) : Action Failure (Node ω) Unit)
      (fun _ => Handed requests c P r) (Handed requests c P r) := by
  have hhanded : ∀ n : Node ω, Ended requests c n → Handed requests c P r
      { n with callback := (CallbackLayer.setResult P m n.callback).2 } := by
    intro n hn
    rw [hn.callback]
    exact ⟨_, hn.answered _ (setResult_slots P m c hslots).2, Or.inr ⟨m, hreported, rfl⟩⟩
  refine triple_zoom _ _ _ _ fun n hn => ⟨?_, ?_⟩
  · rintro _ rfl a c' hr
    have hafter := hhanded n hn
    rw [hr] at hafter
    exact hafter
  · rintro _ rfl e c' hr
    have hafter := hhanded n hn
    rw [hr] at hafter
    exact hafter

theorem observed_state (relations : ObserveLayer.Relations) (t : Transaction) :
    (ObserveLayer.receiveResponse (relations, t)).2.1 = relations ∧
      (ObserveLayer.receiveResponse (relations, t)).2.2.request = t.request ∧
      (ObserveLayer.receiveResponse (relations, t)).2.2.response = t.response := by
  unfold ObserveLayer.receiveResponse
  dsimp only
  split
  · exact ⟨rfl, rfl, rfl⟩
  · split
    · exact ⟨rfl, rfl, rfl⟩
    · split <;> exact ⟨rfl, rfl, rfl⟩

theorem stays_observed :
    Stays requests c q False (Shown r) tid
      (onObserve tid ObserveLayer.receiveResponse : Action Failure (Node ω) Unit) := by
  have hstep : ∀ (n : Node ω) (result : Except PyErr Unit) (o : ObserveLayer.Relations)
      (t : Transaction), Working requests c q False (Shown r) tid n →
      ObserveLayer.receiveResponse (n.server.observe, n.transaction tid) = (result, o, t) →
      Working requests c q False (Shown r) tid
        { n with server := { n.server with observe := o }.setTransaction tid t } := by
    intro n result o t hn hr
    obtain ⟨hrelations, hrequest, hresponse⟩ := observed_state n.server.observe (n.transaction tid)
    rw [hr] at hrelations hrequest hresponse
    refine hn.setTransaction t ?_ ?_ rfl hrelations rfl
    · rw [show t.request = _ from hrequest]
      exact Kin.refl _
    · rw [show t.response = _ from hresponse]
      exact id
  refine triple_zoom _ _ _ _ fun n hn => ⟨?_, ?_⟩
  · rintro _ rfl a p hr
    exact hstep n _ p.1 p.2 hn hr
  · rintro _ rfl e p hr
    exact (hstep n _ p.1 p.2 hn hr).ended

theorem handed_response (hslots : Slots c) (f : Transaction → Action Failure (Node ω) Unit)
    (hnone : ∀ t, t.response = none → f t = Action.raise (.raised .attributeError))
    (hsome : ∀ t m, t.response = some m → f t = onCallback (CallbackLayer.setResult P m)) :
    Triple (Working requests c q False (Shown r) tid) (getTransaction tid >>= f)
      (fun _ => Handed requests c P r) (Handed requests c P r) := by
  refine triple_bind _ _ ((stays_getTransaction tid).conseq (fun _ h => h) (fun _ _ h => h)
    fun _ h => handed_of_ended r h) fun t => ?_
  cases hresponse : t.response with
  | none =>
    rw [hnone t hresponse]
    exact triple_raise _ fun n hn => handed_of_ended r hn.2.ended
  | some m =>
    rw [hsome t m hresponse]
    refine triple_given _ (F := Reported r m) ?_ fun hreported => ?_
    · rintro n ⟨rfl, hn⟩
      exact hn.response m hresponse
    · exact (handed_setResult r m hslots hreported).conseq (fun _ h => h.2.ended) (fun _ _ h => h)
        fun _ h => h

theorem handed_deliver (hslots : Slots c) :
    Triple (Working requests c q False (Shown r) tid)
      (deliver P rng tid : Action Failure (Node ω) Unit) (fun _ => Handed requests c P r)
      (Handed requests c P r) := by
  have hraised : ∀ {α : Type} {x : Action Failure (Node ω) α} {Q : α → Node ω → Prop},
      Triple (Working requests c q False (Shown r) tid) x Q (Ended requests c) →
      Triple (Working requests c q False (Shown r) tid) x Q (Handed requests c P r) :=
    fun h => h.conseq (fun _ h => h) (fun _ _ h => h) fun _ h => handed_of_ended r h
  refine triple_bind _ _ (hraised (stays_observed r)) fun _ => ?_
  refine triple_bind _ _ (hraised (stays_getTransaction tid)) fun t => ?_
  refine Triple.conseq ?_ (fun n hn => hn.2) (fun _ _ h => h) fun _ h => h
  dsimp only
  split
  · refine triple_bind _ _ (hraised (stays_acknowledgeNotification rng r)) fun _ => ?_
    exact handed_response r hslots _ (fun t ht => by simp only [ht]) fun t m ht => by simp only [ht]
  · exact handed_response r hslots _ (fun t ht => by simp only [ht]) fun t m ht => by simp only [ht]

theorem kin_receiveResponse (s : BlockLayer.State) (t : Transaction) :
    Kin t.request (BlockLayer.receiveResponse rng (s, t)).2.2.request := by
  cases hresponse : t.response with
  | none =>
    unfold BlockLayer.receiveResponse
    simp only [hresponse]
    exact Kin.refl _
  | some response => exact (settles_receiveResponse s t rng response hresponse).kin

theorem joins_receiveResponse :
    Triple (Working requests c q False (Shown r) tid)
      (onBlock tid (BlockLayer.receiveResponse rng) : Action Failure (Node ω) Bool)
      (fun _ n => Working requests c q False (fun _ => True) tid n ∧
        ((n.transaction tid).blockTransfer = false → Shown r (n.transaction tid).response))
      (Ended requests c) := by
  have hstep : ∀ (n : Node ω) (result : Except PyErr Bool) (s : BlockLayer.State)
      (t : Transaction), Working requests c q False (Shown r) tid n →
      BlockLayer.receiveResponse rng (n.server.block, n.transaction tid) = (result, s, t) →
      Working requests c q False (fun _ => True) tid
        { n with server := { n.server with block := s }.setTransaction tid t } := by
    intro n result s t hn hr
    have hkin := kin_receiveResponse rng n.server.block (n.transaction tid)
    rw [hr] at hkin
    exact hn.setTransaction t hkin (fun _ => trivial) rfl rfl rfl
  refine triple_zoom _ _ _ _ fun n hn => ⟨?_, ?_⟩
  · rintro _ rfl b p hr
    refine ⟨hstep n _ p.1 p.2 hn hr, ?_⟩
    have hcell : ({ n with server := ({ n.server with block := p.1 } :
        Server.State ω).setTransaction tid p.2 } : Node ω).transaction tid = p.2 :=
      Heap.set_cell_self n.server.message.heap tid p.2
    rw [hcell]
    intro htransfer m hm
    cases hresponse : (n.transaction tid).response with
    | none =>
      have hraised : (BlockLayer.receiveResponse rng (n.server.block, n.transaction tid)).1 =
          .error .attributeError := by
        unfold BlockLayer.receiveResponse
        simp only [hresponse]
      rw [hr] at hraised
      cases hraised
    | some response =>
      have hsettles := settles_receiveResponse n.server.block (n.transaction tid) rng response
        hresponse
      rw [hr] at hsettles
      obtain ⟨payload, hrejoined⟩ := hsettles.rejoined b rfl htransfer
      have hsame : m = response.setPayload payload := Option.some.inj (hm.symm.trans hrejoined)
      rw [hsame]
      exact (hn.response response hresponse).setPayload r response payload
  · rintro _ rfl e p hr
    exact (hstep n _ p.1 p.2 hn hr).ended

theorem handed_paired (P : Platform) (address : Address) (tid : ℕ) (hslots : Slots c)
    (hfresh : Fresh requests) (hq : q ∈ requests) (f : Transaction → Action Failure (Node ω) Unit)
    (htransfer : ∀ t, t.blockTransfer = true → f t = sendBlockRequest P address now rng tid)
    (hwhole : ∀ t, t.blockTransfer = false → f t = deliver P rng tid) :
    Triple (Working requests c q False (Shown r) tid)
      (onBlock tid (BlockLayer.receiveResponse rng) >>= fun _ => getTransaction tid >>= f)
      (fun _ => Handed requests c P r) (Handed requests c P r) := by
  refine triple_bind _ _ ((joins_receiveResponse rng r).conseq (fun _ h => h) (fun _ _ h => h)
    fun _ h => handed_of_ended r h) fun _ => ?_
  have hends : ∀ n : Node ω, Working requests c q False (fun _ => True) tid n ∧
      ((n.transaction tid).blockTransfer = false → Shown r (n.transaction tid).response) →
      Handed requests c P r (f (n.transaction tid) n).2 := by
    rintro n ⟨hn, hshown⟩
    cases hcase : (n.transaction tid).blockTransfer with
    | true =>
      rw [htransfer _ hcase]
      have hsent : Triple (Working requests c q False (fun _ => True) tid)
          (sendBlockRequest P address now rng tid : Action Failure (Node ω) Unit)
          (fun _ => Ended requests c) (Ended requests c) :=
        ends_sendBlockRequest now rng (fun _ => True) hfresh hq
      obtain ⟨served, own, hsits⟩ := hn
      exact hsent.ends n ⟨served, own, hsits.kept, hsits.mem, hsits.kin, False.elim, trivial⟩
        (fun _ _ h => handed_of_ended r h) fun _ h => handed_of_ended r h
    | false =>
      rw [hwhole _ hcase]
      obtain ⟨served, own, hsits⟩ := hn
      exact (handed_deliver rng r hslots).ends n
        ⟨served, own, hsits.kept, hsits.mem, hsits.kin, False.elim, hshown hcase⟩
        (fun _ _ h => h) fun _ h => h
  refine ⟨?_, ?_⟩
  · intro n hn a n' hr
    have hafter := hends n hn
    rw [show f (n.transaction tid) n = (.ok a, n') from hr] at hafter
    exact hafter
  · intro n hn e n' hr
    have hafter := hends n hn
    rw [show f (n.transaction tid) n = (.error e, n') from hr] at hafter
    exact hafter

theorem pairs_receiveResponse :
    Triple (Ended requests c)
      (onMessage (MessagePairing.receiveResponse (printed r)) :
        Action Failure (Node ω) (Option ℕ × Bool))
      (fun p n => p.1 = none ∧ Ended requests c n ∨ ∃ tid, p.1 = some tid ∧ ∃ q ∈ requests,
        Working requests c q False (Shown r) tid n) (Ended requests c) := by
  have hstep : ∀ (n : Node ω) (result : Except PyErr (Option ℕ × Bool)) (m : MessageLayer.State),
      Ended requests c n →
      MessagePairing.receiveResponse (printed r) n.server.message = (result, m) →
      (m = n.server.message ∧ ∀ tid b, result ≠ .ok (some tid, b)) ∨
        ∃ tid b, result = .ok (some tid, b) ∧ ∃ q ∈ requests,
          Working requests c q False (Shown r) tid
            { n with server := { n.server with message := m } } := by
    rintro n result m ⟨served, own, hkept⟩ hr
    rcases receiveResponse_pairs n.server.message (printed r) result m hr with hnone |
      ⟨tid, b, address, destination, hresult, hmatch, rfl⟩
    · exact Or.inl hnone
    · have hmem := matchResponse_own served own n.server.message _ _ _ tid hkept.holds.leads hmatch
      obtain ⟨q, hq, hkin⟩ := hkept.holds.owned tid hmem
      refine Or.inr ⟨tid, b, hresult, q, hq, ?_⟩
      have hworking : Working requests c q False (fun _ => True) tid n :=
        ⟨served, own, hkept, hmem, hkin, False.elim, trivial⟩
      refine hworking.setTransaction
        { acknowledgeRequest (n.transaction tid) with
          completed := true, response := some (printed r) }
        (kin_setAcknowledged (n.transaction tid).request true) (fun _ m' hm' => ?_) rfl rfl rfl
      cases hm'
      exact reported_printed r
  refine triple_zoom _ _ _ _ fun n hn => ⟨?_, ?_⟩
  · rintro _ rfl p m hr
    rcases hstep n _ m hn hr with ⟨rfl, hnone⟩ | ⟨tid, b, hresult, hworking⟩
    · obtain ⟨paired, b⟩ := p
      cases paired with
      | none => exact Or.inl ⟨rfl, hn⟩
      | some tid => exact absurd rfl (hnone tid b)
    · cases hresult
      exact Or.inr ⟨tid, rfl, hworking⟩
  · rintro _ rfl e m hr
    rcases hstep n _ m hn hr with ⟨rfl, _⟩ | ⟨tid, b, hresult, _⟩
    · exact hn
    · cases hresult

theorem handed_datagramReceivedResponse (P : Platform) (address : Address) (hslots : Slots c)
    (hfresh : Fresh requests) (n : Node ω) (hn : Ended requests c n) :
    Handed requests c P r (datagramReceivedResponse P address now rng r n).2 := by
  have hreceives : Triple (Ended requests c)
      (datagramReceivedResponse P address now rng r : Action Failure (Node ω) Unit)
      (fun _ => Handed requests c P r) (Handed requests c P r) := by
    refine triple_bind _ _ (triple_ofExcept _ fun _ h => handed_of_ended r h) fun _ => ?_
    refine triple_bind _ _ ((pairs_receiveResponse r).conseq (fun _ h => h) (fun _ _ h => h)
      fun _ h => handed_of_ended r h) fun p => ?_
    obtain ⟨paired, isConfirmable⟩ := p
    cases paired with
    | none =>
      refine triple_pure _ fun n hn => ?_
      rcases hn with ⟨_, hn⟩ | ⟨tid, htid, _⟩
      · exact handed_of_ended r hn
      · cases htid
    | some tid =>
      have hq : ∀ q ∈ requests, Triple (Working requests c q False (Shown r) tid)
          (do
            if isConfirmable then sendAck P address rng tid
            let _ ← onBlock tid (BlockLayer.receiveResponse rng)
            let t ← getTransaction tid
            if t.blockTransfer then sendBlockRequest P address now rng tid
            else deliver P rng tid : Action Failure (Node ω) Unit)
          (fun _ => Handed requests c P r) (Handed requests c P r) := by
        intro q hq
        have hrest : Triple (Working requests c q False (Shown r) tid)
            (onBlock tid (BlockLayer.receiveResponse rng) >>= fun _ => getTransaction tid >>=
              fun t => if t.blockTransfer then sendBlockRequest P address now rng tid
                else deliver P rng tid : Action Failure (Node ω) Unit)
            (fun _ => Handed requests c P r) (Handed requests c P r) :=
          handed_paired now rng r P address tid hslots hfresh hq
            (fun t => if t.blockTransfer then sendBlockRequest P address now rng tid
              else deliver P rng tid)
            (fun t ht => by simp only [ht, ↓reduceIte])
            (fun t ht => by simp only [ht, Bool.false_eq_true, ↓reduceIte])
        dsimp only
        split
        · refine triple_bind _ _ ((stays_sendAck rng r).conseq (fun _ h => h) (fun _ _ h => h)
            fun _ h => handed_of_ended r h) fun _ => ?_
          exact hrest
        · exact hrest
      refine ⟨?_, ?_⟩
      · rintro n (⟨hnone, _⟩ | ⟨tid', htid, q, hmem, hworking⟩) a n' hr
        · cases hnone
        · cases htid
          exact (hq q hmem).returns n hworking a n' hr
      · rintro n (⟨hnone, _⟩ | ⟨tid', htid, q, hmem, hworking⟩) e n' hr
        · cases hnone
        · cases htid
          exact (hq q hmem).raises n hworking e n' hr
  exact hreceives.ends n hn (fun _ _ h => h) fun _ h => h

end Working

end BubotCoap.ClientReceptions
