import BubotCoap.ClientReceptions

set_option autoImplicit false

namespace BubotCoap.ClientRuns
open PythonData Defines Utils Messages OrderedDict Transactions Resources MessageLayer
  MessageTables ActionTriples OwnTransactions FallibleState Rendering Client ClientLayers
  ClientSteps ClientInvariant ClientReceptions ExchangeKeys

variable {ω : Type} (P : Platform) (address : Address) (ipv6 : Text → Bool)
  (handlers : Handlers ω)

/-- The requests for whose responses the event makes the node wait. -/
def asked : Timed → List Message
  | (_, .send rng false request) => [{ request with token := some (request.token.getD rng) }]
  | _ => []

def requestsOf (events : List Timed) : List Message := events.flatMap asked

theorem requestsOf_append (events later : List Timed) :
    requestsOf (events ++ later) = requestsOf events ++ requestsOf later :=
  List.flatMap_append

structure Inv (requests : List Message) (n : Node ω) : Prop where
  slots : Slots n.callback
  ended : Ended requests n.callback n

section Moves
variable {requests : List Message} {c : CallbackLayer.State}

theorem ended_onRelations {α : Type} (x : Action PyErr ObserveLayer.Relations α)
    (hx : ∀ served o, Observes served o → Observes served (x o).2) :
    Triple (Ended requests c) (onRelations x : Action Failure (Node ω) α)
      (fun _ => Ended requests c) (Ended requests c) := by
  refine triple_zoom _ _ _ _ fun n hn => ⟨?_, ?_⟩
  · rintro _ rfl a o hr
    obtain ⟨served, own, hkept⟩ := hn
    have hobserves := hx served n.server.observe hkept.observes
    rw [hr] at hobserves
    exact ⟨served, own, hkept.holds, hobserves, hkept.callback, hkept.stored, hkept.asked⟩
  · rintro _ rfl e o hr
    obtain ⟨served, own, hkept⟩ := hn
    have hobserves := hx served n.server.observe hkept.observes
    rw [hr] at hobserves
    exact ⟨served, own, hkept.holds, hobserves, hkept.callback, hkept.stored, hkept.asked⟩

theorem ended_onMessage {α : Type} (x : Action PyErr MessageLayer.State α)
    (hx : ∀ m, Leaves m (x m).2) :
    Triple (Ended requests c) (onMessage x : Action Failure (Node ω) α)
      (fun _ => Ended requests c) (Ended requests c) := by
  refine triple_zoom _ _ _ _ fun n hn => ⟨?_, ?_⟩
  · rintro _ rfl a m hr
    have hleaves := hx n.server.message
    rw [hr] at hleaves
    exact hn.leaves hleaves rfl rfl
  · rintro _ rfl e m hr
    have hleaves := hx n.server.message
    rw [hr] at hleaves
    exact hn.leaves hleaves rfl rfl

theorem ended_sendDatagram (message : Message) :
    Triple (Ended requests c) (sendDatagram P address message : Action Failure (Node ω) Message)
      (fun _ => Ended requests c) (Ended requests c) := by
  refine triple_bind _ _ (triple_ofExcept _ fun _ h => h) fun sent => ?_
  have hmodify : Triple (Ended requests c)
      (Action.modify fun n => { n with sent := n.sent ++ [sent] } : Action Failure (Node ω) Unit)
      (fun _ => Ended requests c) (Ended requests c) :=
    triple_modify _ fun n hn => hn.leaves (leaves_refl _) rfl rfl
  exact triple_bind _ _ hmodify fun _ => triple_pure _ fun _ h => h

theorem observes_sendRequest (now : ℚ) (request : Message) (served : List ℕ)
    (o : ObserveLayer.Relations) (h : Observes served o) :
    Observes served (ObserveLayer.sendRequest now request o).2 := by
  unfold ObserveLayer.sendRequest
  split
  · split
    · exact h
    · exact observes_insert served o _ _ h fun i hi => by cases hi
  · exact h

theorem observes_sendEmpty (message : Message) (served : List ℕ) (o : ObserveLayer.Relations)
    (h : Observes served o) : Observes served (ObserveLayer.sendEmpty message o).2 := by
  unfold ObserveLayer.sendEmpty
  split
  · exact h
  · split
    · exact observes_erase served o _ h
    · exact h

end Moves

section Sending
variable {requests : List Message} {c : CallbackLayer.State} (now : ℚ) (rng : Bytes)
  (request : Message)

theorem ended_onBlockState (m : Message) :
    Triple (Ended requests c)
      (onBlockState (BlockLayer.sendRequest m) : Action Failure (Node ω) Message)
      (fun m' n => Kin m m' ∧ Ended requests c n) (Ended requests c) := by
  refine triple_zoom _ _ _ _ fun n hn => ⟨?_, ?_⟩
  · rintro _ rfl m' b hr
    refine ⟨kin_sendRequest _ m m' (by rw [hr]), ?_⟩
    exact hn.leaves (leaves_refl _) rfl rfl
  · rintro _ rfl e b hr
    exact hn.leaves (leaves_refl _) rfl rfl

/-- The node waits for one request more, or not. -/
structure Waits (requests : List Message) (c : CallbackLayer.State) (n : Node ω) : Prop where
  inv : Inv requests n
  callback : n.callback = c ∨ ∃ q, n.callback = CallbackLayer.wait q c

theorem inv_of_ended {n : Node ω} (h : Ended requests c n) (hslots : Slots c) :
    Inv requests n := by
  have hcallback := h.callback
  subst hcallback
  exact ⟨hslots, h⟩

theorem waits_of_ended {n : Node ω} (h : Ended requests c n) (hslots : Slots c) :
    Waits requests c n :=
  ⟨inv_of_ended h hslots, Or.inl h.callback⟩

theorem waits_wait {q : Message} {R : Option Message → Prop} {tid : ℕ} {n : Node ω}
    (h : Working requests c q (q.multicast = false) R tid n) (hslots : Slots c) (hq : q ∈ requests)
    (hnew : ∀ (i : ℕ) w, c.waiters[i]? = some w → w.request.token ≠ q.token) :
    Waits requests c
      { n with callback := CallbackLayer.wait (n.transaction tid).request n.callback } := by
  obtain ⟨served, own, hsits⟩ := h
  have hkept := hsits.kept
  have hkin := hsits.kin
  have hold : ∀ (i : ℕ) w,
      (CallbackLayer.wait (n.transaction tid).request n.callback).waiters[i]? = some w →
      c.waiters[i]? = some w ∨ w = CallbackLayer.Waiter.new (n.transaction tid).request := by
    intro i w hw
    rw [hkept.callback] at hw
    exact (wait_waiters _ c i w hw).imp id And.right
  refine ⟨⟨?_, served, own, hkept.holds, hkept.observes, rfl, ?_, ?_⟩,
    Or.inr ⟨_, congrArg (CallbackLayer.wait (n.transaction tid).request) hkept.callback⟩⟩
  · change Slots (CallbackLayer.wait (n.transaction tid).request n.callback)
    rw [hkept.callback]
    refine wait_slots _ c hslots fun i w hw => ?_
    rw [hkin.token]
    exact hnew i w hw
  · intro i w hw hunicast
    rcases hold i w hw with hw | rfl
    · exact hkept.stored i w hw hunicast
    · obtain ⟨address, j, hdestination, hget, hcell⟩ :=
        hsits.stored (hkin.multicast.symm.trans hunicast)
      refine ⟨address, j, hkin.destination.trans hdestination, ?_,
        (hkin.symm _ _).trans _ _ _ hcell⟩
      change n.server.message.transactionsSentToken.get?
        (key address (tokenArg (n.transaction tid).request.token)) = some j
      rw [hkin.token]
      exact hget
  · intro i w hw
    rcases hold i w hw with hw | rfl
    · exact hkept.asked i w hw
    · exact ⟨q, hq, hkin⟩

theorem waits_awaited {q : Message} (m : Message) (hkin : Kin q m) (hslots : Slots c)
    (hfresh : Fresh requests) (hq : q ∈ requests)
    (hnew : ∀ (i : ℕ) w, c.waiters[i]? = some w → w.request.token ≠ q.token) :
    Triple (Ended requests c) (do
        let tid ← onMessage (MessagePairing.sendRequest now rng m)
        sendRequestOf P address tid
        let t ← getTransaction tid
        let _line ← Action.ofExcept (linePrint P t.request)
        onCallback (Action.modify (CallbackLayer.wait t.request)) : Action Failure (Node ω) Unit)
      (fun _ => Waits requests c) (Waits requests c) := by
  have hraised : ∀ n : Node ω, Ended requests c n → Waits requests c n :=
    fun _ h => waits_of_ended h hslots
  refine triple_bind _ _ ((enters_sendRequest now rng m hfresh hq hkin).conseq (fun _ h => h)
    (fun _ _ h => h) hraised) fun tid => ?_
  refine triple_bind _ _ (stays_sendRequestOf.conseq (fun _ h => h) (fun _ _ h => h) hraised)
    fun _ => ?_
  refine triple_bind _ _ ((stays_getTransaction tid).conseq (fun _ h => h) (fun _ _ h => h)
    hraised) fun t => ?_
  refine triple_bind _ _ (triple_ofExcept _ fun n hn => hraised n hn.2.ended) fun _ => ?_
  have hwait : ∀ n : Node ω, t = n.transaction tid ∧
      Working requests c q (q.multicast = false) (fun _ => True) tid n →
      Waits requests c { n with callback := CallbackLayer.wait t.request n.callback } := by
    rintro n ⟨rfl, hn⟩
    exact waits_wait hn hslots hq hnew
  refine ⟨?_, ?_⟩
  · intro n hn a n' hr
    cases hr
    exact hwait n hn
  · intro n hn e n' hr
    cases hr

theorem waits_sendMessage (noResponse : Bool) (n : Node ω)
    (h : Inv requests n)
    (hfresh : Fresh (requests ++ asked (now, .send rng noResponse request))) :
    Waits (requests ++ asked (now, .send rng noResponse request)) n.callback
      (sendMessage P address now rng noResponse request n).2 := by
  have hended := h.ended.mono (requests ++ asked (now, .send rng noResponse request))
    (List.subset_append_left _ _)
  have hslots := h.slots
  have hasked : ∀ (i : ℕ) w, n.callback.waiters[i]? = some w → ∃ q ∈ requests, Kin q w.request := by
    obtain ⟨_, _, hkept⟩ := h.ended
    exact hkept.asked
  generalize n.callback = c at hended hslots hasked ⊢
  generalize hrequests : requests ++ asked (now, .send rng noResponse request) = requests'
    at hended hfresh
  have hraised : ∀ n : Node ω, Ended requests' c n → Waits requests' c n :=
    fun _ h => waits_of_ended h hslots
  have hsends : Triple (Ended requests' c)
      (sendMessage P address now rng noResponse request : Action Failure (Node ω) Unit)
      (fun _ => Waits requests' c) (Waits requests' c) := by
    refine triple_bind _ _ ((ended_onRelations _ (observes_sendRequest now _)).conseq
      (fun _ h => h) (fun _ _ h => h) hraised) fun _ => ?_
    refine triple_bind _ _ ((ended_onBlockState _).conseq (fun _ h => h) (fun _ _ h => h)
      hraised) fun m => ?_
    cases noResponse with
    | true =>
      refine triple_bind _ _ ((ended_sendDatagram P address m).conseq (fun _ h => h.2)
        (fun _ _ h => h) hraised) fun _ => triple_pure _ hraised
    | false =>
      have hq : { request with token := some (request.token.getD rng) } ∈ requests' := by
        rw [← hrequests]
        exact List.mem_append_right _ List.mem_cons_self
      have hnew : ∀ (i : ℕ) w, c.waiters[i]? = some w →
          w.request.token ≠ some (request.token.getD rng) := by
        intro i w hw htoken
        obtain ⟨q, hq, hkin⟩ := hasked i w hw
        have hnodup := hfresh.nodup
        rw [← hrequests, List.map_append, List.nodup_append] at hnodup
        exact hnodup.2.2 _ (List.mem_map_of_mem hq) _ (List.mem_singleton_self _)
          (hkin.token.symm.trans htoken)
      refine triple_given _ (fun n hn => hn.1) fun hkin => ?_
      exact (waits_awaited P address now rng m hkin hslots hfresh hq hnew).conseq (fun _ h => h.2)
        (fun _ _ h => h) fun _ h => h
  exact hsends.ends n hended (fun _ _ h => h) fun _ h => h

end Sending

section EmptyMessages
variable (rng : Bytes) (message : Message)

theorem leaves_ofExcept {α : Type} (x : Except PyErr α) :
    Action.Moves Leaves (Action.ofExcept x : Action PyErr MessageLayer.State α) :=
  fun m => leaves_refl m

theorem leaves_sendAckOfResponse (tid : ℕ) :
    Action.Moves Leaves (sendAckOfResponse rng tid message) := by
  intro m
  rcases sendAckOfResponse_state rng tid message m with heq | ⟨response, _, heq⟩
  · exact leaves_of_eq _ _ heq
  · rw [heq]
    exact leaves_update m tid _ (Kin.refl _)

theorem leaves_sendRstOfResponse (tid : ℕ) :
    Action.Moves Leaves (sendRstOfResponse rng tid message) := by
  have hnamed : ∀ (response : Message) (m : Message), Action.Moves Leaves (do
      let message ← Action.ofExcept (m.setCode (some Codes.empty))
      let message ← Action.ofExcept (message.setToken rng response.token)
      pure { message with
        destination := response.source
        scheme := some response.schemeText } : Action PyErr MessageLayer.State Message) := by
    intro response m
    refine Action.Moves.andThen _ Leaves.trans _ _ (leaves_ofExcept _) fun _ => ?_
    exact Action.Moves.andThen _ Leaves.trans _ _ (leaves_ofExcept _) fun _ => leaves_refl
  refine Action.Moves.andThen _ Leaves.trans _ _ leaves_refl fun s => ?_
  cases (s.heap.cell tid).response with
  | none => exact leaves_refl
  | some response =>
    refine Action.Moves.andThen _ Leaves.trans _ _ (fun m => leaves_update m tid
      (fun t => { t with response := some (response.setRejected true), completed := true })
      (Kin.refl _)) fun _ => ?_
    dsimp only
    split
    · exact hnamed response _
    · refine Action.Moves.andThen _ Leaves.trans _ _ ?_ fun mid => ?_
      · exact fun m => ⟨rfl, rfl, rfl, rfl, rfl, fun _ => Kin.refl _⟩
      · exact Action.Moves.andThen _ Leaves.trans _ _ (leaves_ofExcept _) fun _ => hnamed response _

theorem leaves_sendEmpty : Action.Moves Leaves (sendEmpty rng message) := by
  intro m
  unfold sendEmpty
  split
  · exact leaves_refl m
  · split
    · exact leaves_refl m
    · split
      · exact leaves_sendAckOfResponse rng message _ m
      · exact leaves_sendRstOfResponse rng message _ m
      · exact leaves_refl m

theorem kin_pairEmpty (type : Option MsgType) (t t' : Transaction)
    (h : MessagePairing.pairEmpty type t = .ok t') : Kin t.request t'.request := by
  unfold MessagePairing.pairEmpty at h
  split at h
  · split at h
    · cases h
      exact kin_setAcknowledged t.request true
    · split at h
      · cases h
        exact Kin.refl _
      · split at h <;>
        · cases h
          exact Kin.refl _
  · split at h
    · cases h
      exact ⟨rfl, rfl, rfl, rfl⟩
    · split at h
      · cases h
      · split at h <;>
        · cases h
          exact Kin.refl _
  · cases h
    exact kin_setAcknowledged t.request true
  · cases h
    exact Kin.refl _

theorem leaves_receiveEmpty : Action.Moves Leaves (MessagePairing.receiveEmpty ipv6 message) := by
  intro m
  rcases receiveEmpty_pairs m ipv6 message with heq | ⟨_, tid, t, _, _, hpair, heq⟩
  · exact leaves_of_eq _ _ heq
  · rw [heq]
    exact leaves_update m tid _ (kin_pairEmpty _ _ _ hpair)

variable {requests : List Message} {c : CallbackLayer.State}

theorem ended_sendEmptyMessage :
    Triple (Ended requests c)
      (sendEmptyMessage P address rng message : Action Failure (Node ω) Unit)
      (fun _ => Ended requests c) (Ended requests c) := by
  refine triple_bind _ _ (ended_onRelations _ (observes_sendEmpty message)) fun _ => ?_
  refine triple_bind _ _ (ended_onMessage _ (leaves_sendEmpty rng message)) fun m => ?_
  exact triple_bind _ _ (ended_sendDatagram P address m) fun _ => triple_pure _ fun _ h => h

theorem ended_onObserve {α : Type} (tid : ℕ)
    (x : Action PyErr (ObserveLayer.Relations × Transaction) α)
    (hx : ∀ served o t, Observes served o → Observes served (x (o, t)).2.1)
    (hkin : ∀ o t, Kin t.request (x (o, t)).2.2.request) :
    Triple (Ended requests c) (onObserve tid x : Action Failure (Node ω) α)
      (fun _ => Ended requests c) (Ended requests c) := by
  have hstep : ∀ (n : Node ω) (result : Except PyErr α) (o : ObserveLayer.Relations)
      (t : Transaction), Ended requests c n →
      x (n.server.observe, n.transaction tid) = (result, o, t) →
      Ended requests c
        { n with server := { n.server with observe := o }.setTransaction tid t } := by
    rintro n result o t hn hr
    have hkin' := hkin n.server.observe (n.transaction tid)
    rw [hr] at hkin'
    have hmessage : Leaves n.server.message
        (({ n.server with observe := o } : Server.State ω).setTransaction tid t).message :=
      leaves_update n.server.message tid (fun _ => t) hkin'
    obtain ⟨served, own, hkept⟩ := hn
    have hobserves := hx served n.server.observe (n.transaction tid) hkept.observes
    rw [hr] at hobserves
    exact ⟨served, own, hkept.holds.leaves _ hmessage, hobserves, hkept.callback,
      fun i w hw hunicast => (hkept.stored i w hw hunicast).leaves _ _ _ hmessage, hkept.asked⟩
  refine triple_zoom _ _ _ _ fun n hn => ⟨?_, ?_⟩
  · rintro _ rfl a p hr
    exact hstep n _ p.1 p.2 hn hr
  · rintro _ rfl e p hr
    exact hstep n _ p.1 p.2 hn hr

theorem ended_datagramReceivedMessage :
    Triple (Ended requests c)
      (datagramReceivedMessage P ipv6 message : Action Failure (Node ω) Unit)
      (fun _ => Ended requests c) (Ended requests c) := by
  refine triple_bind _ _ (triple_ofExcept _ fun _ h => h) fun _ => ?_
  refine triple_bind _ _ (ended_onMessage _ (leaves_receiveEmpty ipv6 _)) fun paired => ?_
  cases paired with
  | none => exact triple_pure _ fun _ h => h
  | some tid =>
    refine ended_onObserve tid _ (fun served o t h => ?_) fun o t => ?_
    · unfold ObserveLayer.receiveEmpty
      dsimp only
      split
      · split
        · exact h
        · exact observes_erase served o _ h
      · exact h
    · unfold ObserveLayer.receiveEmpty
      dsimp only
      split
      · split <;> exact Kin.refl _
      · exact Kin.refl _

end EmptyMessages

section Runs
variable {requests : List Message}

theorem ended_apart {c : CallbackLayer.State} {n : Node ω} (h : Ended requests c n)
    (s : Server.State ω)
    (hapart : ∀ served own, Apart served own n.server →
      ∃ served', Apart served' own s ∧ SameOwn own n.server.message s.message) :
    Ended requests c { n with server := s } := by
  obtain ⟨served, own, hkept⟩ := h
  have hholds := hkept.holds
  obtain ⟨served', hafter, hsame⟩ := hapart served own ⟨hholds.leads, hkept.observes,
    hholds.disjoint, hholds.served_lt, hholds.own_lt⟩
  exact ⟨served', own, hholds.congr s.message served' hafter.leads hafter.disjoint hafter.served_lt
    hsame.next hsame.sentToken hsame.cell, hafter.observes, hkept.callback, fun i w hw hunicast =>
    (hkept.stored i w hw hunicast).congr hholds s.message _ hsame.sentToken hsame.cell, hkept.asked⟩

theorem inv_callback {n : Node ω} (h : Inv requests n) (c' : CallbackLayer.State)
    (hc : Slots c' ∧ SameAsked n.callback c') : Inv requests { n with callback := c' } :=
  ⟨hc.1, h.ended.answered c' hc.2⟩

theorem inv_step (n : Node ω) (e : Timed) (h : Inv requests n)
    (hfresh : Fresh (requests ++ asked e)) :
    Inv (requests ++ asked e) (step P address ipv6 handlers n e) := by
  obtain ⟨now, e⟩ := e
  have hsame : ∀ n' : Node ω, asked (now, e) = [] → Inv requests n' →
      Inv (requests ++ asked (now, e)) n' := by
    intro n' hnone hn'
    rw [hnone, List.append_nil]
    exact hn'
  cases e with
  | send rng noResponse request =>
    exact (waits_sendMessage P address now rng request noResponse n h hfresh).inv
  | sendEmpty rng message =>
    refine hsame _ rfl ?_
    exact (ended_sendEmptyMessage P address rng message).ends n h.ended
      (fun _ _ h' => inv_of_ended h' h.slots) fun _ h' => inv_of_ended h' h.slots
  | response rng response =>
    refine hsame _ rfl ?_
    obtain ⟨c', hended, hc'⟩ := handed_datagramReceivedResponse now rng response P address
      h.slots (hfresh.of_append requests _) n h.ended
    refine inv_of_ended hended ?_
    rcases hc' with rfl | ⟨m, _, rfl⟩
    · exact h.slots
    · exact (setResult_slots P m n.callback h.slots).1
  | empty message =>
    refine hsame _ rfl ?_
    exact (ended_datagramReceivedMessage P ipv6 message).ends n h.ended
      (fun _ _ h' => inv_of_ended h' h.slots) fun _ h' => inv_of_ended h' h.slots
  | request rng request =>
    refine hsame _ rfl ⟨h.slots, ended_apart h.ended _ fun served own hapart => ?_⟩
    obtain ⟨served', hafter, hsameOwn⟩ := datagramReceivedRequest_apart handlers rng now request
      served own n.server hapart
    exact ⟨served', ⟨hafter.leads, hafter.observes, hafter.disjoint, hafter.served_lt,
      hafter.own_lt⟩, hsameOwn⟩
  | badMessage =>
    refine hsame _ rfl (inv_of_ended ?_ h.slots)
    exact h.ended.leaves ⟨rfl, rfl, rfl, rfl, rfl, fun _ => Kin.refl _⟩ rfl rfl
  | purge =>
    refine hsame _ rfl ⟨h.slots, ended_apart h.ended _ fun served own hapart => ?_⟩
    exact ⟨served, purge_apart now served own n.server hapart⟩
  | interrupt i e atOnce overrides =>
    exact hsame _ rfl (inv_callback h _ (interrupt_slots i e atOnce overrides n.callback h.slots))
  | wakeUp i => exact hsame _ rfl (inv_callback h _ (wakeUp_slots i n.callback h.slots))
  | cancelWaited e => exact hsame _ rfl (inv_callback h _ (cancelWaited_slots e n.callback h.slots))

theorem inv_new (startingMid : ℕ) (app : Application ω) :
    Inv [] (Node.new startingMid app : Node ω) := by
  refine ⟨slots_new, [], [], ⟨⟨?_, ?_, ?_, ?_⟩, ?_, ?_, ?_, ?_, ?_⟩, ?_, rfl, ?_, ?_⟩
  · exact leadsTo_empty []
  · exact leadsTo_empty []
  · exact leadsTo_empty []
  · exact leadsTo_empty []
  · intro i hi
    cases hi
  · intro i hi
    cases hi
  · intro i hi
    cases hi
  · intro i hi
    cases hi
  · intro k i hk
    cases hk
  · intro k item i hk
    cases hk
  · intro i w hw
    cases hw
  · intro i w hw
    cases hw

/-- In every run in which the tokens of its requests are fresh, the node keeps them where
responses find them. -/
theorem inv_run (startingMid : ℕ) (app : Application ω) (events : List Timed)
    (hfresh : Fresh (requestsOf events)) :
    Inv (requestsOf events) (run P address ipv6 handlers startingMid app events) := by
  unfold Client.run
  refine Runs.run_induction (step P address ipv6 handlers)
    (fun events n => Inv (requestsOf events) n) _ events (inv_new startingMid app) ?_
  intro pre e post hevents hinv
  have hsplit : requestsOf (pre ++ [e]) = requestsOf pre ++ asked e := by
    rw [requestsOf_append]
    exact congrArg _ (List.append_nil _)
  rw [hsplit]
  refine inv_step P address ipv6 handlers _ e hinv ?_
  rw [← hsplit]
  rw [hevents, show pre ++ e :: post = (pre ++ [e]) ++ post by simp, requestsOf_append] at hfresh
  exact hfresh.of_append _ _

end Runs

end BubotCoap.ClientRuns
