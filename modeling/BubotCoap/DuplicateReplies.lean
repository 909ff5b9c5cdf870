import BubotCoap.Piggyback

set_option autoImplicit false

namespace BubotCoap.DuplicateReplies
open PythonData Defines Utils Messages OrderedDict Transactions Resources ActionTriples
  ServerTriples Answering Server ServerFrames Runs Journal FreshExecution Piggyback FallibleState
open ObserveLayer (Relations ObserveItem)
open Deduplication (Wire sampleClient keyMid_wire)

variable {ω : Type}

section Frames
variable (tid : ℕ) (m : Message)

theorem sendAckOfRequest_response (i : ℕ) (message : Message) (s : MessageLayer.State) :
    ((MessageLayer.sendAckOfRequest i message s).2.heap.cell tid).response =
      (s.heap.cell tid).response := by
  have hsame : ((s.update i fun t =>
      { MessageLayer.acknowledgeRequest t with completed := true }).heap.cell tid).response =
      (s.heap.cell tid).response := MessageLayer.update_response tid s i _ fun _ => rfl
  unfold MessageLayer.sendAckOfRequest
  rw [Action.bind_ok _ (Action.modify_apply _ _), Action.bind_get, Action.bind_apply,
    Action.ofExcept_apply]
  cases message.setMid _ with
  | error e => exact hsame
  | ok message =>
    dsimp only
    rw [Action.bind_apply, Action.ofExcept_apply]
    cases message.setCode (some Codes.empty) <;> exact hsame

/-- The response of the transaction is `m`. -/
def Still (s : Server.State ω) : Prop := (s.transaction tid).response = some m

/-- The transaction is that of an observer whose resource is marked. -/
def Stirred (s : Server.State ω) : Prop :=
  ∃ k item rid, s.observe.get? k = some item ∧ item.transaction = some tid ∧
    (s.transaction tid).resource = some rid ∧ (s.app.resources rid).marked = true

/-- A relation of the transaction is on the resource. -/
def Concerned (rid : ℕ) (state : Relations × Heap) : Prop :=
  (∃ k item, state.1.get? k = some item ∧ item.transaction = some tid) ∧
    (state.2.cell tid).resource = some rid

/-- A notification of the transaction leaves its relation as the reason. -/
structure Touches (rid : ℕ) (state state' : Relations × Heap) : Prop where
  concerned : Concerned tid rid state → Concerned tid rid state'
  touched : Concerned tid rid state' ∨ state'.2.cell tid = state.2.cell tid

namespace Touches
variable (rid : ℕ)

theorem refl (state : Relations × Heap) : Touches tid rid state state := ⟨id, Or.inr rfl⟩

theorem trans (s t u : Relations × Heap) (h : Touches tid rid s t) (h' : Touches tid rid t u) :
    Touches tid rid s u := by
  refine ⟨fun hs => h'.concerned (h.concerned hs), ?_⟩
  rcases h.touched with ht | hsame
  · exact Or.inl (h'.concerned ht)
  · rcases h'.touched with hu | hsame'
    · exact Or.inl hu
    · exact Or.inr (hsame'.trans hsame)

theorem of_insert (k : Key) (item item' : ObserveItem) (relations : Relations) (heap : Heap)
    (hitem : relations.get? k = some item) (hsame : item'.transaction = item.transaction) :
    Touches tid rid (relations, heap) (relations.insert k item', heap) := by
  refine ⟨fun hconcerned => ⟨?_, hconcerned.2⟩, Or.inr rfl⟩
  obtain ⟨k', other, hother, htid⟩ := hconcerned.1
  by_cases hk : k' = k
  · subst hk
    have heq : some item = some other := hitem.symm.trans hother
    refine ⟨k', item', Dict.get?_insert_self relations k' item', ?_⟩
    rw [hsame, Option.some.inj heq]
    exact htid
  · exact ⟨k', other, (Dict.get?_insert_of_ne relations item' hk).trans hother, htid⟩

end Touches

theorem notifyItem_touches (rid : ℕ) (k : Key) (item : ObserveItem) (relations : Relations)
    (heap : Heap) (hitem : relations.get? k = some item) :
    Touches tid rid (relations, heap)
      (ObserveLayer.notifyItem rid k item (relations, heap)).2 := by
  unfold ObserveLayer.notifyItem
  dsimp only
  split
  · exact Touches.refl tid rid _
  · next i hi =>
    split
    · next hresource =>
      split
      · exact Touches.refl tid rid _
      · next type nonCounter _ =>
        have hinsert := Touches.of_insert tid rid k item { item with nonCounter := nonCounter }
          relations heap hitem rfl
        split
        · dsimp only
          split
          · exact hinsert
          · exact Touches.refl tid rid _
        · next response _ =>
          by_cases hne : tid = i
          · subst hne
            have hconcerned : Concerned tid rid
                (relations.insert k { item with nonCounter := nonCounter }, heap.set tid
                  { heap.cell tid with
                    response := some { response with
                      type := type.or response.type, mid := none, token := none }
                    resource := some rid }) := by
              refine ⟨⟨k, _, Dict.get?_insert_self _ _ _, hi⟩, ?_⟩
              exact congrArg Transaction.resource (Heap.set_cell_self _ _ _)
            exact ⟨fun _ => hconcerned, Or.inl hconcerned⟩
          · have hcell := Heap.set_cell_of_ne heap i tid
              { heap.cell i with
                response := some { response with
                  type := type.or response.type, mid := none, token := none }
                resource := some rid } hne
            refine Touches.trans tid rid _ _ _ hinsert ⟨fun hconcerned => ⟨hconcerned.1, ?_⟩,
              Or.inr hcell⟩
            exact (congrArg Transaction.resource hcell).trans hconcerned.2
    · exact Touches.refl tid rid _

theorem notifyKeys_touches (rid : ℕ) (ks : List Key) (state : Relations × Heap) :
    Touches tid rid state (ObserveLayer.notifyKeys rid ks state).2 := by
  induction ks generalizing state with
  | nil => exact Touches.refl tid rid state
  | cons k ks ih =>
    obtain ⟨relations, heap⟩ := state
    unfold ObserveLayer.notifyKeys
    dsimp only
    split
    · exact Touches.refl tid rid _
    · next item hitem =>
      have hfirst := notifyItem_touches tid rid k item relations heap hitem
      rw [Action.bind_apply]
      generalize ObserveLayer.notifyItem rid k item (relations, heap) = r at hfirst
      obtain ⟨result, u⟩ := r
      cases result with
      | error e => exact hfirst
      | ok first =>
        dsimp only
        have hrest := ih u
        rw [Action.bind_apply]
        generalize ObserveLayer.notifyKeys rid ks u = r at hrest
        obtain ⟨result, v⟩ := r
        cases result <;> exact Touches.trans tid rid _ _ _ hfirst hrest

end Frames

section Leaves
variable (tid : ℕ) (m : Message)

/-- The action leaves the response alone, or stirs the transaction. -/
abbrev Leaves {α : Type} (x : Action Stop (Server.State ω) α) : Prop :=
  Triple (Still tid m) x (fun _ => Still tid m) fun s => Still tid m s ∨ Stirred tid s

theorem leaves_get : Leaves tid m (Action.get : Action Stop (Server.State ω) _) :=
  triple_get.conseq (fun _ h => h) (fun _ _ h => h.2) fun _ h => h

theorem leaves_getTransaction (i : ℕ) :
    Leaves tid m (getTransaction i : Action Stop (Server.State ω) Transaction) :=
  (triple_getTransaction i).conseq (fun _ h => h) (fun _ _ h => h.2) fun _ h => h

theorem leaves_pure {α : Type} (a : α) :
    Leaves tid m (pure a : Action Stop (Server.State ω) α) :=
  triple_pure a fun _ h => h

theorem leaves_raise {α : Type} (e : Stop) :
    Leaves tid m (Action.raise e : Action Stop (Server.State ω) α) :=
  triple_raise e fun _ h => Or.inl h

theorem leaves_bind {α β : Type} (x : Action Stop (Server.State ω) α)
    (f : α → Action Stop (Server.State ω) β) (hx : Leaves tid m x) (hf : ∀ a, Leaves tid m (f a)) :
    Leaves tid m (x >>= f) :=
  triple_bind x f hx hf

theorem leaves_sendDatagram (datagram : Datagram) :
    Leaves tid m (sendDatagram datagram : Action Stop (Server.State ω) Unit) :=
  triple_modify _ fun _ h => h

theorem leaves_updateResource (rid : ℕ) (f : Resource → Resource) :
    Leaves tid m (Server.updateResource rid f : Action Stop (Server.State ω) Unit) :=
  triple_modify _ fun _ h => h

theorem leaves_onMessage {α : Type} (x : Action PyErr MessageLayer.State α)
    (h : ∀ s : MessageLayer.State,
      ((x s).2.heap.cell tid).response = (s.heap.cell tid).response) :
    Leaves tid m (onMessage x : Action Stop (Server.State ω) α) := by
  have hstill : ∀ s : Server.State ω, Still tid m s →
      Still tid m { s with message := (x s.message).2 } := fun s hs => (h s.message).trans hs
  refine triple_zoom _ _ _ x fun s hs => ⟨?_, ?_⟩
  · rintro _ rfl a s' hr
    have hs' := hstill s hs
    rw [hr] at hs'
    exact hs'
  · rintro _ rfl e s' hr
    have hs' := hstill s hs
    rw [hr] at hs'
    exact Or.inl hs'

theorem leaves_onRelations {α : Type} (x : Action PyErr Relations α) :
    Leaves tid m (onRelations x : Action Stop (Server.State ω) α) :=
  triple_zoom_frame _ _ _ x (fun _ _ h => h) fun _ h => Or.inl h

section Others
variable (i : ℕ) (hne : tid ≠ i)
include hne

theorem still_setTransaction (s : Server.State ω) (t : Transaction) (h : Still tid m s) :
    Still tid m (s.setTransaction i t) :=
  (congrArg Transaction.response (Heap.set_cell_of_ne s.message.heap i tid t hne)).trans h

theorem leaves_onBlock {α : Type} (x : Action PyErr (BlockLayer.State × Transaction) α) :
    Leaves tid m (onBlock i x : Action Stop (Server.State ω) α) :=
  triple_zoom_frame _ _ _ x
    (fun p s h => still_setTransaction tid m i hne { s with block := p.1 } p.2 h)
    fun _ h => Or.inl h

theorem leaves_onObserve {α : Type} (x : Action PyErr (Relations × Transaction) α) :
    Leaves tid m (onObserve i x : Action Stop (Server.State ω) α) :=
  triple_zoom_frame _ _ _ x
    (fun p s h => still_setTransaction tid m i hne { s with observe := p.1 } p.2 h)
    fun _ h => Or.inl h

theorem leaves_onScene {α : Type} (x : Action Stop (Scene ω) α) :
    Leaves tid m (onScene i x) :=
  triple_zoom_frame _ _ _ x (fun _ _ h => still_setTransaction tid m i hne _ _ h)
    fun _ h => Or.inl h

theorem leaves_sendResponse (handlers : Handlers ω) (rng : Bytes) :
    Leaves tid m (Server.sendResponse handlers rng i) := by
  refine leaves_bind tid m _ _ (leaves_onMessage tid m _ fun s =>
    congrArg Transaction.response (MessageLayer.sendResponse_cell tid rng i s hne)) fun _ => ?_
  refine triple_logResponse handlers.platform i (fun _ h => h) fun s response h _ => ?_
  have hstill := still_setTransaction tid m i hne s
    { s.transaction i with response := some (Rendering.printed response) } h
  exact ⟨hstill, Or.inl hstill⟩

end Others

theorem leaves_notify (rid : ℕ) :
    Triple (fun s : Server.State ω => Still tid m s ∧ (s.app.resources rid).marked = true)
      (Server.notify rid) (fun _ => Still tid m) fun s => Still tid m s ∨ Stirred tid s := by
  have hstirs : ∀ (s : Server.State ω) (state : Relations × Heap), Still tid m s →
      (s.app.resources rid).marked = true →
      Touches tid rid (s.observe, s.message.heap) state →
      Still tid m { s with observe := state.1, message := { s.message with heap := state.2 } } ∨
        Stirred tid
          { s with observe := state.1, message := { s.message with heap := state.2 } } := by
    intro s state hs hmarked htouches
    rcases htouches.touched with ⟨⟨k, item, hitem, htid⟩, hresource⟩ | hsame
    · exact Or.inr ⟨k, item, rid, hitem, htid, hresource, hmarked⟩
    · exact Or.inl ((congrArg Transaction.response hsame).trans hs)
  have hheap : Triple (fun s : Server.State ω => Still tid m s ∧ (s.app.resources rid).marked = true)
      (onHeap (ObserveLayer.notify rid))
      (fun observers s => (Still tid m s ∨ Stirred tid s) ∧ (observers = [] → Still tid m s))
      fun s => Still tid m s ∨ Stirred tid s := by
    refine triple_zoom _ _ _ _ fun s hs => ⟨?_, ?_⟩
    · rintro _ rfl observers state hr
      have htouches := notifyKeys_touches tid rid (s.observe.entries.map Prod.fst)
        (s.observe, s.message.heap)
      change ObserveLayer.notifyKeys rid _ _ = _ at hr
      rw [hr] at htouches
      refine ⟨hstirs s state hs.1 hs.2 htouches, ?_⟩
      rintro rfl
      rw [notifyKeys_nil rid _ _ state hr]
      exact hs.1
    · rintro _ rfl e state hr
      have htouches := notifyKeys_touches tid rid (s.observe.entries.map Prod.fst)
        (s.observe, s.message.heap)
      change ObserveLayer.notifyKeys rid _ _ = _ at hr
      rw [hr] at htouches
      exact hstirs s state hs.1 hs.2 htouches
  refine triple_bind _ _ hheap fun observers => ?_
  cases observers with
  | nil => exact triple_pure () fun s hs => hs.2 rfl
  | cons first rest => exact triple_raise _ fun s hs => hs.1

theorem leaves_notifyMarked (resource : Option ℕ) :
    Leaves tid m (notifyMarked resource : Action Stop (Server.State ω) Unit) :=
  triple_notifyMarked resource (leaves_notify tid m) (leaves_updateResource tid m)

section Processing
variable (handlers : Handlers ω) (rng : Bytes) (now : ℚ) (i : ℕ) (hne : tid ≠ i)
include hne

theorem leaves_reply : Leaves tid m (reply handlers rng now i) := by
  refine leaves_bind tid m _ _ (leaves_getTransaction tid m i) fun t => ?_
  refine leaves_bind tid m _ _ (leaves_notifyMarked tid m _) fun _ => ?_
  refine leaves_bind tid m _ _ (leaves_get tid m) fun s => ?_
  refine leaves_bind tid m _ _ (leaves_onObserve tid m i hne _) fun _ => ?_
  refine leaves_bind tid m _ _ (leaves_onBlock tid m i hne _) fun _ => ?_
  refine leaves_bind tid m _ _ (leaves_sendResponse tid m i hne handlers rng) fun _ => ?_
  refine leaves_bind tid m _ _ (leaves_getTransaction tid m i) fun t => ?_
  cases t.response with
  | none => exact leaves_pure tid m ()
  | some response => exact leaves_sendDatagram tid m _

theorem leaves_answer : Leaves tid m (answer handlers rng now i) := by
  refine leaves_bind tid m _ _ (leaves_getTransaction tid m i) fun t => ?_
  refine leaves_bind tid m _ _ (leaves_onRelations tid m _) fun _ => ?_
  split
  · exact leaves_bind tid m _ _ (leaves_onScene tid m i hne _)
      fun _ => leaves_reply tid m handlers rng now i hne
  · exact leaves_reply tid m handlers rng now i hne

theorem leaves_process : Leaves tid m (process handlers rng now i) := by
  refine leaves_bind tid m _ _ (leaves_onBlock tid m i hne _) fun _ => ?_
  refine leaves_bind tid m _ _ (leaves_getTransaction tid m i) fun t => ?_
  split
  · refine leaves_bind tid m _ _ (leaves_sendResponse tid m i hne handlers rng) fun _ => ?_
    refine leaves_bind tid m _ _ (leaves_getTransaction tid m i) fun t => ?_
    cases t.response with
    | none => exact leaves_raise tid m _
    | some response => exact leaves_sendDatagram tid m _
  · exact leaves_answer tid m handlers rng now i hne

theorem leaves_receiveRequest : Leaves tid m (Server.receiveRequest handlers rng now i) :=
  triple_receiveRequest handlers rng now i (leaves_process tid m handlers rng now i hne)
    (fun _ h => Or.inl h) fun _ _ h => h

end Processing

theorem leaves_sendAck (i : ℕ) :
    Leaves tid m (sendAck i : Action Stop (Server.State ω) Unit) := by
  have hack : Leaves tid m (do
      let ack ← onMessage
        (MessageLayer.sendAckOfRequest i { Message.new .message with type := some .ACK })
      if ack.type ≠ none ∧ ack.mid ≠ none then sendDatagram ⟨ack, false⟩ :
      Action Stop (Server.State ω) Unit) := by
    refine leaves_bind tid m _ _
      (leaves_onMessage tid m _ fun s => sendAckOfRequest_response tid i _ s) fun ack => ?_
    split
    · exact leaves_sendDatagram tid m _
    · exact leaves_pure tid m ()
  refine ⟨?_, ?_⟩
  · intro s hs a s' hr
    unfold sendAck at hr
    split at hr
    · cases hr
    · dsimp only at hr
      split at hr
      · exact hack.returns s hs a s' hr
      · cases hr
        exact hs
  · intro s hs e s' hr
    unfold sendAck at hr
    split at hr
    · cases hr
      exact Or.inl hs
    · dsimp only at hr
      split at hr
      · exact hack.raises s hs e s' hr
      · cases hr

theorem dispatched (now : ℚ) (request : Message) (s s' : MessageLayer.State)
    (result : Except PyErr CoapUdpProtocol.Dispatch)
    (hother : ∀ address, request.source = some address →
      MessageLayer.duplicateOf request address s = none →
      (MessageLayer.answered request address s).getD s.heap.next ≠ tid)
    (hr : CoapUdpProtocol.datagramReceivedRequest now request s = (result, s')) :
    (s'.heap.cell tid).response = (s.heap.cell tid).response ∧
      ∀ i, result = .ok (.receiveRequest i) → tid ≠ i := by
  have hown : ∀ i j u, CoapUdpProtocol.dispatch i u = .receiveRequest j → j = i := by
    intro i j u h
    unfold CoapUdpProtocol.dispatch at h
    dsimp only at h
    split_ifs at h
    · split at h <;> cases h
    · cases h
      rfl
  cases hsource : request.source with
  | none =>
    have hnone : MessageLayer.receiveRequest now request s = (.error .typeError, s) := by
      unfold MessageLayer.receiveRequest
      rw [hsource]
    unfold CoapUdpProtocol.datagramReceivedRequest at hr
    rw [Action.bind_error _ hnone] at hr
    cases hr
    exact ⟨rfl, fun i h => by cases h⟩
  | some address =>
    cases hduplicate : MessageLayer.duplicateOf request address s with
    | some i =>
      rw [CoapUdpProtocol.datagramReceivedRequest_duplicate now request address i s hsource
        hduplicate] at hr
      cases hr
      refine ⟨MessageLayer.update_response tid s i _ fun _ => rfl, fun j h => ?_⟩
      have hmarked : ((s.update i MessageLayer.markDuplicated).heap.cell i).request.duplicated =
          true := by
        rw [MessageLayer.update_cell_self]
        rfl
      exact absurd (Except.ok.inj h) (Deduplication.dispatch_duplicated i _ hmarked j)
    | none =>
      obtain ⟨u, hreceive, _, _, hothers, _, _⟩ :=
        receiveRequest_takes now request address s hsource hduplicate
      have hne := hother address hsource hduplicate
      unfold CoapUdpProtocol.datagramReceivedRequest at hr
      rw [Action.bind_ok _ hreceive, Action.bind_get] at hr
      cases hr
      refine ⟨congrArg Transaction.response (hothers tid hne.symm), fun j h => ?_⟩
      rw [hown _ j _ (Except.ok.inj h)]
      exact hne.symm

end Leaves

section Steps
variable (handlers : Handlers ω) (tid : ℕ) (m : Message)

/-- The step takes no request over into the transaction, and other tasks leave its response
alone. -/
structure Spared (s : Server.State ω) (e : Timed ω) : Prop where
  requests : ∀ rng request address, e.2 = .receive rng request → request.source = some address →
    MessageLayer.duplicateOf request address s.message = none →
    nextTransaction request address s ≠ tid
  others : ∀ f, e.2 = .other f → ((f s).transaction tid).response = (s.transaction tid).response

theorem datagramReceivedRequest_still (rng : Bytes) (now : ℚ) (request : Message)
    (s : Server.State ω) (h : Still tid m s)
    (hother : ∀ address, request.source = some address →
      MessageLayer.duplicateOf request address s.message = none →
      nextTransaction request address s ≠ tid) :
    Still tid m (datagramReceivedRequest handlers rng now request s).2 ∨
      Stirred tid (datagramReceivedRequest handlers rng now request s).2 := by
  have hdispatch : Triple (fun s' => s' = s)
      (onMessage (CoapUdpProtocol.datagramReceivedRequest now request))
      (fun next s' => Still tid m s' ∧ ∀ i, next = .receiveRequest i → tid ≠ i)
      (fun s' => Still tid m s' ∨ Stirred tid s') := by
    refine triple_zoom _ _ _ _ fun s' hs' => ?_
    subst hs'
    refine ⟨?_, ?_⟩
    · rintro _ rfl next u hr
      obtain ⟨hsame, hne⟩ := dispatched tid now request _ u _ hother hr
      exact ⟨hsame.trans h, fun i hi => hne i (congrArg Except.ok hi)⟩
    · rintro _ rfl e u hr
      obtain ⟨hsame, _⟩ := dispatched tid now request _ u _ hother hr
      exact Or.inl (hsame.trans h)
  unfold datagramReceivedRequest
  split
  · exact Or.inl h
  · refine Triple.ends (Q := fun _ => Still tid m) (triple_bind _ _ hdispatch fun next => ?_) s rfl
      (fun _ _ hstill => Or.inl hstill) fun _ hend => hend
    cases next with
    | resend response =>
      exact (leaves_sendDatagram tid m _).conseq (fun _ h => h.1) (fun _ _ h => h) fun _ h => h
    | nothing => exact triple_pure () fun _ h => h.1
    | sendAck i =>
      exact (leaves_sendAck tid m i).conseq (fun _ h => h.1) (fun _ _ h => h) fun _ h => h
    | receiveRequest i =>
      refine ⟨fun s hs => ?_, fun s hs => ?_⟩
      · exact (leaves_receiveRequest tid m handlers rng now i (hs.2 i rfl)).returns s hs.1
      · exact (leaves_receiveRequest tid m handlers rng now i (hs.2 i rfl)).raises s hs.1

theorem step_still (s : Server.State ω) (e : Timed ω) (h : Still tid m s)
    (hspared : Spared tid s e) :
    Still tid m (step handlers s e) ∨ Stirred tid (step handlers s e) := by
  obtain ⟨now, event⟩ := e
  cases event with
  | receive rng request =>
    exact datagramReceivedRequest_still handlers tid m rng now request s h
      fun address => hspared.requests rng request address rfl
  | purge => exact Or.inl h
  | other f => exact Or.inl ((hspared.others f rfl).trans h)

/-- As long as every step spares the transaction and it is not stirred, its response stays. -/
theorem run_still (s : Server.State ω) (events : List (Timed ω)) (h : Still tid m s)
    (hspared : ∀ pre e post, events = pre ++ e :: post →
      Spared tid (run (step handlers) s pre) e)
    (hcalm : ∀ pre post, events = pre ++ post → ¬ Stirred tid (run (step handlers) s pre)) :
    Still tid m (run (step handlers) s events) := by
  refine run_induction (step handlers) (fun _ => Still tid m) s events h ?_
  intro pre e post hsplit hstill
  have hafter := step_still handlers tid m _ e hstill (hspared pre e post hsplit)
  refine hafter.resolve_right ?_
  rw [← run_concat (step handlers)]
  exact hcalm (pre ++ [e]) post (by rw [hsplit, List.append_assoc]; rfl)

end Steps

section Reception
variable (tid : ℕ) (s₀ : Server.State ω)

/-- What has been sent since `s₀` is the response of the transaction. -/
def Told (s : Server.State ω) : Prop :=
  ∃ new : List Datagram, s.sent = s₀.sent ++ new.map (Prod.mk s₀.received) ∧
    ∀ d ∈ new, Still tid d.message s

theorem told_of_silent (s : Server.State ω) (h : Silent s₀ s) : Told tid s₀ s := by
  refine ⟨[], ?_, fun d hd => absurd hd List.not_mem_nil⟩
  rw [h.1, List.map_nil, List.append_nil]

theorem told_sends (s : Server.State ω) (d : Datagram) (h : Silent s₀ s)
    (hd : Still tid d.message s) : Told tid s₀ (sendDatagram d s).2 := by
  refine ⟨[d], ?_, fun d' hd' => ?_⟩
  · change s.sent ++ [(s.received, d)] = _
    rw [h.1, h.2]
    rfl
  · rw [List.mem_singleton] at hd'
    rw [hd']
    exact hd

/-- The action sends nothing. -/
abbrev Quietly {α : Type} (x : Action Stop (Server.State ω) α) : Prop :=
  Triple (Silent s₀) x (fun _ => Silent s₀) (Silent s₀)

theorem quietly_zoom {ε τ α : Type} (view : Server.State ω → τ)
    (put : τ → Server.State ω → Server.State ω) (f : ε → Stop) (x : Action ε τ α)
    (h : ∀ t s, (put t s).sent = s.sent ∧ (put t s).received = s.received) :
    Quietly s₀ (Action.zoom view put f x) :=
  triple_zoom_frame view put f x
    (fun t s hs => ⟨(h t s).1.trans hs.1, (h t s).2.trans hs.2⟩) fun _ hs => hs

theorem quietly_notify (rid : ℕ) : Quietly s₀ (Server.notify rid) := by
  refine triple_bind _ _ (quietly_zoom s₀ _ _ _ _ fun _ _ => ⟨rfl, rfl⟩) fun observers => ?_
  cases observers with
  | nil => exact triple_pure () fun _ h => h
  | cons first rest => exact triple_raise _ fun _ h => h

theorem quietly_updateResource (rid : ℕ) (f : Resource → Resource) :
    Quietly s₀ (Server.updateResource rid f) :=
  triple_modify _ fun _ h => h

theorem quietly_notifyMarked (resource : Option ℕ) : Quietly s₀ (notifyMarked resource) := by
  refine triple_notifyMarked resource (fun rid => ?_) (quietly_updateResource s₀)
  exact (quietly_notify s₀ rid).conseq (fun _ h => h.1) (fun _ _ h => h) fun _ h => h

variable (handlers : Handlers ω) (rng : Bytes) (now : ℚ)

theorem send_told (f : Transaction → Action Stop (Server.State ω) Unit)
    (hf : ∀ t, Triple (fun s => t = s.transaction tid ∧ Silent s₀ s) (f t)
      (fun _ => Told tid s₀) (Silent s₀)) :
    Triple (Silent s₀)
      (Server.sendResponse handlers rng tid >>= fun _ => getTransaction tid >>= f)
      (fun _ => Told tid s₀) (Silent s₀) := by
  have hlog : Triple (Silent s₀) (logResponse handlers.platform tid) (fun _ => Silent s₀)
      (Silent s₀) :=
    triple_logResponse handlers.platform tid (fun _ h => h) fun _ _ h _ => ⟨h, h⟩
  refine triple_bind _ _ (triple_bind _ _
    (quietly_zoom s₀ _ _ _ _ fun _ _ => ⟨rfl, rfl⟩) fun _ => hlog) fun _ => ?_
  exact triple_bind _ _ (triple_getTransaction tid) hf

theorem reply_told :
    Triple (Silent s₀) (reply handlers rng now tid) (fun _ => Told tid s₀) (Silent s₀) := by
  refine triple_bind _ _ (triple_getTransaction tid) fun t => ?_
  refine triple_bind _ _ ((quietly_notifyMarked s₀ _).conseq (fun _ h => h.2)
    (fun _ _ h => h) fun _ h => h) fun _ => ?_
  refine triple_bind _ _ triple_get fun s => ?_
  refine Triple.conseq (P := Silent s₀) ?_ (fun _ h => h.2) (fun _ _ h => h) fun _ h => h
  refine triple_bind _ _ (quietly_zoom s₀ _ _ _ _ fun _ _ => ⟨rfl, rfl⟩) fun _ => ?_
  refine triple_bind _ _ (quietly_zoom s₀ _ _ _ _ fun _ _ => ⟨rfl, rfl⟩) fun _ => ?_
  refine send_told tid s₀ handlers rng _ fun t => ?_
  cases hresponse : t.response with
  | none => exact triple_pure () fun s hs => told_of_silent tid s₀ s hs.2
  | some response =>
    refine triple_modify _ fun s hs => ?_
    obtain ⟨rfl, hsilent⟩ := hs
    exact told_sends tid s₀ s _ hsilent hresponse

theorem answer_told :
    Triple (Silent s₀) (answer handlers rng now tid) (fun _ => Told tid s₀) (Silent s₀) := by
  refine triple_bind _ _ (triple_getTransaction tid) fun t => ?_
  refine Triple.conseq (P := Silent s₀) ?_ (fun _ h => h.2) (fun _ _ h => h) fun _ h => h
  refine triple_bind _ _ (quietly_zoom s₀ _ _ _ _ fun _ _ => ⟨rfl, rfl⟩) fun _ => ?_
  split
  · exact triple_bind _ _ (quietly_zoom s₀ _ _ _ _ fun _ _ => ⟨rfl, rfl⟩)
      fun _ => reply_told tid s₀ handlers rng now
  · exact reply_told tid s₀ handlers rng now

theorem process_told :
    Triple (Silent s₀) (process handlers rng now tid) (fun _ => Told tid s₀) (Silent s₀) := by
  refine triple_bind _ _ (quietly_zoom s₀ _ _ _ _ fun _ _ => ⟨rfl, rfl⟩) fun _ => ?_
  refine triple_bind _ _ (triple_getTransaction tid) fun t => ?_
  refine Triple.conseq (P := Silent s₀) ?_ (fun _ h => h.2) (fun _ _ h => h) fun _ h => h
  split
  · refine send_told tid s₀ handlers rng _ fun t => ?_
    cases hresponse : t.response with
    | none => exact triple_raise _ fun s hs => hs.2
    | some response =>
      refine triple_modify _ fun s hs => ?_
      obtain ⟨rfl, hsilent⟩ := hs
      exact told_sends tid s₀ s _ hsilent hresponse
  · exact answer_told tid s₀ handlers rng now

theorem datagramReceivedRequest_told (request : Message) (address : Address)
    (s : Server.State ω) (hsource : request.source = some address)
    (hduplicated : request.duplicated = false)
    (hfresh : MessageLayer.duplicateOf request address s.message = none) :
    Told (nextTransaction request address s) s
      (datagramReceivedRequest handlers rng now request s).2 := by
  refine fresh_ends handlers rng now request address s
    (Told (nextTransaction request address s) s) hsource hduplicated hfresh
    (told_of_silent _ s s ⟨rfl, rfl⟩) (fun _ _ h => h) fun m' _ => ?_
  exact (process_told (nextTransaction request address s) s handlers rng now).ends
    { s with message := m' } ⟨rfl, rfl⟩ (fun _ _ h => h) fun u h => told_of_silent _ s u h

theorem datagramReceivedRequest_resends (request : Message) (address : Address) (id : ℤ)
    (m : Message) (s : Server.State ω) (hwire : Wire request address id) (hid : id ≠ 0)
    (hfound : s.message.transactions.get? (key address (.int id)) = some tid)
    (hcompleted : (s.transaction tid).completed = true) (hstill : Still tid m s) :
    (datagramReceivedRequest handlers rng now request s).2.sent =
      s.sent ++ [(s.received, ⟨m, false⟩)] := by
  have hduplicate : MessageLayer.duplicateOf request address s.message = some tid := by
    simp only [MessageLayer.duplicateOf, hwire.unicast, hwire.id, keyMid_wire request address _ hwire,
      Bool.false_eq_true, hid, if_false]
    exact hfound
  have hwaits : waits request s = false := by
    unfold waits
    rw [hwire.source]
    refine decide_eq_false fun h => ?_
    rw [hduplicate] at h
    cases h.1
  have hdispatch : CoapUdpProtocol.dispatch tid
      (s.message.update tid MessageLayer.markDuplicated) = .resend m := by
    have hresponse : (s.message.heap.cell tid).response = some m := hstill
    unfold CoapUdpProtocol.dispatch
    rw [MessageLayer.update_cell_self]
    unfold MessageLayer.markDuplicated
    dsimp only
    rw [if_pos ⟨rfl, hcompleted⟩, hresponse]
  have hdatagram := CoapUdpProtocol.datagramReceivedRequest_duplicate now request address tid
    s.message hwire.source hduplicate
  rw [hdispatch] at hdatagram
  unfold Server.datagramReceivedRequest
  rw [hwaits, if_neg (by simp), Action.bind_ok _ (onMessage_ok s _ _ _ hdatagram)]
  rfl

end Reception

structure SameReply (m m' : Message) : Prop where
  mid : m'.mid = m.mid
  token : m'.token = m.token
  code : m'.code = m.code
  options : m'.options = m.options
  payload : m'.payload = m.payload

/-- A confirmable request that is no duplicate. -/
structure Original (s : Server.State ω) (request : Message) (address : Address) (id : ℤ) : Prop
    extends Wire request address id where
  type : request.type = some .CON
  duplicated : request.duplicated = false
  fresh : MessageLayer.duplicateOf request address s.message = none

def Stored (tid : ℕ) (s : Server.State ω) : Prop :=
  ∃ k, s.message.transactions.get? k = some tid ∨ s.message.transactionsToken.get? k = some tid

section Runs
variable (handlers : Handlers ω)

/-- Between the request, received in the state `s`, and what comes after it nothing touches the
response of the transaction. -/
structure Untouched (s : Server.State ω) (first : Timed ω) (between : List (Timed ω)) (tid : ℕ) :
    Prop where
  spared : ∀ pre e post, between = pre ++ e :: post →
    Spared tid (run (step handlers) s (first :: pre)) e
  calm : ∀ pre post, between = pre ++ post →
    ¬ Stirred tid (run (step handlers) s (first :: pre))

/-- What a duplicate needs to find: its transaction under the message id, with its response. -/
structure Undisturbed (s : Server.State ω) (first : Timed ω) (between : List (Timed ω)) (tid : ℕ)
    (address : Address) (id : ℤ) : Prop extends Untouched handlers s first between tid where
  id_ne : id ≠ 0
  found : (run (step handlers) s (first :: between)).message.transactions.get?
    (key address (.int id)) = some tid
  completed : ((run (step handlers) s (first :: between)).transaction tid).completed = true

/-- The reply to a request is what its transaction holds after the reception, and as long as nothing
touches it. -/
theorem still_of_untouched (startingMid : ℕ) (app : Application ω) (pre between post : List (Timed ω))
    (now : ℚ) (rng : Bytes) (request : Message) (address : Address) (d : Datagram)
    (hsource : request.source = some address) (hduplicated : request.duplicated = false)
    (hfresh : MessageLayer.duplicateOf request address
      (run (step handlers) (State.new startingMid app) pre).message = none)
    (hreply : d ∈ entriesOf (run (step handlers) (State.new startingMid app) pre).received
      (run (step handlers) (State.new startingMid app)
        (pre ++ (now, .receive rng request) :: between ++ post)).sent)
    (h : Untouched handlers (run (step handlers) (State.new startingMid app) pre)
      (now, .receive rng request) between
      (nextTransaction request address (run (step handlers) (State.new startingMid app) pre))) :
    Still (nextTransaction request address (run (step handlers) (State.new startingMid app) pre))
      d.message (run (step handlers) (State.new startingMid app)
        (pre ++ (now, .receive rng request) :: between)) := by
  obtain ⟨new, hsent, hnew⟩ := datagramReceivedRequest_told handlers rng now request address
    (run (step handlers) (State.new startingMid app) pre) hsource hduplicated hfresh
  have hfirst := entriesOf_reception handlers startingMid app pre (between ++ post) now rng request
    new hsent
  rw [List.append_assoc, List.cons_append, hfirst] at hreply
  rw [run_append, run_cons]
  exact run_still handlers _ d.message _ between (hnew d hreply) h.spared h.calm

/-- Every duplicate of an answered request whose transaction is stored gets the reply that was
sent before. -/
def EachRepeated (startingMid : ℕ) (app : Application ω) (events : List (Timed ω)) : Prop :=
  ∀ pre now rng request between now' rng' request' post address id d,
    events = (pre ++ (now, Event.receive rng request) :: between) ++
      (now', Event.receive rng' request') :: post →
    Original (run (step handlers) (State.new startingMid app) pre) request address id →
    Wire request' address id →
    d ∈ entriesOf (run (step handlers) (State.new startingMid app) pre).received
      (run (step handlers) (State.new startingMid app) events).sent →
    Stored (nextTransaction request address (run (step handlers) (State.new startingMid app) pre))
      (run (step handlers) (State.new startingMid app)
        (pre ++ (now, .receive rng request) :: between)) →
    ∃ d', entriesOf (run (step handlers) (State.new startingMid app)
        (pre ++ (now, .receive rng request) :: between)).received
        (run (step handlers) (State.new startingMid app) events).sent = [d'] ∧
      SameReply d.message d'.message

/-- In a run in which nothing disturbs the transactions of answered requests before their
duplicates come, every duplicate gets the reply that was sent before. -/
theorem duplicates_repeated (startingMid : ℕ) (app : Application ω) (events : List (Timed ω))
    (undisturbed : ∀ pre now rng request between now' rng' request' post address id,
      events = (pre ++ (now, Event.receive rng request) :: between) ++
        (now', Event.receive rng' request') :: post →
      Original (run (step handlers) (State.new startingMid app) pre) request address id →
      Wire request' address id →
      Stored (nextTransaction request address (run (step handlers) (State.new startingMid app) pre))
        (run (step handlers) (State.new startingMid app)
          (pre ++ (now, .receive rng request) :: between)) →
      Undisturbed handlers (run (step handlers) (State.new startingMid app) pre)
        (now, .receive rng request) between
        (nextTransaction request address (run (step handlers) (State.new startingMid app) pre))
        address id) :
    EachRepeated handlers startingMid app events := by
  intro pre now rng request between now' rng' request' post address id d hsplit horiginal hwire
    hreply hstored
  have hundisturbed := undisturbed pre now rng request between now' rng' request' post address id
    hsplit horiginal hwire hstored
  have hstill := still_of_untouched handlers startingMid app pre between
    ((now', Event.receive rng' request') :: post) now rng request address d horiginal.source
    horiginal.duplicated horiginal.fresh (by rw [← hsplit]; exact hreply)
    hundisturbed.toUntouched
  have hfound := hundisturbed.found
  have hcompleted := hundisturbed.completed
  rw [← run_append] at hfound hcompleted
  have hresent := datagramReceivedRequest_resends _ handlers rng' now' request' address id d.message
    _ hwire hundisturbed.id_ne hfound hcompleted hstill
  refine ⟨⟨d.message, false⟩, ?_, ⟨rfl, rfl, rfl, rfl, rfl⟩⟩
  rw [hsplit]
  exact entriesOf_reception handlers startingMid app _ post now' rng' request' [⟨d.message, false⟩]
    hresent

end Runs

theorem calm_of_unobserved (tid : ℕ) (s : Server.State ω) (h : s.observe.entries.length = 0) :
    ¬ Stirred tid s := by
  rintro ⟨k, item, _, hitem, _⟩
  have hmem := (s.observe.mem_entries_iff k item).mpr hitem
  rw [List.length_eq_zero_iff.mp h] at hmem
  exact absurd hmem List.not_mem_nil

/-- A GET, one under another token, and the first again. -/
def sampleRepeat : List (Timed Unit) :=
  [(0, .receive [] (sampleGet 'a' [7] 1)), (1, .receive [] (sampleGet 'b' [8] 2)),
    (2, .receive [] (sampleGet 'a' [7] 1))]

theorem sampleRepeat_untouched : Untouched sampleHandlers (State.new 1 sampleApp)
    (0, .receive [] (sampleGet 'a' [7] 1)) [(1, .receive [] (sampleGet 'b' [8] 2))]
    (nextTransaction (sampleGet 'a' [7] 1) sampleClient (State.new 1 sampleApp)) where
  spared := by
    intro pre e post hbetween
    rcases pre with _ | ⟨e', pre⟩
    · cases hbetween
      refine ⟨fun rng request address he hsource _ => ?_, fun f he => by cases he⟩
      cases he
      cases hsource
      decide +kernel
    · exact absurd (List.cons.inj hbetween).2 (by simp)
  calm := by
    intro pre post hbetween
    rcases pre with _ | ⟨e', _ | ⟨e'', pre⟩⟩
    · exact calm_of_unobserved _ _ (by decide +kernel)
    · cases hbetween
      exact calm_of_unobserved _ _ (by decide +kernel)
    · exact absurd (List.cons.inj hbetween).2 (by simp)

theorem duplicates_repeated_sample : EachRepeated sampleHandlers 1 sampleApp sampleRepeat := by
  refine duplicates_repeated sampleHandlers 1 sampleApp sampleRepeat ?_
  intro pre now rng request between now' rng' request' post address id hsplit horiginal hwire _
  have hlength : pre.length + between.length + post.length = 1 := by
    have hlengths := congrArg List.length hsplit
    simp only [sampleRepeat, List.length_append, List.length_cons, List.length_nil] at hlengths
    omega
  have hids : ∀ id', request'.mid = some id' → request.mid = some id' := by
    intro id' hid'
    rw [horiginal.id, ← hwire.id]
    exact hid'
  rcases pre with _ | ⟨e, _ | ⟨e', pre⟩⟩
  · rcases between with _ | ⟨e, _ | ⟨e', between⟩⟩
    · cases hsplit
      exact absurd (hids 2 rfl) (by decide)
    · cases hsplit
      have haddress : address = sampleClient := (Option.some.inj hwire.source).symm
      have hid : id = 1 := (Option.some.inj hwire.id).symm
      subst haddress hid
      exact ⟨sampleRepeat_untouched, by decide, by decide +kernel, by decide +kernel⟩
    · simp only [List.length_cons] at hlength
      omega
  · rcases between with _ | ⟨e', between⟩
    · cases hsplit
      exact absurd (hids 1 rfl) (by decide)
    · simp only [List.length_cons] at hlength
      omega
  · simp only [List.length_cons] at hlength
    omega

/-- Two blocks of a representation are asked for, and the first again. -/
def sampleBlocks : List (Timed Unit) :=
  [(0, .receive [] (sampleAsk 0 1)), (1, .receive [] (sampleAsk 1 2)),
    (2, .receive [] (sampleAsk 0 1))]

/-- The reply to the request for the first block is sent again with the second block in it. -/
theorem first_block_not_repeated : ¬ EachRepeated largeHandlers 1 sampleApp sampleBlocks := by
  intro h
  have horiginal : Original (State.new 1 sampleApp) (sampleAsk 0 1) sampleClient 1 := by
    refine ⟨⟨rfl, rfl, rfl, by decide⟩, rfl, rfl, by decide +kernel⟩
  have hfirst : (entriesOf 0
      (run (step largeHandlers) (State.new 1 sampleApp) sampleBlocks).sent).map
      (fun d => d.message.payload.map Payload.length) = [some 32] := by decide +kernel
  have hsecond : (entriesOf 2
      (run (step largeHandlers) (State.new 1 sampleApp) sampleBlocks).sent).map
      (fun d => d.message.payload.map Payload.length) = [some 8] := by decide +kernel
  obtain ⟨d, hd, hlarge⟩ := List.exists_of_mem_map (hfirst ▸ List.mem_singleton_self (some 32))
  obtain ⟨d', hd', hsame⟩ := h [] 0 [] (sampleAsk 0 1) [(1, .receive [] (sampleAsk 1 2))] 2 []
    (sampleAsk 0 1) [] sampleClient 1 d rfl horiginal horiginal.toWire hd
    ⟨key sampleClient (.int 1), by decide +kernel⟩
  have hnumber : (run (step largeHandlers) (State.new 1 sampleApp)
      ([] ++ (0, .receive [] (sampleAsk 0 1)) ::
        [(1, .receive [] (sampleAsk 1 2))])).received = 2 := by decide +kernel
  rw [hnumber] at hd'
  rw [hd', List.map_singleton, hsame.payload, hlarge] at hsecond
  exact absurd hsecond (by decide)

end BubotCoap.DuplicateReplies
