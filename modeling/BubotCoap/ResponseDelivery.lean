import BubotCoap.ClientRuns

set_option autoImplicit false

namespace BubotCoap.ResponseDelivery
open PythonData Defines Utils Messages OrderedDict Transactions Resources MessageLayer
  FallibleState Rendering Client ClientLayers ClientSteps ClientInvariant ClientReceptions
  ClientRuns ExchangeKeys

variable {ω : Type} (P : Platform) (address : Address) (ipv6 : Text → Bool)
  (handlers : Handlers ω)

section Delivery
variable {requests : List Message}

/-- The endpoint is the one the request went to, as far as keys tell endpoints apart. -/
def SentTo (request : Message) (e : Address) : Prop :=
  ∃ address, request.destination = some address ∧ endpointText address = endpointText e

/-- The message layer takes a response with the token of the request: one in an acknowledgement or
a reset by its message id, if a request was sent under that, any other by its endpoints. -/
def Takes (m : MessageLayer.State) (r request : Message) (source destination : Address) : Prop :=
  match m.transactionsSent.get? (key source (midArg r.mid)) with
  | some tid =>
    if r.type = some .ACK ∨ r.type = some .RST then (m.heap.cell tid).request.token = r.token
    else SentTo request source ∨ SentTo request destination
  | none => SentTo request source ∨ SentTo request destination

/-- The response is one to the request. -/
def Reaches (m : MessageLayer.State) (r request : Message) (source destination : Address) : Prop :=
  r.token = request.token ∧ Takes m r request source destination

theorem sentTo_of_get {c : CallbackLayer.State} {n : Node ω} (h : Ended requests c n)
    (hfresh : Fresh requests) (i : ℕ) (w : CallbackLayer.Waiter) (hw : c.waiters[i]? = some w)
    (hunicast : w.request.multicast = false) (e : Address) (tid : ℕ)
    (hget : n.server.message.transactionsSentToken.get? (key e (tokenArg w.request.token)) =
        some tid) : SentTo w.request e ∧
      (n.server.message.heap.cell tid).request.token = w.request.token := by
  obtain ⟨served, own, hkept⟩ := h
  obtain ⟨length, hlength⟩ := hfresh.length
  obtain ⟨q, hq, hkin⟩ := hkept.asked i w hw
  obtain ⟨q', hq', address, hkin', hkey, hdestination⟩ := hkept.holds.token _ tid hget
  obtain ⟨token, htoken, hn⟩ := hlength q hq
  obtain ⟨token', htoken', hn'⟩ := hlength q' hq'
  rw [hkin.token, htoken, htoken'] at hkey
  obtain ⟨htokens, htext⟩ := key_token_eq e address token token' (hn.trans hn'.symm) hkey
  have hqq : q' = q := hfresh.eq_of_token requests q' q hq' hq (by rw [htoken, htoken', htokens])
  subst hqq
  refine ⟨⟨address, ?_, htext.symm⟩, ?_⟩
  · rw [hkin.destination]
    exact hdestination (hkin.multicast.symm.trans hunicast)
  · rw [hkin'.token, hkin.token]

theorem get_of_sentTo {c : CallbackLayer.State} {n : Node ω} (h : Ended requests c n) (i : ℕ)
    (w : CallbackLayer.Waiter) (hw : c.waiters[i]? = some w)
    (hunicast : w.request.multicast = false) (e : Address) (hsent : SentTo w.request e) :
    ∃ tid, n.server.message.transactionsSentToken.get? (key e (tokenArg w.request.token)) =
      some tid := by
  obtain ⟨served, own, hkept⟩ := h
  obtain ⟨address, tid, hdestination, hget, _⟩ := hkept.stored i w hw hunicast
  obtain ⟨address', hdestination', htext⟩ := hsent
  rw [hdestination] at hdestination'
  cases hdestination'
  refine ⟨tid, ?_⟩
  rw [← hget]
  congr 1
  rw [key_eq_iff, htext]

/-- Which responses with the token of a waiter the message layer takes. -/
theorem matchResponse_iff {c : CallbackLayer.State} {n : Node ω} (h : Ended requests c n)
    (hfresh : Fresh requests) (i : ℕ) (w : CallbackLayer.Waiter) (hw : c.waiters[i]? = some w)
    (hunicast : w.request.multicast = false) (r : Message) (source destination : Address)
    (htoken : r.token = w.request.token) :
    (∃ tid, MessagePairing.matchResponse (printed r) source destination n.server.message =
        some tid) ↔ Takes n.server.message r w.request source destination := by
  have hfound := sentTo_of_get h hfresh i w hw hunicast
  have hstored := get_of_sentTo h i w hw hunicast
  have hbyToken : (∃ tid, MessagePairing.matchResponse.byToken (printed r) source destination
      n.server.message (fun tid => decide (r.token =
        (n.server.message.heap.cell tid).request.token)) = some tid) ↔
      SentTo w.request source ∨ SentTo w.request destination := by
    have hprinted : (printed r).token = w.request.token := htoken
    unfold MessagePairing.matchResponse.byToken
    rw [hprinted]
    constructor
    · rintro ⟨tid, htid⟩
      split at htid
      · next i hi => exact Or.inl (hfound source i hi).1
      · obtain ⟨hget, _⟩ := Option.filter_eq_some_iff.mp htid
        exact Or.inr (hfound destination tid hget).1
    · intro hsent
      split
      · next i hi => exact ⟨i, rfl⟩
      · next hnone =>
        rcases hsent with hsource | hdestination
        · obtain ⟨tid, hget⟩ := hstored source hsource
          rw [hnone] at hget
          cases hget
        · obtain ⟨tid, hget⟩ := hstored destination hdestination
          refine ⟨tid, Option.filter_eq_some_iff.mpr ⟨hget, ?_⟩⟩
          rw [decide_eq_true_eq, (hfound destination tid hget).2]
          exact htoken
  unfold MessagePairing.matchResponse Takes
  dsimp only
  rw [show (printed r).mid = r.mid from rfl, show (printed r).type = r.type from rfl,
    show (printed r).token = r.token from rfl]
  cases n.server.message.transactionsSent.get? (key source (midArg r.mid)) with
  | none => exact hbyToken
  | some tid =>
    dsimp only
    split
    · constructor
      · rintro ⟨tid', htid'⟩
        split at htid'
        · next hsame => exact (of_decide_eq_true hsame).symm
        · cases htid'
      · intro hsame
        rw [if_pos (decide_eq_true hsame.symm)]
        exact ⟨tid, rfl⟩
    · exact hbyToken

theorem printed_settled (r m : Message) (h : Settled r m) : printed m = m := by
  rcases h with rfl | rfl <;> rfl

theorem printed_reported (r m : Message) (h : Reported r m) : printed m = m := by
  obtain ⟨payload, rfl | rfl⟩ := h <;> rfl

theorem printable_settled (r m : Message) (h : Settled r m) (hprintable : Printable P r) :
    Printable P m := by
  rcases h with rfl | rfl <;>
    exact ⟨hprintable.code, hprintable.option, hprintable.payload⟩

/-- A response without block options completes the wait for a request exactly if it reaches it, and
is what the wait gets. -/
theorem response_reaches (startingMid : ℕ) (app : Application ω) (events : List Timed) (now : ℚ)
    (rng : Bytes) (r : Message) (source destination : Address) (i : ℕ) (w : CallbackLayer.Waiter)
    (fresh : Fresh (requestsOf events)) (received : Received P r source destination)
    (whole : Whole r)
    (waiter : (run P address ipv6 handlers startingMid app events).callback.waiters[i]? = some w)
    (unicast : w.request.multicast = false) (pending : w.future = .pending) :
    ∃ w', (run P address ipv6 handlers startingMid app
        (events ++ [(now, .response rng r)])).callback.waiters[i]? = some w' ∧
      (Reaches (run P address ipv6 handlers startingMid app events).server.message r w.request
            source destination ∧ (∃ m, Settled r m ∧ w' = { w with future := .result m }) ∨
        ¬ Reaches (run P address ipv6 handlers startingMid app events).server.message r w.request
            source destination ∧ w' = w) := by
  have hinv := inv_run P address ipv6 handlers startingMid app events fresh
  have hstep : run P address ipv6 handlers startingMid app (events ++ [(now, .response rng r)]) =
      (datagramReceivedResponse P address now rng r
        (run P address ipv6 handlers startingMid app events)).2 := Runs.run_concat _ _ _ _
  rw [hstep]
  generalize run P address ipv6 handlers startingMid app events = n at hinv waiter
  rcases whole_response P address now rng r source destination n received whole with
    ⟨hnone, hcallback⟩ | ⟨tid, m, hmatch, hsettled, hcallback⟩
  · rw [hcallback]
    refine ⟨w, waiter, Or.inr ⟨?_, rfl⟩⟩
    rintro ⟨htoken, htakes⟩
    obtain ⟨tid, htid⟩ := (matchResponse_iff hinv.ended fresh i w waiter unicast r source
      destination htoken).mpr htakes
    rw [hnone] at htid
    cases htid
  · rw [hcallback]
    have htoken : m.token = r.token := by
      rcases hsettled with rfl | rfl <;> rfl
    by_cases hsame : r.token = w.request.token
    · have hreaches := (matchResponse_iff hinv.ended fresh i w waiter unicast r source destination
        hsame).mp ⟨tid, hmatch⟩
      refine ⟨{ w with future := .result m }, ?_, Or.inl ⟨⟨hsame, hreaches⟩, m, hsettled, rfl⟩⟩
      have hslot := hinv.slots.slot i w waiter pending
      rw [CallbackLayer.setResult_printable P m n.callback
        (printable_settled P r m hsettled received.printable), htoken, hsame, hslot]
      dsimp only
      rw [CallbackLayer.setFuture_unicast i _ n.callback w waiter unicast pending,
        printed_settled r m hsettled]
      dsimp only
      rw [CallbackLayer.getElem?_update, waiter, Option.map_some, if_pos rfl]
    · refine ⟨w, ?_, Or.inr ⟨fun hreaches => hsame hreaches.1, rfl⟩⟩
      rcases setResult_waiter P n.callback hinv.slots m i w waiter unicast with hkept |
        ⟨_, hanswered, _⟩
      · exact hkept
      · exact absurd (htoken.symm.trans hanswered) hsame

theorem unpaired_same (now : ℚ) (rng : Bytes) (r : Message) (n : Node ω)
    (h : ∀ source destination, r.source = some source → r.destination = some destination →
      MessagePairing.matchResponse (printed r) source destination n.server.message = none) :
    (datagramReceivedResponse P address now rng r n).2 = n := by
  unfold datagramReceivedResponse
  rw [Action.bind_apply, Action.ofExcept_apply]
  cases linePrint P r with
  | error e => rfl
  | ok line =>
    dsimp only
    rw [Action.bind_apply]
    have hlayer : MessagePairing.receiveResponse (printed r) n.server.message =
          (.ok (none, false), n.server.message) ∨
        MessagePairing.receiveResponse (printed r) n.server.message =
          (.error .typeError, n.server.message) := by
      unfold MessagePairing.receiveResponse
      rw [show (printed r).source = r.source from rfl,
        show (printed r).destination = r.destination from rfl]
      cases hsource : r.source with
      | none => exact Or.inr rfl
      | some source =>
        dsimp only
        cases hdestination : r.destination with
        | none => exact Or.inr rfl
        | some destination =>
          dsimp only
          rw [h source destination hsource hdestination]
          exact Or.inl rfl
    have hzoom : onMessage (MessagePairing.receiveResponse (printed r)) n =
        ((MessagePairing.receiveResponse (printed r) n.server.message).1.mapError .raised,
          { n with server := { n.server with
            message := (MessagePairing.receiveResponse (printed r) n.server.message).2 } }) := rfl
    rw [hzoom]
    rcases hlayer with hnone | hraised
    · rw [hnone]
      rfl
    · rw [hraised]
      rfl

/-- The response that reaches the request, of all that the event brings. -/
def Brings (e : Timed) (m : MessageLayer.State) (request response : Message) : Prop :=
  ∃ rng r source destination, e.2 = .response rng r ∧ r.source = some source ∧
    r.destination = some destination ∧ Reaches m r request source destination ∧ Reported r response

theorem step_evolves (n : Node ω) (e : Timed) (h : Inv requests n)
    (hfresh : Fresh (requests ++ asked e)) (i : ℕ) (w' : CallbackLayer.Waiter)
    (hw' : (step P address ipv6 handlers n e).callback.waiters[i]? = some w')
    (hunicast : w'.request.multicast = false) :
    w' = CallbackLayer.Waiter.new w'.request ∨ ∃ w, n.callback.waiters[i]? = some w ∧
      Evolves (Brings e n.server.message w.request) w w' := by
  obtain ⟨now, e⟩ := e
  have hkept : (step P address ipv6 handlers n (now, e)).callback = n.callback →
      ∃ w, n.callback.waiters[i]? = some w ∧ Evolves (Brings (now, e) n.server.message w.request)
        w w' := by
    intro hcallback
    rw [hcallback] at hw'
    exact ⟨w', hw', evolves_refl _ w'⟩
  cases e with
  | send rng noResponse request =>
    rcases (waits_sendMessage P address now rng request noResponse n h hfresh).callback with
      hcallback | ⟨q, hcallback⟩
    · exact Or.inr (hkept hcallback)
    · change (sendMessage P address now rng noResponse request n).2.callback.waiters[i]?
        = some w' at hw'
      rw [hcallback] at hw'
      rcases wait_waiters q n.callback i w' hw' with hw | ⟨_, rfl⟩
      · exact Or.inr ⟨w', hw, evolves_refl _ w'⟩
      · exact Or.inl rfl
  | sendEmpty rng message =>
    refine Or.inr (hkept ?_)
    exact (ended_sendEmptyMessage P address rng message).ends n h.ended (fun _ _ h' => h'.callback)
      fun _ h' => h'.callback
  | response rng r =>
    right
    by_cases hpaired : ∀ source destination, r.source = some source →
        r.destination = some destination →
        MessagePairing.matchResponse (printed r) source destination n.server.message = none
    · exact hkept (congrArg Node.callback (unpaired_same P address now rng r n hpaired))
    · push Not at hpaired
      obtain ⟨source, destination, hsource, hdestination, hmatch⟩ := hpaired
      obtain ⟨tid, htid⟩ := Option.ne_none_iff_exists'.mp hmatch
      obtain ⟨c', hended, hc'⟩ := handed_datagramReceivedResponse now rng r P address h.slots
        (hfresh.of_append requests _) n h.ended
      have hcallback : (step P address ipv6 handlers n (now, .response rng r)).callback = c' :=
        hended.callback
      rcases hc' with rfl | ⟨m, hreported, rfl⟩
      · exact hkept hcallback
      · rw [hcallback] at hw'
        obtain ⟨w, hw, hevolves⟩ := setResult_evolves P m n.callback h.slots i w' hw' hunicast
        refine ⟨w, hw, hevolves.request, ?_, hevolves.outcome⟩
        rcases hevolves.future with hsame | ⟨hpending, hanswer⟩
        · exact Or.inl hsame
        · refine Or.inr ⟨hpending, fun response hresponse => ?_⟩
          obtain ⟨rfl, htoken⟩ := hanswer response hresponse
          have hsame : r.token = w.request.token := hreported.token.symm.trans htoken
          have hunicast' : w.request.multicast = false := hevolves.request ▸ hunicast
          have htakes := (matchResponse_iff h.ended (hfresh.of_append requests _) i w hw hunicast' r
            source destination hsame).mp ⟨tid, htid⟩
          refine ⟨rng, r, source, destination, rfl, hsource, hdestination, ⟨hsame, htakes⟩, ?_⟩
          rw [printed_reported r m hreported]
          exact hreported
  | empty message =>
    refine Or.inr (hkept ?_)
    exact (ended_datagramReceivedMessage P ipv6 message).ends n h.ended (fun _ _ h' => h'.callback)
      fun _ h' => h'.callback
  | request rng request => exact Or.inr (hkept rfl)
  | badMessage => exact Or.inr (hkept rfl)
  | purge => exact Or.inr (hkept rfl)
  | interrupt j e atOnce overrides =>
    obtain ⟨w, hw, hevolves⟩ := interrupt_evolves j e atOnce overrides n.callback i w' hw'
    exact Or.inr ⟨w, hw, hevolves _⟩
  | wakeUp j =>
    obtain ⟨w, hw, hevolves⟩ := wakeUp_evolves j n.callback i w' hw'
    exact Or.inr ⟨w, hw, hevolves _⟩
  | cancelWaited e =>
    obtain ⟨w, hw, hevolves⟩ := cancelWaited_evolves e n.callback i w' hw'
    exact Or.inr ⟨w, hw, hevolves _⟩

/-- The response that reached the wait, of all that the run brought. -/
def Brought (startingMid : ℕ) (app : Application ω) (events : List Timed) (i : ℕ)
    (request response : Message) : Prop :=
  ∃ pre e post w, events = pre ++ e :: post ∧
    (run P address ipv6 handlers startingMid app pre).callback.waiters[i]? = some w ∧
    w.request = request ∧ w.future = .pending ∧
    Brings e (run P address ipv6 handlers startingMid app pre).server.message request response

/-- What is known of the waits for one response. -/
def Traced (startingMid : ℕ) (app : Application ω) (events : List Timed) (n : Node ω) : Prop :=
  ∀ (i : ℕ) w, n.callback.waiters[i]? = some w → w.request.multicast = false →
    (∀ response, w.future = .result response →
      Brought P address ipv6 handlers startingMid app events i w.request response) ∧
    ∀ response, w.outcome = some (.returned response) → w.future = .result response

theorem Brought.append (startingMid : ℕ) (app : Application ω) (events later : List Timed) (i : ℕ)
    (request response : Message)
    (h : Brought P address ipv6 handlers startingMid app events i request response) :
    Brought P address ipv6 handlers startingMid app (events ++ later) i request response := by
  obtain ⟨pre, e, post, w, rfl, hrest⟩ := h
  exact ⟨pre, e, post ++ later, w, by simp, hrest⟩

theorem traced_step (startingMid : ℕ) (app : Application ω) (events : List Timed) (e : Timed)
    (hfresh : Fresh (requestsOf (events ++ [e])))
    (h : Traced P address ipv6 handlers startingMid app events
      (run P address ipv6 handlers startingMid app events)) :
    Traced P address ipv6 handlers startingMid app (events ++ [e])
      (step P address ipv6 handlers (run P address ipv6 handlers startingMid app events) e) := by
  have hsplit : requestsOf (events ++ [e]) = requestsOf events ++ asked e := by
    rw [requestsOf_append]
    exact congrArg _ (List.append_nil _)
  rw [hsplit] at hfresh
  have hinv := inv_run P address ipv6 handlers startingMid app events (hfresh.of_append _ _)
  intro i w' hw' hunicast
  rcases step_evolves P address ipv6 handlers _ e hinv hfresh i w' hw' hunicast with hnew |
    ⟨w, hw, hevolves⟩
  · rw [hnew]
    refine ⟨fun response hresponse => ?_, fun response hresponse => ?_⟩
    · cases hresponse
    · cases hresponse
  · obtain ⟨hbrought, hreturned⟩ := h i w hw (hevolves.request ▸ hunicast)
    rw [hevolves.request]
    refine ⟨fun response hresponse => ?_, fun response hresponse => ?_⟩
    · rcases hevolves.future with hsame | ⟨hpending, hanswer⟩
      · exact Brought.append P address ipv6 handlers startingMid app events [e] i _ response
          (hbrought response (hsame.symm.trans hresponse))
      · exact ⟨events, e, [], w, rfl, hw, rfl, hpending, hanswer response hresponse⟩
    · have hfuture : w.future = .result response :=
        (hevolves.outcome response hresponse).elim (hreturned response) id
      rcases hevolves.future with hsame | ⟨hpending, _⟩
      · exact hsame.trans hfuture
      · rw [hfuture] at hpending
        cases hpending

/-- A wait for one response returns a response that reached its request while it was pending. -/
theorem returned_response (startingMid : ℕ) (app : Application ω) (events : List Timed) (i : ℕ)
    (w : CallbackLayer.Waiter) (response : Message) (fresh : Fresh (requestsOf events))
    (waiter : (run P address ipv6 handlers startingMid app events).callback.waiters[i]? = some w)
    (unicast : w.request.multicast = false) (returned : w.outcome = some (.returned response)) :
    Brought P address ipv6 handlers startingMid app events i w.request response := by
  have htraced : Traced P address ipv6 handlers startingMid app events
      (run P address ipv6 handlers startingMid app events) := by
    refine Runs.run_induction (step P address ipv6 handlers)
      (Traced P address ipv6 handlers startingMid app) (Node.new startingMid app) events ?_ ?_
    · intro i w hw
      cases hw
    · intro pre e post hevents htraced
      refine traced_step P address ipv6 handlers startingMid app pre e ?_ htraced
      rw [hevents, show pre ++ e :: post = (pre ++ [e]) ++ post by simp, requestsOf_append] at fresh
      exact fresh.of_append _ _
  obtain ⟨hbrought, hreturned⟩ := htraced i w waiter unicast
  exact hbrought response (hreturned response returned)

end Delivery

section Samples

def sampleNode : Address := ("10.0.0.9".toList, 5683)

def samplePeer : Address := ("10.0.0.1".toList, 5683)

def sampleGet : Message :=
  { Message.new .request with
    type := some .NON
    mid := some 7
    code := some 1
    destination := some samplePeer }

def sampleContent : Message :=
  { Message.new .response with
    type := some .CON
    mid := some 40
    token := some [1, 2]
    code := some Codes.content
    source := some samplePeer
    destination := some sampleNode }

def sampleSend : Timed := (0, .send [1, 2] false sampleGet)

def sampleAnswer : Timed := (1, .response [] sampleContent)

abbrev sampleRun (events : List Timed) : Node Unit :=
  run plainPlatform sampleNode (fun _ => false) FreshExecution.sampleHandlers 1
    FreshExecution.sampleApp events

theorem fresh_sample (later : List Timed) (hlater : requestsOf later = []) :
    Fresh (requestsOf (sampleSend :: later)) := by
  change Fresh (_ :: requestsOf later)
  rw [hlater]
  refine ⟨List.nodup_singleton _, 2, fun q hq => ?_⟩
  rw [List.mem_singleton.mp hq]
  exact ⟨[1, 2], rfl, rfl⟩

def sampleWaiter : CallbackLayer.Waiter :=
  CallbackLayer.Waiter.new { sampleGet with
    token := some [1, 2], source := some sampleNode, timestamp := some 0 }

theorem response_reaches_sample : ∃ w', (sampleRun [sampleSend, sampleAnswer]).callback.waiters[0]? =
    some w' ∧ (Reaches (sampleRun [sampleSend]).server.message sampleContent sampleWaiter.request
      samplePeer sampleNode ∧
        (∃ m, Settled sampleContent m ∧ w' = { sampleWaiter with future := .result m }) ∨
      ¬ Reaches (sampleRun [sampleSend]).server.message sampleContent sampleWaiter.request
        samplePeer sampleNode ∧ w' = sampleWaiter) := by
  refine response_reaches plainPlatform sampleNode (fun _ => false)
    FreshExecution.sampleHandlers 1 FreshExecution.sampleApp [sampleSend] 1 [] sampleContent
    samplePeer sampleNode 0 sampleWaiter (fresh_sample [] rfl) ?_ ?_ ?_ rfl rfl
  · refine ⟨rfl, rfl, ⟨[1, 2], rfl, by decide⟩, ?_, rfl, ?_⟩
    · intro mid hmid
      cases hmid
      decide
    · exact (linePrint_ok_iff plainPlatform sampleContent).mp ⟨_, rfl⟩
  · exact ⟨rfl, rfl⟩
  · decide +kernel

def sampleReturn : Message := (printed sampleContent).setAcknowledged true

theorem returned_response_sample :
    Brought plainPlatform sampleNode (fun _ => false) FreshExecution.sampleHandlers 1
      FreshExecution.sampleApp [sampleSend, sampleAnswer, (2, .wakeUp 0)] 0 sampleWaiter.request
      sampleReturn :=
  returned_response plainPlatform sampleNode (fun _ => false)
    FreshExecution.sampleHandlers 1 FreshExecution.sampleApp _ 0
    { sampleWaiter with future := .result sampleReturn, outcome := some (.returned sampleReturn) }
    sampleReturn (fresh_sample [sampleAnswer, (2, .wakeUp 0)] rfl) (by decide +kernel) rfl rfl

end Samples

end BubotCoap.ResponseDelivery
