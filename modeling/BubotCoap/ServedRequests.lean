import BubotCoap.OwnTransactions
import BubotCoap.ResponseDelivery
import BubotCoap.ServedTransactions

set_option autoImplicit false

namespace BubotCoap.ServedRequests
open PythonData Defines Utils Messages OrderedDict Transactions Resources MessageLayer
  MessageTables ResponseKeeping ServedTransactions Server FallibleState

variable {ω : Type}

section Server
variable {requests : List Message} {s : Server.State ω}

/-- Each message has gone back to one of the requests received until then. -/
def Returned (requests : List Message) (sent : List (ℕ × Datagram)) : Prop :=
  ∀ p ∈ sent, ∃ k, Returns (requests.take (p.1 + 1)) k p.2.message

/-- The requests are those received so far, with the one that is being handled. -/
structure Serves (requests : List Message) (s : Server.State ω) : Prop where
  known : Known requests s.message
  sent : Returned requests s.sent
  count : requests.length ≤ s.received + 1

/-- The transaction is in use. -/
structure Working (requests : List Message) (tid : ℕ) (s : Server.State ω) : Prop extends
  Serves requests s where
  live : tid < s.message.heap.next

theorem Serves.congr (h : Serves requests s) (s' : Server.State ω)
    (hknown : Known requests s'.message) (hsent : s'.sent = s.sent)
    (hreceived : s'.received = s.received) : Serves requests s' := by
  refine ⟨hknown, ?_, ?_⟩
  · rw [hsent]
    exact h.sent
  · rw [hreceived]
    exact h.count

theorem Returned.append (sent : List (ℕ × Datagram)) (h : Returned requests sent)
    (request : Message) : Returned (requests ++ [request]) sent := by
  intro p hp
  obtain ⟨k, hreturns⟩ := h p hp
  refine ⟨k, hreturns.mono _ _ k _ fun r hr => ?_⟩
  rw [List.take_append]
  exact List.mem_append_left _ hr

variable {tid : ℕ}

theorem Working.setTransaction (h : Working requests tid s) (t : Transaction)
    (hserved : ∀ k, Served requests k (s.transaction tid) → Served requests k t) :
    Working requests tid (s.setTransaction tid t) :=
  ⟨h.congr _ (h.known.update tid (fun _ => t) hserved) rfl rfl, h.live⟩

theorem Serves.sendDatagram (h : Serves requests s) (datagram : Datagram) (k : Option Key)
    (hreturns : Returns requests k datagram.message) :
    Serves requests (sendDatagram datagram s).2 := by
  refine ⟨h.known, ?_, h.count⟩
  intro p hp
  rcases List.mem_append.mp hp with hp | hp
  · exact h.sent p hp
  · rw [List.mem_singleton.mp hp, List.take_of_length_le h.count]
    exact ⟨k, hreturns⟩

/-- The action keeps to the requests. -/
abbrev Keeping (requests : List Message) (tid : ℕ) {α : Type}
    (x : Action Stop (Server.State ω) α) : Prop :=
  Action.Moves (fun s s' => Working requests tid s → Working requests tid s') x

theorem keeping_onBlock {α : Type} (x : Action PyErr (BlockLayer.State × Transaction) α)
    (hx : ∀ b t k, Served requests k t → Served requests k (x (b, t)).2.2) :
    Keeping requests tid (onBlock tid x : Action Stop (Server.State ω) α) := by
  intro s h
  have hblock : Working requests tid { s with block := (x (s.block, s.transaction tid)).2.1 } :=
    ⟨h.congr _ h.known rfl rfl, h.live⟩
  exact hblock.setTransaction _ fun k hserved => hx s.block (s.transaction tid) k hserved

theorem keeping_onObserve {α : Type} (x : Action PyErr (ObserveLayer.Relations × Transaction) α)
    (hx : ∀ o t k, Served requests k t → Served requests k (x (o, t)).2.2) :
    Keeping requests tid (onObserve tid x : Action Stop (Server.State ω) α) := by
  intro s h
  have hobserve : Working requests tid
      { s with observe := (x (s.observe, s.transaction tid)).2.1 } :=
    ⟨h.congr _ h.known rfl rfl, h.live⟩
  exact hobserve.setTransaction _ fun k hserved => hx s.observe (s.transaction tid) k hserved

theorem keeping_notify (rid : ℕ) :
    Keeping requests tid (onHeap (ObserveLayer.notify rid) : Action Stop (Server.State ω) _) := by
  intro s h
  have hnext := (OwnTransactions.notifyKeys_spares [] rid (s.observe.entries.map Prod.fst)
    (s.observe, s.message.heap)).next
  refine ⟨h.congr _ (h.known.withHeap _ hnext fun i k hserved => ?_) rfl rfl, ?_⟩
  · exact served_notifyKeys rid _ (s.observe, s.message.heap) i hserved
  · exact hnext ▸ h.live

theorem keeping_execute (handlers : Handlers ω) (faithful : Faithful handlers)
    (hdecoded : ∀ r ∈ requests, Decoded r) (rng : Bytes) :
    Keeping requests tid (onScene tid (RequestLayer.receiveRequest handlers rng)) := by
  intro s h
  let scene : Scene ω := ⟨s.app, [], s.transaction tid⟩
  let after := (RequestLayer.receiveRequest handlers rng scene).2
  have hrecords : Working requests tid { s with
      app := after.app, calls := s.calls ++ after.calls.map fun c => (s.received, c) } :=
    ⟨h.congr _ h.known rfl rfl, h.live⟩
  refine hrecords.setTransaction after.transaction fun k hserved => ?_
  have hserved : Served requests k (s.transaction tid) := hserved
  have hprepared : Prepared (s.transaction tid).request (Returns requests k) scene :=
    ⟨rfl, hserved.response⟩
  have hafter : Prepared (s.transaction tid).request (Returns requests k) after :=
    (keeps_receiveRequest (lasting_returns _ hserved) faithful rng
      (hserved.decoded _ hdecoded).token).ends scene hprepared (fun _ _ h => h) fun _ h => h
  refine hserved.step _ _ ?_ hafter.response
  rw [hafter.request]
  exact Same.refl _

theorem keeping_respond (hdecoded : ∀ r ∈ requests, Decoded r) (rng : Bytes) :
    Keeping requests tid (onMessage (MessageLayer.sendResponse rng tid) :
      Action Stop (Server.State ω) _) := by
  intro s h
  have hknown := known_sendResponse hdecoded h.known rng tid h.live
  have hnext := (leads_sendResponse _ [] s.message rng tid h.known.leads
    (List.mem_range.mpr h.live)).2
  refine ⟨h.congr _ hknown rfl rfl, ?_⟩
  change tid < (MessageLayer.sendResponse rng tid s.message).2.heap.next
  rw [hnext]
  exact h.live

theorem keeping_steps (handlers : Handlers ω) (faithful : Faithful handlers)
    (hdecoded : ∀ r ∈ requests, Decoded r) (rng : Bytes) (now : ℚ) :
    ServerMoves.Steps (fun s s' => Working requests tid s → Working requests tid s') handlers
      rng now tid where
  refl := fun _ h => h
  trans := fun _ _ _ h h' hs => h' (h hs)
  receiveBlock := keeping_onBlock _ fun b t k h => served_receiveBlock hdecoded rng b t h
  register := fun s h => ⟨h.congr _ h.known rfl rfl, h.live⟩
  execute := keeping_execute handlers faithful hdecoded rng
  notify := keeping_notify
  mark := fun _ _ s h => ⟨h.congr _ h.known rfl rfl, h.live⟩
  observe := fun counter => keeping_onObserve _ fun o t k h => served_observe o now tid counter t h
  sendBlock := keeping_onBlock _ fun b t k h => served_sendBlock b t h
  respond := keeping_respond hdecoded rng
  log := by
    intro s response hresponse h
    refine h.setTransaction _ fun k hserved => ?_
    have hreturns := hserved.response response hresponse
    refine hserved.step _ _ (Same.refl _) fun m hm => ?_
    cases hm
    exact ⟨hreturns.destination, hreturns.token, hreturns.mid, hreturns.code.printed⟩
  send := by
    intro s response anyPort hresponse h
    obtain ⟨k, hserved⟩ := h.known.served tid h.live
    exact ⟨h.sendDatagram ⟨response, anyPort⟩ k (hserved.response response hresponse), h.live⟩
  lock := fun s h => ⟨h.congr _ h.known rfl rfl, h.live⟩

theorem sendAckOfRequest_cases (tid : ℕ) (message : Message) (m : MessageLayer.State) :
    (MessageLayer.sendAckOfRequest tid message m).2 =
        m.update tid (fun t => { acknowledgeRequest t with completed := true }) ∧
      ∀ ack, (MessageLayer.sendAckOfRequest tid message m).1 = .ok ack →
        ack.destination = (m.heap.cell tid).request.source ∧ ack.token = message.token ∧
          ack.mid = (m.heap.cell tid).request.mid ∧ ack.code = some Codes.empty := by
  have hrequest : ((m.update tid fun t =>
      { acknowledgeRequest t with completed := true }).heap.cell tid).request =
        (m.heap.cell tid).request.setAcknowledged true := by
    rw [update_cell_self]
    rfl
  unfold MessageLayer.sendAckOfRequest
  rw [Action.bind_ok _ (Action.modify_apply _ _), Action.bind_get, Action.bind_apply,
    Action.ofExcept_apply, hrequest]
  cases hmid : message.setMid ((m.heap.cell tid).request.setAcknowledged true).mid with
  | error e =>
    refine ⟨rfl, fun ack hack => ?_⟩
    cases hack
  | ok numbered =>
    dsimp only
    rw [Action.bind_apply, Action.ofExcept_apply]
    cases hcode : numbered.setCode (some Codes.empty) with
    | error e =>
      refine ⟨rfl, fun ack hack => ?_⟩
      cases hack
    | ok coded =>
      refine ⟨rfl, fun ack hack => ?_⟩
      have hcoded : coded = { numbered with code := some Codes.empty } := by
        unfold Message.setCode at hcode
        dsimp only at hcode
        rw [if_pos ClientSteps.empty_mem_codes] at hcode
        exact (Except.ok.inj hcode).symm
      cases hack
      rw [hcoded, setMid_eq _ _ _ hmid]
      exact ⟨rfl, rfl, rfl, rfl⟩

theorem keeping_sendAck (hdecoded : ∀ r ∈ requests, Decoded r) :
    Keeping requests tid (sendAck tid : Action Stop (Server.State ω) Unit) := by
  intro s h
  unfold sendAck
  split
  · exact h
  · dsimp only
    split
    · obtain ⟨k, hserved⟩ := h.known.served tid h.live
      obtain ⟨hstate, hack⟩ := sendAckOfRequest_cases tid
        { Message.new .message with type := some .ACK } s.message
      have hafter : Working requests tid { s with message :=
          (MessageLayer.sendAckOfRequest tid { Message.new .message with type := some .ACK }
            s.message).2 } := by
        rw [hstate]
        have hknown := h.known.update tid
          (fun t => { acknowledgeRequest t with completed := true }) fun k hcell =>
            hcell.kept _ _ (same_setAcknowledged _ true) rfl
        exact ⟨h.congr _ hknown rfl rfl, h.live⟩
      rw [Action.bind_apply]
      generalize hr : MessageLayer.sendAckOfRequest tid
        { Message.new .message with type := some .ACK } s.message = r at hack hafter
      obtain ⟨result, m⟩ := r
      have hzoom : onMessage (MessageLayer.sendAckOfRequest tid
          { Message.new .message with type := some .ACK }) s =
          (result.mapError .raised, { s with message := m }) := by
        unfold onMessage Action.zoom
        rw [hr]
      rw [hzoom]
      cases result with
      | error e => exact hafter
      | ok ack =>
        obtain ⟨hdestination, htoken, hmid, hcode⟩ := hack ack rfl
        obtain ⟨r, hr, hsame⟩ := hserved.request
        change Working requests tid
          ((if ack.type ≠ none ∧ ack.mid ≠ none then sendDatagram ⟨ack, false⟩ else pure () :
            Action Stop (Server.State ω) Unit) { s with message := m }).2
        split
        · refine ⟨hafter.sendDatagram ⟨ack, false⟩ k ⟨⟨r, hr, ?_, ?_⟩, Or.inl htoken, ?_, ?_⟩,
            hafter.live⟩
          · exact (storedUnder_same r _ hsame).symm.trans hserved.key
          · exact hdestination.trans hsame.source
          · change 0 ≤ ack.mid.getD 0 ∧ ack.mid.getD 0 < 65536
            rw [hmid]
            exact (hserved.decoded _ hdecoded).mid
          · exact Or.inr ⟨_, ClientSteps.empty_mem_codes, hcode⟩
        · exact hafter
    · exact h

theorem serves_datagramReceivedRequest (handlers : Handlers ω) (faithful : Faithful handlers)
    (hdecoded : ∀ r ∈ requests, Decoded r) (rng : Bytes) (now : ℚ) (request : Message)
    (hmem : request ∈ requests) (h : Serves requests s) :
    Serves requests (datagramReceivedRequest handlers rng now request s).2 := by
  unfold datagramReceivedRequest
  split
  · exact h
  · cases hr : MessageLayer.receiveRequest now request s.message with
    | mk result m =>
    cases result with
    | error e =>
      have hm := receiveRequest_error s.message now request e m hr
      subst hm
      rw [Action.bind_error _ (ServerMoves.onMessage_refused now request s s.message e hr)]
      exact h
    | ok tid =>
      obtain ⟨hknown, hlive⟩ := known_receiveRequest h.known now request hmem tid m hr
      have hworking : Working requests tid { s with message := m } :=
        ⟨h.congr _ hknown rfl rfl, hlive⟩
      rw [Action.bind_ok _ (ServerMoves.onMessage_received now request s tid m hr)]
      rcases ServerMoves.dispatch_cases tid m with ⟨response, hresponse, hcase⟩ | hcase | hcase |
        hcase
      · rw [hcase]
        obtain ⟨k, hserved⟩ := hknown.served tid hlive
        exact hworking.sendDatagram ⟨response, false⟩ k (hserved.response response hresponse)
      · rw [hcase]
        exact hworking.toServes
      · rw [hcase]
        exact (keeping_sendAck hdecoded _ hworking).toServes
      · rw [hcase]
        exact (ServerMoves.moves_receiveRequest (keeping_steps handlers faithful hdecoded rng now) _
          hworking).toServes

theorem serves_purge (now : ℚ) (h : Serves requests s) : Serves requests (Server.purge now s) := by
  refine h.congr _ ⟨⟨leadsTo_keep _ _ _ h.known.leads.transactions,
    leadsTo_keep _ _ _ h.known.leads.transactionsToken, h.known.leads.transactionsSent,
    h.known.leads.transactionsSentToken⟩, h.known.served, ?_, h.known.mid⟩ rfl rfl
  intro k i hk
  change (s.message.transactionsToken.keep _).get? k = some i at hk
  rw [Dict.get?_keep] at hk
  split at hk
  · exact h.known.stored k i hk
  · cases hk

end Server

section Node
open Client Rendering
variable {requests : List Message} (P : Platform) (address : Address) (ipv6 : Text → Bool)
  (handlers : Handlers ω)

/-- Nothing is sent but in answer to what is received. -/
structure Passive (e : Timed) : Prop where
  send : ∀ rng noResponse request, e.2 ≠ .send rng noResponse request
  sendEmpty : ∀ rng message, e.2 ≠ .sendEmpty rng message

theorem passive_request (now : ℚ) (rng : Bytes) (request : Message) :
    Passive (now, .request rng request) := by
  refine ⟨?_, ?_⟩
  · intro rng' noResponse request' h
    cases h
  · intro rng' message h
    cases h

/-- The request that the event brings. -/
def received : Timed → List Message
  | (_, .request _ request) => [request]
  | _ => []

def receivedOf (events : List Timed) : List Message := events.flatMap received

theorem receivedOf_append (events later : List Timed) :
    receivedOf (events ++ later) = receivedOf events ++ receivedOf later := List.flatMap_append

/-- The node has sent nothing of its own, and what it has sent went back. -/
structure Answers (requests : List Message) (n : Node ω) : Prop where
  serves : Serves requests n.server
  count : requests.length ≤ n.server.received
  own : n.sent = []

theorem answers_new (startingMid : ℕ) (app : Application ω) (hmid : startingMid < 65536) :
    Answers [] (Node.new startingMid app) := by
  refine ⟨⟨known_new startingMid hmid, ?_, Nat.zero_le _⟩, Nat.zero_le _, rfl⟩
  intro p hp
  cases hp

theorem Answers.server {n : Node ω} (h : Answers requests n) (s : Server.State ω)
    (hknown : Known requests s.message) (hsent : s.sent = n.server.sent)
    (hreceived : s.received = n.server.received) : Answers requests { n with server := s } :=
  ⟨h.serves.congr s hknown hsent hreceived, hreceived.symm ▸ h.count, h.own⟩

section EmptyMessages
variable (message : Message)

theorem served_pairEmpty (type : Option MsgType) (k : Option Key) (t t' : Transaction)
    (hserved : Served requests k t) (h : MessagePairing.pairEmpty type t = .ok t') :
    Served requests k t' := by
  unfold MessagePairing.pairEmpty at h
  split at h
  · split at h
    · cases h
      exact hserved.kept _ _ (same_setAcknowledged _ true) rfl
    · split at h
      · cases h
        exact hserved
      · next response hresponse =>
        split at h
        · cases h
          refine hserved.restated _ _ (Same.refl _) fun m hm => ⟨response, hresponse, ?_⟩
          cases hm
          exact ⟨rfl, rfl, rfl, Or.inl rfl⟩
        · cases h
          exact hserved
  · split at h
    · cases h
      exact hserved.kept _ _ (same_setRejected _ true) rfl
    · split at h
      · cases h
      · next response hresponse =>
        split at h
        · cases h
          refine hserved.restated _ _ (Same.refl _) fun m hm => ⟨response, hresponse, ?_⟩
          cases hm
          exact ⟨rfl, rfl, rfl, Or.inl rfl⟩
        · cases h
          exact hserved
  · cases h
    exact hserved.kept _ _ (same_setAcknowledged _ true) rfl
  · cases h
    exact hserved

theorem answers_datagramReceivedMessage :
    Action.Moves (fun n n' => Answers requests n → Answers requests n')
      (datagramReceivedMessage P ipv6 message : Action Failure (Node ω) Unit) := by
  have trans : ∀ n n' n'' : Node ω, (Answers requests n → Answers requests n') →
      (Answers requests n' → Answers requests n'') → Answers requests n → Answers requests n'' :=
    fun _ _ _ h h' hn => h' (h hn)
  refine Action.Moves.andThen _ trans _ _ (fun n h => h) fun _ => ?_
  refine Action.Moves.andThen _ trans _ _ (fun n h => ?_) fun paired => ?_
  · have hknown := h.serves.known
    rcases receiveEmpty_pairs n.server.message ipv6 (printed message) with heq |
      ⟨_, tid, t, _, _, hpair, heq⟩
    · refine h.server _ ?_ rfl rfl
      change Known requests
        (MessagePairing.receiveEmpty ipv6 (printed message) n.server.message).2
      rw [heq]
      exact hknown
    · refine h.server _ ?_ rfl rfl
      change Known requests
        (MessagePairing.receiveEmpty ipv6 (printed message) n.server.message).2
      rw [heq]
      exact hknown.update tid (fun _ => t) fun k hcell => served_pairEmpty _ k _ t hcell hpair
  · cases paired with
    | none => exact fun n h => h
    | some tid =>
      intro n h
      refine h.server _ (h.serves.known.update tid (fun _ => _) fun k hcell => ?_) rfl rfl
      exact served_reset n.server.observe (printed message) (n.transaction tid) hcell

end EmptyMessages

theorem answers_datagramReceivedResponse (now : ℚ) (rng : Bytes) (r : Message) (n : Node ω)
    (h : Answers requests n) :
    (datagramReceivedResponse P address now rng r n).2 = n := by
  refine ResponseDelivery.unpaired_same P address now rng r n fun source destination _ _ => ?_
  cases hmatch : MessagePairing.matchResponse (printed r) source destination n.server.message with
  | none => rfl
  | some tid =>
    have hmem := matchResponse_own _ [] n.server.message _ _ _ tid h.serves.known.leads hmatch
    cases hmem

theorem answers_step (faithful : Faithful handlers) (n : Node ω) (e : Timed)
    (hpassive : Passive e) (hdecoded : ∀ r ∈ requests ++ received e, Decoded r)
    (h : Answers requests n) :
    Answers (requests ++ received e) (step P address ipv6 handlers n e) := by
  obtain ⟨now, e⟩ := e
  have hkept : ∀ n' : Node ω, Answers requests n' → Answers (requests ++ []) n' := by
    intro n' h'
    rw [List.append_nil]
    exact h'
  cases e with
  | send rng noResponse request => exact absurd rfl (hpassive.send rng noResponse request)
  | sendEmpty rng message => exact absurd rfl (hpassive.sendEmpty rng message)
  | response rng r =>
    refine hkept _ ?_
    change Answers requests (datagramReceivedResponse P address now rng r n).2
    rw [answers_datagramReceivedResponse P address now rng r n h]
    exact h
  | empty message => exact hkept _ (answers_datagramReceivedMessage P ipv6 message n h)
  | request rng request =>
    have hserves : Serves (requests ++ [request]) n.server := by
      refine ⟨h.serves.known.mono _ (List.subset_append_left _ _), h.serves.sent.append _ request,
        ?_⟩
      rw [List.length_append, List.length_singleton]
      exact Nat.succ_le_succ h.count
    have hafter := serves_datagramReceivedRequest handlers faithful hdecoded rng now request
      (List.mem_append_right _ List.mem_cons_self) hserves
    have hreceived : (datagramReceivedRequest handlers rng now request n.server).2.received =
        n.server.received := (ServerFrames.adds_datagramReceivedRequest handlers rng now request
          n.server).received
    refine ⟨⟨hafter.known, hafter.sent, ?_⟩, ?_, h.own⟩
    · change _ ≤ n.server.received + 1 + 1
      exact (hreceived ▸ hafter.count).trans (Nat.le_succ _)
    · change _ ≤ n.server.received + 1
      exact hreceived ▸ hafter.count
  | badMessage => exact hkept _ (h.server _ (known_fetchMid h.serves.known) rfl rfl)
  | purge =>
    exact hkept _ (h.server _ (serves_purge now h.serves).known rfl rfl)
  | interrupt i e atOnce overrides => exact hkept _ ⟨h.serves, h.count, h.own⟩
  | wakeUp i => exact hkept _ ⟨h.serves, h.count, h.own⟩
  | cancelWaited e => exact hkept _ ⟨h.serves, h.count, h.own⟩

theorem answers_run (faithful : Faithful handlers) (startingMid : ℕ) (app : Application ω)
    (events : List Timed) (hmid : startingMid < 65536) (hpassive : ∀ e ∈ events, Passive e)
    (hdecoded : ∀ r ∈ receivedOf events, Decoded r) :
    Answers (receivedOf events) (run P address ipv6 handlers startingMid app events) := by
  refine Runs.run_induction (step P address ipv6 handlers)
    (fun events n => Answers (receivedOf events) n) (Node.new startingMid app) events
    (answers_new startingMid app hmid) fun pre e post hevents h => ?_
  have hsplit : receivedOf (pre ++ [e]) = receivedOf pre ++ received e := by
    rw [receivedOf_append]
    exact congrArg _ (List.append_nil _)
  rw [hsplit]
  have hmem : ∀ r ∈ receivedOf pre ++ received e, r ∈ receivedOf events := by
    intro r hr
    rw [hevents, show pre ++ e :: post = (pre ++ [e]) ++ post by simp, receivedOf_append, hsplit]
    exact List.mem_append_left _ hr
  have he : e ∈ events := by
    rw [hevents]
    exact List.mem_append_right _ List.mem_cons_self
  exact answers_step P address ipv6 handlers faithful _ e (hpassive e he)
    (fun r hr => hdecoded r (hmem r hr)) h

/-- Whatever a node receives, what it sends goes back: to where one of the requests received until
then came from, and under the token of one that shares its transaction, or without a token. -/
theorem replies_return (startingMid : ℕ) (app : Application ω) (events : List Timed)
    (faithful : Faithful handlers) (mid : startingMid < 65536) (passive : ∀ e ∈ events, Passive e)
    (decoded : ∀ r ∈ receivedOf events, Decoded r) :
    (run P address ipv6 handlers startingMid app events).sent = [] ∧
      Returned (receivedOf events)
        (run P address ipv6 handlers startingMid app events).server.sent := by
  have hanswers := answers_run P address ipv6 handlers faithful startingMid app events mid passive
    decoded
  exact ⟨hanswers.own, hanswers.serves.sent⟩

end Node

section Samples
open Client

theorem faithful_sample : Faithful FreshExecution.sampleHandlers where
  edit := fun _ _ _ _ _ m => Restated.refl m
  pair := by
    intro handler rid request response app rid' m h
    left
    cases response with
    | none => cases h
    | some given =>
      cases h
      exact ⟨given, rfl, rfl, rfl, rfl, Or.inl rfl⟩
  flag := by
    intro handler rid request response app delete m h
    cases h

def sampleEvents : List Timed :=
  [(0, .request [] (FreshExecution.sampleGet 'a' [1] 1)),
    (1, .request [] (FreshExecution.sampleGet 'b' [2] 2))]

theorem replies_return_sample :
    (run Rendering.plainPlatform ResponseDelivery.samplePeer (fun _ => false)
        FreshExecution.sampleHandlers 1 FreshExecution.sampleApp sampleEvents).sent = [] ∧
      Returned (receivedOf sampleEvents)
        (run Rendering.plainPlatform ResponseDelivery.samplePeer (fun _ => false)
          FreshExecution.sampleHandlers 1 FreshExecution.sampleApp sampleEvents).server.sent := by
  refine replies_return Rendering.plainPlatform ResponseDelivery.samplePeer (fun _ => false)
    FreshExecution.sampleHandlers 1 FreshExecution.sampleApp sampleEvents faithful_sample
    (by decide) ?_ ?_
  · intro e he
    simp only [sampleEvents, List.mem_cons, List.not_mem_nil, or_false] at he
    rcases he with rfl | rfl
    · exact passive_request _ _ _
    · exact passive_request _ _ _
  · intro r hr
    change r ∈ [FreshExecution.sampleGet 'a' [1] 1, FreshExecution.sampleGet 'b' [2] 2] at hr
    simp only [List.mem_cons, List.not_mem_nil, or_false] at hr
    rcases hr with rfl | rfl
    · exact ⟨Option.some_ne_none _, by decide⟩
    · exact ⟨Option.some_ne_none _, by decide⟩

end Samples

end BubotCoap.ServedRequests
