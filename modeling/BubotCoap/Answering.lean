import BubotCoap.Execution
import BubotCoap.Replies

set_option autoImplicit false

namespace BubotCoap.Answering
open PythonData Defines Utils Messages OrderedDict Transactions Resources BlockSteps ObserveLayer
  Execution Replies Server FallibleState

variable {ω : Type}

section Steps
variable {α : Type} (tid : ℕ) (s : Server.State ω)

@[simp] theorem transaction_setTransaction (t : Transaction) :
    (s.setTransaction tid t).transaction tid = t :=
  Heap.set_cell_self s.message.heap tid t

theorem setTransaction_self : s.setTransaction tid (s.transaction tid) = s := by
  unfold State.setTransaction State.transaction
  rw [Heap.set_self]

theorem getTransaction_apply :
    (getTransaction tid : Action Stop (Server.State ω) Transaction) s =
      (.ok (s.transaction tid), s) := rfl

theorem onBlock_ok (x : Action PyErr (BlockLayer.State × Transaction) α) (a : α)
    (b : BlockLayer.State) (t : Transaction)
    (h : x (s.block, s.transaction tid) = (.ok a, b, t)) :
    onBlock tid x s = (.ok a, { s with block := b }.setTransaction tid t) :=
  Action.zoom_ok _ _ _ x s a (b, t) h

theorem onObserve_ok (x : Action PyErr (Relations × Transaction) α) (a : α) (o : Relations)
    (t : Transaction) (h : x (s.observe, s.transaction tid) = (.ok a, o, t)) :
    onObserve tid x s = (.ok a, { s with observe := o }.setTransaction tid t) :=
  Action.zoom_ok _ _ _ x s a (o, t) h

theorem onObserve_error (x : Action PyErr (Relations × Transaction) α) (e : PyErr) (o : Relations)
    (t : Transaction) (h : x (s.observe, s.transaction tid) = (.error e, o, t)) :
    onObserve tid x s = (.error (.raised e), { s with observe := o }.setTransaction tid t) :=
  Action.zoom_error _ _ _ x s e (o, t) h

theorem onMessage_ok (x : Action PyErr MessageLayer.State α) (a : α) (m : MessageLayer.State)
    (h : x s.message = (.ok a, m)) : onMessage x s = (.ok a, { s with message := m }) :=
  Action.zoom_ok _ _ _ x s a m h

theorem onRelations_ok (x : Action PyErr Relations α) (a : α) (o : Relations)
    (h : x s.observe = (.ok a, o)) : onRelations x s = (.ok a, { s with observe := o }) :=
  Action.zoom_ok _ _ _ x s a o h

theorem onScene_ok (x : Action Stop (Scene ω) α) (a : α) (p : Scene ω)
    (h : x ⟨s.app, [], s.transaction tid⟩ = (.ok a, p)) :
    onScene tid x s = (.ok a, { s with
      app := p.app
      calls := s.calls ++ p.calls.map fun c => (s.received, c)
      }.setTransaction tid p.transaction) :=
  Action.zoom_ok _ _ _ x s a p h

end Steps

section Log
variable (handlers : Handlers ω) (rng : Bytes) (tid : ℕ) (s : Server.State ω) (sent : Option ℕ)
  (m : MessageLayer.State) (response : Message)
  (hsend : MessageLayer.sendResponse rng tid s.message = (.ok sent, m))
include hsend

theorem sendResponse_logged : Server.sendResponse handlers rng tid s =
    logResponse handlers.platform tid { s with message := m } := by
  unfold Server.sendResponse
  exact Action.bind_ok _ (onMessage_ok s _ sent m hsend)

theorem sendResponse_unanswered (hresponse : (m.heap.cell tid).response = none) :
    Server.sendResponse handlers rng tid s = (.ok (), { s with message := m }) := by
  rw [sendResponse_logged handlers rng tid s sent m hsend]
  unfold logResponse
  rw [show (({ s with message := m } : Server.State ω).transaction tid).response = none from
    hresponse]

theorem sendResponse_printable (hresponse : (m.heap.cell tid).response = some response)
    (hcode : response.code ≠ none)
    (hprintable : Rendering.Printable handlers.platform response) :
    Server.sendResponse handlers rng tid s = (.ok (), { s with message := m }) := by
  obtain ⟨line, hline⟩ := (Rendering.linePrint_ok_iff handlers.platform response).mpr hprintable
  have hsame : { m.heap.cell tid with response := some (Rendering.printed response) } =
      m.heap.cell tid := by
    rw [Rendering.printed_coded response hcode, ← hresponse]
  rw [sendResponse_logged handlers rng tid s sent m hsend]
  unfold logResponse
  rw [show (({ s with message := m } : Server.State ω).transaction tid).response = some response
    from hresponse]
  dsimp only
  rw [hline]
  refine Prod.ext rfl ?_
  have hself := setTransaction_self tid ({ s with message := m } : Server.State ω)
  have hcell : ({ s with message := m } : Server.State ω).transaction tid = m.heap.cell tid := rfl
  dsimp only
  rw [hcell, hsame, ← hcell]
  exact hself

theorem sendResponse_unprintable (hresponse : (m.heap.cell tid).response = some response)
    (hprintable : ¬ Rendering.Printable handlers.platform response) :
    ∃ e s', Server.sendResponse handlers rng tid s = (.error e, s') ∧ s'.sent = s.sent := by
  rw [sendResponse_logged handlers rng tid s sent m hsend]
  unfold logResponse
  rw [show (({ s with message := m } : Server.State ω).transaction tid).response = some response
    from hresponse]
  cases hline : Rendering.linePrint handlers.platform response with
  | error e =>
    dsimp only
    rw [hline]
    exact ⟨.failed e, _, rfl, rfl⟩
  | ok line =>
    exact absurd ((Rendering.linePrint_ok_iff handlers.platform response).mp ⟨line, hline⟩)
      hprintable

end Log

section Reply
variable (handlers : Handlers ω) (rng : Bytes) (now : ℚ) (tid : ℕ) (s : Server.State ω)

/-- No relation concerns the resource, if its observers are to be notified. -/
def Quiet (s : Server.State ω) (rid : ℕ) : Prop :=
  (s.app.resources rid).marked = true →
    ∀ k item, s.observe.get? k = some item → Elsewhere s.message.heap rid item

theorem notify_nobody (rid : ℕ)
    (h : ∀ k item, s.observe.get? k = some item → Elsewhere s.message.heap rid item) :
    Server.notify rid s = (.ok (), s) := by
  have hheap : onHeap (ObserveLayer.notify rid) s = (.ok [], s) :=
    Action.zoom_ok _ _ _ _ s [] (s.observe, s.message.heap)
      (notify_quiet s.observe s.message.heap rid h)
  unfold Server.notify
  rw [Action.bind_ok _ hheap]
  rfl

theorem counter_update (app : Application ω) (rid : ℕ) (f : Resource → Resource)
    (h : ∀ r, (f r).counter = r.counter) :
    ((app.update rid f).resources rid).counter = (app.resources rid).counter := by
  change (if rid = rid then f (app.resources rid) else app.resources rid).counter = _
  rw [if_pos rfl]
  exact h _

theorem notifyMarked_counted (rid : ℕ) (h : Quiet s rid) :
    ∃ app : Application ω, notifyMarked (some rid) s = (.ok (), { s with app := app }) ∧
      (app.resources rid).counter = (s.app.resources rid).counter := by
  unfold notifyMarked
  rw [Action.bind_get]
  unfold Quiet Resource.marked at h
  dsimp only
  split
  · next hchanged =>
    rw [Action.bind_ok _ (notify_nobody s rid (h (by rw [hchanged]; rfl)))]
    exact ⟨_, rfl, counter_update s.app rid _ fun _ => rfl⟩
  · split
    · next hdeleted =>
      rw [Action.bind_ok _ (notify_nobody s rid (h (by rw [hdeleted, Bool.or_true])))]
      exact ⟨_, rfl, counter_update s.app rid _ fun _ => rfl⟩
    · exact ⟨s.app, rfl, rfl⟩

theorem notifyMarked_quiet (rid : ℕ) (h : Quiet s rid) :
    ∃ app, notifyMarked (some rid) s = (.ok (), { s with app := app }) := by
  obtain ⟨app, hnotify, _⟩ := notifyMarked_counted s rid h
  exact ⟨app, hnotify⟩

variable (rid : ℕ) (address : Address)

/-- What the layers do one after the other: the notifications, the observe layer, the block layer
and the message layer. -/
theorem reply_eq (app : Application ω) (relations : Relations) (block : BlockLayer.State)
    (t t' : Transaction) (hresource : (s.transaction tid).resource = some rid)
    (hnotify : notifyMarked (some rid) s = (.ok (), { s with app := app }))
    (hobserve : ObserveLayer.sendResponse now tid (counterOf app (s.transaction tid))
      (s.observe, s.transaction tid) = (.ok (), relations, t))
    (hblock : BlockLayer.sendResponse (s.block, t) = (.ok (), block, t')) :
    reply handlers rng now tid s =
      (do
        Server.sendResponse handlers rng tid
        let t ← getTransaction tid
        match t.response with
        | none => pure ()
        | some response => sendDatagram ⟨response, t.request.multicast⟩ :
          Action Stop (Server.State ω) Unit)
        { s with
          app := app
          observe := relations
          block := block
          message := { s.message with heap := s.message.heap.set tid t' } } := by
  let s₁ : Server.State ω := { s with app := app }
  let s₂ : Server.State ω := { s₁ with observe := relations }.setTransaction tid t
  let s₃ : Server.State ω := { s₂ with block := block }.setTransaction tid t'
  have hobserved := onObserve_ok tid s₁ _ () relations t hobserve
  have hblocked : onBlock tid BlockLayer.sendResponse s₂ = (.ok (), s₃) := by
    refine onBlock_ok tid s₂ _ () block t' ?_
    rw [transaction_setTransaction]
    exact hblock
  have hs₃ : s₃ = { s with
      app := app
      observe := relations
      block := block
      message := { s.message with heap := s.message.heap.set tid t' } } := by
    change ({ s with
      app := app
      observe := relations
      block := block
      message := { s.message with heap := (s.message.heap.set tid t).set tid t' } } :
        Server.State ω) = _
    rw [Heap.set_set]
  unfold Server.reply
  rw [Action.bind_ok _ (getTransaction_apply tid s), hresource, Action.bind_ok _ hnotify,
    Action.bind_get]
  refine (Action.bind_ok _ hobserved).trans ?_
  exact (Action.bind_ok _ hblocked).trans (congrArg _ hs₃)

section Stamped
variable (app : Application ω) (relations : Relations) (block : BlockLayer.State)
  (observed blocked : Message) (mid : ℤ)
  (hresource : (s.transaction tid).resource = some rid)
  (hnotify : notifyMarked (some rid) s = (.ok (), { s with app := app }))
  (hobserve : ObserveLayer.sendResponse now tid (counterOf app (s.transaction tid))
    (s.observe, s.transaction tid) =
      (.ok (), relations, { s.transaction tid with response := some observed }))
  (hblock : BlockLayer.sendResponse
    (s.block, { s.transaction tid with response := some observed }) =
      (.ok (), block, { s.transaction tid with response := some blocked }))
  (hrequest : Repliable (s.transaction tid).request mid) (hcurrent : s.message.currentMid ≤ 65535)
  (hdestination : blocked.destination ≠ none)
include hrequest hcurrent hdestination

/-- What the message layer is left with, and what it makes of the response. -/
theorem message_stamped : ∃ m reply,
    MessageLayer.sendResponse rng tid { s.message with
      heap := s.message.heap.set tid { s.transaction tid with response := some blocked } } =
        (.ok (some tid), m) ∧
      (m.heap.cell tid).response = some reply ∧
      (m.heap.cell tid).request = (s.transaction tid).request.setAcknowledged true ∧
      Stamped (s.transaction tid).request blocked reply := by
  let t : Transaction := { s.transaction tid with response := some blocked }
  have hcell : (s.message.heap.set tid t).cell tid = t := Heap.set_cell_self s.message.heap tid t
  obtain ⟨m, reply, hsend, hreply, hacknowledged, hstamped⟩ := sendResponse_stamped rng tid
    { s.message with heap := s.message.heap.set tid t } blocked mid
    (congrArg Transaction.response hcell)
    (by
      change Repliable ((s.message.heap.set tid t).cell tid).request mid
      rw [hcell]
      exact hrequest)
    hcurrent hdestination
  have hrequest' : ((s.message.heap.set tid t).cell tid).request =
      (s.transaction tid).request := by
    rw [hcell]
  rw [hrequest'] at hacknowledged hstamped
  exact ⟨m, reply, hsend, hreply, hacknowledged, hstamped⟩

include hresource hnotify hobserve hblock

/-- What is sent is the response as the observe and block layers leave it, stamped as a reply. -/
theorem reply_stamped (hcode : blocked.code ≠ none)
    (hprintable : Rendering.Printable handlers.platform blocked) :
    ∃ s' m, reply handlers rng now tid s = (.ok (), s') ∧ s'.calls = s.calls ∧
      s'.sent = s.sent ++ [(s.received, ⟨m, (s.transaction tid).request.multicast⟩)] ∧
      Stamped (s.transaction tid).request blocked m := by
  obtain ⟨m, reply, hsend, hreply, hacknowledged, hstamped⟩ := message_stamped rng tid s blocked mid
    hrequest hcurrent hdestination
  have hsame : reply.code = blocked.code := by rw [hstamped.same]
  have hlogged := sendResponse_printable handlers rng tid { s with
      app := app
      observe := relations
      block := block
      message := { s.message with
        heap := s.message.heap.set tid { s.transaction tid with response := some blocked } } }
    (some tid) m reply hsend hreply (by rwa [hsame])
    (hprintable.congr handlers.platform _ _ hsame (by rw [hstamped.same])
      (by rw [hstamped.same]))
  have hmulticast : ((s.transaction tid).request.setAcknowledged true).multicast =
      (s.transaction tid).request.multicast := rfl
  have hstages := reply_eq handlers rng now tid s rid app relations block _ _ hresource hnotify
    hobserve hblock
  rw [Action.bind_ok _ hlogged, Action.bind_ok _ (getTransaction_apply tid _)] at hstages
  dsimp only [State.transaction] at hstages
  rw [hreply, hacknowledged, hmulticast] at hstages
  exact ⟨_, reply, hstages, rfl, rfl, hstamped⟩

theorem reply_unprintable (hprintable : ¬ Rendering.Printable handlers.platform blocked) :
    ∃ e s', reply handlers rng now tid s = (.error e, s') ∧ s'.sent = s.sent := by
  obtain ⟨m, reply, hsend, hreply, _, hstamped⟩ := message_stamped rng tid s blocked mid
    hrequest hcurrent hdestination
  obtain ⟨e, s', hfailed, hsent⟩ := sendResponse_unprintable handlers rng tid { s with
      app := app
      observe := relations
      block := block
      message := { s.message with
        heap := s.message.heap.set tid { s.transaction tid with response := some blocked } } }
    (some tid) m reply hsend hreply fun h => hprintable (h.congr handlers.platform _ _
      (by rw [hstamped.same]) (by rw [hstamped.same]) (by rw [hstamped.same]))
  have hstages := reply_eq handlers rng now tid s rid app relations block _ _ hresource hnotify
    hobserve hblock
  rw [Action.bind_error _ hfailed] at hstages
  exact ⟨e, s', hstages, hsent⟩

end Stamped

theorem reply_sends (response : Message) (mid : ℤ)
    (hresource : (s.transaction tid).resource = some rid)
    (hresponse : (s.transaction tid).response = some response) (hcode : response.code ≠ none)
    (hdestination : response.destination ≠ none)
    (hsource : (s.transaction tid).request.source = some address)
    (hmulticast : (s.transaction tid).request.multicast = false)
    (hrequest : Repliable (s.transaction tid).request mid) (hcurrent : s.message.currentMid ≤ 65535)
    (hquiet : Quiet s rid)
    (hunstored : Unstored s.block
      (key address (tokenArg (s.transaction tid).request.token)) (some response))
    (hprintable : ∀ observed, Counted (s.app.resources rid).counter response observed →
      Rendering.Printable handlers.platform (firstBlock observed)) :
    ∃ s' m, reply handlers rng now tid s = (.ok (), s') ∧ s'.calls = s.calls ∧
      s'.sent = s.sent ++ [(s.received, ⟨m, false⟩)] ∧
      Built (s.app.resources rid).counter (s.transaction tid).request response m := by
  obtain ⟨app, hnotify, hcounter⟩ := notifyMarked_counted s rid hquiet
  obtain ⟨relations, observed, hobserve, hcounted⟩ := sendResponse_counted now tid
    (counterOf app (s.transaction tid)) s.observe (s.transaction tid) address response hsource
    hresponse hcode
  have hcounterOf : counterOf app (s.transaction tid) = (s.app.resources rid).counter := by
    unfold counterOf
    rw [hresource]
    exact hcounter
  have hobserved := hcounted.observed _ _ _
  have hpayload : observed.payload = response.payload := by
    rcases hobserved with rfl | ⟨count, rfl⟩ <;> rfl
  have hkept : observed.destination = response.destination := by
    rcases hobserved with rfl | ⟨count, rfl⟩ <;> rfl
  have hunstored' : Unstored s.block
      (key address (tokenArg (s.transaction tid).request.token)) (some observed) := by
    intro item hitem
    rw [Option.bind_some, hpayload]
    exact hunstored item hitem
  obtain ⟨block, hblock⟩ := sendResponse_firstBlock s.block
    { s.transaction tid with response := some observed } address observed hsource rfl hunstored'
  have hcoded : (firstBlock observed).code = response.code := by
    rw [(firstBlock_conveys observed).code]
    rcases hobserved with rfl | ⟨count, rfl⟩ <;> rfl
  obtain ⟨s', m, hreply, hcalls, hsent, hstamped⟩ := reply_stamped handlers rng now tid s rid app
    relations block observed (firstBlock observed) mid hresource hnotify hobserve hblock hrequest
    hcurrent (by rwa [firstBlock_destination, hkept]) (by rwa [hcoded])
    (hprintable observed (hcounterOf ▸ hcounted))
  rw [hmulticast] at hsent
  exact ⟨s', m, hreply, hcalls, hsent, observed, hcounterOf ▸ hcounted, hstamped⟩

theorem reply_nothing (hresource : (s.transaction tid).resource = some rid)
    (hresponse : (s.transaction tid).response = none)
    (hsource : (s.transaction tid).request.source = some address) (hquiet : Quiet s rid)
    (hunstored : Unstored s.block
      (key address (tokenArg (s.transaction tid).request.token)) none) :
    ∃ result s', reply handlers rng now tid s = (result, s') ∧ s'.calls = s.calls ∧ s'.sent = s.sent := by
  obtain ⟨app, hnotify⟩ := notifyMarked_quiet s rid hquiet
  have hsilent := sendResponse_silent now tid (counterOf app (s.transaction tid)) s.observe
    (s.transaction tid) hresponse
  generalize hr : ObserveLayer.sendResponse now tid (counterOf app (s.transaction tid))
    (s.observe, s.transaction tid) = r at hsilent
  obtain ⟨result, relations, t⟩ := r
  dsimp only at hsilent
  subst hsilent
  cases result with
  | error e =>
    let s₁ : Server.State ω := { s with app := app }
    refine ⟨.error (.raised e),
      { s₁ with observe := relations }.setTransaction tid (s.transaction tid), ?_, rfl, rfl⟩
    unfold Server.reply
    rw [Action.bind_ok _ (getTransaction_apply tid s), hresource, Action.bind_ok _ hnotify,
      Action.bind_get]
    exact Action.bind_error _ (onObserve_error tid s₁ _ e relations _ hr)
  | ok a =>
    have hblock := sendResponse_none s.block (s.transaction tid) address
      (key address (tokenArg (s.transaction tid).request.token)) hsource rfl
      (by rw [hresponse]; exact hunstored) (by rw [hresponse]; simp)
    have hself : s.message.heap.set tid (s.transaction tid) = s.message.heap :=
      Heap.set_self s.message.heap tid
    have hsend : MessageLayer.sendResponse rng tid
        { s.message with heap := s.message.heap.set tid (s.transaction tid) } =
          (.ok none, s.message.update tid fun t => { t with completed := true }) := by
      rw [hself]
      unfold MessageLayer.sendResponse
      rw [show (s.message.heap.cell tid).response = none from hresponse]
    have hunanswered : ((s.message.update tid fun t =>
        { t with completed := true }).heap.cell tid).response = none := by
      rw [MessageLayer.update_cell_self]
      exact hresponse
    have hstages := reply_eq handlers rng now tid s rid app relations _ _ _ hresource hnotify hr
      hblock
    rw [Action.bind_ok _ (sendResponse_unanswered handlers rng tid _ none _ hsend hunanswered),
      Action.bind_ok _ (getTransaction_apply tid _)] at hstages
    dsimp only [State.transaction] at hstages
    rw [hunanswered] at hstages
    exact ⟨_, _, hstages, rfl, rfl⟩

end Reply

/-- The relations once a request's own observe option has been seen to. -/
def registered (now : ℚ) (tid : ℕ) (request : Message) (address : Address)
    (relations : Relations) : Relations :=
  if request.observe = some (.int 0) then
    relations.insert (relationKey request address)
      ⟨now, some 0, relations.contains (relationKey request address), some tid⟩
  else if request.observe = some (.int 1) then relations.erase (relationKey request address)
  else relations

theorem receiveRequest_registered (now : ℚ) (tid : ℕ) (request : Message) (address : Address)
    (relations : Relations) (h : request.source = some address) :
    ObserveLayer.receiveRequest now tid request relations =
      (.ok (), registered now tid request address relations) := by
  unfold ObserveLayer.receiveRequest registered
  rw [h]
  split
  · rfl
  · split <;> rfl

/-- The handlers that executed a request are recorded, and the reply that carries the response. -/
structure AnsweredBy (s s' : Server.State ω) (request : Message) (x : Result ω) : Prop where
  calls : s'.calls = s.calls ++ x.calls.map (Prod.mk s.received)
  silent : x.response = none → s'.sent = s.sent
  sent : ∀ response, x.response = some response →
    ∃ m, s'.sent = s.sent ++ [(s.received, ⟨m, false⟩)] ∧ Carries request response m

/-- The same, with what the layers have made of the response. -/
structure BuiltBy (s s' : Server.State ω) (request : Message) (x : Result ω) : Prop where
  calls : s'.calls = s.calls ++ x.calls.map (Prod.mk s.received)
  silent : x.response = none → s'.sent = s.sent
  sent : ∀ response, x.response = some response →
    ∃ m, s'.sent = s.sent ++ [(s.received, ⟨m, false⟩)] ∧
      Built (x.app.resources x.resource).counter request response m

theorem BuiltBy.answered (s s' : Server.State ω) (request : Message) (x : Result ω)
    (h : BuiltBy s s' request x) : AnsweredBy s s' request x := by
  refine ⟨h.calls, h.silent, fun response hresponse => ?_⟩
  obtain ⟨m, hsent, hbuilt⟩ := h.sent response hresponse
  exact ⟨m, hsent, hbuilt.carries⟩

structure Answerable (request : Message) (address : Address) (mid : ℤ) (token : Bytes) : Prop
    extends Repliable request mid where
  source : request.source = some address
  unicast : request.multicast = false
  addressed : request.destination ≠ none
  token_eq : request.token = some token
  token_le : token.length ≤ 256
  block1 : request.block1 = .ok none
  block2 : request.block2 = .ok none

section Process
variable (handlers : Handlers ω) (rng : Bytes) (now : ℚ) (tid : ℕ) (s : Server.State ω)

theorem process_builds (address : Address) (mid : ℤ) (token : Bytes) (method : Method) (rid : ℕ)
    (x : Result ω) (hrequest : Answerable (s.transaction tid).request address mid token)
    (hresource : (s.transaction tid).resource = none)
    (hblock : (s.transaction tid).blockTransfer = false)
    (haddressed : Addressed s.app method rid (s.transaction tid).request)
    (hexecute : execute handlers method rid (s.transaction tid).request
      (replyTo (s.transaction tid).request token) s.app = some x)
    (hdestination : ∀ response, x.response = some response → response.destination ≠ none)
    (hcurrent : s.message.currentMid ≤ 65535)
    (hquiet : (x.app.resources x.resource).marked = true → ∀ k item,
      (registered now tid (s.transaction tid).request address s.observe).get? k = some item →
      ∃ i, item.transaction = some i ∧ i ≠ tid ∧
        (s.message.heap.cell i).resource ≠ some x.resource)
    (hunstored : Unstored s.block
      (key address (tokenArg (s.transaction tid).request.token)) x.response)
    (hprintable : ∀ response observed, x.response = some response →
      Counted (x.app.resources x.resource).counter response observed →
        Rendering.Printable handlers.platform (firstBlock observed)) :
    ∃ result s', process handlers rng now tid s = (result, s') ∧
      BuiltBy s s' (s.transaction tid).request x := by
  have hplain := onBlock_ok tid s _ _ _ _
    (receiveRequest_plain rng s.block (s.transaction tid) hrequest.block2 hrequest.block1)
  rw [setTransaction_self tid { s with block := s.block }] at hplain
  have hregister := onRelations_ok s _ () _ (receiveRequest_registered now tid
    (s.transaction tid).request address s.observe hrequest.source)
  let s₁ : Server.State ω :=
    { s with observe := registered now tid (s.transaction tid).request address s.observe }
  have hscene := onScene_ok tid s₁ _ () _ (receiveRequest_eq handlers rng
    ⟨s₁.app, [], s₁.transaction tid⟩ method rid token x haddressed hrequest.unicast
    hrequest.addressed hrequest.token_eq hrequest.token_le hexecute)
  let t : Transaction :=
    { s.transaction tid with resource := some x.resource, response := x.response }
  let s₂ : Server.State ω := { s₁ with
    app := x.app
    calls := s.calls ++ x.calls.map (Prod.mk s.received) }.setTransaction tid t
  have ht₂ : s₂.transaction tid = t := transaction_setTransaction tid _ _
  have hquiet₂ : Quiet s₂ x.resource := by
    intro hmarked k item hitem
    obtain ⟨i, hi, hne, hother⟩ := hquiet hmarked k item hitem
    refine ⟨i, hi, ?_⟩
    change ((s.message.heap.set tid t).cell i).resource ≠ _
    rwa [Heap.set_cell_of_ne _ _ _ _ hne]
  have hprocess : process handlers rng now tid s = reply handlers rng now tid s₂ := by
    unfold process
    refine (Action.bind_ok _ hplain).trans ?_
    refine (Action.bind_ok _ (getTransaction_apply tid s)).trans ?_
    rw [hblock]
    unfold answer
    refine (Action.bind_ok _ (getTransaction_apply tid s)).trans ?_
    refine (Action.bind_ok _ hregister).trans ?_
    rw [if_pos hresource]
    exact Action.bind_ok _ hscene
  rw [hprocess]
  cases hresponse : x.response with
  | none =>
    obtain ⟨result, s', hreply, hcalls, hsent⟩ := reply_nothing handlers rng now tid s₂ x.resource
      address (by rw [ht₂]) (by rw [ht₂]; exact hresponse) (by rw [ht₂]; exact hrequest.source) hquiet₂
      (by rw [ht₂, ← hresponse]; exact hunstored)
    refine ⟨result, s', hreply, hcalls, fun _ => hsent, fun response hsome => ?_⟩
    rw [hresponse] at hsome
    cases hsome
  | some response =>
    obtain ⟨s', m, hreply, hcalls, hsent, hbuilt⟩ := reply_sends handlers rng now tid s₂ x.resource
      address response mid (by rw [ht₂]) (by rw [ht₂]; exact hresponse)
      (execute_code handlers method rid _ _ _ x hexecute response hresponse)
      (hdestination response hresponse) (by rw [ht₂]; exact hrequest.source)
      (by rw [ht₂]; exact hrequest.unicast) (by rw [ht₂]; exact hrequest.toRepliable) hcurrent
      hquiet₂ (by rw [ht₂, ← hresponse]; exact hunstored)
      (fun observed => hprintable response observed hresponse)
    rw [ht₂] at hbuilt
    refine ⟨_, s', hreply, hcalls, fun hnone => ?_, fun response' hsome => ?_⟩
    · rw [hresponse] at hnone
      cases hnone
    · rw [hresponse] at hsome
      cases hsome
      exact ⟨m, hsent, hbuilt⟩

end Process

end BubotCoap.Answering
