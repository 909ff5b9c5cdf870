import BubotCoap.Block2Answers
import BubotCoap.FreshExecution
import BubotCoap.RequestFrames

set_option autoImplicit false

namespace BubotCoap.Notifications
open PythonData Defines Utils Options Messages OptionAccess OrderedDict Transactions Resources
  Execution Replies Answering BlockSteps BlockFrames RequestFrames Server ServerFrames Runs
  FreshExecution FallibleState
open ObserveLayer (ObserveItem Relations)
open Block2Answers (block2Option)
open Deduplication (sampleClient)

variable {ω : Type} (handlers : Handlers ω)

/-- A request as it arrives. -/
structure Arrival where
  rng : Bytes
  now : ℚ
  request : Message
  address : Address
  mid : ℤ
  token : Bytes

namespace Arrival
variable (a : Arrival)

/-- What the deserializer and the endpoint see to. -/
structure Received : Prop where
  source : a.request.source = some a.address
  destination : a.request.destination ≠ none
  type : a.request.type = some .CON ∨ a.request.type = some .NON
  id : a.request.mid = some a.mid
  id_le : a.mid ≤ 65535
  token_eq : a.request.token = some a.token
  acknowledged : a.request.acknowledged = false
  duplicated : a.request.duplicated = false

def tid (s : Server.State ω) : ℕ := nextTransaction a.request a.address s

/-- The message layer has stored the request. -/
def stored (s : Server.State ω) : Server.State ω :=
  { s with message := (MessageLayer.receiveRequest a.now a.request s.message).2 }

def step (s : Server.State ω) : Server.State ω :=
  (datagramReceivedRequest handlers a.rng a.now a.request s).2

end Arrival

/-- A change of the resource `rid`: the request has `passed` the block layer, and the request layer
has `made` the change, with the response to the request. -/
structure Change (ω : Type) where
  passed : Server.State ω
  made : Server.State ω
  rid : ℕ
  response : Message

namespace Change
variable (a : Arrival) (s : Server.State ω) (c : Change ω)

/-- The relations once the request's own Observe option has been seen to. -/
def relations : Relations := registered a.now (a.tid s) a.request a.address s.observe

/-- The request is a POST or PUT whose handler succeeds and marks the resource changed. -/
structure Made : Prop extends a.Received where
  fresh : MessageLayer.duplicateOf a.request a.address s.message = none
  free : a.tid s ∉ s.held
  block : onBlock (a.tid s) (BlockLayer.receiveRequest a.rng) (a.stored s) = (.ok (), c.passed)
  whole : (c.passed.transaction (a.tid s)).blockTransfer = false
  unanswered : (c.passed.transaction (a.tid s)).resource = none
  executed : onScene (a.tid s) (RequestLayer.receiveRequest handlers a.rng)
    { c.passed with observe := relations a s } = (.ok (), c.made)
  method : a.request.code = some Codes.post ∨ a.request.code = some Codes.put
  resource : (c.made.transaction (a.tid s)).resource = some c.rid
  changed : (c.made.app.resources c.rid).changed = true
  response : (c.made.transaction (a.tid s)).response = some c.response
  success : ∃ code, c.response.code = some code ∧ code < Codes.errorLowerBound
  addressed : c.response.destination = some a.address

/-- The requests of the established observations of the resource. -/
def observations : List Message :=
  c.made.observe.entries.filterMap fun e => e.2.transaction.bind fun i =>
    if e.2.allowed ∧ (c.made.transaction i).resource = some c.rid then
      some (c.made.transaction i).request
    else none

/-- The datagram carries what a new execution of the observer's request produces. -/
def Notifies (request : Message) (d : Datagram) : Prop :=
  ∃ token method rid app x response, request.token = some token ∧
    execute handlers method rid request (replyTo request token) app = some x ∧
    x.response = some response ∧ Conveys response d.message ∧
    d.message.destination = request.source ∧ d.message.token = request.token

/-- The reply's payload is the block of the response's that its Block2 option describes. -/
def Part (response reply : Message) : Prop :=
  ∃ p num more size, response.payload = some p ∧
    ofNumber OptionRegistry.block2.number reply.options = [block2Option num more size] ∧
    reply.payload = some (p.slice (num * size) ((num + 1) * size))

/-- The reply to the request is the response, or a block of it. -/
structure Own (request response reply : Message) : Prop where
  code : reply.code = response.code
  token : reply.token = response.token
  destination : reply.destination = response.destination
  source : reply.source = response.source
  con : response.type = none → request.type = some .CON →
    reply.type = some .ACK ∧ reply.mid = request.mid
  non : response.type = none → request.type = some .NON → reply.type = some .NON
  payload : reply.payload = response.payload ∨ Part response reply
  options : ∀ n, n ≠ OptionRegistry.observe.number → n ≠ OptionRegistry.block2.number →
    n ≠ OptionRegistry.size2.number → ofNumber n reply.options = ofNumber n response.options

/-- One notification is sent to each observer, and the response to the requester. -/
def Told : Prop :=
  ∃ (sent notifications : List Datagram) (reply : Message),
    (a.step handlers s).sent = s.sent ++ sent.map (Prod.mk s.received) ∧
    sent.Perm (notifications ++ [⟨reply, a.request.multicast⟩]) ∧
    List.Forall₂ (Notifies handlers) c.observations notifications ∧
    Own a.request c.response reply

/-- What the block layer sends for the token, if it cuts the response, is part of the response. -/
def OwnBlock : Prop :=
  ∀ item payload, BlockLayer.outgoingItem c.passed.block
      (key a.address (tokenArg a.request.token)) (some c.response) = some (item, payload) →
    some (payload.slice item.byte (item.byte + item.size)) = c.response.payload ∨
      ∃ p num more size, c.response.payload = some p ∧
        block2Option item.num (BlockLayer.moreBlocks item.num item.size payload.length) item.size =
          block2Option num more size ∧
        payload.slice item.byte (item.byte + item.size) = p.slice (num * size) ((num + 1) * size)

/-- The response as the observe and block layers leave it. -/
def dressed : Option Message :=
  let observed := ObserveLayer.sendResponse a.now (a.tid s)
    (counterOf c.made.app (c.made.transaction (a.tid s)))
    (c.made.observe, c.made.transaction (a.tid s))
  (BlockLayer.sendResponse (c.made.block, observed.2.2)).2.2.response

/-- It can be written to the log. -/
def Loggable : Prop :=
  ∀ m, c.dressed a s = some m → Rendering.Printable handlers.platform m

/-- No relation is on the resource. -/
def Unobserved : Prop :=
  ∀ k item, (relations a s).get? k = some item →
    ∃ i, item.transaction = some i ∧ i ≠ a.tid s ∧ (s.transaction i).resource ≠ some c.rid

end Change

section Observers
variable (rid : ℕ)

/-- The first relation that concerns the resource is not passed over. -/
theorem notifyKeys_concerned (relations : Relations) (heap : Heap) (ks : List Key) (k : Key)
    (item : ObserveItem) (hk : k ∈ ks) (hitem : relations.get? k = some item)
    (hconcerned : ¬ Elsewhere heap rid item) :
    (ObserveLayer.notifyKeys rid ks (relations, heap)).1 ≠ .ok [] := by
  induction ks with
  | nil => exact absurd hk (by simp)
  | cons k' ks ih =>
    unfold ObserveLayer.notifyKeys
    dsimp only
    cases hitem' : relations.get? k' with
    | none => simp
    | some item' =>
      dsimp only
      by_cases helsewhere : Elsewhere heap rid item'
      · obtain ⟨i, hi, hother⟩ := helsewhere
        have hpassed : ObserveLayer.notifyItem rid k' item' (relations, heap) =
            (.ok none, relations, heap) := by
          unfold ObserveLayer.notifyItem
          dsimp only
          rw [hi]
          exact if_neg hother
        have hrest : k ∈ ks := by
          rcases List.mem_cons.mp hk with rfl | hmem
          · rw [hitem] at hitem'
            cases hitem'
            exact absurd ⟨i, hi, hother⟩ hconcerned
          · exact hmem
        have hlater := ih hrest
        rw [Action.bind_ok _ hpassed, Action.bind_apply]
        generalize ObserveLayer.notifyKeys rid ks (relations, heap) = r at hlater
        obtain ⟨result, state⟩ := r
        cases result with
        | error e => simp
        | ok rest => exact hlater
      · have hfirst : ∀ state,
            ObserveLayer.notifyItem rid k' item' (relations, heap) ≠ (.ok none, state) := by
          intro state hnone
          unfold ObserveLayer.notifyItem at hnone
          dsimp only at hnone
          split at hnone
          · cases hnone
          · next i hi =>
            split at hnone
            · split at hnone
              · cases hnone
              · split at hnone
                · cases hnone
                · cases hnone
            · next hother => exact helsewhere ⟨i, hi, hother⟩
        rw [Action.bind_apply]
        generalize ObserveLayer.notifyItem rid k' item' (relations, heap) = r at hfirst
        obtain ⟨result, state⟩ := r
        rcases result with e | _ | tid
        · simp
        · exact absurd rfl (hfirst state)
        · dsimp only
          rw [Action.bind_apply]
          generalize ObserveLayer.notifyKeys rid ks state = r'
          obtain ⟨result', state'⟩ := r'
          cases result' with
          | error e => simp
          | ok rest => simp

variable (s : Server.State ω)

theorem notify_concerned (k : Key) (item : ObserveItem) (hitem : s.observe.get? k = some item)
    (hconcerned : ¬ Elsewhere s.message.heap rid item) :
    ∃ e s', Server.notify rid s = (.error e, s') ∧ s'.sent = s.sent := by
  have hk : k ∈ s.observe.entries.map Prod.fst :=
    List.mem_map.mpr ⟨(k, item), (s.observe.mem_entries_iff k item).mpr hitem, rfl⟩
  have hobservers : (ObserveLayer.notify rid (s.observe, s.message.heap)).1 ≠ .ok [] :=
    notifyKeys_concerned rid s.observe s.message.heap _ k item hk hitem hconcerned
  unfold Server.notify
  generalize hr : ObserveLayer.notify rid (s.observe, s.message.heap) = r at hobservers
  obtain ⟨result, relations, heap⟩ := r
  cases result with
  | error e =>
    exact ⟨_, _, Action.bind_error _ (Action.zoom_error _ _ _ _ s e (relations, heap) hr), rfl⟩
  | ok observers =>
    have hheap : onHeap (ObserveLayer.notify rid) s = (.ok observers, _) :=
      Action.zoom_ok _ _ _ _ s observers (relations, heap) hr
    rw [Action.bind_ok _ hheap]
    cases observers with
    | nil => exact absurd rfl hobservers
    | cons first rest => exact ⟨_, _, rfl, rfl⟩

variable (rng : Bytes) (now : ℚ) (tid : ℕ)

theorem reply_concerned (hresource : (s.transaction tid).resource = some rid)
    (hchanged : (s.app.resources rid).changed = true) (k : Key) (item : ObserveItem)
    (hitem : s.observe.get? k = some item) (hconcerned : ¬ Elsewhere s.message.heap rid item) :
    ∃ e s', reply handlers rng now tid s = (.error e, s') ∧ s'.sent = s.sent := by
  obtain ⟨e, s', hnotify, hsent⟩ := notify_concerned rid s k item hitem hconcerned
  have hmarked : notifyMarked (some rid) s = (.error e, s') := by
    unfold notifyMarked
    rw [Action.bind_get]
    dsimp only
    rw [if_pos hchanged, Action.bind_error _ hnotify]
  refine ⟨e, s', ?_, hsent⟩
  unfold Server.reply
  rw [Action.bind_ok _ (getTransaction_apply tid s), hresource, Action.bind_error _ hmarked]

end Observers

section Block

/-- The response as the block layer sends it: as it is, or the block the table stands at. -/
structure Blocked (s : BlockLayer.State) (k : Key) (response blocked : Message) : Prop where
  same : blocked = { response with options := blocked.options, payload := blocked.payload }
  options : ∀ n, n ≠ OptionRegistry.block2.number → n ≠ OptionRegistry.size2.number →
    ofNumber n blocked.options = ofNumber n response.options
  whole : BlockLayer.outgoingItem s k (some response) = none → blocked.payload = response.payload
  cut : ∀ item payload, BlockLayer.outgoingItem s k (some response) = some (item, payload) →
    blocked.payload = some (payload.slice item.byte (item.byte + item.size)) ∧
    ofNumber OptionRegistry.block2.number blocked.options =
      [block2Option item.num (BlockLayer.moreBlocks item.num item.size payload.length) item.size]

theorem sendResponse_blocked (s : BlockLayer.State) (t : Transaction) (address : Address)
    (response : Message) (hsource : t.request.source = some address)
    (hresponse : t.response = some response) :
    ∃ s' blocked, BlockLayer.sendResponse (s, t) =
        (.ok (), s', { t with response := some blocked }) ∧
      Blocked s (key address (tokenArg t.request.token)) response blocked := by
  have hsame : { t with response := some response } = t := by rw [← hresponse]
  unfold BlockLayer.sendResponse
  dsimp only
  rw [hsource]
  dsimp only
  rw [hresponse]
  cases hitem : BlockLayer.outgoingItem s (key address (tokenArg t.request.token))
    (some response) with
  | none =>
    refine ⟨s, response, by rw [hsame], rfl, fun _ _ _ => rfl, fun _ => rfl, ?_⟩
    intro item payload hsome
    rw [hitem] at hsome
    cases hsome
  | some p =>
    obtain ⟨item, payload⟩ := p
    obtain ⟨r, hr, hslice, hoption⟩ :=
      Block2Answers.blockResponse_eq t.request response item payload
    obtain ⟨hkept, hoptions⟩ :=
      Block2Answers.blockResponse_same t.request response item payload r hr
    dsimp only
    rw [hr]
    refine ⟨_, r, rfl, hkept, hoptions, fun hnone => ?_, ?_⟩
    · rw [hitem] at hnone
      cases hnone
    · intro item' payload' hsome
      rw [hitem] at hsome
      cases hsome
      exact ⟨hslice, hoption⟩

theorem observed_same (response observed : Message) (h : Observed response observed) :
    observed = { response with options := observed.options } ∧
      ∀ n, n ≠ OptionRegistry.observe.number →
        ofNumber n observed.options = ofNumber n response.options := by
  rcases h with rfl | ⟨count, rfl⟩
  · exact ⟨rfl, fun _ _ => rfl⟩
  · exact ⟨rfl, fun n hn => ofNumber_replace_of_ne response OptionRegistry.observe _ rfl rfl n hn⟩

theorem outgoingItem_observed (s : BlockLayer.State) (k : Key) (response observed : Message)
    (h : Observed response observed) :
    BlockLayer.outgoingItem s k (some observed) = BlockLayer.outgoingItem s k (some response) := by
  obtain ⟨hsame, hoptions⟩ := observed_same response observed h
  have hpayload : observed.payload = response.payload := by rw [hsame]
  have htype : observed.contentType = response.contentType :=
    contentType_congr observed response (hoptions _ (by decide))
  unfold BlockLayer.outgoingItem
  rw [Option.bind_some, Option.bind_some, hpayload, Option.map_some, Option.map_some, htype]

end Block

section Stages
variable (a : Arrival) (s : Server.State ω) (c : Change ω)

/-- What the stages up to the change leave as it was. -/
structure Reached (a : Arrival) (s : Server.State ω) (c : Change ω) : Prop where
  sent : c.made.sent = s.sent
  received : c.made.received = s.received
  mid : c.made.message.currentMid = s.message.currentMid
  block : c.made.block = c.passed.block
  observe : c.made.observe = Change.relations a s
  others : ∀ i, i ≠ a.tid s → c.made.transaction i = s.transaction i
  source : (c.made.transaction (a.tid s)).request.source = some a.address
  token : (c.made.transaction (a.tid s)).request.token = a.request.token
  type : (c.made.transaction (a.tid s)).request.type = a.request.type
  id : (c.made.transaction (a.tid s)).request.mid = a.request.mid
  multicast : (c.made.transaction (a.tid s)).request.multicast = a.request.multicast
  waiting : (c.made.transaction (a.tid s)).request.acknowledged = false

theorem registered_congr (now : ℚ) (tid : ℕ) (request request' : Message) (address : Address)
    (relations : Relations) (hobserve : request'.observe = request.observe)
    (htoken : request'.token = request.token) :
    registered now tid request' address relations = registered now tid request address relations := by
  unfold registered ObserveLayer.relationKey
  rw [hobserve, htoken]

variable (h : c.Made handlers a s)
include h

theorem stored_takes : MessageLayer.receiveRequest a.now a.request s.message =
      (.ok (a.tid s), (a.stored s).message) ∧
    ((a.stored s).transaction (a.tid s)).request = stamped a.now a.request ∧
    (a.stored s).message.currentMid = s.message.currentMid ∧
    ∀ i, i ≠ a.tid s → (a.stored s).transaction i = s.transaction i := by
  obtain ⟨m', hreceive, hrequest, hcounter, hothers, _, _⟩ :=
    receiveRequest_takes a.now a.request a.address s.message h.source h.fresh
  have hstored : a.stored s = { s with message := m' } := by
    unfold Arrival.stored
    rw [hreceive]
  rw [hstored]
  exact ⟨hreceive, hrequest, hcounter, hothers⟩

/-- The block layer has left the request what it is addressed by. -/
theorem passed_request :
    ∃ options payload, (c.passed.transaction (a.tid s)).request =
        { stamped a.now a.request with options := options, payload := payload } ∧
      (c.passed.transaction (a.tid s)).request.observe = a.request.observe := by
  have hblock : (BlockLayer.receiveRequest a.rng
      ((a.stored s).block, (a.stored s).transaction (a.tid s))).2.2 =
        c.passed.transaction (a.tid s) := by
    have hpassed : (onBlock (a.tid s) (BlockLayer.receiveRequest a.rng) (a.stored s)).2 =
        c.passed := congrArg Prod.snd h.block
    rw [← hpassed]
    exact (transaction_setTransaction (a.tid s) _ _).symm
  have hpasses := passes_receiveRequest a.rng (a.stored s).block
    ((a.stored s).transaction (a.tid s))
  rw [hblock] at hpasses
  obtain ⟨options, payload, hrequest⟩ := hpasses.request
  rw [(stored_takes handlers a s c h).2.1] at hrequest
  refine ⟨options, payload, hrequest, ?_⟩
  have hobserve := hpasses.options OptionRegistry.observe.number (by decide) (by decide)
  rw [(stored_takes handlers a s c h).2.1] at hobserve
  exact observe_congr _ _ hobserve

theorem reached : Reached a s c := by
  obtain ⟨options, payload, hrequest, _⟩ := passed_request handlers a s c h
  have hpassed : c.passed = (onBlock (a.tid s) (BlockLayer.receiveRequest a.rng) (a.stored s)).2 :=
    (congrArg Prod.snd h.block).symm
  have hmade : c.made = (onScene (a.tid s) (RequestLayer.receiveRequest handlers a.rng)
      { c.passed with observe := Change.relations a s }).2 := (congrArg Prod.snd h.executed).symm
  have hkept : (c.made.transaction (a.tid s)).request =
      (c.passed.transaction (a.tid s)).request := by
    obtain ⟨resource, response, hkeeps⟩ := keeps_receiveRequest handlers a.rng
      ⟨c.passed.app, [], c.passed.transaction (a.tid s)⟩
    rw [hmade]
    refine (congrArg Transaction.request (transaction_setTransaction (a.tid s) _ _)).trans ?_
    exact (congrArg Transaction.request hkeeps).trans rfl
  rw [hrequest] at hkept
  obtain ⟨_, _, hcounter, hothers⟩ := stored_takes handlers a s c h
  have hpassedOthers : ∀ i, i ≠ a.tid s → c.passed.transaction i = s.transaction i := by
    intro i hi
    rw [hpassed, ← hothers i hi]
    exact Heap.set_cell_of_ne _ _ _ _ hi
  refine ⟨?_, ?_, ?_, ?_, ?_, ?_, ?_, ?_, ?_, ?_, ?_, ?_⟩
  · rw [hmade]
    change c.passed.sent = s.sent
    rw [hpassed]
    rfl
  · rw [hmade]
    change c.passed.received = s.received
    rw [hpassed]
    rfl
  · rw [← hcounter, hmade]
    change c.passed.message.currentMid = _
    rw [hpassed]
    rfl
  · rw [hmade]
    rfl
  · rw [hmade]
    rfl
  · intro i hi
    rw [hmade, ← hpassedOthers i hi]
    exact Heap.set_cell_of_ne _ _ _ _ hi
  · rw [hkept]
    exact h.source
  · rw [hkept]
    rfl
  · rw [hkept]
    rfl
  · rw [hkept]
    rfl
  · rw [hkept]
    rfl
  · rw [hkept]
    exact h.acknowledged

theorem process_reply : process handlers a.rng a.now (a.tid s) (a.stored s) =
    reply handlers a.rng a.now (a.tid s) c.made := by
  obtain ⟨options, payload, hrequest, hobserve⟩ := passed_request handlers a s c h
  have hregister : onRelations (ObserveLayer.receiveRequest a.now (a.tid s)
      (c.passed.transaction (a.tid s)).request) c.passed =
        (.ok (), { c.passed with observe := Change.relations a s }) := by
    have hsource : (c.passed.transaction (a.tid s)).request.source = some a.address := by
      rw [hrequest]
      exact h.source
    have htoken : (c.passed.transaction (a.tid s)).request.token = a.request.token := by
      rw [hrequest]
      rfl
    have hkept : c.passed.observe = s.observe := by
      have hpassed : (onBlock (a.tid s) (BlockLayer.receiveRequest a.rng) (a.stored s)).2 =
          c.passed := congrArg Prod.snd h.block
      rw [← hpassed]
      rfl
    have hregistered := receiveRequest_registered a.now (a.tid s)
      (c.passed.transaction (a.tid s)).request a.address c.passed.observe hsource
    rw [registered_congr a.now (a.tid s) a.request _ a.address c.passed.observe hobserve htoken]
      at hregistered
    rw [hkept] at hregistered
    exact onRelations_ok c.passed _ () _ (by rw [hkept]; exact hregistered)
  unfold process
  rw [Action.bind_ok _ h.block, Action.bind_ok _ (getTransaction_apply (a.tid s) c.passed), h.whole]
  unfold answer
  refine (Action.bind_ok _ (getTransaction_apply (a.tid s) c.passed)).trans ?_
  rw [Action.bind_ok _ hregister, if_pos h.unanswered]
  exact Action.bind_ok _ h.executed

theorem step_sent : (a.step handlers s).sent = (reply handlers a.rng a.now (a.tid s) c.made).2.sent := by
  obtain ⟨hreceive, hrequest, _, _⟩ := stored_takes handlers a s c h
  have hfresh : datagramReceivedRequest handlers a.rng a.now a.request s =
      Server.receiveRequest handlers a.rng a.now (a.tid s) (a.stored s) :=
    datagramReceivedRequest_fresh handlers a.rng a.now a.request a.address s _ h.source
      h.duplicated h.free hreceive hrequest
  have hfree : a.tid s ∉ (a.stored s).held := h.free
  unfold Arrival.step
  rw [hfresh]
  unfold Server.receiveRequest
  rw [if_neg hfree, process_reply handlers a s c h]
  generalize reply handlers a.rng a.now (a.tid s) c.made = r
  obtain ⟨(_ | _ | _) | _, s'⟩ := r <;> rfl

end Stages

section Told
variable (a : Arrival) (s : Server.State ω) (c : Change ω)

theorem told_sends (h : c.Told handlers a s) : s.sent.length < (a.step handlers s).sent.length := by
  obtain ⟨sent, notifications, reply, hsent, hperm, _, _⟩ := h
  have hlength := hperm.length_eq
  rw [hsent]
  rw [List.length_append, List.length_singleton] at hlength
  rw [List.length_append, List.length_map]
  omega

variable (h : c.Made handlers a s)
include h

theorem unobserved_iff : c.Unobserved a s ↔
    ∀ k item, c.made.observe.get? k = some item → Elsewhere c.made.message.heap c.rid item := by
  have hreached := reached handlers a s c h
  rw [hreached.observe]
  constructor
  · intro hunobserved k item hitem
    obtain ⟨i, hi, hne, hother⟩ := hunobserved k item hitem
    refine ⟨i, hi, ?_⟩
    have hcell := hreached.others i hne
    rw [← hcell] at hother
    exact hother
  · intro helsewhere k item hitem
    obtain ⟨i, hi, hother⟩ := helsewhere k item hitem
    have hne : i ≠ a.tid s := by
      rintro rfl
      exact hother h.resource
    have hcell := hreached.others i hne
    refine ⟨i, hi, hne, ?_⟩
    rw [← hcell]
    exact hother

theorem observations_nil (hunobserved : c.Unobserved a s) : c.observations = [] := by
  have helsewhere := (unobserved_iff handlers a s c h).mp hunobserved
  refine List.filterMap_eq_nil_iff.mpr ?_
  rintro ⟨k, item⟩ hmem
  obtain ⟨i, hi, hother⟩ := helsewhere k item ((c.made.observe.mem_entries_iff k item).mp hmem)
  dsimp only
  rw [hi, Option.bind_some]
  exact if_neg fun hon => hother hon.2

/-- The stages of the reply to a change that nobody observes. -/
structure Alone (app : Application ω) (relations : Relations) (block : BlockLayer.State)
    (observed blocked : Message) : Prop where
  notified : notifyMarked (some c.rid) c.made = (.ok (), { c.made with app := app })
  added : ObserveLayer.sendResponse a.now (a.tid s)
    (counterOf app (c.made.transaction (a.tid s))) (c.made.observe, c.made.transaction (a.tid s)) =
      (.ok (), relations, { c.made.transaction (a.tid s) with response := some observed })
  cut : BlockLayer.sendResponse
    (c.made.block, { c.made.transaction (a.tid s) with response := some observed }) =
      (.ok (), block, { c.made.transaction (a.tid s) with response := some blocked })
  counted : Observed c.response observed
  sliced : Blocked c.passed.block (key a.address (tokenArg a.request.token)) observed blocked
  dressed : c.dressed a s = some blocked

theorem alone (hunobserved : c.Unobserved a s) :
    ∃ app relations block observed blocked, Alone a s c app relations block observed blocked := by
  have hreached := reached handlers a s c h
  obtain ⟨app, hnotify, hcounter⟩ := notifyMarked_counted c.made c.rid
    fun _ => (unobserved_iff handlers a s c h).mp hunobserved
  have hcounterOf : counterOf app (c.made.transaction (a.tid s)) =
      counterOf c.made.app (c.made.transaction (a.tid s)) := by
    unfold counterOf
    rw [h.resource]
    exact hcounter
  obtain ⟨code, hcode, _⟩ := h.success
  obtain ⟨relations, observed, hobserve, hobserved⟩ := sendResponse_observed a.now (a.tid s)
    (counterOf app (c.made.transaction (a.tid s))) c.made.observe (c.made.transaction (a.tid s))
    a.address c.response hreached.source h.response (by rw [hcode]; simp)
  obtain ⟨block, blocked, hblock, hblocked⟩ := sendResponse_blocked c.made.block
    { c.made.transaction (a.tid s) with response := some observed } a.address observed
    hreached.source rfl
  refine ⟨app, relations, block, observed, blocked, hnotify, hobserve, hblock, hobserved, ?_, ?_⟩
  · change Blocked c.made.block
      (key a.address (tokenArg (c.made.transaction (a.tid s)).request.token)) _ _ at hblocked
    rw [hreached.token, hreached.block] at hblocked
    exact hblocked
  · unfold Change.dressed
    rw [← hcounterOf, hobserve]
    dsimp only
    rw [hblock]

section Alone
variable {a : Arrival} {s : Server.State ω} {c : Change ω} {app : Application ω}
  {relations : Relations} {block : BlockLayer.State} {observed blocked : Message}
  (hmade : c.Made handlers a s) (halone : Alone a s c app relations block observed blocked)
  (hmid : s.message.currentMid ≤ 65535)
include hmade halone hmid

omit h hmade hmid in
theorem Alone.same : blocked = { c.response with
    options := blocked.options, payload := blocked.payload } := by
  rw [halone.sliced.same, (observed_same c.response observed halone.counted).1]

omit h in
theorem answered_alone (hloggable : c.Loggable handlers a s) :
    ∃ reply, (a.step handlers s).sent =
        s.sent ++ [(s.received, ⟨reply, a.request.multicast⟩)] ∧
      Stamped (c.made.transaction (a.tid s)).request blocked reply := by
  have hreached := reached handlers a s c hmade
  obtain ⟨code, hcode, _⟩ := hmade.success
  have hcoded : blocked.code = some code := by rw [halone.same, hcode]
  have hdestination : blocked.destination = some a.address := by
    rw [halone.same, hmade.addressed]
  obtain ⟨s', reply, hreply, _, hsent, hstamped⟩ := reply_stamped handlers a.rng a.now (a.tid s)
    c.made c.rid app relations block observed blocked a.mid hmade.resource halone.notified
    halone.added halone.cut
    ⟨hreached.type ▸ hmade.type, hreached.waiting, hreached.id.trans hmade.id, hmade.id_le⟩
    (by rw [hreached.mid]; exact hmid) (by rw [hdestination]; simp) (by rw [hcoded]; simp)
    (hloggable blocked halone.dressed)
  refine ⟨reply, ?_, hstamped⟩
  rw [step_sent handlers a s c hmade, hreply, hsent, hreached.sent, hreached.received,
    hreached.multicast]

omit h in
theorem unlogged_alone (hunprintable : ¬ Rendering.Printable handlers.platform blocked) :
    (a.step handlers s).sent = s.sent := by
  have hreached := reached handlers a s c hmade
  have hdestination : blocked.destination = some a.address := by
    rw [halone.same, hmade.addressed]
  obtain ⟨e, s', hreply, hsent⟩ := reply_unprintable handlers a.rng a.now (a.tid s)
    c.made c.rid app relations block observed blocked a.mid hmade.resource halone.notified
    halone.added halone.cut
    ⟨hreached.type ▸ hmade.type, hreached.waiting, hreached.id.trans hmade.id, hmade.id_le⟩
    (by rw [hreached.mid]; exact hmid) (by rw [hdestination]; simp) hunprintable
  rw [step_sent handlers a s c hmade, hreply, hsent, hreached.sent]

end Alone

theorem own_of_stages (observed blocked reply : Message)
    (hobserved : Observed c.response observed)
    (hblocked : Blocked c.passed.block (key a.address (tokenArg a.request.token)) observed blocked)
    (hstamped : Stamped (c.made.transaction (a.tid s)).request blocked reply)
    (hown : c.OwnBlock a) : Change.Own a.request c.response reply := by
  have hreached := reached handlers a s c h
  obtain ⟨hkept, hoptions⟩ := observed_same c.response observed hobserved
  have hpayload : reply.payload = blocked.payload := by rw [hstamped.same]
  have hreplied : reply.options = blocked.options := by rw [hstamped.same]
  have htype : blocked.type = c.response.type := by rw [hblocked.same, hkept]
  have hitem := outgoingItem_observed c.passed.block (key a.address (tokenArg a.request.token))
    c.response observed hobserved
  refine ⟨?_, ?_, ?_, ?_, ?_, ?_, ?_, ?_⟩
  · rw [hstamped.same, hblocked.same, hkept]
  · rw [hstamped.same, hblocked.same, hkept]
  · rw [hstamped.same, hblocked.same, hkept]
  · rw [hstamped.same, hblocked.same, hkept]
  · rw [← htype, ← hreached.type, ← hreached.id]
    exact hstamped.con
  · rw [← htype, ← hreached.type]
    exact hstamped.non
  · cases hout : BlockLayer.outgoingItem c.passed.block
      (key a.address (tokenArg a.request.token)) (some c.response) with
    | none =>
      refine Or.inl ?_
      rw [hpayload, hblocked.whole (hitem.trans hout), hkept]
    | some p =>
      obtain ⟨item, payload⟩ := p
      obtain ⟨hslice, hoption⟩ := hblocked.cut item payload (hitem.trans hout)
      rcases hown item payload hout with hwhole | ⟨p, num, more, size, hp, hsame, hpart⟩
      · exact Or.inl (by rw [hpayload, hslice, hwhole])
      · refine Or.inr ⟨p, num, more, size, hp, ?_, ?_⟩
        · rw [hreplied, hoption, hsame]
        · rw [hpayload, hslice, hpart]
  · intro n hobserve hblock hsize
    rw [hreplied, hblocked.options n hblock hsize, hoptions n hobserve]

omit h in
theorem ownBlock_of_own (observed blocked reply : Message)
    (hobserved : Observed c.response observed)
    (hblocked : Blocked c.passed.block (key a.address (tokenArg a.request.token)) observed blocked)
    (hstamped : Stamped (c.made.transaction (a.tid s)).request blocked reply)
    (hown : Change.Own a.request c.response reply) : c.OwnBlock a := by
  intro item payload hout
  have hpayload : reply.payload = blocked.payload := by rw [hstamped.same]
  have hreplied : reply.options = blocked.options := by rw [hstamped.same]
  have hitem := outgoingItem_observed c.passed.block (key a.address (tokenArg a.request.token))
    c.response observed hobserved
  obtain ⟨hslice, hoption⟩ := hblocked.cut item payload (hitem.trans hout)
  rcases hown.payload with hwhole | ⟨p, num, more, size, hp, hblock, hpart⟩
  · exact Or.inl (by rw [← hslice, ← hpayload, hwhole])
  · refine Or.inr ⟨p, num, more, size, hp, ?_, ?_⟩
    · rw [hreplied, hoption] at hblock
      exact List.singleton_injective hblock
    · rw [hpayload, hslice] at hpart
      exact Option.some.inj hpart

end Told

/-- A GET of `/a` that asks for notifications. -/
def sampleObserve : Message :=
  replace (sampleGet 'a' [7] 1) OptionRegistry.observe 0 observe_registered observe_integer

def sampleRegistration : List (Timed Unit) := [(0, .receive [] sampleObserve)]

def sampleArrival : Arrival where
  rng := []
  now := 1
  request := { sampleGet 'a' [8] 2 with code := some Codes.post }
  address := sampleClient
  mid := 2
  token := [8]

/-- The stages of an arrival as they are computed. -/
def changeOf (a : Arrival) (s : Server.State ω) (rid : ℕ) : Change ω :=
  let passed := (onBlock (a.tid s) (BlockLayer.receiveRequest a.rng) (a.stored s)).2
  let made := (onScene (a.tid s) (RequestLayer.receiveRequest handlers a.rng)
    { passed with observe := Change.relations a s }).2
  ⟨passed, made, rid, (made.transaction (a.tid s)).response.getD (Message.new .response)⟩

def sampleStart (events : List (Timed Unit)) : Server.State Unit :=
  run (step sampleHandlers) (State.new 1 sampleApp) events

def sampleChange (events : List (Timed Unit)) : Change Unit :=
  changeOf sampleHandlers sampleArrival (sampleStart events) 1

theorem sampleArrival_received : sampleArrival.Received where
  source := rfl
  destination := by simp [sampleArrival, sampleGet]
  type := Or.inl rfl
  id := rfl
  id_le := by decide
  token_eq := rfl
  acknowledged := rfl
  duplicated := rfl

theorem sampleChange_made (events : List (Timed Unit))
    (h : events = [] ∨ events = sampleRegistration) :
    (sampleChange events).Made sampleHandlers sampleArrival (sampleStart events) := by
  rcases h with rfl | rfl <;> exact {
    toReceived := sampleArrival_received
    fresh := by decide +kernel
    free := by decide +kernel
    block := rfl
    whole := by decide +kernel
    unanswered := by decide +kernel
    executed := rfl
    method := Or.inl rfl
    resource := by decide +kernel
    changed := by decide +kernel
    response := by decide +kernel
    success := ⟨Codes.created, by decide +kernel, by decide⟩
    addressed := by decide +kernel }

end BubotCoap.Notifications
