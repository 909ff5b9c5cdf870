import BubotCoap.Answering
import BubotCoap.Deduplication
import BubotCoap.Journal
import BubotCoap.ServerFrames

set_option autoImplicit false

namespace BubotCoap.FreshExecution
open PythonData Defines Utils Messages Options OrderedDict Transactions Resources BlockSteps
  Execution Replies Answering Server ServerFrames Runs Journal FallibleState
open Deduplication (Wire keyMid_wire sampleClient)

variable {ω : Type}

section Reception
variable (now : ℚ) (request : Message) (address : Address) (m : MessageLayer.State)

def stamped (now : ℚ) (request : Message) : Message := { request with timestamp := some now }

theorem receiveRequest_takes (hsource : request.source = some address)
    (hfresh : MessageLayer.duplicateOf request address m = none) :
    ∃ m', MessageLayer.receiveRequest now request m =
        (.ok ((MessageLayer.answered request address m).getD m.heap.next), m') ∧
      (m'.heap.cell ((MessageLayer.answered request address m).getD m.heap.next)).request =
        stamped now request ∧
      m'.currentMid = m.currentMid ∧
      (∀ i, i ≠ (MessageLayer.answered request address m).getD m.heap.next →
        m'.heap.cell i = m.heap.cell i) ∧
      (∀ tid, MessageLayer.answered request address m = some tid →
        m'.heap.cell tid = { m.heap.cell tid with request := stamped now request }) ∧
      (MessageLayer.answered request address m = none →
        m'.heap.cell m.heap.next =
          Transaction.new (stamped now request) now) := by
  have hanswered : MessageLayer.answered (stamped now request) address m =
      MessageLayer.answered request address m := rfl
  have hstep : MessageLayer.receiveRequest now request m =
      (.ok (MessageLayer.storeRequest (stamped now request) address m).1,
        (MessageLayer.storeRequest (stamped now request) address m).2) := by
    unfold MessageLayer.receiveRequest
    split
    · next hnone =>
      rw [hsource] at hnone
      cases hnone
    · next other hother =>
      rw [hsource] at hother
      cases hother
      rw [hfresh]
      rfl
  unfold MessageLayer.storeRequest at hstep
  rw [hanswered] at hstep
  cases h : MessageLayer.answered request address m with
  | some tid =>
    rw [h] at hstep
    have hcell : ∀ i, (m.update tid fun t =>
        { t with request := stamped now request }).heap.cell i =
          if i = tid then { m.heap.cell tid with request := stamped now request }
          else m.heap.cell i := fun i => rfl
    refine ⟨_, hstep, ?_, rfl, ?_, ?_, fun hn => absurd hn (by simp)⟩
    · exact congrArg Transaction.request ((hcell tid).trans (if_pos rfl))
    · exact fun i hi => (hcell i).trans (if_neg hi)
    · intro tid' htid
      cases htid
      exact (hcell tid).trans (if_pos rfl)
  | none =>
    rw [h] at hstep
    refine ⟨_, hstep, ?_, rfl, ?_, fun tid hn => absurd hn (by simp), ?_⟩
    · exact congrArg Transaction.request (Heap.alloc_cell_self m.heap _)
    · exact fun i hi => Heap.alloc_cell_of_ne m.heap i _ hi
    · exact fun _ => Heap.alloc_cell_self m.heap _

end Reception

/-- A block-wise transfer with parts still to come. -/
def Transferring (s : BlockLayer.State) (k : Key) : Prop :=
  (∃ item, s.block1Receive.get? k = some item) ∨
    ∃ item payload, s.block2Receive.get? k = some item ∧ item.payload = some payload ∧
      item.byte < payload.length

/-- A unicast request off the wire without block options, for a method of a registered resource,
whose source is in no block-wise transfer under its token. -/
structure Subject (s : Server.State ω) (request : Message) (address : Address) (mid : ℤ)
    (token : Bytes) (method : Method) (rid : ℕ) : Prop extends Wire request address mid where
  type : request.type = some .CON ∨ request.type = some .NON
  acknowledged : request.acknowledged = false
  duplicated : request.duplicated = false
  destination : request.destination ≠ none
  token_eq : request.token = some token
  token_le : token.length ≤ 256
  block1 : request.block1 = .ok none
  block2 : request.block2 = .ok none
  code : request.code = some method.code
  registered : s.app.root.get? (RequestLayer.requestPath request) = some rid
  notRoot : method = .get → RequestLayer.requestPath request ≠ ['/']
  idle : ¬ Transferring s.block (key address (tokenArg (some token)))

variable (handlers : Handlers ω)

/-- What keeps the request clear of the state that earlier requests have left, with the result of
its own execution. -/
structure Clear (s : Server.State ω) (now : ℚ) (request : Message) (address : Address) (mid : ℤ)
    (token : Bytes) (method : Method) (rid : ℕ) (x : Result ω) : Prop where
  idFree : mid = 0 ∨ s.message.transactions.get? (key address (.int mid)) = none
  tokenFree : ∀ tid, MessageLayer.answered request address s.message = some tid →
    (s.transaction tid).resource = none ∧ (s.transaction tid).blockTransfer = false
  lockFree : nextTransaction request address s ∉ s.held
  unstored : Unstored s.block (key address (tokenArg (some token))) x.response
  unobserved : (x.app.resources x.resource).marked = true →
    request.observe ≠ some (.int 0) ∧ ∀ k item, s.observe.get? k = some item →
      request.observe = some (.int 1) ∧ k = ObserveLayer.relationKey request address ∨
        ∃ i, item.transaction = some i ∧ i ≠ nextTransaction request address s ∧
          (s.transaction i).resource ≠ some x.resource
  matching : method = .post ∨ method = .put →
    ResourceLayer.mismatch request (s.app.resources rid).etag = false
  noneMatching : method = .put → ResourceLayer.ifNoneMatch request = false
  executed : execute handlers method rid (stamped now request)
    (replyTo (stamped now request) token) s.app = some x
  addressed : ∀ response, x.response = some response → response.destination ≠ none
  printable : ∀ response observed, x.response = some response →
    Counted (x.app.resources x.resource).counter response observed →
      Rendering.Printable handlers.platform (firstBlock observed)

section Reception
variable (rng : Bytes) (now : ℚ) (request : Message) (address : Address) (mid : ℤ) (token : Bytes)
  (method : Method) (rid : ℕ) (x : Result ω) (s : Server.State ω)

theorem duplicateOf_idFree (hwire : Wire request address mid)
    (h : mid = 0 ∨ s.message.transactions.get? (key address (.int mid)) = none) :
    MessageLayer.duplicateOf request address s.message = none := by
  unfold MessageLayer.duplicateOf
  rw [hwire.unicast, keyMid_wire request address mid hwire, hwire.id]
  by_cases hmid : mid = 0
  · simp [hmid]
  · simp [hmid, h.resolve_left hmid]

/-- The records do not depend on whether the transaction's lock is released. -/
theorem receiveRequest_records (tid : ℕ) (h : tid ∉ s.held) (result : Except Stop Unit)
    (s' : Server.State ω) (hprocess : process handlers rng now tid s = (result, s'))
    (hbuilt : BuiltBy s s' request x) :
    BuiltBy s (Server.receiveRequest handlers rng now tid s).2 request x := by
  unfold Server.receiveRequest
  rw [if_neg h, hprocess]
  rcases result with (_ | _ | _) | _
  · exact hbuilt
  · exact hbuilt
  · exact ⟨hbuilt.calls, hbuilt.silent, hbuilt.sent⟩
  · exact hbuilt

theorem registered_elsewhere (tid : ℕ) (hobserve : request.observe ≠ some (.int 0))
    (k : Key) (item : ObserveLayer.ObserveItem)
    (h : (registered now tid (stamped now request) address s.observe).get? k = some item) :
    s.observe.get? k = some item ∧
      ¬ (request.observe = some (.int 1) ∧ k = ObserveLayer.relationKey request address) := by
  have hsame : (stamped now request).observe = request.observe := rfl
  unfold registered at h
  rw [hsame, if_neg hobserve] at h
  split at h
  · next hcancel =>
    by_cases hk : k = ObserveLayer.relationKey request address
    · rw [hk] at h
      change (s.observe.erase (ObserveLayer.relationKey request address)).get? _ = _ at h
      rw [Dict.get?_erase_self] at h
      cases h
    · refine ⟨?_, fun hc => hk hc.2⟩
      rwa [← Dict.get?_erase_of_ne s.observe hk]
  · next hother => exact ⟨h, fun hc => hother hc.1⟩

theorem datagramReceivedRequest_fresh (m' : MessageLayer.State)
    (hsource : request.source = some address)
    (hduplicated : request.duplicated = false) (hfree : nextTransaction request address s ∉ s.held)
    (hreceive : MessageLayer.receiveRequest now request s.message =
      (.ok (nextTransaction request address s), m'))
    (hrequest : (m'.heap.cell (nextTransaction request address s)).request = stamped now request) :
    datagramReceivedRequest handlers rng now request s =
      Server.receiveRequest handlers rng now (nextTransaction request address s)
        { s with message := m' } := by
  have hnot : (m'.heap.cell (nextTransaction request address s)).request.duplicated = false :=
    (congrArg Message.duplicated hrequest).trans hduplicated
  have hdispatch : CoapUdpProtocol.datagramReceivedRequest now request s.message =
      (.ok (.receiveRequest (nextTransaction request address s)), m') := by
    unfold CoapUdpProtocol.datagramReceivedRequest
    rw [Action.bind_ok _ hreceive, Action.bind_get]
    exact congrArg (fun next => (Except.ok next, m')) (CoapUdpProtocol.dispatch_new _ m' hnot)
  have hwaits : waits request s = false := by
    unfold waits
    rw [hsource]
    exact decide_eq_false fun h => hfree h.2
  unfold Server.datagramReceivedRequest
  rw [hwaits]
  exact Action.bind_ok _ (onMessage_ok s _ _ m' hdispatch)

theorem datagramReceivedRequest_builds
    (hsubject : Subject s request address mid token method rid)
    (hclear : Clear handlers s now request address mid token method rid x)
    (hcurrent : s.message.currentMid ≤ 65535) :
    BuiltBy s (datagramReceivedRequest handlers rng now request s).2 (stamped now request)
      x := by
  have hfresh := duplicateOf_idFree request address mid s hsubject.toWire hclear.idFree
  obtain ⟨m', hreceive, hrequest, hcounter, hothers, htaken, hnew⟩ :=
    receiveRequest_takes now request address s.message hsubject.source hfresh
  let tid := nextTransaction request address s
  let s' : Server.State ω := { s with message := m' }
  have ht : (s'.transaction tid).request = stamped now request := hrequest
  have hown : (s'.transaction tid).resource = none ∧
      (s'.transaction tid).blockTransfer = false := by
    change (m'.heap.cell tid).resource = none ∧ (m'.heap.cell tid).blockTransfer = false
    cases h : MessageLayer.answered request address s.message with
    | none =>
      have htid : tid = s.message.heap.next := congrArg (Option.getD · s.message.heap.next) h
      rw [htid, hnew h]
      exact ⟨rfl, rfl⟩
    | some t =>
      have htid : tid = t := congrArg (Option.getD · s.message.heap.next) h
      rw [htid, htaken t h]
      exact hclear.tokenFree t h
  have hreceived : (datagramReceivedRequest handlers rng now request s).2 =
      (Server.receiveRequest handlers rng now tid s').2 :=
    congrArg Prod.snd (datagramReceivedRequest_fresh handlers rng now request address s m'
      hsubject.source hsubject.duplicated hclear.lockFree hreceive hrequest)
  have hanswerable : Answerable (s'.transaction tid).request address mid token := by
    rw [ht]
    exact {
      type := hsubject.type
      waiting := hsubject.acknowledged
      id := hsubject.id
      id_le := hsubject.id_le
      source := hsubject.source
      unicast := hsubject.unicast
      addressed := hsubject.destination
      token_eq := hsubject.token_eq
      token_le := hsubject.token_le
      block1 := hsubject.block1
      block2 := hsubject.block2 }
  have haddressed : Addressed s'.app method rid (s'.transaction tid).request := by
    rw [ht]
    exact ⟨hsubject.code, hsubject.registered, hsubject.notRoot, hclear.matching,
      hclear.noneMatching⟩
  have hquiet : (x.app.resources x.resource).marked = true → ∀ k item,
      (registered now tid (s'.transaction tid).request address s'.observe).get? k = some item →
      ∃ i, item.transaction = some i ∧ i ≠ tid ∧
        (s'.message.heap.cell i).resource ≠ some x.resource := by
    intro hmarked k item hitem
    obtain ⟨hobserve, hrelations⟩ := hclear.unobserved hmarked
    rw [ht] at hitem
    obtain ⟨hstored, hkept⟩ := registered_elsewhere now request address s tid hobserve k item hitem
    rcases hrelations k item hstored with hcancelled | ⟨i, hi, hne, hother⟩
    · exact absurd hcancelled hkept
    · refine ⟨i, hi, hne, ?_⟩
      change (m'.heap.cell i).resource ≠ _
      rwa [hothers i hne]
  have hkey : tokenArg (s'.transaction tid).request.token = tokenArg (some token) := by
    rw [ht]
    exact congrArg tokenArg hsubject.token_eq
  obtain ⟨result, s'', hprocess, hbuilt⟩ := process_builds handlers rng now tid s' address mid
    token method rid x hanswerable hown.1 hown.2 haddressed (by rw [ht]; exact hclear.executed)
    hclear.addressed (by rw [← hcounter] at hcurrent; exact hcurrent) hquiet
    (by rw [hkey]; exact hclear.unstored) hclear.printable
  rw [ht] at hbuilt
  rw [hreceived]
  have hrecords := receiveRequest_records handlers rng now (stamped now request) x s' tid
    hclear.lockFree result s'' hprocess hbuilt
  exact ⟨hrecords.calls, hrecords.silent, hrecords.sent⟩

theorem datagramReceivedRequest_answers
    (hsubject : Subject s request address mid token method rid)
    (hclear : Clear handlers s now request address mid token method rid x)
    (hcurrent : s.message.currentMid ≤ 65535) :
    AnsweredBy s (datagramReceivedRequest handlers rng now request s).2 (stamped now request)
      x :=
  (datagramReceivedRequest_builds handlers rng now request address mid token method rid x s hsubject
    hclear hcurrent).answered

end Reception

/-- What can happen to the server. Other tasks may do anything but to the records; they draw
message ids as `fetch_mid` does. -/
inductive Event (ω : Type) where
  | receive (rng : Bytes) (request : Message)
  | purge
  | other (f : Server.State ω → Server.State ω)

abbrev Timed (ω : Type) := ℚ × Event ω

def others (f : Server.State ω → Server.State ω) (s : Server.State ω) : Server.State ω :=
  { f s with
    message := { (f s).message with currentMid := (f s).message.currentMid % 65535 }
    received := s.received
    calls := s.calls
    sent := s.sent }

def step (s : Server.State ω) (e : Timed ω) : Server.State ω :=
  match e.2 with
  | .receive rng request =>
    { (datagramReceivedRequest handlers rng e.1 request s).2 with received := s.received + 1 }
  | .purge => Server.purge e.1 s
  | .other f => others f s

/-- A step adds to the records under the numbers of the receptions since. -/
structure Grows (s s' : Server.State ω) : Prop where
  received : s.received ≤ s'.received
  calls : Continues s.received s'.received s.calls s'.calls
  sent : Continues s.received s'.received s.sent s'.sent
  mid : s.message.currentMid ≤ 65535 → s'.message.currentMid ≤ 65535

theorem Grows.refl (s : Server.State ω) : Grows s s :=
  ⟨Nat.le_refl _, Continues.refl _ _, Continues.refl _ _, id⟩

theorem Grows.trans (s t u : Server.State ω) (h : Grows s t) (h' : Grows t u) : Grows s u where
  received := Nat.le_trans h.received h'.received
  calls := h.calls.trans _ _ _ _ _ _ h.received h'.received h'.calls
  sent := h.sent.trans _ _ _ _ _ _ h.received h'.received h'.sent
  mid := fun hmid => h'.mid (h.mid hmid)

theorem step_grows (s : Server.State ω) (e : Timed ω) : Grows s (step handlers s e) := by
  obtain ⟨now, event⟩ := e
  cases event with
  | receive rng request =>
    have hadds := adds_datagramReceivedRequest handlers rng now request s
    obtain ⟨calls, hcalls⟩ := hadds.calls
    obtain ⟨sent, hsent⟩ := hadds.sent
    refine ⟨Nat.le_succ _, ?_, ?_, hadds.mid⟩
    · change Continues _ (s.received + 1) _
        (datagramReceivedRequest handlers rng now request s).2.calls
      rw [hcalls]
      exact continues_stamped _ _ _
    · change Continues _ (s.received + 1) _
        (datagramReceivedRequest handlers rng now request s).2.sent
      rw [hsent]
      exact continues_stamped _ _ _
  | purge => exact ⟨Nat.le_refl _, Continues.refl _ _, Continues.refl _ _, id⟩
  | other f =>
    refine ⟨Nat.le_refl _, Continues.refl _ _, Continues.refl _ _, fun _ => ?_⟩
    exact (Nat.mod_lt _ (by omega)).le

theorem run_grows (s : Server.State ω) (events : List (Timed ω)) :
    Grows s (run (step handlers) s events) := by
  induction events generalizing s with
  | nil => exact Grows.refl s
  | cons e events ih => exact (step_grows handlers s e).trans _ _ _ (ih (step handlers s e))

/-- What is sent at a reception is all that is ever found under its number. -/
theorem entriesOf_reception (startingMid : ℕ) (app : Application ω) (pre post : List (Timed ω))
    (now : ℚ) (rng : Bytes) (request : Message) (new : List Datagram)
    (h : (datagramReceivedRequest handlers rng now request
        (run (step handlers) (State.new startingMid app) pre)).2.sent =
      (run (step handlers) (State.new startingMid app) pre).sent ++
        new.map (Prod.mk (run (step handlers) (State.new startingMid app) pre).received)) :
    entriesOf (run (step handlers) (State.new startingMid app) pre).received
      (run (step handlers) (State.new startingMid app)
        (pre ++ (now, Event.receive rng request) :: post)).sent = new := by
  have hpre := run_grows handlers (State.new startingMid app) pre
  have hbefore := lt_of_continues _ _ _ _ hpre.received (by simp [State.new]) hpre.sent
  generalize hs : run (step handlers) (State.new startingMid app) pre = s at h hbefore
  have hlater := (run_grows handlers (step handlers s (now, .receive rng request)) post).sent
  have hstep : (step handlers s (now, .receive rng request)).sent =
      s.sent ++ new.map (Prod.mk s.received) := h
  rw [hstep] at hlater
  rw [run_append, run_cons, hs]
  exact entriesOf_continued s.received _ s.sent _ new hbefore hlater

/-- The records end before the next reception, and message ids are in range. -/
structure Bounded (s : Server.State ω) : Prop where
  calls : ∀ e ∈ s.calls, e.1 < s.received
  sent : ∀ e ∈ s.sent, e.1 < s.received
  mid : s.message.currentMid ≤ 65535

theorem run_bounded (startingMid : ℕ) (app : Application ω) (hmid : startingMid ≤ 65535)
    (events : List (Timed ω)) :
    Bounded (run (step handlers) (State.new startingMid app) events) := by
  have hgrows := run_grows handlers (State.new startingMid app) events
  exact ⟨lt_of_continues _ _ _ _ hgrows.received (by simp [State.new]) hgrows.calls,
    lt_of_continues _ _ _ _ hgrows.received (by simp [State.new]) hgrows.sent, hgrows.mid hmid⟩

/-- In `final`, the record of the reception that found the state `s` is that of one execution of
the request and of the reply with what it produced. -/
structure AnsweredByItself (s final : Server.State ω) (request : Message) (method : Method)
    (rid : ℕ) (x : Result ω) : Prop where
  once : OnceEach method rid request (entriesOf s.received final.calls)
  own : entriesOf s.received final.calls = x.calls
  silent : x.response = none → entriesOf s.received final.sent = []
  sent : ∀ response, x.response = some response →
    ∃ m, entriesOf s.received final.sent = [⟨m, false⟩] ∧ Carries request response m

def Used (events : List (Timed ω)) (address : Address) (mid : ℤ) : Prop :=
  ∃ now rng request, (now, Event.receive rng request) ∈ events ∧ request.source = some address ∧
    request.mid = some mid

/-- Every new request of the run is executed and answered by its own execution. -/
def EachAnsweredByItself (startingMid : ℕ) (app : Application ω) (events : List (Timed ω)) : Prop :=
  ∀ pre now rng request post address mid token method rid,
    events = pre ++ (now, Event.receive rng request) :: post →
    Subject (run (step handlers) (State.new startingMid app) pre) request address mid token method
      rid →
    ¬ Used pre address mid →
    ∃ x, execute handlers method rid (stamped now request) (replyTo (stamped now request) token)
        (run (step handlers) (State.new startingMid app) pre).app = some x ∧
      AnsweredByItself (run (step handlers) (State.new startingMid app) pre)
        (run (step handlers) (State.new startingMid app) events) (stamped now request) method rid x

theorem answeredByItself_of_answeredBy (s s' final : Server.State ω) (request given : Message)
    (method : Method) (rid : ℕ) (app : Application ω) (x : Result ω) (hbounded : Bounded s)
    (hexecute : execute handlers method rid request given app = some x)
    (hanswered : AnsweredBy s s' request x)
    (hfinal : Grows { s' with received := s.received + 1 } final) :
    AnsweredByItself s final request method rid x := by
  have hcalls : entriesOf s.received final.calls = x.calls := by
    refine entriesOf_continued s.received final.received s.calls _ _ hbounded.calls ?_
    rw [← hanswered.calls]
    exact hfinal.calls
  refine ⟨?_, hcalls, ?_, ?_⟩
  · rw [hcalls]
    exact execute_once handlers method rid request given app x hexecute
  · intro hnone
    refine entriesOf_continued s.received final.received s.sent _ [] hbounded.sent ?_
    rw [List.map_nil, List.append_nil, ← hanswered.silent hnone]
    exact hfinal.sent
  · intro response hresponse
    obtain ⟨m, hsent, hcarries⟩ := hanswered.sent response hresponse
    refine ⟨m, ?_, hcarries⟩
    refine entriesOf_continued s.received final.received s.sent _ [⟨m, false⟩] hbounded.sent ?_
    rw [List.map_singleton, ← hsent]
    exact hfinal.sent

/-- Every handler answers with the number of its resource. -/
def sampleHandlers : Handlers Unit where
  platform := Rendering.plainPlatform
  isAsync _ _ := true
  render _ rid _ response app :=
    ⟨.pair rid (response.map fun m => m.setPayload (some (.bytes [UInt8.ofNat rid]))), id, app⟩

def sampleApp : Application Unit where
  resources _ := Resource.new true true true
  root := ((Dict.empty.insert ['/'] 0).insert ['/', 'a'] 1).insert ['/', 'b'] 2
  world := ()

def sampleGet (path : Char) (token : Bytes) (mid : ℤ) : Message :=
  { Message.new .request with
    type := some .CON
    mid := some mid
    token := some token
    code := some Codes.get
    source := some sampleClient
    destination := some ("10.0.0.1".toList, 5683)
    options :=
      ⟨[⟨OptionRegistry.uriPath, .str [path], find?_uriPath, rfl⟩], List.pairwise_singleton _ _⟩ }

/-- A GET of `/a` under a token, followed by a GET of `/b`. -/
def sampleRun (token token' : Bytes) : List (Timed Unit) :=
  [(0, .receive [] (sampleGet 'a' token 1)), (1, .receive [] (sampleGet 'b' token' 2))]

def sampleState (token : Bytes) : Server.State Unit :=
  step sampleHandlers (State.new 1 sampleApp) (0, .receive [] (sampleGet 'a' token 1))

def sampleResult (s : Server.State Unit) (now : ℚ) (request : Message) (token : Bytes) (rid : ℕ) :
    Result Unit :=
  ⟨s.app, [⟨.get, rid, stamped now request⟩], rid,
    some (ResourceLayer.withDefault Codes.content
      ((replyTo (stamped now request) token).setPayload (some (.bytes [UInt8.ofNat rid]))))⟩

theorem sampleGet_clear (s : Server.State Unit) (now : ℚ) (path : Char) (token : Bytes)
    (mid : ℤ) (rid : ℕ)
    (hid : s.message.transactions.get? (key sampleClient (.int mid)) = none)
    (htoken : MessageLayer.answered (sampleGet path token mid) sampleClient s.message = none)
    (hheld : s.held = [])
    (hblock : (s.block.block2Receive.get? (key sampleClient (tokenArg (some token)))).isNone)
    (hmarked : (s.app.resources rid).marked = false)
    (hcounter : (s.app.resources rid).counter = some 1)
    (htext : ∃ t, decodeUtf8 [UInt8.ofNat rid] = .ok t) :
    Clear sampleHandlers s now (sampleGet path token mid) sampleClient mid token .get rid
      (sampleResult s now (sampleGet path token mid) token rid) where
  idFree := Or.inr hid
  tokenFree := fun tid h => absurd (htoken.symm.trans h) (by simp)
  lockFree := by simp [hheld]
  unstored := fun item hitem => by
    rw [hitem] at hblock
    exact absurd hblock (by simp)
  unobserved := fun h => absurd (hmarked.symm.trans h) (by simp)
  matching := fun h => absurd h (by simp)
  noneMatching := fun h => absurd h (by simp)
  executed := rfl
  addressed := fun response h => by
    cases h
    simp [ResourceLayer.withDefault, replyTo, stamped, sampleGet, Message.setPayload]
  printable := fun response observed h hcounted => by
    cases h
    obtain ⟨t, ht⟩ := htext
    refine printable_counted Rendering.plainPlatform _ _ observed ⟨?_, ?_, ?_⟩ ?_ ?_ hcounted
    · change Codes.content ∈ Codes.list
      decide
    · intro o ho
      cases ho
    · intro p hp _
      cases hp
      refine ⟨fun _ => Or.inr ⟨_, t, rfl, ht⟩, ?_⟩
      rintro (hcbor | hcbor)
      · cases hcbor
      · cases hcbor
    · intro v hv
      cases hcounter.symm.trans hv
      decide
    · intro p hp
      cases hp
      change 1 ≤ maxPayload
      decide

theorem sampleGet_subject (s : Server.State Unit) (path : Char) (token : Bytes) (mid : ℤ) (rid : ℕ)
    (hmid : mid ≤ 65535) (htoken : token.length ≤ 256)
    (hregistered : s.app.root.get? ['/', path] = some rid)
    (hblock : (s.block.block1Receive.get? (key sampleClient (tokenArg (some token)))).isNone ∧
      (s.block.block2Receive.get? (key sampleClient (tokenArg (some token)))).isNone) :
    Subject s (sampleGet path token mid) sampleClient mid token .get rid where
  source := rfl
  unicast := rfl
  id := rfl
  id_le := hmid
  type := Or.inl rfl
  acknowledged := rfl
  duplicated := rfl
  destination := by simp [sampleGet]
  token_eq := rfl
  token_le := htoken
  block1 := rfl
  block2 := rfl
  code := rfl
  registered := hregistered
  notRoot := fun _ h => by
    have hpath : ['/', path] = ['/'] := h
    exact absurd hpath (by simp)
  idle := by
    rintro (⟨item, hitem⟩ | ⟨item, payload, hitem, _⟩)
    · rw [hitem] at hblock
      exact absurd hblock.1 (by simp)
    · rw [hitem] at hblock
      exact absurd hblock.2 (by simp)

theorem not_used_sample (token : Bytes) :
    ¬ Used [((0, .receive [] (sampleGet 'a' token 1)) : Timed Unit)] sampleClient 2 := by
  rintro ⟨now, rng, request, hmem, _, hmid⟩
  rw [List.mem_singleton] at hmem
  cases hmem
  exact absurd hmid (by simp [sampleGet])

theorem sampleGet_subject_inv (s : Server.State Unit) (path : Char) (token token' : Bytes)
    (mid mid' : ℤ) (rid : ℕ) (address : Address) (method : Method)
    (h : Subject s (sampleGet path token mid) address mid' token' method rid) :
    address = sampleClient ∧ mid' = mid ∧ token' = token ∧ method = .get ∧
      s.app.root.get? ['/', path] = some rid := by
  refine ⟨(Option.some.inj h.source).symm, (Option.some.inj h.id).symm,
    (Option.some.inj h.token_eq).symm, ?_, h.registered⟩
  have hcode := Option.some.inj h.code
  cases method with
  | get => rfl
  | _ => exact absurd hcode (by decide)

end BubotCoap.FreshExecution
