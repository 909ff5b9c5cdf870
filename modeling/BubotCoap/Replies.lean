import BubotCoap.BlockSteps
import BubotCoap.Server

set_option autoImplicit false

namespace BubotCoap.Replies
open PythonData Defines Utils Messages OptionAccess OrderedDict Transactions Resources BlockSteps
  ObserveLayer Server FallibleState

/-- The reply has the content of the response, as its first block if that is large. Only the
Observe option may differ, and the Block2 and Size2 options of a large one. -/
structure Conveys (response reply : Message) : Prop where
  code : reply.code = response.code
  token : reply.token = response.token
  destination : reply.destination = response.destination
  source : reply.source = response.source
  empty : response.payload = none → reply.payload = none
  small : ∀ p, response.payload = some p → p.length ≤ maxPayload → reply.payload = some p
  large : ∀ p, response.payload = some p → maxPayload < p.length →
    reply.payload = some (p.slice 0 maxPayload) ∧ reply.block2 = .ok (some (0, 1, maxPayload))
  options : ∀ n, n ≠ OptionRegistry.observe.number →
    (n = OptionRegistry.block2.number ∨ n = OptionRegistry.size2.number →
      ∀ p, response.payload = some p → p.length ≤ maxPayload) →
    ofNumber n reply.options = ofNumber n response.options

/-- The reply to a request conveys the response, and is matched to the request unless the response
came with a type of its own. -/
structure Carries (request response reply : Message) : Prop extends Conveys response reply where
  con : response.type = none → request.type = some .CON →
    reply.type = some .ACK ∧ reply.mid = request.mid
  non : response.type = none → request.type = some .NON → reply.type = some .NON

section Observe
variable (now : ℚ) (tid : ℕ) (counter : Option ℕ) (relations : Relations) (t : Transaction)
  (address : Address)

/-- The response as it was, or with an Observe option. -/
def Observed (response response' : Message) : Prop :=
  response' = response ∨
    ∃ count, response' = replace response OptionRegistry.observe count rfl rfl

/-- The counter of the resource is what an Observe option says. -/
def Counted (counter : Option ℕ) (response response' : Message) : Prop :=
  response' = response ∨ ∃ count, counter = some count ∧
    response' = replace response OptionRegistry.observe count rfl rfl

theorem Counted.observed (response response' : Message) (h : Counted counter response response') :
    Observed response response' := by
  rcases h with hsame | ⟨count, _, hsame⟩
  · exact Or.inl hsame
  · exact Or.inr ⟨count, hsame⟩

theorem sendResponse_counted (response : Message) (hsource : t.request.source = some address)
    (hresponse : t.response = some response) (hcode : response.code ≠ none) :
    ∃ relations' response',
      ObserveLayer.sendResponse now tid counter (relations, t) =
        (.ok (), relations', { t with response := some response' }) ∧
      Counted counter response response' := by
  have hsame : { t with response := some response } = t := by rw [← hresponse]
  unfold ObserveLayer.sendResponse
  dsimp only
  rw [hsource]
  dsimp only
  cases relations.get? (relationKey t.request address) with
  | none => exact ⟨relations, response, by rw [hsame], Or.inl rfl⟩
  | some item =>
    rw [hresponse]
    dsimp only
    split
    · cases counter with
      | none => exact ⟨_, response, by rw [hsame], Or.inl rfl⟩
      | some count =>
        dsimp only
        rw [setObserve_eq]
        exact ⟨_, _, rfl, Or.inr ⟨count, rfl, rfl⟩⟩
    · cases hc : response.code with
      | none => exact absurd hc hcode
      | some code =>
        dsimp only
        split
        · exact ⟨_, response, by rw [hsame], Or.inl rfl⟩
        · exact ⟨_, response, by rw [hsame], Or.inl rfl⟩

theorem sendResponse_observed (response : Message) (hsource : t.request.source = some address)
    (hresponse : t.response = some response) (hcode : response.code ≠ none) :
    ∃ relations' response',
      ObserveLayer.sendResponse now tid counter (relations, t) =
        (.ok (), relations', { t with response := some response' }) ∧
      Observed response response' := by
  obtain ⟨relations', response', hsend, hcounted⟩ := sendResponse_counted now tid counter relations
    t address response hsource hresponse hcode
  exact ⟨relations', response', hsend, hcounted.observed counter response response'⟩

theorem sendResponse_silent (hresponse : t.response = none) :
    (ObserveLayer.sendResponse now tid counter (relations, t)).2.2 = t := by
  unfold ObserveLayer.sendResponse
  dsimp only
  split
  · rfl
  · split
    · rfl
    · rw [hresponse]

def Elsewhere (heap : Heap) (resource : ℕ) (item : ObserveItem) : Prop :=
  ∃ i, item.transaction = some i ∧ (heap.cell i).resource ≠ some resource

theorem notifyKeys_quiet (heap : Heap) (resource : ℕ)
    (h : ∀ k item, relations.get? k = some item → Elsewhere heap resource item) (ks : List Key)
    (hks : ∀ k ∈ ks, ∃ item, relations.get? k = some item) :
    notifyKeys resource ks (relations, heap) = (.ok [], relations, heap) := by
  induction ks with
  | nil => rfl
  | cons k ks ih =>
    obtain ⟨item, hitem⟩ := hks k List.mem_cons_self
    obtain ⟨i, htransaction, hother⟩ := h k item hitem
    have hfirst : notifyItem resource k item (relations, heap) = (.ok none, relations, heap) := by
      unfold notifyItem
      dsimp only
      rw [htransaction]
      exact if_neg hother
    have hrest := ih fun k' hk' => hks k' (List.mem_cons_of_mem k hk')
    unfold notifyKeys
    dsimp only
    rw [hitem]
    dsimp only
    rw [Action.bind_ok _ hfirst, Action.bind_ok _ hrest]
    rfl

theorem notify_quiet (heap : Heap) (resource : ℕ)
    (h : ∀ k item, relations.get? k = some item → Elsewhere heap resource item) :
    ObserveLayer.notify resource (relations, heap) = (.ok [], relations, heap) := by
  refine notifyKeys_quiet relations heap resource h _ ?_
  intro k hk
  obtain ⟨⟨k', item⟩, hmem, rfl⟩ := List.mem_map.mp hk
  exact ⟨item, (relations.mem_entries_iff k' item).mp hmem⟩

end Observe

section Block
variable (s : BlockLayer.State) (t : Transaction) (address : Address)

/-- The block layer has nothing of an earlier exchange to send. -/
def Unstored (s : BlockLayer.State) (k : Key) (response : Option Message) : Prop :=
  ∀ item, s.block2Receive.get? k = some item →
    item.payload = none ∧ response.bind Message.payload = none

def firstBlock (response : Message) : Message :=
  match response.payload with
  | none => response
  | some p =>
    if p.length > maxPayload then
      blockOf response ⟨0, 0, 1, maxPayload, some p, response.contentType⟩ p
    else response

theorem outgoingItem_unstored (k : Key) (response : Option Message) (h : Unstored s k response)
    (hsmall : ∀ p, response.bind Message.payload = some p → p.length ≤ maxPayload) :
    BlockLayer.outgoingItem s k response = none := by
  unfold BlockLayer.outgoingItem
  cases hitem : s.block2Receive.get? k with
  | some item =>
    obtain ⟨hnone, hpayload⟩ := h item hitem
    rw [hpayload]
    dsimp only
    rw [hnone]
  | none =>
    cases hpayload : response.bind Message.payload with
    | none => rfl
    | some p => exact if_neg (Nat.not_lt.mpr (hsmall p hpayload))

theorem sendResponse_none (k : Key) (hsource : t.request.source = some address)
    (hk : key address (tokenArg t.request.token) = k) (h : Unstored s k t.response)
    (hsmall : ∀ p, t.response.bind Message.payload = some p → p.length ≤ maxPayload) :
    BlockLayer.sendResponse (s, t) = (.ok (), s, t) := by
  unfold BlockLayer.sendResponse
  dsimp only
  rw [hsource]
  dsimp only
  rw [hk, outgoingItem_unstored s k t.response h hsmall]

theorem sendResponse_firstBlock (response : Message) (hsource : t.request.source = some address)
    (hresponse : t.response = some response)
    (h : Unstored s (key address (tokenArg t.request.token)) (some response)) :
    ∃ s', BlockLayer.sendResponse (s, t) =
      (.ok (), s', { t with response := some (firstBlock response) }) := by
  have hsame : { t with response := some response } = t := by rw [← hresponse]
  unfold firstBlock
  cases hpayload : response.payload with
  | none =>
    refine ⟨s, (sendResponse_none s t address _ hsource rfl (hresponse ▸ h) ?_).trans
      (by rw [hsame])⟩
    intro p hp
    rw [hresponse, Option.bind_some, hpayload] at hp
    cases hp
  | some p =>
    dsimp only
    split
    · next hlarge =>
      have hnone : s.block2Receive.get? (key address (tokenArg t.request.token)) = none := by
        rw [Option.eq_none_iff_forall_ne_some]
        intro item hitem
        have hempty := (h item hitem).2
        rw [Option.bind_some, hpayload] at hempty
        cases hempty
      exact ⟨_, sendResponse_block s t address response _ p hsource hresponse
        (outgoingItem_new s _ response p hnone hpayload hlarge) hlarge⟩
    · next hsmall =>
      refine ⟨s, (sendResponse_none s t address _ hsource rfl (hresponse ▸ h) ?_).trans
        (by rw [hsame])⟩
      intro q hq
      rw [hresponse, Option.bind_some, hpayload] at hq
      cases hq
      exact Nat.not_lt.mp hsmall

end Block

section Message
variable (rng : Bytes) (tid : ℕ) (m : MessageLayer.State)

/-- The reply is the response with the type and message id of a reply. -/
structure Stamped (request response reply : Message) : Prop where
  same : reply = { response with
    type := reply.type
    mid := reply.mid
    acknowledged := reply.acknowledged
    rejected := reply.rejected
    timeouted := reply.timeouted }
  con : response.type = none → request.type = some .CON →
    reply.type = some .ACK ∧ reply.mid = request.mid
  non : response.type = none → request.type = some .NON → reply.type = some .NON

/-- A request as a reply can be matched to it. -/
structure Repliable (request : Message) (mid : ℤ) : Prop where
  type : request.type = some .CON ∨ request.type = some .NON
  waiting : request.acknowledged = false
  id : request.mid = some mid
  id_le : mid ≤ 65535

theorem setResponseType_ok (t : Transaction) (response : Message) (mid : ℤ)
    (h : Repliable t.request mid) :
    ∃ r completed, MessageLayer.setResponseType rng t response = .ok (r, completed) ∧
      Stamped t.request response r := by
  unfold MessageLayer.setResponseType
  cases htype : response.type with
  | some type => exact ⟨response, _, rfl, rfl, by simp [htype], by simp [htype]⟩
  | none =>
    dsimp only
    rcases h.type with hcon | hnon
    · rw [if_pos ⟨hcon, h.waiting⟩, h.id]
      have hmid : { response with type := some MsgType.ACK }.setMid (some mid) =
          .ok { response with type := some .ACK, mid := some mid } :=
        if_neg (by have := h.id_le; omega)
      rw [hmid]
      refine ⟨_, true, rfl, rfl, fun _ _ => ⟨rfl, h.id.symm⟩, fun _ hn => ?_⟩
      rw [hcon] at hn
      cases hn
    · have hother : ¬ (t.request.type = some .CON ∧ t.request.acknowledged = false) := by
        rintro ⟨hc, _⟩
        rw [hnon] at hc
        cases hc
      rw [if_neg hother, if_pos hnon]
      refine ⟨_, t.completed, rfl, rfl, fun _ hc => ?_, fun _ _ => rfl⟩
      rw [hnon] at hc
      cases hc

theorem setResponseMid_ok (r : Message) (hcell : (m.heap.cell tid).response = some r)
    (hcurrent : m.currentMid ≤ 65535) (hdestination : r.destination ≠ none) :
    ∃ m' reply, MessageLayer.setResponseMid tid r m = (.ok (), m') ∧
      m'.heap.cell tid = { m.heap.cell tid with response := some reply } ∧
      reply = { r with mid := reply.mid } ∧ (r.mid ≠ none → reply = r) := by
  obtain ⟨address, haddress⟩ := Option.ne_none_iff_exists'.mp hdestination
  cases hmid : r.mid with
  | some mid =>
    have hkept : MessageLayer.setResponseMid tid r m = (.ok (), m) := by
      unfold MessageLayer.setResponseMid
      rw [hmid]
    exact ⟨m, r, hkept, by rw [← hcell], rfl, fun _ => rfl⟩
  | none =>
    have hset : r.setMid (some m.currentMid) = .ok { r with mid := some m.currentMid } :=
      if_neg (by omega)
    have hdrawn : ∃ transactions, MessageLayer.setResponseMid tid r m = (.ok (),
        { (MessageLayer.fetchMid m).2.update tid fun t =>
            { t with response := some { r with mid := some m.currentMid } } with
          transactions := transactions }) := by
      unfold MessageLayer.setResponseMid
      rw [hmid]
      dsimp only
      rw [hset]
      dsimp only
      rw [haddress]
      exact ⟨_, rfl⟩
    obtain ⟨transactions, hdrawn⟩ := hdrawn
    refine ⟨_, { r with mid := some m.currentMid }, hdrawn, ?_, rfl, fun hn => absurd rfl hn⟩
    exact MessageLayer.update_cell_self (MessageLayer.fetchMid m).2 tid fun t =>
      { t with response := some { r with mid := some m.currentMid } }

theorem sendResponse_stamped (response : Message) (mid : ℤ)
    (hcell : (m.heap.cell tid).response = some response)
    (hrequest : Repliable (m.heap.cell tid).request mid) (hcurrent : m.currentMid ≤ 65535)
    (hdestination : response.destination ≠ none) :
    ∃ m' reply, MessageLayer.sendResponse rng tid m = (.ok (some tid), m') ∧
      (m'.heap.cell tid).response = some reply ∧
      (m'.heap.cell tid).request = (m.heap.cell tid).request.setAcknowledged true ∧
      Stamped (m.heap.cell tid).request response reply := by
  obtain ⟨r, completed, htype, hstamped⟩ := setResponseType_ok rng _ response mid hrequest
  have hkept : r.destination = response.destination := by rw [hstamped.same]
  have hstored : ((m.update tid fun t =>
      { t with response := some r, completed := completed }).heap.cell tid).response = some r := by
    rw [MessageLayer.update_cell_self]
  obtain ⟨m', reply, hmid, hreply, hsame, hgiven⟩ := setResponseMid_ok tid
    (m.update tid fun t => { t with response := some r, completed := completed }) r hstored hcurrent
    (hkept ▸ hdestination)
  rw [MessageLayer.update_cell_self] at hreply
  refine ⟨m'.update tid MessageLayer.acknowledgeRequest, reply, ?_, ?_, ?_, ?_⟩
  · unfold MessageLayer.sendResponse
    rw [hcell]
    dsimp only
    rw [htype]
    dsimp only
    rw [hmid]
  · rw [MessageLayer.update_cell_self, hreply]
    rfl
  · rw [MessageLayer.update_cell_self, hreply]
    rfl
  · refine ⟨?_, ?_, ?_⟩
    · rw [hsame, hstamped.same]
    · intro hnone hcon
      obtain ⟨hack, hid⟩ := hstamped.con hnone hcon
      rw [hgiven (by rw [hid, hrequest.id]; simp)]
      exact ⟨hack, hid⟩
    · intro hnone hnon
      rw [hsame]
      exact hstamped.non hnone hnon

end Message

theorem firstBlock_none (m : Message) (h : m.payload = none) : firstBlock m = m := by
  unfold firstBlock
  rw [h]

theorem firstBlock_small (m : Message) (p : Payload) (h : m.payload = some p)
    (hsmall : p.length ≤ maxPayload) : firstBlock m = m := by
  unfold firstBlock
  rw [h]
  exact if_neg (Nat.not_lt.mpr hsmall)

theorem firstBlock_large (m : Message) (p : Payload) (h : m.payload = some p)
    (hlarge : maxPayload < p.length) :
    firstBlock m = blockOf m ⟨0, 0, 1, maxPayload, some p, m.contentType⟩ p := by
  unfold firstBlock
  rw [h]
  exact if_pos hlarge

theorem ofNumber_blockOf (m : Message) (item : BlockLayer.BlockItem) (p : Payload) (n : ℕ)
    (hblock : n ≠ OptionRegistry.block2.number) (hsize : n ≠ OptionRegistry.size2.number) :
    ofNumber n (blockOf m item p).options = ofNumber n m.options :=
  (ofNumber_replace_of_ne _ OptionRegistry.block2 _ rfl rfl n hblock).trans
    (ofNumber_replace_of_ne m OptionRegistry.size2 _ rfl rfl n hsize)

theorem block2_blockOf (m : Message) (p : Payload) (hlarge : maxPayload < p.length) :
    (blockOf m ⟨0, 0, 1, maxPayload, some p, m.contentType⟩ p).block2 =
      .ok (some (0, 1, maxPayload)) := by
  have hmore : BlockLayer.moreBlocks 0 maxPayload p.length = 1 := if_neg (by omega)
  unfold blockOf
  rw [hmore]
  exact block2_withBlock2_max _ 0 1 le_rfl

theorem conveys_refl (response : Message)
    (h : ∀ p, response.payload = some p → p.length ≤ maxPayload) : Conveys response response where
  code := rfl
  token := rfl
  destination := rfl
  source := rfl
  empty := id
  small := fun _ hp _ => hp
  large := fun p hp hlarge => absurd (h p hp) (Nat.not_le.mpr hlarge)
  options := fun _ _ _ => rfl

theorem firstBlock_conveys (response : Message) : Conveys response (firstBlock response) := by
  cases hpayload : response.payload with
  | none =>
    rw [firstBlock_none response hpayload]
    refine conveys_refl response fun p hp => ?_
    rw [hpayload] at hp
    cases hp
  | some p =>
    by_cases hsize : p.length ≤ maxPayload
    · rw [firstBlock_small response p hpayload hsize]
      refine conveys_refl response fun q hq => ?_
      rw [hpayload] at hq
      cases hq
      exact hsize
    · have hlarge : maxPayload < p.length := Nat.not_le.mp hsize
      rw [firstBlock_large response p hpayload hlarge]
      refine ⟨rfl, rfl, rfl, rfl, ?_, ?_, ?_, ?_⟩
      · intro hnone
        rw [hpayload] at hnone
        cases hnone
      · intro q hq hsmall
        rw [hpayload] at hq
        cases hq
        exact absurd hsmall hsize
      · intro q hq _
        rw [hpayload] at hq
        cases hq
        exact ⟨rfl, block2_blockOf response p hlarge⟩
      · intro n _ hsmall
        refine ofNumber_blockOf response _ p n ?_ ?_
        · exact fun hblock => hsize (hsmall (Or.inl hblock) p hpayload)
        · exact fun hsize2 => hsize (hsmall (Or.inr hsize2) p hpayload)

theorem Conveys.of_observed (response observed reply : Message)
    (hobserved : Observed response observed) (h : Conveys observed reply) :
    Conveys response reply := by
  rcases hobserved with rfl | ⟨count, rfl⟩
  · exact h
  · refine ⟨h.code, h.token, h.destination, h.source, h.empty, h.small, h.large, ?_⟩
    intro n hn hsmall
    rw [h.options n hn hsmall]
    exact ofNumber_replace_of_ne response OptionRegistry.observe count rfl rfl n hn

theorem Conveys.of_stamped (request response stage reply : Message) (h : Conveys response stage)
    (hstamped : Stamped request stage reply) : Conveys response reply := by
  have hpayload : reply.payload = stage.payload := by rw [hstamped.same]
  have hoptions : reply.options = stage.options := by rw [hstamped.same]
  refine ⟨?_, ?_, ?_, ?_, ?_, ?_, ?_, ?_⟩
  · rw [hstamped.same, ← h.code]
  · rw [hstamped.same, ← h.token]
  · rw [hstamped.same, ← h.destination]
  · rw [hstamped.same, ← h.source]
  · rw [hpayload]
    exact h.empty
  · rw [hpayload]
    exact h.small
  · intro p hp hlarge
    rw [hpayload, ← (h.large p hp hlarge).2]
    exact ⟨(h.large p hp hlarge).1, block_congr _ _ _ (by rw [hoptions])⟩
  · rw [hoptions]
    exact h.options

theorem firstBlock_type (response : Message) : (firstBlock response).type = response.type := by
  unfold firstBlock
  split
  · rfl
  · split <;> rfl

theorem firstBlock_destination (response : Message) :
    (firstBlock response).destination = response.destination :=
  (firstBlock_conveys response).destination

theorem carries_of_stages (request response observed reply : Message)
    (hobserved : Observed response observed)
    (hstamped : Stamped request (firstBlock observed) reply) :
    Carries request response reply := by
  have htype : (firstBlock observed).type = response.type := by
    rw [firstBlock_type]
    rcases hobserved with rfl | ⟨count, rfl⟩ <;> rfl
  have hconveys := (firstBlock_conveys observed).of_stamped request observed _ reply hstamped
  refine ⟨hconveys.of_observed response observed reply hobserved, ?_, ?_⟩
  · rw [← htype]
    exact hstamped.con
  · rw [← htype]
    exact hstamped.non

theorem printable_counted (P : Rendering.Platform) (counter : Option ℕ) (response observed : Message)
    (h : Rendering.Printable P response) (hcounter : ∀ v, counter = some v → Rendering.Short P v)
    (hsmall : ∀ p, response.payload = some p → p.length ≤ maxPayload)
    (hcounted : Counted counter response observed) :
    Rendering.Printable P (firstBlock observed) := by
  have hpayload : observed.payload = response.payload := by
    rcases hcounted with rfl | ⟨count, _, rfl⟩ <;> rfl
  have hwhole : firstBlock observed = observed := by
    cases hp : observed.payload with
    | none => exact firstBlock_none observed hp
    | some p => exact firstBlock_small observed p hp (hsmall p (hpayload.symm.trans hp))
  rw [hwhole]
  rcases hcounted with rfl | ⟨count, hcount, rfl⟩
  · exact h
  · exact Rendering.printable_observe P response count h (hcounter count hcount)

/-- What the layers make of a response, one after the other. -/
def Built (counter : Option ℕ) (request response reply : Message) : Prop :=
  ∃ observed, Counted counter response observed ∧ Stamped request (firstBlock observed) reply

theorem Built.carries (counter : Option ℕ) (request response reply : Message)
    (h : Built counter request response reply) : Carries request response reply := by
  obtain ⟨observed, hcounted, hstamped⟩ := h
  exact carries_of_stages request response observed reply
    (hcounted.observed counter response observed) hstamped

end BubotCoap.Replies
