import BubotCoap.TwoParties
import BubotCoap.UdpTransfer

set_option autoImplicit false

namespace BubotCoap.EndToEnd
open PythonData Defines Utils Options Messages OptionAccess OrderedDict Transactions Resources
  Serializer OptionWire Rendering Client ClientSteps ClientLayers ClientReceptions ClientRuns
  DatagramReception ResponseDelivery ServedTransactions ServedRequests TwoParties Execution
  BlockSteps Replies Answering FreshExecution FallibleState

variable {ω ω' : Type}

section Execution
variable {handlers : Handlers ω} (request : Message)

/-- What a new response for the request has, and keeps. -/
def Paired (m : Message) : Prop :=
  m.destination = request.source ∧ m.token = request.token ∧ m.mid = none

theorem lasting_paired : ResponseKeeping.Lasting request (Paired request) where
  replies := fun _ h => ⟨h.destination, h.token, h.mid⟩
  restated := fun _ _ h hm =>
    ⟨h.destination.trans hm.1, h.token.trans hm.2.1, h.mid.trans hm.2.2⟩

theorem execute_paired (faithful : ResponseKeeping.Faithful handlers) (method : Method) (rid : ℕ)
    (token : Bytes) (app : Application ω) (x : Result ω)
    (haddressed : Addressed app method rid request) (hmulticast : request.multicast = false)
    (hdestination : request.destination ≠ none) (htoken : request.token = some token)
    (hlength : token.length ≤ 256)
    (h : execute handlers method rid request (replyTo request token) app = some x)
    (response : Message) (hresponse : x.response = some response) : Paired request response := by
  let scene : Scene ω := ⟨app, [], Transaction.new request 0⟩
  have hprepared : ResponseKeeping.Prepared request (Paired request) scene := by
    refine ⟨rfl, fun m hm => ?_⟩
    cases hm
  have hfinish := receiveRequest_eq handlers [] scene method rid token x haddressed hmulticast
    hdestination htoken hlength h
  have hkept := (ResponseKeeping.keeps_receiveRequest (lasting_paired request) faithful []
    (by rw [htoken]; exact Option.some_ne_none token)).ends scene hprepared (fun _ _ h => h)
      fun _ h => h
  rw [hfinish] at hkept
  exact hkept.response response hresponse

end Execution

section Printing
variable (P : Platform) (m : Message)

/-- What has crossed the network can be written out like what was sent. -/
theorem printable_received (source : Address) (pt : Value) (h : Printable P m) :
    Printable P (UdpRoundTrip.received m source pt) := by
  have hmem : ∀ o, o ∈ (sortedOptions m.options).toList ↔ o ∈ m.options.toList :=
    fun o => StableSort.mem_sortBy CoapOption.number m.options.toList o
  have htype : (UdpRoundTrip.received m source pt).contentType = m.contentType :=
    contentType_congr _ _ (UdpTransfer.ofNumber_sorted _ m.options)
  refine ⟨h.code, fun o ho => h.option o ((hmem o).mp ho), fun p hp hblocks => ?_⟩
  have hpayload : m.payload = some p := by
    change wirePayload m.payload = some p at hp
    unfold wirePayload at hp
    split at hp
    · cases hp
    · exact hp
  rw [htype]
  exact h.payload p hpayload fun o ho => hblocks o ((hmem o).mpr ho)

end Printing

section Writing
variable (P P' : Platform)

/-- A response that goes into one datagram, and that both ends can write to their logs. -/
structure Plain (m : Message) : Prop where
  type : m.type = none
  code : ∃ c ∈ Codes.list, m.code = some c ∧ isResponse c = true
  options : ∀ o ∈ m.options.toList, Encodable o
  bytes : BytesPayload m.payload
  small : ∀ p, m.payload = some p → p.length ≤ maxPayload
  whole : Whole m
  sender : Printable P m
  receiver : Printable P' m

/-- The counter of the resource fits in its option, and both ends can write it out. -/
def Countable (counter : Option ℕ) : Prop :=
  ∀ count, counter = some count → count < 65536 ∧ Short P count ∧ Short P' count

/-- The reply as it is written: matched to its request, with the content of the response. -/
structure Written (request response m : Message) : Prop where
  matched : request.type = some .CON ∧ m.type = some .ACK ∧ m.mid = request.mid ∨
    request.type = some .NON ∧ m.type = some .NON
  code : m.code = response.code
  token : m.token = response.token
  destination : m.destination = response.destination
  payload : m.payload = response.payload
  options : ∀ n, n ≠ OptionRegistry.observe.number →
    ofNumber n m.options = ofNumber n response.options
  encodable : ∀ o ∈ m.options.toList, Encodable o
  sender : Printable P m
  receiver : Printable P' m

variable {P P'} {request response m : Message}

theorem firstBlock_plain (counter : Option ℕ) (observed : Message)
    (hcounted : Counted counter response observed)
    (hsmall : ∀ p, response.payload = some p → p.length ≤ maxPayload) :
    firstBlock observed = observed := by
  have hpayload : observed.payload = response.payload := by
    rcases hcounted with rfl | ⟨count, _, rfl⟩ <;> rfl
  cases hp : response.payload with
  | none => exact firstBlock_none observed (hpayload.trans hp)
  | some p => exact firstBlock_small observed p (hpayload.trans hp) (hsmall p hp)

theorem written_of_built (counter : Option ℕ) (hbuilt : Built counter request response m)
    (plain : Plain P P' response) (countable : Countable P P' counter)
    (htype : request.type = some .CON ∨ request.type = some .NON) :
    Written P P' request response m := by
  have hcarries := hbuilt.carries
  obtain ⟨observed, hcounted, hstamped⟩ := hbuilt
  rw [firstBlock_plain counter observed hcounted plain.small] at hstamped
  have hcode : m.code = observed.code := by rw [hstamped.same]
  have hoptions : m.options = observed.options := by rw [hstamped.same]
  have hpayload : m.payload = observed.payload := by rw [hstamped.same]
  have hcontent : (observed.payload = response.payload ∧
      ∀ o ∈ observed.options.toList, Encodable o) ∧
        Printable P observed ∧ Printable P' observed := by
    rcases hcounted with rfl | ⟨count, hcount, rfl⟩
    · exact ⟨⟨rfl, plain.options⟩, plain.sender, plain.receiver⟩
    · obtain ⟨hfits, hshort, hshort'⟩ := countable count hcount
      refine ⟨⟨rfl, fun o ho => ?_⟩, printable_observe P response count plain.sender hshort,
        printable_observe P' response count plain.receiver hshort'⟩
      rcases mem_replace response OptionRegistry.observe count rfl rfl o ho with hold | rfl
      · exact plain.options o hold
      · refine UdpTransfer.intOption_encodable OptionRegistry.observe count rfl rfl ?_
        exact ((byteLen_le_iff count 2).mpr hfits).trans (by omega)
  obtain ⟨⟨hsame, hencodable⟩, hsender, hreceiver⟩ := hcontent
  refine ⟨?_, hcarries.code, hcarries.token, hcarries.destination, hpayload.trans hsame, ?_, ?_,
    hsender.congr P _ _ hcode hoptions hpayload, hreceiver.congr P' _ _ hcode hoptions hpayload⟩
  · rcases htype with hcon | hnon
    · exact Or.inl ⟨hcon, hcarries.con plain.type hcon⟩
    · exact Or.inr ⟨hnon, hcarries.non plain.type hnon⟩
  · exact fun n hn => hcarries.options n hn fun _ => plain.small
  · rw [hoptions]
    exact hencodable

theorem Written.printed (h : Written P P' request response m) (plain : Plain P P' response)
    (source : Address) :
    Written P P' request response (printed { m with source := some source }) := by
  obtain ⟨c, _, hcode, _⟩ := plain.code
  have hsame : (Rendering.printed { m with source := some source }).code = m.code := by
    change some (m.code.getD Codes.empty) = m.code
    rw [h.code, hcode]
    rfl
  exact ⟨h.matched, hsame.trans h.code, h.token, h.destination, h.payload, h.options, h.encodable,
    h.sender.congr P _ _ hsame rfl rfl, h.receiver.congr P' _ _ hsame rfl rfl⟩

/-- A message id that has not been set goes out as zero. -/
def numbered (m : Message) : Message := { m with mid := some (m.mid.getD 0) }

theorem serialize_numbered (m : Message) :
    SerializerUdp.serialize (numbered m) = SerializerUdp.serialize m := rfl

theorem Written.serialize (h : Written P P' request response m) (plain : Plain P P' response)
    (token : Bytes) (htoken : response.token = some token) (hpos : 1 ≤ token.length)
    (hle : token.length ≤ 8) (hmid : 0 ≤ m.mid.getD 0 ∧ m.mid.getD 0 < 65536) :
    ∃ answer, SerializerUdp.serialize m = .ok answer ∧ ∀ rng source, ∃ pt,
      SerializerUdp.deserialize rng answer source =
        .ok (.message (UdpRoundTrip.received (numbered m) source pt)) := by
  obtain ⟨c, hc, hcode, hkind⟩ := plain.code
  obtain ⟨mid, hread⟩ := Int.eq_ofNat_of_zero_le hmid.1
  have hencodable : UdpRoundTrip.UdpEncodable (numbered m) := by
    refine ⟨?_, ⟨c, hc, h.code.trans hcode, Or.inr hkind⟩,
      ⟨mid, by omega, congrArg some hread⟩,
      ⟨token, h.token.trans htoken, hpos, by omega⟩, h.encodable, ?_⟩
    · rcases h.matched with ⟨_, hack, _⟩ | ⟨_, hnon⟩
      · exact ⟨_, hack⟩
      · exact ⟨_, hnon⟩
    · change BytesPayload m.payload
      rw [h.payload]
      exact plain.bytes
  obtain ⟨answer, _, hserialize, _⟩ :=
    UdpRoundTrip.deserialize_wire (numbered m) [] ([], 0) hencodable
  refine ⟨answer, (serialize_numbered m).symm.trans hserialize, fun rng source => ?_⟩
  obtain ⟨answer', pt, hserialize', hread⟩ :=
    UdpRoundTrip.deserialize_wire (numbered m) rng source hencodable
  rw [hserialize] at hserialize'
  cases hserialize'
  exact ⟨pt, hread⟩

end Writing

section Service
variable {b : Party ω} {request m : Message}

theorem node_request (p : Party ω) (events : List Timed) (now : ℚ) (rng : Bytes)
    (request : Message) :
    p.node (events ++ [(now, .request rng request)]) = { p.node events with
      server := FreshExecution.step p.handlers (p.node events).server
        (now, .receive rng request) } := Runs.run_concat _ _ _ _

theorem wire_reply (fs : List Timed) (now : ℚ) (rng : Bytes) (sent : ℕ)
    (hsent : (b.node (fs ++ [(now, .request rng request)])).server.sent =
      (b.node fs).server.sent ++ [(sent, ⟨m, false⟩)])
    (hprintable : Printable b.platform m) (answer : Bytes)
    (hserialize : SerializerUdp.serialize (printed m) = .ok answer) :
    b.wire (fs ++ [(now, .request rng request)]) =
      b.wire fs ++ [printed { m with source := some b.address }] := by
  have hwritten : RetransmitLoop.Loop.sendMessage b.platform ⟨b.address, .udp⟩ m =
      .ok (printed { m with source := some b.address }) := by
    obtain ⟨m', hm', _⟩ := RetransmitLoop.sendMessage_ok b.platform ⟨b.address, .udp⟩ m
      ⟨hprintable, answer, hserialize⟩
    rw [hm', sendMessage_printed b.platform _ m m' hm']
  unfold Party.wire
  rw [hsent, List.filterMap_append, ← List.append_assoc]
  congr 1
  · rw [node_request]
  · rw [List.filterMap_cons, List.filterMap_nil, hwritten]
    rfl

end Service

section Delivery
variable {a : Party ω} {b : Party ω'} {drawn : Set Bytes} {request response reply : Message}

/-- What the waiter gets: the content of the response, as it is read from the datagram. -/
structure Conveyed (response m : Message) : Prop where
  code : m.code = response.code
  token : m.token = response.token
  payload : m.payload = wirePayload response.payload
  options : ∀ n, n ≠ OptionRegistry.observe.number →
    ofNumber n m.options = ofNumber n response.options

/-- A wait for the response to the request is pending. What is stored under the message id of a
request to be acknowledged has its token. -/
structure Waits (a : Party ω) (b : Party ω') (es : List Timed) (request : Message) (i : ℕ)
    (w : CallbackLayer.Waiter) : Prop where
  waiter : (a.node es).callback.waiters[i]? = some w
  pending : w.future = .pending
  unicast : w.request.multicast = false
  token : w.request.token = request.token
  destination : w.request.destination = some b.address
  own : request.type = some .CON → ∀ tid, (a.node es).server.message.transactionsSent.get?
    (key b.address (midArg request.mid)) = some tid →
      ((a.node es).server.message.heap.cell tid).request.token = request.token

/-- Whenever the datagram of the reply arrives, with whatever has happened until then, it ends a
wait that is still pending. -/
def Ends (a : Party ω) (b : Party ω') (drawn : Set Bytes) (reply : Message) (answer : Bytes)
    (request response : Message) : Prop :=
  ∀ es fs now rng rng' i w, Exchanged a b drawn es fs → reply ∈ b.wire fs → rng ∈ drawn →
    Fresh (requestsOf es) → Waits a b es request i w →
    Exchanged a b drawn (es ++ (a.arrival rng rng' answer b.address).map (Prod.mk now)) fs ∧
      ∃ m, Conveyed response m ∧
        (a.node (es ++ (a.arrival rng rng' answer b.address).map
          (Prod.mk now))).callback.waiters[i]? = some { w with future := .result m }

/-- The message of the datagram as its task gets it. -/
def readBack (a : Party ω) (b : Party ω') (reply : Message) (pt : Value) : Message :=
  printed (addressed a.endpoint (UdpRoundTrip.received (numbered reply) b.address pt))

variable (hwritten : Written b.platform a.platform request response reply) (pt : Value)
include hwritten

theorem printable_readBack : Printable a.platform
    (addressed a.endpoint (UdpRoundTrip.received (numbered reply) b.address pt)) := by
  refine (printable_addressed a.platform a.endpoint _).mpr ?_
  refine printable_received a.platform (numbered reply) b.address pt ?_
  exact hwritten.receiver.congr a.platform _ _ rfl rfl rfl

theorem reaches_readBack (es : List Timed) (i : ℕ) (w : CallbackLayer.Waiter)
    (hwaits : Waits a b es request i w) (htoken : response.token = request.token) (mid : ℤ)
    (hid : request.mid = some mid) :
    Reaches (a.node es).server.message (readBack a b reply pt) w.request b.address a.address := by
  have hsame : (readBack a b reply pt).token = request.token := hwritten.token.trans htoken
  have hsent : SentTo w.request b.address := ⟨b.address, hwaits.destination, rfl⟩
  refine ⟨hsame.trans hwaits.token.symm, ?_⟩
  unfold Takes
  split
  · next tid htid =>
    rcases hwritten.matched with ⟨hcon, hack, hmid⟩ | ⟨_, hnon⟩
    · have hkey : midArg (readBack a b reply pt).mid = midArg request.mid := by
        change midArg (some (reply.mid.getD 0)) = midArg request.mid
        rw [hmid, hid]
        rfl
      have htype : (readBack a b reply pt).type = some .ACK := hack
      rw [hkey] at htid
      rw [if_pos (Or.inl htype), hsame]
      exact hwaits.own hcon tid htid
    · have htype : (readBack a b reply pt).type = some .NON := hnon
      rw [htype, if_neg (by decide)]
      exact Or.inl hsent
  · exact Or.inl hsent

variable (plain : Plain b.platform a.platform response)
include plain

theorem code_readBack : (readBack a b reply pt).code = reply.code := by
  obtain ⟨c, _, hcode, _⟩ := plain.code
  change some (reply.code.getD Codes.empty) = reply.code
  rw [hwritten.code, hcode]
  rfl

theorem conveyed_readBack (m : Message) (hm : Settled (readBack a b reply pt) m) :
    Conveyed response m := by
  have hread : Conveyed response (readBack a b reply pt) := by
    refine ⟨?_, hwritten.token, ?_, fun n hn => ?_⟩
    · exact (code_readBack hwritten pt plain).trans hwritten.code
    · change wirePayload reply.payload = wirePayload response.payload
      rw [hwritten.payload]
    · exact (UdpTransfer.ofNumber_sorted n reply.options).trans (hwritten.options n hn)
  have hprinted : printed (readBack a b reply pt) = readBack a b reply pt := rfl
  rcases hm with rfl | rfl
  · rw [hprinted]
    exact hread
  · rw [hprinted]
    exact ⟨hread.code, hread.token, hread.payload, hread.options⟩

theorem whole_readBack : Whole (readBack a b reply pt) := by
  have hkept : ∀ n, n ≠ OptionRegistry.observe.number →
      (readBack a b reply pt).block n = response.block n := fun n hn =>
    block_congr n _ _ ((UdpTransfer.ofNumber_sorted n reply.options).trans (hwritten.options n hn))
  refine ⟨?_, ?_⟩
  · exact (hkept OptionRegistry.block1.number (by decide)).trans plain.whole.block1
  · exact (hkept OptionRegistry.block2.number (by decide)).trans plain.whole.block2

theorem ends_wait (answer token : Bytes) (mid : ℤ)
    (hserialize : SerializerUdp.serialize reply = .ok answer)
    (hread : ∀ rng source, ∃ pt, SerializerUdp.deserialize rng answer source =
      .ok (.message (UdpRoundTrip.received (numbered reply) source pt)))
    (hdestination : response.destination = some a.address)
    (htoken : request.token = some token) (hle : token.length ≤ 8)
    (hsame : response.token = request.token) (hid : request.mid = some mid)
    (hmid : 0 ≤ reply.mid.getD 0 ∧ reply.mid.getD 0 < 65536) : Ends a b drawn reply answer request response := by
  intro es fs now rng rng' i w exchanged hmem hrng fresh hwaits
  obtain ⟨pt, hread⟩ := hread rng b.address
  have harrival : a.arrival rng rng' answer b.address =
      [.response rng' (readBack a b reply pt)] := by
    obtain ⟨line, hline⟩ := (linePrint_ok_iff a.platform _).mpr (printable_readBack hwritten pt)
    obtain ⟨c, _, hcode, hkind⟩ := plain.code
    have hresponse : (printed (addressed a.endpoint
        (UdpRoundTrip.received (numbered reply) b.address pt))).kind = .response := by
      change UdpRoundTrip.kindOf (reply.code.getD 0) = .response
      rw [hwritten.code, hcode]
      exact if_pos hkind
    unfold Party.arrival
    rw [hread]
    dsimp only
    rw [hline]
    dsimp only
    unfold handler
    rw [hresponse]
    rfl
  refine ⟨.toFirst es fs now rng rng' answer b.address exchanged hrng
    (Or.inl ⟨rfl, reply, hmem, hwritten.destination.trans hdestination, hserialize⟩), ?_⟩
  rw [harrival, List.map_singleton]
  have hreceived : Received a.platform (readBack a b reply pt) b.address a.address := by
    refine ⟨rfl, rfl, ⟨token, hwritten.token.trans (hsame.trans htoken), by omega⟩,
      ?_, rfl, ?_⟩
    · intro n hn
      cases hn
      omega
    · exact (printable_readBack hwritten pt).congr a.platform _ _ (code_readBack hwritten pt plain)
        rfl rfl
  obtain ⟨w', hw', hcase⟩ := response_reaches a.platform a.address a.ipv6 a.handlers a.startingMid
    a.app es now rng' (readBack a b reply pt) b.address a.address i w fresh hreceived
    (whole_readBack hwritten pt plain) hwaits.waiter hwaits.unicast hwaits.pending
  rcases hcase with ⟨_, m, hsettled, rfl⟩ | ⟨hnot, _⟩
  · exact ⟨m, conveyed_readBack hwritten pt plain m hsettled, hw'⟩
  · exact absurd (reaches_readBack hwritten pt es i w hwaits hsame mid hid) hnot

end Delivery

section Answers
variable {a : Party ω} {b : Party ω'} {drawn : Set Bytes}

/-- A request that has got through to a node that is free to answer it is executed once. The reply
goes out in a datagram of its own, and ends the wait for it wherever it arrives in time. -/
theorem request_answered (es fs : List Timed) (now : ℚ) (rng rng' data : Bytes)
    (request response : Message) (mid : ℤ) (token : Bytes) (method : Method) (rid : ℕ)
    (x : Result ω') (exchanged : Exchanged a b drawn es fs)
    (faithful : ResponseKeeping.Faithful b.handlers) (start : b.startingMid < 65536)
    (passive : ∀ e ∈ fs, Passive e) (random : rng ∈ drawn)
    (comes : Comes a es b.address a.address data)
    (arrives : b.arrival rng rng' data a.address = [.request rng' request])
    (subject : Subject (b.node fs).server request a.address mid token method rid)
    (clear : Clear b.handlers (b.node fs).server now request a.address mid token method rid x)
    (nonempty : 1 ≤ token.length) (short : token.length ≤ 8) (responds : x.response = some response)
    (plain : Plain b.platform a.platform response)
    (countable : Countable b.platform a.platform (x.app.resources x.resource).counter) :
    ∃ reply answer, Exchanged a b drawn es (fs ++ [(now, .request rng' request)]) ∧
      OnceEach method rid (stamped now request) x.calls ∧
      (b.node (fs ++ [(now, .request rng' request)])).server.calls =
        (b.node fs).server.calls ++ x.calls.map (Prod.mk (b.node fs).server.received) ∧
      b.wire (fs ++ [(now, .request rng' request)]) = b.wire fs ++ [reply] ∧
      SerializerUdp.serialize reply = .ok answer ∧
      Ends a b drawn reply answer request response := by
  have hexchanged : Exchanged a b drawn es (fs ++ [(now, .request rng' request)]) := by
    have hafter := Exchanged.toSecond es fs now rng rng' data a.address exchanged random comes
    rwa [arrives, List.map_singleton] at hafter
  have hpassive : ∀ e ∈ fs ++ [(now, .request rng' request)], Passive e := by
    intro e he
    rcases List.mem_append.mp he with hold | hnew
    · exact passive e hold
    · rw [List.mem_singleton.mp hnew]
      exact passive_request now rng' request
  have hbefore := answers_run b.platform b.address b.ipv6 b.handlers faithful b.startingMid b.app fs
    start passive (receivedOf_decoded es fs exchanged)
  have hbuilt := datagramReceivedRequest_builds b.handlers rng' now request a.address mid token
    method rid x (b.node fs).server subject clear (Nat.lt_succ_iff.mp hbefore.serves.known.mid)
  obtain ⟨m, hsent, hlayers⟩ := hbuilt.sent response responds
  obtain ⟨hdestination, htoken, _⟩ := execute_paired (stamped now request) faithful method rid token
    (b.node fs).server.app x
    ⟨subject.code, subject.registered, subject.notRoot, clear.matching, clear.noneMatching⟩
    subject.unicast subject.destination subject.token_eq subject.token_le clear.executed response
    responds
  -- The time of the reception is nothing that a reply says.
  have hwritten : Written b.platform a.platform request response m :=
    { written_of_built _ hlayers plain countable subject.type with }
  have hafter : (b.node (fs ++ [(now, .request rng' request)])).server.sent =
      (b.node fs).server.sent ++ [((b.node fs).server.received, ⟨m, false⟩)] := by
    rw [node_request]
    exact hsent
  have hmid : 0 ≤ m.mid.getD 0 ∧ m.mid.getD 0 < 65536 := by
    obtain ⟨_, hreturned⟩ := replies_return b.platform b.address b.ipv6 b.handlers b.startingMid
      b.app _ faithful start hpassive (receivedOf_decoded es _ hexchanged)
    obtain ⟨k, hreturns⟩ := hreturned ((b.node fs).server.received, ⟨m, false⟩) (by
      refine (congrArg (_ ∈ ·) hafter).mpr ?_
      exact List.mem_append_right _ List.mem_cons_self)
    exact hreturns.mid
  have hreply := hwritten.printed plain b.address
  obtain ⟨answer, hserialize, hread⟩ := hreply.serialize plain token
    (htoken.trans subject.token_eq) nonempty short hmid
  refine ⟨printed { m with source := some b.address }, answer, hexchanged,
    execute_once b.handlers method rid _ _ _ x clear.executed, ?_,
    wire_reply fs now rng' _ hafter hwritten.sender answer hserialize, hserialize,
    ends_wait hreply plain answer token mid hserialize hread
      (hdestination.trans subject.source) subject.token_eq short htoken subject.id hmid⟩
  rw [node_request]
  exact hbuilt.calls

end Answers

section Samples

def sampleAsking : Message :=
  { Message.new .request with
    type := some .CON
    mid := some 7
    code := some Codes.get
    destination := some samplePeer
    options := (FreshExecution.sampleGet 'a' [1, 2] 7).options }

def sampleAsk : Timed := (0, .send [1, 2] false sampleAsking)

def sampleAsked : Bytes := [0x42, 1, 0, 7, 1, 2, 0xB1, 97]

/-- The request as it is received. -/
def sampleRequest : Message :=
  { FreshExecution.sampleGet 'a' [1, 2] 7 with
    source := some sampleNode
    scheme := some "coap".toList }

def sampleWaiting : CallbackLayer.Waiter :=
  CallbackLayer.Waiter.new { sampleAsking with
    token := some [1, 2], source := some sampleNode, timestamp := some 0 }

def sampleFound : Result Unit :=
  FreshExecution.sampleResult (sampleServer.node []).server 1 sampleRequest [1, 2] 1

def sampleResponse : Message :=
  ResourceLayer.withDefault Codes.content
    ((replyTo (stamped 1 sampleRequest) [1, 2]).setPayload (some (.bytes [1])))

theorem sampleRequest_subject : Subject (sampleServer.node []).server sampleRequest sampleNode 7
    [1, 2] .get 1 where
  source := rfl
  unicast := rfl
  id := rfl
  id_le := by decide
  type := Or.inl rfl
  acknowledged := rfl
  duplicated := rfl
  destination := Option.some_ne_none _
  token_eq := rfl
  token_le := by decide
  block1 := rfl
  block2 := rfl
  code := rfl
  registered := by decide +kernel
  notRoot := by decide +kernel
  idle := by
    rintro (⟨item, hitem⟩ | ⟨item, payload, hitem, _⟩)
    · cases hitem
    · cases hitem

theorem sampleRequest_clear : Clear sampleServer.handlers (sampleServer.node []).server 1
    sampleRequest sampleNode 7 [1, 2] .get 1 sampleFound where
  idFree := Or.inr rfl
  tokenFree := by
    intro tid htid
    cases htid
  lockFree := List.not_mem_nil
  unstored := by
    intro item hitem
    cases hitem
  unobserved := by
    intro hmarked
    cases hmarked
  matching := by
    rintro (hpost | hput)
    · cases hpost
    · cases hput
  noneMatching := by
    intro hput
    cases hput
  executed := rfl
  addressed := by
    intro response hresponse
    cases hresponse
    exact Option.some_ne_none _
  printable := by
    intro response observed hresponse hcounted
    cases hresponse
    refine printable_counted plainPlatform _ sampleResponse observed
      ((linePrint_ok_iff plainPlatform sampleResponse).mp ⟨_, rfl⟩) ?_ ?_ hcounted
    · intro v hv
      cases hv
      decide +kernel
    · intro p hp
      cases hp
      decide

theorem sampleResponse_plain :
    Plain sampleServer.platform sampleClient.platform sampleResponse where
  type := rfl
  code := ⟨Codes.content, by decide, rfl, by decide⟩
  options := by decide
  bytes := trivial
  small := by
    intro p hp
    cases hp
    decide
  whole := ⟨rfl, rfl⟩
  sender := (linePrint_ok_iff plainPlatform sampleResponse).mp ⟨_, rfl⟩
  receiver := (linePrint_ok_iff plainPlatform sampleResponse).mp ⟨_, rfl⟩

theorem sampleAsk_exchanged :
    Exchanged sampleClient sampleServer {sampleDrawn} [sampleAsk] [] :=
  .ofFirst [] [] sampleAsk .start rfl

theorem sampleAsk_waits :
    Waits sampleClient sampleServer [sampleAsk] sampleRequest 0 sampleWaiting where
  waiter := by decide +kernel
  pending := rfl
  unicast := rfl
  token := rfl
  destination := rfl
  own := by
    intro _ tid htid
    cases htid
    decide +kernel

/-- The wait of the client ends with what the server has answered. -/
theorem request_answered_sample :
    ∃ answer m, Conveyed sampleResponse m ∧
      (sampleClient.node ([sampleAsk] ++ (sampleClient.arrival sampleDrawn [] answer
        samplePeer).map (Prod.mk 2))).callback.waiters[0]? =
          some { sampleWaiting with future := .result m } := by
  obtain ⟨reply, answer, hserved, _, _, hwire, _, hends⟩ := request_answered [sampleAsk] [] 1
    sampleDrawn [] sampleAsked sampleRequest sampleResponse 7 [1, 2] .get 1 sampleFound
    sampleAsk_exchanged faithful_sample (by decide) (fun e he => absurd he List.not_mem_nil)
    (Set.mem_singleton _) (Or.inl ⟨rfl, by decide +kernel⟩) rfl sampleRequest_subject
    sampleRequest_clear (by decide) (by decide) rfl sampleResponse_plain (by
      intro count hcount
      cases hcount
      exact ⟨by decide, by decide +kernel, by decide +kernel⟩)
  have hfresh : Fresh (requestsOf [sampleAsk]) := by
    refine ⟨List.nodup_singleton _, 2, fun q hq => ?_⟩
    rw [List.mem_singleton.mp hq]
    exact ⟨[1, 2], rfl, rfl⟩
  obtain ⟨_, m, hconveyed, hwaiter⟩ := hends [sampleAsk] _ 2 sampleDrawn [] 0 sampleWaiting hserved
    (by rw [hwire]; exact List.mem_append_right _ List.mem_cons_self) (Set.mem_singleton _) hfresh
    sampleAsk_waits
  exact ⟨answer, m, hconveyed, hwaiter⟩

end Samples

end BubotCoap.EndToEnd
