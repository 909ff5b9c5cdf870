import BubotCoap.DatagramReception
import BubotCoap.ServedRequests
import BubotCoap.TokenEcho

set_option autoImplicit false

namespace BubotCoap.TwoParties
open PythonData Defines Messages Transactions Resources Serializer Rendering Client ClientLayers
  ClientReceptions ClientRuns DatagramReception ResponseDelivery ServedTransactions ServedRequests
  FallibleState

variable {ω ω' : Type}

section Decoding

theorem unpackBBH_mid (b : Bytes) (first code mid : ℕ)
    (h : StructPack.unpackBBH b = .ok (first, code, mid)) : mid < 65536 := by
  unfold StructPack.unpackBBH at h
  split at h
  · next b₀ b₁ b₂ b₃ _ =>
    have hvalue := BigEndian.value_lt [b₂, b₃]
    have hmid : BigEndian.value [b₂, b₃] = mid := by
      simp only [Except.ok.injEq, Prod.mk.injEq] at h
      exact h.2.2
    rw [← hmid]
    exact hvalue.trans_le (by simp)
  · cases h

theorem readHeader_fields (rng datagram values : Bytes) (source : Address) (m : Message)
    (h : SerializerUdp.readHeader rng datagram source = .ok (m, values)) :
    m.source = some source ∧ 0 ≤ m.mid.getD 0 ∧ m.mid.getD 0 < 65536 := by
  unfold SerializerUdp.readHeader at h
  obtain ⟨⟨first, code, mid⟩, hunpack, h⟩ := (bind_eq_ok _ _ _).mp h
  obtain ⟨m₁, _, h⟩ := (bind_eq_ok _ _ _).mp h
  obtain ⟨m₂, hversion, h⟩ := (bind_eq_ok _ _ _).mp h
  obtain ⟨m₃, htype, h⟩ := (bind_eq_ok _ _ _).mp h
  obtain ⟨m₄, hmid, h⟩ := (bind_eq_ok _ _ _).mp h
  obtain ⟨m₅, htoken, h⟩ := (bind_eq_ok _ _ _).mp h
  have h₂ : m₂.source = some source := by
    unfold Message.setVersion at hversion
    split_ifs at hversion
    rw [← Except.ok.inj hversion]
  have h₃ : m₃.source = m₂.source := by
    unfold Message.setType at htype
    split at htype
    · rw [← Except.ok.inj htype]
    · cases htype
  rw [← (Prod.mk.inj (Except.ok.inj h)).1, MessageLayer.setToken_eq _ _ _ _ htoken,
    MessageLayer.setMid_eq _ _ _ hmid]
  exact ⟨h₃.trans h₂, Int.natCast_nonneg mid,
    Int.ofNat_lt.mpr (unpackBBH_mid datagram first code mid hunpack)⟩

theorem addDecoded_fields (m m' : Message) (o : Options.CoapOption)
    (h : addDecoded m o = .ok m') : m'.source = m.source ∧ m'.mid = m.mid := by
  unfold addDecoded at h
  obtain ⟨added, hadded, h⟩ := (bind_eq_ok _ _ _).mp h
  have hsame : added.source = m.source ∧ added.mid = m.mid := by
    unfold Message.addOption at hadded
    cases hos : m.options.add o with
    | error e =>
      rw [hos] at hadded
      cases hadded
    | ok os =>
      rw [hos] at hadded
      cases hadded
      exact ⟨rfl, rfl⟩
  rw [← Except.ok.inj h]
  split <;> exact hsame

/-- A decoded message has the source of its datagram, and a message id of two bytes. -/
theorem deserialize_fields (rng datagram : Bytes) (source : Address) (m : Message)
    (h : SerializerUdp.deserialize rng datagram source = .ok (.message m)) :
    m.source = some source ∧ 0 ≤ m.mid.getD 0 ∧ m.mid.getD 0 < 65536 := by
  unfold SerializerUdp.deserialize at h
  cases hread : SerializerUdp.readHeader rng datagram source with
  | error e =>
    rw [hread] at h
    cases e <;> cases h
  | ok r =>
    obtain ⟨base, values⟩ := r
    rw [hread, ok_bind] at h
    dsimp only at h
    cases hbody : readMessage values base with
    | error e =>
      rw [hbody] at h
      cases e <;> cases h
    | ok m' =>
      rw [hbody] at h
      obtain rfl : m' = m := by simpa [badRequestOn] using h
      refine DecodedOptions.readLoop_keeps
        (fun m => m.source = some source ∧ 0 ≤ m.mid.getD 0 ∧ m.mid.getD 0 < 65536)
        (fun m m' _ _ _ _ o _ _ hadd hm => ?_) (fun _ _ hm => hm) values _ _ m' hbody
        (readHeader_fields rng datagram values source base hread)
      obtain ⟨hsource, hmid⟩ := addDecoded_fields m m' o hadd
      rw [hsource, hmid]
      exact hm

theorem deserialize_code (rng datagram : Bytes) (source : Address) (n : ℕ)
    (h : SerializerUdp.deserialize rng datagram source = .ok (.code n)) : n = Codes.badRequest := by
  unfold SerializerUdp.deserialize badRequestOn at h
  split at h
  · cases h
  · cases h
    rfl
  · cases h
    rfl
  · cases h
    rfl
  · cases h

section Refusal
variable (P : Platform) (rng data : Bytes) (sender : Address) (node : DatagramReception.Node)

theorem badRequest_layer :
    (datagramReceivedBadMessage Codes.badRequest sender node).2.messageLayer =
      (MessageLayer.fetchMid node.messageLayer).2 := by
  have hsame : ∀ (x : Except PyErr Message) (n : DatagramReception.Node),
      ((do
        let rst ← raises x
        let node ← Action.get
        let _dropped := Coroutine.sendDatagram { rst with source := some node.endpoint.address }
        pure () : Action Failure DatagramReception.Node Unit) n).2 = n := by
    intro x n
    cases x <;> rfl
  exact congrArg DatagramReception.Node.messageLayer (hsame _ _)

theorem datagramReceived_refused
    (h : SerializerUdp.deserialize rng data sender = .ok (.code Codes.badRequest)) :
    (datagramReceived P rng data sender node).2 =
      (datagramReceivedBadMessage Codes.badRequest sender node).2 := by
  have hbody : datagramReceived P rng data sender node =
      logged (datagramReceivedBadMessage Codes.badRequest sender) node := by
    unfold datagramReceived raises
    rw [h]
    rfl
  rw [hbody]
  unfold logged
  split
  · next heq => rw [heq]
  · rfl

end Refusal

end Decoding

structure Party (ω : Type) where
  address : Address
  ipv6 : Text → Bool
  handlers : Handlers ω
  startingMid : ℕ
  app : Application ω

/-- The message with which the handler of a received datagram is run. -/
def brought : Event → Option Message
  | .request _ m => some m
  | .response _ m => some m
  | .empty m => some m
  | _ => none

/-- The tasks of the protocol as events of the node. -/
def eventOf (rng : Bytes) : Coroutine → Option Event
  | .datagramReceivedRequest m => some (.request rng m)
  | .datagramReceivedResponse m => some (.response rng m)
  | .datagramReceivedMessage m => some (.empty m)
  | .sendDatagram _ => none

namespace Party

def platform (p : Party ω) : Platform := p.handlers.platform

def endpoint (p : Party ω) : Endpoint := ⟨p.address, false, "coap".toList⟩

def node (p : Party ω) (events : List Timed) : Client.Node ω :=
  run p.platform p.address p.ipv6 p.handlers p.startingMid p.app events

/-- The messages whose datagrams the node has sent: those of its requests, and its replies, of which
the endpoint sends those it can write. -/
def wire (p : Party ω) (events : List Timed) : List Message :=
  (p.node events).sent ++ (p.node events).server.sent.filterMap fun d =>
    (RetransmitLoop.Loop.sendMessage p.platform ⟨p.address, .udp⟩ d.2.message).toOption

/-- What the arrival of a datagram comes to: the task of its message, or the reset of a datagram
that is refused. -/
def arrival (p : Party ω) (rng rng' data : Bytes) (source : Address) : List Event :=
  match SerializerUdp.deserialize rng data source with
  | .error _ => []
  | .ok (.code _) => [.badMessage]
  | .ok (.message m) =>
    match linePrint p.platform (addressed p.endpoint m) with
    | .error _ => []
    | .ok _ => (eventOf rng' (handler (printed (addressed p.endpoint m)))).toList

/-- The arrival is what `datagram_received` does: the tasks it makes, and the message id it
draws. -/
theorem arrival_received (p : Party ω) (rng rng' data : Bytes) (source : Address)
    (layer : MessageLayer.State) (after : DatagramReception.Node)
    (h : (datagramReceived p.platform rng data source ⟨p.endpoint, layer, []⟩).2 = after) :
    p.arrival rng rng' data source = [.badMessage] ∧ after.tasks = [] ∧
        after.messageLayer = (MessageLayer.fetchMid layer).2 ∨
      p.arrival rng rng' data source = after.tasks.filterMap (eventOf rng') ∧
        after.messageLayer = layer := by
  subst h
  unfold arrival
  cases hread : SerializerUdp.deserialize rng data source with
  | error e =>
    right
    rw [datagramReceived_error p.platform rng data source _ e hread]
    exact ⟨rfl, rfl⟩
  | ok decoded =>
    cases decoded with
    | code n =>
      have hcode := deserialize_code rng data source n hread
      subst hcode
      left
      rw [datagramReceived_refused p.platform rng data source _ hread]
      exact ⟨rfl, datagramReceivedBadMessage_tasks source _ _, badRequest_layer source _⟩
    | message m =>
      right
      rw [datagramReceived_message p.platform rng data source _ m hread]
      dsimp only
      cases hline : linePrint p.platform (addressed p.endpoint m) with
      | error e =>
        rw [dispatch_unprintable p.platform _ m fun hprintable => ?_]
        · exact ⟨rfl, rfl⟩
        · obtain ⟨line, hok⟩ := (linePrint_ok_iff p.platform _).mpr
            ((printable_addressed p.platform p.endpoint m).mpr hprintable)
          rw [hline] at hok
          cases hok
      | ok line =>
        have hprintable := (printable_addressed p.platform p.endpoint m).mp
          ((linePrint_ok_iff p.platform _).mp ⟨line, hline⟩)
        rw [dispatch_printable p.platform _ m hprintable]
        have hone : ∀ task : Coroutine,
            (eventOf rng' task).toList = [task].filterMap (eventOf rng') := by
          intro task
          cases task <;> rfl
        exact ⟨hone _, rfl⟩

theorem mem_arrival (p : Party ω) (rng rng' data : Bytes) (source : Address) (e : Event)
    (r : Message) (h : e ∈ p.arrival rng rng' data source) (hr : brought e = some r) :
    ∃ d, SerializerUdp.deserialize rng data source = .ok (.message d) ∧
      r = printed (addressed p.endpoint d) := by
  unfold arrival at h
  split at h
  · cases h
  · rw [List.mem_singleton.mp h] at hr
    cases hr
  · next d hread =>
    refine ⟨d, hread, ?_⟩
    split at h
    · cases h
    · rw [Option.mem_toList] at h
      unfold handler at h
      split at h
      · cases h
        exact (Option.some.inj hr).symm
      · cases h
        exact (Option.some.inj hr).symm
      · cases h
        exact (Option.some.inj hr).symm

theorem arrival_length (p : Party ω) (rng rng' data : Bytes) (source : Address) :
    (p.arrival rng rng' data source).length ≤ 1 := by
  unfold arrival
  split
  · exact Nat.zero_le 1
  · exact Nat.le_refl 1
  · split
    · exact Nat.zero_le 1
    · exact Option.length_toList_le

theorem passive_eventOf (rng : Bytes) (task : Coroutine) (e : Event) (now : ℚ)
    (h : eventOf rng task = some e) : Passive (now, e) := by
  cases task <;> cases h
  · exact passive_request now _ _
  · exact ⟨fun _ _ _ hsend => Event.noConfusion hsend, fun _ _ hsend => Event.noConfusion hsend⟩
  · exact ⟨fun _ _ _ hsend => Event.noConfusion hsend, fun _ _ hsend => Event.noConfusion hsend⟩

theorem passive_arrival (p : Party ω) (rng rng' data : Bytes) (source : Address) (now : ℚ)
    (e : Event) (h : e ∈ p.arrival rng rng' data source) : Passive (now, e) := by
  rcases arrival_received p rng rng' data source (MessageLayer.State.new p.startingMid) _ rfl with
    ⟨harrival, -, -⟩ | ⟨harrival, -⟩
  · rw [harrival] at h
    rw [List.mem_singleton.mp h]
    exact ⟨fun _ _ _ hsend => Event.noConfusion hsend, fun _ _ hsend => Event.noConfusion hsend⟩
  · rw [harrival] at h
    obtain ⟨task, -, htask⟩ := List.mem_filterMap.mp h
    exact passive_eventOf rng' task e now htask

end Party

section Network
variable {a : Party ω} {b : Party ω'} {drawn : Set Bytes}

/-- The datagram is one that the party has sent to the address, or comes from elsewhere. -/
def Comes (p : Party ω) (events : List Timed) (address source : Address) (data : Bytes) : Prop :=
  source = p.address ∧ (∃ m ∈ p.wire events, m.destination = some address ∧
    SerializerUdp.serialize m = .ok data) ∨ source ≠ p.address

/-- What the two parties have gone through. Each goes on by itself, or takes a datagram; one that
was sent to it may arrive at any later time, again and again, or never. The random tokens of
received datagrams are among `drawn`. -/
inductive Exchanged (a : Party ω) (b : Party ω') (drawn : Set Bytes) :
    List Timed → List Timed → Prop where
  | start : Exchanged a b drawn [] []
  | ofFirst (es fs : List Timed) (e : Timed) (before : Exchanged a b drawn es fs)
      (own : brought e.2 = none) : Exchanged a b drawn (es ++ [e]) fs
  | ofSecond (es fs : List Timed) (e : Timed) (before : Exchanged a b drawn es fs)
      (own : brought e.2 = none) : Exchanged a b drawn es (fs ++ [e])
  | toFirst (es fs : List Timed) (now : ℚ) (rng rng' data : Bytes) (source : Address)
      (before : Exchanged a b drawn es fs) (random : rng ∈ drawn)
      (comes : Comes b fs a.address source data) :
      Exchanged a b drawn (es ++ (a.arrival rng rng' data source).map (Prod.mk now)) fs
  | toSecond (es fs : List Timed) (now : ℚ) (rng rng' data : Bytes) (source : Address)
      (before : Exchanged a b drawn es fs) (random : rng ∈ drawn)
      (comes : Comes a es b.address source data) :
      Exchanged a b drawn es (fs ++ (b.arrival rng rng' data source).map (Prod.mk now))

theorem Exchanged.swap (es fs : List Timed) (h : Exchanged a b drawn es fs) :
    Exchanged b a drawn fs es := by
  induction h with
  | start => exact .start
  | ofFirst es fs e _ own ih => exact .ofSecond fs es e ih own
  | ofSecond es fs e _ own ih => exact .ofFirst fs es e ih own
  | toFirst es fs now rng rng' data source _ random comes ih =>
    exact .toSecond fs es now rng rng' data source ih random comes
  | toSecond es fs now rng rng' data source _ random comes ih =>
    exact .toFirst fs es now rng rng' data source ih random comes

/-- The message was decoded from a datagram that came from the other party, or from elsewhere. -/
def Arrived (p : Party ω) (q : Party ω') (drawn : Set Bytes) (events : List Timed) (r : Message) :
    Prop :=
  ∃ rng ∈ drawn, ∃ source data d, Comes p events q.address source data ∧
    SerializerUdp.deserialize rng data source = .ok (.message d) ∧
    r = printed (addressed q.endpoint d)

theorem split_new (es new es₁ post : List Timed) (e : Timed) (hnew : new.length ≤ 1)
    (h : es ++ new = es₁ ++ e :: post) :
    (∃ post', es = es₁ ++ e :: post') ∨ es₁ = es ∧ new = [e] := by
  rcases List.eq_nil_or_concat post with rfl | ⟨post', last, rfl⟩
  · cases new with
    | nil =>
      left
      exact ⟨[], by rw [← h, List.append_nil]⟩
    | cons x xs =>
      have hxs : xs = [] := by
        rw [List.length_cons] at hnew
        exact List.length_eq_zero_iff.mp (by omega)
      subst hxs
      obtain ⟨rfl, hlast⟩ := List.append_inj' h rfl
      exact Or.inr ⟨rfl, hlast⟩
  · left
    cases new with
    | nil => exact ⟨_, by rw [← h, List.append_nil]⟩
    | cons x xs =>
      have hxs : xs = [] := by
        rw [List.length_cons] at hnew
        exact List.length_eq_zero_iff.mp (by omega)
      subst hxs
      refine ⟨post', ?_⟩
      rw [List.concat_eq_append, ← List.cons_append, ← List.append_assoc] at h
      exact (List.append_inj' h rfl).1

theorem arrived (es fs : List Timed) (h : Exchanged a b drawn es fs) (es₁ post : List Timed)
    (e : Timed) (r : Message) (hsplit : es = es₁ ++ e :: post) (hr : brought e.2 = some r) :
    ∃ fs₁ rest, fs = fs₁ ++ rest ∧ Exchanged a b drawn es₁ fs₁ ∧ Arrived b a drawn fs₁ r := by
  induction h generalizing post with
  | start =>
    exact absurd hsplit.symm (List.append_ne_nil_of_right_ne_nil es₁ (List.cons_ne_nil e post))
  | ofFirst es fs e' before own ih =>
    rcases split_new es [e'] es₁ post e (Nat.le_refl 1) hsplit with ⟨post', hes⟩ | ⟨_, hlast⟩
    · exact ih post' hes
    · cases hlast
      rw [own] at hr
      cases hr
  | ofSecond es fs e' before own ih =>
    obtain ⟨fs₁, rest, rfl, hrest⟩ := ih post hsplit
    exact ⟨fs₁, rest ++ [e'], List.append_assoc _ _ _, hrest⟩
  | toFirst es fs now rng rng' data source before random comes ih =>
    rcases split_new es _ es₁ post e (by
        rw [List.length_map]
        exact a.arrival_length rng rng' data source) hsplit with ⟨post', hes⟩ | ⟨rfl, hlast⟩
    · exact ih post' hes
    · have hmem : e ∈ (a.arrival rng rng' data source).map (Prod.mk now) := by
        rw [hlast]
        exact List.mem_singleton_self e
      obtain ⟨e', he', rfl⟩ := List.mem_map.mp hmem
      obtain ⟨d, hread, hprinted⟩ := a.mem_arrival rng rng' data source e' r he' hr
      exact ⟨fs, [], (List.append_nil fs).symm, before, rng, random, source, data, d, comes, hread,
        hprinted⟩
  | toSecond es fs now rng rng' data source before random comes ih =>
    obtain ⟨fs₁, rest, rfl, hrest⟩ := ih post hsplit
    exact ⟨fs₁, rest ++ _, List.append_assoc _ _ _, hrest⟩

/-- The message `r` is what `q` has decoded from a datagram of `p` with the message `m`. -/
structure Carried (p : Party ω) (q : Party ω') (drawn : Set Bytes) (m r : Message) : Prop where
  destination : m.destination = some q.address
  decoded : ∃ rng ∈ drawn, ∃ data d, SerializerUdp.serialize m = .ok data ∧
    SerializerUdp.deserialize rng data p.address = .ok (.message d) ∧
    r = printed (addressed q.endpoint d)

theorem carried_of_arrived (p : Party ω) (q : Party ω') (events : List Timed) (r : Message)
    (h : Arrived p q drawn events r) (hsource : r.source = some p.address) :
    ∃ m ∈ p.wire events, Carried p q drawn m r := by
  obtain ⟨rng, hrng, source, data, d, hcomes, hread, rfl⟩ := h
  have hd : source = p.address :=
    Option.some.inj ((deserialize_fields rng data source d hread).1.symm.trans hsource)
  subst hd
  rcases hcomes with ⟨_, m, hm, hdestination, hdata⟩ | helsewhere
  · exact ⟨m, hm, hdestination, rng, hrng, data, d, hdata, hread, rfl⟩
  · exact absurd rfl helsewhere

theorem decoded_of_arrived (p : Party ω) (q : Party ω') (events : List Timed) (r : Message)
    (h : Arrived p q drawn events r) : Decoded r := by
  obtain ⟨rng, _, source, data, d, _, hread, rfl⟩ := h
  refine ⟨?_, (deserialize_fields rng data source d hread).2⟩
  change d.token ≠ none
  rw [TokenEcho.deserialize_token rng data source d hread]
  exact Option.some_ne_none _

theorem token_length (p : Party ω) (q : Party ω') (events : List Timed) (r : Message)
    (token : Bytes) (h : Arrived p q drawn events r) (eight : ∀ rng ∈ drawn, rng.length = 8)
    (htoken : r.token = some token) : token.length ≤ 15 := by
  obtain ⟨rng, hrng, source, data, d, _, hread, rfl⟩ := h
  have hread := TokenEcho.deserialize_token rng data source d hread
  have hsame : token = if Truncation.tokenLength data > 0 then TokenEcho.tokenBytes data else rng :=
    Option.some.inj (htoken.symm.trans hread)
  rw [hsame]
  split
  · unfold TokenEcho.tokenBytes slice Truncation.tokenLength
    rw [List.length_take, List.length_drop]
    omega
  · rw [eight rng hrng]
    omega

theorem token_of_carried (p : Party ω) (q : Party ω') (m r : Message) (token : Option Bytes)
    (h : Carried p q drawn m r) (hsendable : TokenEcho.Sendable m)
    (hlength : ∀ t, m.token = some t → t.length ≤ 15) (htoken : r.token = token)
    (hdrawn : ∀ rng ∈ drawn, some rng ≠ token) : m.token = token := by
  obtain ⟨rng, hrng, data, d, hdata, hread, rfl⟩ := h.decoded
  have hread : d.token = _ := TokenEcho.deserialize_token rng data p.address d hread
  have hsame : token = _ := htoken.symm.trans hread
  cases hm : m.token with
  | none =>
    have hempty : SerializerUdp.serialize { m with token := some [] } = .ok data := by
      rw [← hdata]
      unfold SerializerUdp.serialize SerializerUdp.headerFields
      rw [hm]
      rfl
    have hnone := (TokenEcho.serialize_token { m with token := some [] } [] data
      ⟨hsendable.code, hsendable.mid⟩ rfl (Nat.zero_le _) hempty).1
    rw [hnone, List.length_nil, if_neg (Nat.lt_irrefl 0)] at hsame
    exact absurd hsame.symm (hdrawn rng hrng)
  | some t =>
    obtain ⟨hlen, hbytes⟩ := TokenEcho.serialize_token m t data hsendable hm (hlength t hm) hdata
    rw [hlen, hbytes] at hsame
    split at hsame
    · exact hsame.symm
    · exact absurd hsame.symm (hdrawn rng hrng)

end Network

section Requests

theorem mem_receivedOf (events : List Timed) (q : Message) (h : q ∈ receivedOf events) :
    ∃ pre e post, events = pre ++ e :: post ∧ brought e.2 = some q := by
  obtain ⟨e, he, hq⟩ := List.mem_flatMap.mp h
  obtain ⟨pre, post, hevents⟩ := List.append_of_mem he
  refine ⟨pre, e, post, hevents, ?_⟩
  obtain ⟨now, e⟩ := e
  cases e with
  | request rng request => exact congrArg some (List.mem_singleton.mp hq).symm
  | _ => cases hq

theorem sendMessage_printed (P : Platform) (sender : RetransmitLoop.Sender) (m m' : Message)
    (h : RetransmitLoop.Loop.sendMessage P sender m = .ok m') :
    m' = printed { m with source := some sender.address } := by
  unfold RetransmitLoop.Loop.sendMessage at h
  obtain ⟨_, _, h⟩ := (bind_eq_ok _ _ _).mp h
  obtain ⟨_, _, h⟩ := (bind_eq_ok _ _ _).mp h
  exact (Except.ok.inj h).symm

theorem code_lt (m : Message) (h : ResponseKeeping.Coded m) : (printed m).code.getD 0 < 256 := by
  have hcodes : ∀ c ∈ Codes.list, c < 256 := by decide
  change m.code.getD Codes.empty < 256
  rcases h with hnone | ⟨c, hc, hsome⟩
  · rw [hnone]
    decide
  · rw [hsome]
    exact hcodes c hc

end Requests

section Answers
variable {a : Party ω} {b : Party ω'} {drawn : Set Bytes}

/-- The response that the event brings. -/
def responded : Timed → List Message
  | (_, .response _ r) => [r]
  | _ => []

def responsesOf (events : List Timed) : List Message := events.flatMap responded

/-- Requests that share a transaction have one token. -/
def Told (requests : List Message) : Prop :=
  ∀ q ∈ requests, ∀ q' ∈ requests, storedUnder q = storedUnder q' → q.token = q'.token

/-- Before `r` has reached `a`, `b` had sent it as a reply under the token, and had received a
request from `a` under that token, which `a` had sent before. -/
structure Answered (a : Party ω) (b : Party ω') (drawn : Set Bytes) (es fs : List Timed)
    (token : Option Bytes) (r : Message) : Prop where
  reply : ∃ m ∈ b.wire fs, m.token = token ∧ Carried b a drawn m r
  request : ∃ q ∈ receivedOf fs, q.token = token ∧ q.source = some a.address ∧
    ∃ es₁ rest m, es = es₁ ++ rest ∧ m ∈ a.wire es₁ ∧ Carried a b drawn m q

theorem wire_returns (fs : List Timed) (faithful : ResponseKeeping.Faithful b.handlers)
    (mid : b.startingMid < 65536) (passive : ∀ e ∈ fs, Passive e)
    (decoded : ∀ q ∈ receivedOf fs, Decoded q) (m : Message) (hm : m ∈ b.wire fs) :
    TokenEcho.Sendable m ∧ ∃ k, (∃ q ∈ receivedOf fs, storedUnder q = k ∧
      m.destination = q.source) ∧
      (m.token = none ∨ ∃ q ∈ receivedOf fs, storedUnder q = k ∧ m.token = q.token) := by
  obtain ⟨hown, hreturned⟩ := replies_return b.platform b.address b.ipv6 b.handlers b.startingMid
    b.app fs faithful mid passive decoded
  unfold Party.wire at hm
  rw [show (b.node fs).sent = [] from hown, List.nil_append] at hm
  obtain ⟨⟨n, datagram⟩, hmem, hsent⟩ := List.mem_filterMap.mp hm
  obtain ⟨k, hreturns⟩ := hreturned _ hmem
  have hreturns := hreturns.mono _ (receivedOf fs) k _ (List.take_subset _ _)
  have hprinted : m = printed { datagram.message with source := some b.address } := by
    cases hr : RetransmitLoop.Loop.sendMessage b.platform ⟨b.address, .udp⟩ datagram.message with
    | error e =>
      rw [hr] at hsent
      cases hsent
    | ok m' =>
      rw [hr] at hsent
      cases hsent
      exact sendMessage_printed b.platform ⟨b.address, .udp⟩ datagram.message m hr
  rw [hprinted]
  exact ⟨⟨code_lt _ hreturns.code, hreturns.mid⟩, k, hreturns.destination, hreturns.token⟩

theorem receivedOf_arrived (es fs : List Timed) (h : Exchanged a b drawn es fs) (q : Message)
    (hq : q ∈ receivedOf fs) : ∃ es₁ rest, es = es₁ ++ rest ∧ Arrived a b drawn es₁ q := by
  obtain ⟨pre, e, post, hfs, hbrought⟩ := mem_receivedOf fs q hq
  obtain ⟨es₁, rest, hes, _, harrived⟩ := arrived fs es h.swap pre post e q hfs hbrought
  exact ⟨es₁, rest, hes, harrived⟩

theorem receivedOf_decoded (es fs : List Timed) (h : Exchanged a b drawn es fs) (q : Message)
    (hq : q ∈ receivedOf fs) : Decoded q := by
  obtain ⟨es₁, _, _, harrived⟩ := receivedOf_arrived es fs h q hq
  exact decoded_of_arrived a b es₁ q harrived

/-- A response from the other party under a token that it could only know from a request. -/
theorem answered_of_carried (es fs : List Timed) (h : Exchanged a b drawn es fs)
    (faithful : ResponseKeeping.Faithful b.handlers) (mid : b.startingMid < 65536)
    (passive : ∀ e ∈ fs, Passive e) (told : Told (receivedOf fs))
    (eight : ∀ rng ∈ drawn, rng.length = 8) (token : Bytes)
    (hdrawn : ∀ rng ∈ drawn, some rng ≠ some token) (m r : Message) (hm : m ∈ b.wire fs)
    (hcarried : Carried b a drawn m r) (htoken : r.token = some token) :
    Answered a b drawn es fs (some token) r := by
  have hfrom := receivedOf_arrived es fs h
  obtain ⟨hsendable, k, ⟨q, hq, hqkey, hdestination⟩, htokens⟩ :=
    wire_returns fs faithful mid passive (receivedOf_decoded es fs h) m hm
  have hlength : ∀ t, m.token = some t → t.length ≤ 15 := by
    intro t ht
    rcases htokens with hnone | ⟨q', hq', _, hsame⟩
    · rw [hnone] at ht
      cases ht
    · obtain ⟨es₁, _, _, harrived⟩ := hfrom q' hq'
      exact token_length a b es₁ q' t harrived eight (hsame.symm.trans ht)
  have hmtoken := token_of_carried b a m r (some token) hcarried hsendable hlength htoken hdrawn
  have hqtoken : q.token = some token := by
    rcases htokens with hnone | ⟨q', hq', hkey, hsame⟩
    · rw [hnone] at hmtoken
      cases hmtoken
    · rw [told q hq q' hq' (hqkey.trans hkey.symm), ← hsame]
      exact hmtoken
  have hsource : q.source = some a.address := hdestination.symm.trans hcarried.destination
  obtain ⟨es₁, rest, hes, harrived⟩ := hfrom q hq
  obtain ⟨asking, hasking, hcarriedq⟩ := carried_of_arrived a b es₁ q harrived hsource
  exact ⟨⟨m, hm, hmtoken, hcarried⟩,
    q, hq, hqtoken, hsource, es₁, rest, asking, hes, hasking, hcarriedq⟩

theorem receivedOf_subset (fs rest : List Timed) : receivedOf fs ⊆ receivedOf (fs ++ rest) := by
  rw [receivedOf_append]
  exact List.subset_append_left _ _

/-- A wait for one response returns what the other party has answered to its request, as long as no
one else knows the token, and whatever becomes of the datagrams on their way. -/
theorem returned_answered (es fs : List Timed) (i : ℕ) (w : CallbackLayer.Waiter)
    (response : Message) (exchanged : Exchanged a b drawn es fs)
    (faithful : ResponseKeeping.Faithful b.handlers) (mid : b.startingMid < 65536)
    (passive : ∀ e ∈ fs, Passive e) (told : Told (receivedOf fs)) (fresh : Fresh (requestsOf es))
    (eight : ∀ rng ∈ drawn, rng.length = 8)
    (unguessed : ∀ rng ∈ drawn, some rng ≠ w.request.token)
    (unknown : ∀ r ∈ responsesOf es, r.source ≠ some b.address → r.token ≠ w.request.token)
    (waiter : (a.node es).callback.waiters[i]? = some w) (unicast : w.request.multicast = false)
    (returned : w.outcome = some (.returned response)) :
    ∃ pre e post r w' fs₁ rest, es = pre ++ e :: post ∧ r ∈ responded e ∧ Reported r response ∧
      (a.node pre).callback.waiters[i]? = some w' ∧ w'.request = w.request ∧
      w'.future = .pending ∧ fs = fs₁ ++ rest ∧ Exchanged a b drawn pre fs₁ ∧
      Answered a b drawn pre fs₁ w.request.token r := by
  obtain ⟨pre, e, post, w', rfl, hw', hrequest, hpending, rng, r, source, destination, he, hsource,
    _, hreaches, hreported⟩ := returned_response a.platform a.address a.ipv6 a.handlers
      a.startingMid a.app es i w response fresh waiter unicast returned
  have hresponded : r ∈ responded e := by
    obtain ⟨now, event⟩ := e
    have he : event = .response rng r := he
    subst he
    exact List.mem_singleton_self r
  obtain ⟨fs₁, rest, rfl, hbefore, harrived⟩ :=
    arrived (pre ++ e :: post) fs exchanged pre post e r rfl (by rw [he]; rfl)
  obtain ⟨token, htoken⟩ := Option.ne_none_iff_exists'.mp
    (decoded_of_arrived b a fs₁ r harrived).token
  have hsame : r.token = w.request.token := hreaches.1
  have hpeer : r.source = some b.address := by
    by_contra helsewhere
    refine unknown r ?_ helsewhere hsame
    exact List.mem_flatMap.mpr ⟨e, List.mem_append_right _ List.mem_cons_self, hresponded⟩
  obtain ⟨m, hm, hcarried⟩ := carried_of_arrived b a fs₁ r harrived hpeer
  have hsub := receivedOf_subset fs₁ rest
  have hanswered := answered_of_carried pre fs₁ hbefore faithful mid
    (fun e he => passive e (List.mem_append_left _ he))
    (fun q hq q' hq' => told q (hsub hq) q' (hsub hq')) eight token
    (fun rng hrng => by
      rw [← htoken, hsame]
      exact unguessed rng hrng) m r hm hcarried htoken
  refine ⟨pre, e, post, r, w', fs₁, rest, rfl, hresponded, hreported, hw', hrequest, hpending, rfl,
    hbefore, ?_⟩
  rw [← hsame, htoken]
  exact hanswered

end Answers

section Samples

def sampleClient : Party Unit where
  address := sampleNode
  ipv6 := fun _ => false
  handlers := FreshExecution.sampleHandlers
  startingMid := 1
  app := FreshExecution.sampleApp

def sampleServer : Party Unit where
  address := samplePeer
  ipv6 := fun _ => false
  handlers := FreshExecution.sampleHandlers
  startingMid := 40
  app := FreshExecution.sampleApp

def sampleDrawn : Bytes := List.replicate 8 0

def sampleAsked : Bytes := [0x52, 1, 0, 7, 1, 2]

def sampleReplied : Bytes := [0x52, 0x84, 0, 40, 1, 2]

def sampleServed : List Timed :=
  (sampleServer.arrival sampleDrawn [] sampleAsked sampleNode).map (Prod.mk 1)

def sampleDelivery : List Timed :=
  (sampleClient.arrival sampleDrawn [] sampleReplied samplePeer).map (Prod.mk 2)

def sampleLater : List Timed := sampleDelivery ++ [(3, .wakeUp 0)]

def sampleWaited : List Timed := sampleSend :: sampleLater

theorem exchanged_sample : Exchanged sampleClient sampleServer {sampleDrawn} sampleWaited
    sampleServed := by
  have hdrawn : sampleDrawn ∈ ({sampleDrawn} : Set Bytes) := Set.mem_singleton _
  have hsent : Exchanged sampleClient sampleServer {sampleDrawn} [sampleSend] [] :=
    .ofFirst [] [] sampleSend .start rfl
  have hserved : Exchanged sampleClient sampleServer {sampleDrawn} [sampleSend] sampleServed :=
    .toSecond [sampleSend] [] 1 sampleDrawn [] sampleAsked sampleNode hsent hdrawn
      (Or.inl ⟨rfl, by decide +kernel⟩)
  have hdelivered : Exchanged sampleClient sampleServer {sampleDrawn}
      (sampleSend :: sampleDelivery) sampleServed :=
    .toFirst [sampleSend] sampleServed 2 sampleDrawn [] sampleReplied samplePeer hserved hdrawn
      (Or.inl ⟨rfl, by decide +kernel⟩)
  exact .ofFirst (sampleSend :: sampleDelivery) sampleServed (3, .wakeUp 0) hdelivered rfl

def sampleNotFound : Message :=
  { Message.new .response with
    type := some .NON
    mid := some 40
    token := some [1, 2]
    code := some Codes.notFound
    source := some samplePeer
    destination := some sampleNode
    scheme := some "coap".toList }

theorem returned_answered_sample :
    ∃ pre e post r w' fs₁ rest, sampleWaited = pre ++ e :: post ∧ r ∈ responded e ∧
      Reported r sampleNotFound ∧ (sampleClient.node pre).callback.waiters[0]? = some w' ∧
      w'.request = sampleWaiter.request ∧ w'.future = .pending ∧ sampleServed = fs₁ ++ rest ∧
      Exchanged sampleClient sampleServer {sampleDrawn} pre fs₁ ∧
      Answered sampleClient sampleServer {sampleDrawn} pre fs₁ sampleWaiter.request.token r := by
  refine returned_answered sampleWaited sampleServed 0
    { sampleWaiter with
      future := .result sampleNotFound, outcome := some (.returned sampleNotFound) }
    sampleNotFound exchanged_sample faithful_sample (by decide) ?_ ?_
    (fresh_sample sampleLater (by decide +kernel)) ?_ ?_ ?_
    (by decide +kernel) rfl rfl
  · intro e he
    obtain ⟨event, hevent, rfl⟩ := List.mem_map.mp he
    exact sampleServer.passive_arrival _ _ _ _ 1 event hevent
  · unfold Told
    decide +kernel
  · rintro rng rfl
    rfl
  · rintro rng rfl
    decide
  · decide +kernel

end Samples

end BubotCoap.TwoParties
