import BubotCoap.BlockProgress
import BubotCoap.BlockSteps
import BubotCoap.Runs

set_option autoImplicit false

namespace BubotCoap.Block1Upload
open PythonData Defines Utils Messages OptionAccess OrderedDict Transactions BlockLayer
  BlockFrames BlockSteps Runs

/-- The two ends, and what the other layers add: types and message ids, the other fields of the
transactions, and the answer to the request that is passed on. -/
structure Network where
  client : Address
  server : Address
  rng : Bytes
  requestHeader : ℕ → Option MsgType × Option ℤ
  responseHeader : ℕ → Option MsgType × Option ℤ
  serverTransaction : ℕ → Transaction
  clientTransaction : ℕ → Transaction
  answer : Message

def stamp (header : Option MsgType × Option ℤ) (m : Message) : Message :=
  { m with type := header.1, mid := header.2 }

def deliverTo (source destination : Address) (m : Message) : Message :=
  { m with source := some source, destination := some destination, multicast := false }

inductive Flight where
  | request (m : Message)
  | response (m : Message)
  | raised (e : PyErr)
  | ended
  deriving DecidableEq

structure System where
  client : State
  server : State
  outstanding : Message
  flight : Flight
  requests : ℕ
  /-- The codes of the server's answers to requests that are not passed on. -/
  answers : List (Option ℕ)
  /-- The payloads of the requests that are passed on. -/
  passed : List (Option Payload)

def send (net : Network) (request : Message) (client server : State) : System :=
  match sendRequest request client with
  | (.error e, s) => ⟨s, server, request, .raised e, 0, [], []⟩
  | (.ok r, s) =>
    let r := stamp (net.requestHeader 0) r
    ⟨s, server, r, .request r, 1, [], []⟩

def deliver (net : Network) (sys : System) : System :=
  match sys.flight with
  | .request m =>
    let t := { net.serverTransaction sys.requests with
      request := deliverTo net.client net.server m }
    match receiveRequest net.rng (sys.server, t) with
    | (.error e, s, _) => { sys with server := s, flight := .raised e }
    | (.ok (), s, t) =>
      if t.blockTransfer then
        match t.response with
        | none => { sys with server := s, flight := .raised .attributeError }
        | some r =>
          { sys with
            server := s
            answers := sys.answers ++ [r.code]
            flight := .response (stamp (net.responseHeader sys.requests) r) }
      else
        { sys with
          server := s
          passed := sys.passed ++ [t.request.payload]
          flight := .response net.answer }
  | .response m =>
    let t := { net.clientTransaction sys.requests with
      request := sys.outstanding
      response := some (deliverTo net.server net.client m) }
    match receiveResponse net.rng (sys.client, t) with
    | (.error e, s, _) => { sys with client := s, flight := .raised e }
    | (.ok _, s, t) =>
      if t.blockTransfer then
        let r := stamp (net.requestHeader sys.requests) t.request
        { sys with
          client := s
          outstanding := r
          flight := .request r
          requests := sys.requests + 1 }
      else { sys with client := s, flight := .ended }
  | _ => sys

inductive Event where
  | deliver
  | clientOperation (op : Operation)
  | serverOperation (op : Operation)

def step (net : Network) (sys : System) : Event → System
  | .deliver => deliver net sys
  | .clientOperation op => { sys with client := op.apply sys.client }
  | .serverOperation op => { sys with server := op.apply sys.server }

def Foreign (net : Network) (token : Bytes) : Event → Prop
  | .deliver => True
  | .clientOperation op => op.key ≠ some (key net.server (.bytes token))
  | .serverOperation op => op.key ≠ some (key net.client (.bytes token))

def delivers : List Event → ℕ
  | [] => 0
  | .deliver :: events => delivers events + 1
  | _ :: events => delivers events

def blocks (body : Bytes) : ℕ := (body.length + (maxPayload - 1)) / maxPayload

def block (body : Bytes) (i : ℕ) : Bytes := slice body (i * maxPayload) ((i + 1) * maxPayload)

def more (body : Bytes) (i : ℕ) : ℕ := if body.length ≤ (i + 1) * maxPayload then 0 else 1

theorem more_le (body : Bytes) (i : ℕ) : more body i ≤ 1 := by
  unfold more
  split <;> omega

theorem more_eq_zero (body : Bytes) (i : ℕ) (h : i + 1 = blocks body) : more body i = 0 := by
  have hmax : maxPayload = 1024 := rfl
  unfold blocks at h
  rw [more, if_pos]
  rw [hmax] at h ⊢
  omega

theorem more_ne_zero (body : Bytes) (i : ℕ) (h : i + 1 < blocks body) : more body i = 1 := by
  have hmax : maxPayload = 1024 := rfl
  unfold blocks at h
  rw [more, if_neg]
  rw [hmax] at h ⊢
  omega

theorem take_block (body : Bytes) (i : ℕ) :
    body.take (i * maxPayload) ++ block body i = body.take ((i + 1) * maxPayload) := by
  rw [block, slice, Nat.succ_mul, List.take_add, Nat.add_sub_cancel_left]

theorem take_all (body : Bytes) (i : ℕ) (h : i + 1 = blocks body) :
    body.take ((i + 1) * maxPayload) = body := by
  have hmax : maxPayload = 1024 := rfl
  unfold blocks at h
  apply List.take_of_length_le
  rw [hmax] at h ⊢
  omega

/-- The whole body has been passed on, after one request for each block, all but the last of which
were answered by CONTINUE. -/
structure Complete (body : Bytes) (sys : System) : Prop where
  ended : sys.flight = .ended
  requests : sys.requests = blocks body
  answers : sys.answers = List.replicate (blocks body - 1) (some Codes.continueCode)
  passed : sys.passed = [some (.bytes body)]

/-- No upload has been left unfinished, or one that has brought nothing. -/
def Vacant (entry : Option BlockItem) (contentType : Value) : Prop :=
  ∀ item, entry = some item →
    item.num = 0 ∧ item.contentType = contentType ∧ item.payload = some (.bytes [])

/-- The answer to the last request is not the first of several blocks: it carries a Block1 option,
or no Block2 option, or one with M = 0 which the stored entry takes. -/
def Settles (entry : Option BlockItem) (answer : Message) : Prop :=
  (∃ block, answer.block1 = .ok (some block)) ∨
    answer.block1 = .ok none ∧ (answer.block2 = .ok none ∨
      ∃ num m size, answer.block2 = .ok (some (num, m, size)) ∧ m ≠ 1 ∧
        ∀ item, entry = some item → item.contentType = answer.contentType ∧
          ∃ payload, appendPayload item.payload answer.payload = .ok payload)

section Stages
variable (net : Network) (token body held : Bytes) (contentType : Value)
  (entry : Option BlockItem)

/-- The request that carries block `i`. -/
structure Carries (i : ℕ) (m : Message) : Prop where
  token : m.token = some token
  block1 : m.block1 = .ok (some (i, more body i, maxPayload))
  block2 : m.block2 = .ok none
  contentType : m.contentType = contentType
  payload : m.payload = some (.bytes (block body i))

/-- The client has sent block `i`. -/
structure ClientAt (i : ℕ) (s : State) : Prop where
  upload : s.block1Sent.get? (key net.server (.bytes token)) =
    some ⟨(i + 1) * maxPayload, i, more body i, maxPayload, some (.bytes body), contentType⟩
  download : s.block2Sent.get? (key net.server (.bytes token)) = entry

/-- The server has the blocks before block `i`, behind the bytes that it held. -/
def ServerAt (i : ℕ) (s : State) : Prop :=
  match s.block1Receive.get? (key net.client (.bytes token)) with
  | none => i = 0 ∧ held = []
  | some item =>
    item.num = i ∧ item.payload = some (.bytes (held ++ body.take (i * maxPayload))) ∧
      item.contentType = contentType

/-- The stages of an upload, numbered by the messages that have arrived. -/
inductive Stage : ℕ → System → Prop where
  | request (i : ℕ) (sys : System) (lt : i < blocks body)
      (flight : sys.flight = .request sys.outstanding)
      (carries : Carries token body contentType i sys.outstanding)
      (client : ClientAt net token body contentType entry i sys.client)
      (server : ServerAt net token body held contentType i sys.server)
      (requests : sys.requests = i + 1)
      (answers : sys.answers = List.replicate i (some Codes.continueCode))
      (passed : sys.passed = []) : Stage (2 * i) sys
  | response (i : ℕ) (sys : System) (m : Message) (lt : i + 1 < blocks body)
      (flight : sys.flight = .response m) (token_eq : m.token = some token)
      (block1 : m.block1 = .ok (some (i, more body i, maxPayload)))
      (carries : Carries token body contentType i sys.outstanding)
      (client : ClientAt net token body contentType entry i sys.client)
      (server : ServerAt net token body held contentType (i + 1) sys.server)
      (requests : sys.requests = i + 1)
      (answers : sys.answers = List.replicate (i + 1) (some Codes.continueCode))
      (passed : sys.passed = []) : Stage (2 * i + 1) sys
  | answer (i : ℕ) (sys : System) (last : i + 1 = blocks body)
      (flight : sys.flight = .response net.answer)
      (client : ClientAt net token body contentType entry i sys.client)
      (requests : sys.requests = i + 1)
      (answers : sys.answers = List.replicate i (some Codes.continueCode))
      (passed : sys.passed = [some (.bytes (held ++ body))]) : Stage (2 * i + 1) sys
  | ended (i : ℕ) (sys : System) (last : i + 1 = blocks body)
      (settled : Settles entry net.answer) (flight : sys.flight = .ended)
      (requests : sys.requests = i + 1)
      (answers : sys.answers = List.replicate i (some Codes.continueCode))
      (passed : sys.passed = [some (.bytes (held ++ body))]) : Stage (2 * i + 2) sys

theorem lt_of_blocks (i : ℕ) (hbody : body.length ≤ 2 ^ 30) (h : i < blocks body) : i < 2 ^ 20 := by
  have hmax : maxPayload = 1024 := rfl
  unfold blocks at h
  rw [hmax] at h
  omega

theorem receiveBlock1Request_at (i m : ℕ) (s : State) (t : Transaction)
    (h : ServerAt net token body held contentType i s)
    (hpayload : t.request.payload = some (.bytes (block body i)))
    (htype : t.request.contentType = contentType) :
    ∃ item, receiveBlock1Request net.rng (key net.client (.bytes token)) i m maxPayload (s, t) =
        acceptBlock1 net.rng (key net.client (.bytes token)) i m maxPayload item (s, t) ∧
      item.payload = some (.bytes (held ++ body.take ((i + 1) * maxPayload))) ∧
      item.contentType = contentType := by
  unfold ServerAt at h
  split at h
  · next hnone =>
    obtain ⟨rfl, rfl⟩ := h
    refine ⟨_, receiveBlock1Request_first net.rng s t _ m maxPayload hnone, ?_, htype⟩
    rw [hpayload, ← take_block, Nat.zero_mul, List.take_zero, List.nil_append, List.nil_append]
  · next item hitem =>
    obtain ⟨rfl, hstored, htype'⟩ := h
    refine ⟨_, receiveBlock1Request_next net.rng s t _ m maxPayload item _ _ hitem hstored hpayload
      (htype.trans htype'.symm), ?_, htype'⟩
    rw [List.append_assoc, take_block]

theorem deliver_request (i : ℕ) (sys : System) (hbody : body.length ≤ 2 ^ 30)
    (htoken : token.length ≤ 256) (lt : i < blocks body)
    (flight : sys.flight = .request sys.outstanding)
    (carries : Carries token body contentType i sys.outstanding)
    (client : ClientAt net token body contentType entry i sys.client)
    (server : ServerAt net token body held contentType i sys.server)
    (requests : sys.requests = i + 1)
    (answers : sys.answers = List.replicate i (some Codes.continueCode))
    (passed : sys.passed = []) :
    Stage net token body held contentType entry (2 * i + 1) (deliver net sys) := by
  set t : Transaction := { net.serverTransaction sys.requests with
    request := deliverTo net.client net.server sys.outstanding } with ht
  have hreceive : receiveRequest net.rng (sys.server, t) =
      receiveBlock1Request net.rng (key net.client (.bytes token)) i (more body i) maxPayload
        (sys.server, t) := by
    have hblock := receiveRequest_block1 net.rng sys.server t net.client i (more body i) maxPayload
      carries.block2 carries.block1 rfl
    rwa [show t.request.token = some token from carries.token] at hblock
  obtain ⟨item, haccept, hpayload, htype⟩ := receiveBlock1Request_at net token body held contentType i
    (more body i) sys.server t server carries.payload carries.contentType
  rw [haccept] at hreceive
  unfold deliver
  rw [flight]
  dsimp only
  rw [← ht]
  rcases Nat.lt_or_ge (i + 1) (blocks body) with hlt | hge
  · have hmore := more_ne_zero body i hlt
    rw [acceptBlock1_more net.rng sys.server t _ i (more body i) maxPayload item token
      (by omega) rfl (by simp [ht, deliverTo]) carries.token htoken] at hreceive
    rw [hreceive]
    dsimp only
    rw [if_pos rfl]
    refine .response i _ _ hlt rfl rfl ?_ carries client ?_ requests ?_ passed
    · exact block1_withBlock1_max _ i (more body i) (more_le body i)
        (lt_of_blocks body i hbody lt)
    · unfold ServerAt
      dsimp only
      rw [Dict.get?_insert_self]
      exact ⟨rfl, hpayload, htype⟩
    · rw [answers, List.replicate_succ']
      rfl
  · have hlast : i + 1 = blocks body := by omega
    rw [more_eq_zero body i hlast, acceptBlock1_last] at hreceive
    rw [hreceive]
    dsimp only
    rw [if_neg (by simp)]
    refine .answer i _ hlast rfl client requests answers ?_
    change sys.passed ++ [item.payload] = _
    rw [passed, hpayload, take_all body i hlast]
    rfl

theorem deliver_response (i : ℕ) (sys : System) (m : Message) (hbody : body.length ≤ 2 ^ 30)
    (lt : i + 1 < blocks body)
    (flight : sys.flight = .response m) (token_eq : m.token = some token)
    (block1 : m.block1 = .ok (some (i, more body i, maxPayload)))
    (carries : Carries token body contentType i sys.outstanding)
    (client : ClientAt net token body contentType entry i sys.client)
    (server : ServerAt net token body held contentType (i + 1) sys.server)
    (requests : sys.requests = i + 1)
    (answers : sys.answers = List.replicate (i + 1) (some Codes.continueCode))
    (passed : sys.passed = []) :
    Stage net token body held contentType entry (2 * (i + 1)) (deliver net sys) := by
  set t : Transaction := { net.clientTransaction sys.requests with
    request := sys.outstanding
    response := some (deliverTo net.server net.client m) } with ht
  set item : BlockItem :=
    ⟨(i + 1) * maxPayload, i, more body i, maxPayload, some (.bytes body), contentType⟩ with hitem
  have hreceive := receiveResponse_block1 net.rng sys.client t (deliverTo net.server net.client m)
    net.server item i (more body i) maxPayload rfl rfl
    (by
      rw [show (deliverTo net.server net.client m).token = some token from token_eq]
      exact client.upload)
    block1
  rw [show (deliverTo net.server net.client m).token = some token from token_eq] at hreceive
  have hmore := more_ne_zero body i lt
  rw [receiveBlock1Response_next sys.client t (key net.server (tokenArg (some token))) item
    (.bytes body) rfl (by
      change more body i ≠ 0
      omega)] at hreceive
  have hnext : (if (Payload.bytes body).length ≤ item.byte + item.size then 0 else 1) =
      more body (i + 1) := by
    rw [more, Nat.succ_mul (i + 1)]
    rfl
  rw [hnext] at hreceive
  unfold deliver
  rw [flight]
  dsimp only
  rw [← ht, hreceive]
  dsimp only
  rw [if_pos rfl]
  refine .request (i + 1) _ lt rfl ?_ ?_ server ?_ answers passed
  · refine ⟨carries.token, ?_, ?_, ?_, ?_⟩
    · exact block1_withBlock1_max _ (i + 1) (more body (i + 1)) (more_le body (i + 1))
        (lt_of_blocks body (i + 1) hbody lt)
    · exact (block2_withBlock1 _ _ _ _).trans carries.block2
    · exact (contentType_withBlock1 _ _ _ _).trans carries.contentType
    · change some ((Payload.bytes body).slice item.byte (item.byte + item.size)) = _
      rw [block, Nat.succ_mul (i + 1)]
      rfl
  · refine ⟨?_, client.download⟩
    dsimp only
    rw [show key net.server (tokenArg (some token)) = key net.server (.bytes token) from rfl,
      Dict.get?_insert_self, Nat.succ_mul (i + 1)]
  · change sys.requests + 1 = _
    rw [requests]

theorem error_transfer (rng : Bytes) (code : ℕ) (s : State) (t : Transaction) :
    (error rng code (s, t)).2.2.blockTransfer = true := by
  unfold error
  dsimp only
  cases Message.initFromRequest rng t.request <;> rfl

theorem receiveMoreBlock2_transfer (rng : Bytes) (k : Key) (num m size : ℕ) (response : Message)
    (s : State) (t : Transaction) :
    (receiveMoreBlock2 rng k num m size response (s, t)).2.2.blockTransfer = true := by
  unfold receiveMoreBlock2
  dsimp only
  cases s.block2Sent.get? k with
  | none =>
    dsimp only
    rw [requestBlock2_eq]
  | some item =>
    dsimp only
    split_ifs
    · exact error_transfer rng _ _ _
    · exact error_transfer rng _ _ _
    · cases appendPayload item.payload response.payload with
      | error e => rfl
      | ok payload =>
        dsimp only
        rw [requestBlock2_eq]

/-- The response is handed on, and no more blocks are asked for. -/
def HandedOn (result : Except PyErr Bool × State × Transaction) : Prop :=
  ∃ r s' t', result = (.ok r, s', t') ∧ t'.blockTransfer = false

theorem not_handedOn (result : Except PyErr Bool × State × Transaction)
    (h : result.2.2.blockTransfer = true) : ¬ HandedOn result := by
  rintro ⟨r, s', t', rfl, htransfer⟩
  rw [htransfer] at h
  cases h

theorem receiveLastBlock2_iff (rng : Bytes) (k : Key) (response : Message) (s : State)
    (t : Transaction) (hentry : s.block2Sent.get? k = entry) :
    HandedOn (returned (receiveLastBlock2 rng k response (s, t))) ↔
      ∀ item, entry = some item → item.contentType = response.contentType ∧
        ∃ payload, appendPayload item.payload response.payload = .ok payload := by
  unfold receiveLastBlock2
  dsimp only
  rw [hentry]
  cases entry with
  | none => exact iff_of_true ⟨_, _, _, rfl, rfl⟩ (by simp)
  | some item =>
    dsimp only
    by_cases htype : item.contentType ≠ response.contentType
    · rw [if_pos htype]
      exact iff_of_false (not_handedOn _ (error_transfer _ _ _ _)) fun hjoins =>
        htype (hjoins item rfl).1
    · rw [if_neg htype]
      cases happend : appendPayload item.payload response.payload with
      | error e =>
        refine iff_of_false (by simp [HandedOn, returned, Except.map]) fun hjoins => ?_
        obtain ⟨payload, hpayload⟩ := (hjoins item rfl).2
        rw [happend] at hpayload
        cases hpayload
      | ok payload =>
        refine iff_of_true ⟨_, _, _, rfl, rfl⟩ fun item' hitem => ?_
        cases hitem
        exact ⟨not_not.mp htype, payload, happend⟩

theorem receiveResponse_answer (s : State) (t : Transaction) (response : Message) (item : BlockItem)
    (hresponse : t.response = some response) (hsource : response.source = some net.server)
    (htoken : response.token = some token)
    (hitem : s.block1Sent.get? (key net.server (.bytes token)) = some item) (hm : item.m = 0)
    (hentry : s.block2Sent.get? (key net.server (.bytes token)) = entry) :
    HandedOn (receiveResponse net.rng (s, t)) ↔ Settles entry response := by
  have hkey : key net.server (tokenArg response.token) = key net.server (.bytes token) := by
    rw [htoken]
    rfl
  unfold receiveResponse Settles
  dsimp only
  rw [hresponse]
  dsimp only
  rw [hsource]
  dsimp only
  rw [hkey, hitem]
  dsimp only
  cases response.block1 with
  | error e => exact iff_of_false (by simp [HandedOn]) (by simp)
  | ok block1 =>
    cases block1 with
    | some block =>
      obtain ⟨num, m, size⟩ := block
      refine iff_of_true ?_ (Or.inl ⟨_, rfl⟩)
      unfold receiveBlock1Response
      dsimp only
      rw [if_pos hm]
      exact ⟨_, _, _, rfl, rfl⟩
    | none =>
      simp only [reduceCtorEq, Except.ok.injEq, exists_false, false_or, true_and]
      unfold receiveBlock2Response
      dsimp only
      cases response.block2 with
      | error e => exact iff_of_false (by simp [HandedOn, returned, Except.map]) (by simp)
      | ok block2 =>
        cases block2 with
        | none => exact iff_of_true ⟨_, _, _, rfl, rfl⟩ (Or.inl rfl)
        | some block =>
          obtain ⟨num, m, size⟩ := block
          dsimp only
          by_cases hmore : m = 1
          · rw [if_pos hmore]
            exact iff_of_false (not_handedOn _ (receiveMoreBlock2_transfer _ _ _ _ _ _ _ _))
              (by simp [hmore])
          · rw [if_neg hmore, receiveLastBlock2_iff entry net.rng _ response s t hentry]
            simp [hmore]

/-- What no run comes back from: an exception, a request too many, or an answer to the first block
that is not CONTINUE. -/
def Spoiled (sys : System) : Prop :=
  (∃ e, sys.flight = .raised e) ∨ blocks body < sys.requests ∨
    ∃ code rest, sys.answers = code :: rest ∧ code ≠ some Codes.continueCode

theorem not_complete_of_spoiled (sys : System) (h : Spoiled body sys) : ¬ Complete body sys := by
  intro hcomplete
  rcases h with ⟨e, hflight⟩ | hrequests | ⟨code, rest, hanswers, hcode⟩
  · rw [hcomplete.ended] at hflight
    cases hflight
  · rw [hcomplete.requests] at hrequests
    exact lt_irrefl _ hrequests
  · rw [hcomplete.answers] at hanswers
    have hmem : code ∈ List.replicate (blocks body - 1) (some Codes.continueCode) := by
      rw [hanswers]
      exact List.mem_cons_self
    exact hcode (List.eq_of_mem_replicate hmem)

theorem deliver_grows (sys : System) :
    sys.requests ≤ (deliver net sys).requests ∧ sys.answers <+: (deliver net sys).answers ∧
      sys.passed <+: (deliver net sys).passed := by
  unfold deliver
  split
  · dsimp only
    split
    · exact ⟨le_rfl, List.prefix_rfl, List.prefix_rfl⟩
    · split_ifs
      · split
        · exact ⟨le_rfl, List.prefix_rfl, List.prefix_rfl⟩
        · exact ⟨le_rfl, List.prefix_append _ _, List.prefix_rfl⟩
      · exact ⟨le_rfl, List.prefix_rfl, List.prefix_append _ _⟩
  · dsimp only
    split
    · exact ⟨le_rfl, List.prefix_rfl, List.prefix_rfl⟩
    · split_ifs
      · exact ⟨Nat.le_succ _, List.prefix_rfl, List.prefix_rfl⟩
      · exact ⟨le_rfl, List.prefix_rfl, List.prefix_rfl⟩
  · exact ⟨le_rfl, List.prefix_rfl, List.prefix_rfl⟩

theorem spoiled_step (sys : System) (e : Event) (h : Spoiled body sys) :
    Spoiled body (step net sys e) := by
  cases e with
  | clientOperation op => exact h
  | serverOperation op => exact h
  | deliver =>
    obtain ⟨hrequests, ⟨added, hanswers⟩, -⟩ := deliver_grows net sys
    rcases h with ⟨e, hflight⟩ | hmany | ⟨code, rest, hcodes, hcode⟩
    · refine Or.inl ⟨e, ?_⟩
      change (deliver net sys).flight = _
      unfold deliver
      rw [hflight]
      exact hflight
    · exact Or.inr (Or.inl (hmany.trans_le hrequests))
    · refine Or.inr (Or.inr ⟨code, rest ++ added, ?_, hcode⟩)
      change (deliver net sys).answers = _
      rw [← hanswers, hcodes, List.cons_append]

theorem spoiled_run (sys : System) (events : List Event) (h : Spoiled body sys) :
    Spoiled body (run (step net) sys events) :=
  Runs.run_induction (step net) (fun _ s => Spoiled body s) sys events h
    fun pre e _ _ hs => spoiled_step net body (run (step net) sys pre) e hs

theorem deliver_answer (i : ℕ) (sys : System) (hanswer : net.answer.token = some token)
    (last : i + 1 = blocks body) (flight : sys.flight = .response net.answer)
    (client : ClientAt net token body contentType entry i sys.client)
    (requests : sys.requests = i + 1)
    (answers : sys.answers = List.replicate i (some Codes.continueCode))
    (passed : sys.passed = [some (.bytes (held ++ body))]) :
    (Settles entry net.answer →
      Stage net token body held contentType entry (2 * i + 2) (deliver net sys)) ∧
    (¬ Settles entry net.answer → Spoiled body (deliver net sys)) := by
  set t : Transaction := { net.clientTransaction sys.requests with
    request := sys.outstanding
    response := some (deliverTo net.server net.client net.answer) } with ht
  have hiff := receiveResponse_answer net token entry sys.client t
    (deliverTo net.server net.client net.answer) _ rfl rfl hanswer client.upload
    (more_eq_zero body i last) client.download
  have hsettles : Settles entry (deliverTo net.server net.client net.answer) ↔
      Settles entry net.answer := Iff.rfl
  rw [hsettles] at hiff
  unfold deliver
  rw [flight]
  dsimp only
  rw [← ht]
  constructor
  · intro hsettled
    obtain ⟨r, s', t', heq, htransfer⟩ := hiff.mpr hsettled
    rw [heq]
    dsimp only
    rw [if_neg (by simp [htransfer])]
    exact .ended i _ last hsettled rfl requests answers passed
  · intro hunsettled
    generalize hresult : receiveResponse net.rng (sys.client, t) = result at hiff
    obtain ⟨r, s', t'⟩ := result
    cases r with
    | error e => exact Or.inl ⟨e, rfl⟩
    | ok b =>
      dsimp only
      by_cases htransfer : t'.blockTransfer = true
      · rw [if_pos htransfer]
        refine Or.inr (Or.inl ?_)
        change blocks body < sys.requests + 1
        omega
      · exact absurd (hiff.mp ⟨b, s', t', rfl, by simpa using htransfer⟩) hunsettled

theorem clientOperation_stage (j : ℕ) (sys : System) (op : Operation)
    (hop : op.key ≠ some (key net.server (.bytes token)))
    (h : Stage net token body held contentType entry j sys) :
    Stage net token body held contentType entry j { sys with client := op.apply sys.client } := by
  have hunder := under_apply op sys.client (key net.server (.bytes token)) hop
  have hclient : ∀ i, ClientAt net token body contentType entry i sys.client →
      ClientAt net token body contentType entry i (op.apply sys.client) := by
    intro i hi
    exact ⟨(congrArg Entries.block1Sent hunder).trans hi.upload,
      (congrArg Entries.block2Sent hunder).trans hi.download⟩
  cases h with
  | request i _ lt flight carries client server requests answers passed =>
    exact .request i _ lt flight carries (hclient i client) server requests answers passed
  | response i _ m lt flight token_eq block1 carries client server requests answers passed =>
    exact .response i _ m lt flight token_eq block1 carries (hclient i client) server requests
      answers passed
  | answer i _ last flight client requests answers passed =>
    exact .answer i _ last flight (hclient i client) requests answers passed
  | ended i _ last settled flight requests answers passed =>
    exact .ended i _ last settled flight requests answers passed

theorem serverOperation_stage (j : ℕ) (sys : System) (op : Operation)
    (hop : op.key ≠ some (key net.client (.bytes token)))
    (h : Stage net token body held contentType entry j sys) :
    Stage net token body held contentType entry j { sys with server := op.apply sys.server } := by
  have hunder := under_apply op sys.server (key net.client (.bytes token)) hop
  have hget : (op.apply sys.server).block1Receive.get? (key net.client (.bytes token)) =
      sys.server.block1Receive.get? (key net.client (.bytes token)) :=
    congrArg Entries.block1Receive hunder
  have hserver : ∀ i, ServerAt net token body held contentType i sys.server →
      ServerAt net token body held contentType i (op.apply sys.server) := by
    intro i hi
    unfold ServerAt at hi ⊢
    rwa [hget]
  cases h with
  | request i _ lt flight carries client server requests answers passed =>
    exact .request i _ lt flight carries client (hserver i server) requests answers passed
  | response i _ m lt flight token_eq block1 carries client server requests answers passed =>
    exact .response i _ m lt flight token_eq block1 carries client (hserver (i + 1) server)
      requests answers passed
  | answer i _ last flight client requests answers passed =>
    exact .answer i _ last flight client requests answers passed
  | ended i _ last settled flight requests answers passed =>
    exact .ended i _ last settled flight requests answers passed

section Run
variable (hbody : body.length ≤ 2 ^ 30) (htoken : token.length ≤ 256)
  (hanswer : net.answer.token = some token)
include hbody htoken hanswer

theorem deliver_stage (j : ℕ) (sys : System) (hj : j < 2 * blocks body)
    (h : Stage net token body held contentType entry j sys) :
    Stage net token body held contentType entry (j + 1) (deliver net sys) ∨
      ¬ Settles entry net.answer ∧ Spoiled body (deliver net sys) := by
  cases h with
  | request i _ lt flight carries client server requests answers passed =>
    exact Or.inl (deliver_request net token body held contentType entry i sys hbody htoken lt flight
      carries client server requests answers passed)
  | response i _ m lt flight token_eq block1 carries client server requests answers passed =>
    exact Or.inl (deliver_response net token body held contentType entry i sys m hbody lt flight
      token_eq block1 carries client server requests answers passed)
  | answer i _ last flight client requests answers passed =>
    obtain ⟨hsettled, hunsettled⟩ := deliver_answer net token body held contentType entry i sys
      hanswer last flight client requests answers passed
    by_cases hsettles : Settles entry net.answer
    · exact Or.inl (hsettled hsettles)
    · exact Or.inr ⟨hsettles, hunsettled hsettles⟩
  | ended i _ last settled flight requests answers passed => omega

theorem run_stage (events : List Event) (hforeign : ∀ e ∈ events, Foreign net token e) (j : ℕ)
    (sys : System) (hj : j ≤ 2 * blocks body)
    (h : Stage net token body held contentType entry j sys) :
    Stage net token body held contentType entry (min (j + delivers events) (2 * blocks body))
        (run (step net) sys events) ∨
      ¬ Settles entry net.answer ∧ Spoiled body (run (step net) sys events) := by
  induction events generalizing j sys with
  | nil =>
    rw [delivers, Nat.add_zero, Nat.min_eq_left hj]
    exact Or.inl h
  | cons e events ih =>
    have hrest := fun e' he' => hforeign e' (List.mem_cons_of_mem e he')
    have hhead := hforeign e List.mem_cons_self
    rw [run_cons]
    cases e with
    | deliver =>
      rcases Nat.lt_or_ge j (2 * blocks body) with hlt | hge
      · rcases deliver_stage net token body held contentType entry hbody htoken hanswer j sys hlt h
          with hnext | ⟨hunsettled, hspoiled⟩
        · rw [delivers, show j + (delivers events + 1) = j + 1 + delivers events by omega]
          exact ih hrest (j + 1) _ (by omega) hnext
        · exact Or.inr ⟨hunsettled, spoiled_run net body _ events hspoiled⟩
      · have hsame : deliver net sys = sys := by
          cases h with
          | request i _ lt => omega
          | response i _ m lt => omega
          | answer i _ last => omega
          | ended i _ last settled flight =>
            unfold deliver
            rw [flight]
        have hstay := ih hrest j sys hj h
        rw [show min (j + delivers events) (2 * blocks body) = 2 * blocks body by omega] at hstay
        rw [delivers, show min (j + (delivers events + 1)) (2 * blocks body) = 2 * blocks body by
          omega]
        change Stage net token body held contentType entry _
          (run (step net) (deliver net sys) events) ∨ _
        rw [show step net sys .deliver = sys from hsame, hsame]
        exact hstay
    | clientOperation op =>
      exact ih hrest j _ hj
        (clientOperation_stage net token body held contentType entry j sys op hhead h)
    | serverOperation op =>
      exact ih hrest j _ hj
        (serverOperation_stage net token body held contentType entry j sys op hhead h)

/-- At its end a run of enough deliveries has passed on what the server held and the body. -/
theorem complete_iff (events : List Event) (hforeign : ∀ e ∈ events, Foreign net token e)
    (hdelivers : 2 * blocks body ≤ delivers events) (sys : System)
    (h : Stage net token body held contentType entry 0 sys) :
    Complete body (run (step net) sys events) ↔ held = [] ∧ Settles entry net.answer := by
  have hrun := run_stage net token body held contentType entry hbody htoken hanswer events hforeign
    0 sys (Nat.zero_le _) h
  rw [Nat.zero_add, Nat.min_eq_right hdelivers] at hrun
  generalize run (step net) sys events = last at hrun ⊢
  rcases hrun with hend | ⟨hunsettled, hspoiled⟩
  · have hall : ∀ (j : ℕ), j = 2 * blocks body →
        Stage net token body held contentType entry j last →
        Settles entry net.answer ∧ last.flight = .ended ∧ last.requests = blocks body ∧
          last.answers = List.replicate (blocks body - 1) (some Codes.continueCode) ∧
          last.passed = [some (.bytes (held ++ body))] := by
      intro j hj hstage
      cases hstage with
      | request i _ lt => omega
      | response i _ m lt => omega
      | answer i _ last => omega
      | ended i _ last settled flight requests answers passed =>
        refine ⟨settled, flight, requests.trans last, ?_, passed⟩
        rw [← last]
        exact answers
    obtain ⟨settled, flight, requests, answers, passed⟩ := hall _ rfl hend
    constructor
    · intro hcomplete
      rw [hcomplete.passed] at passed
      have hbytes : some (Payload.bytes body) = some (.bytes (held ++ body)) :=
        List.singleton_inj.mp passed
      simp only [Option.some.injEq, Payload.bytes.injEq] at hbytes
      exact ⟨List.self_eq_append_left.mp hbytes, settled⟩
    · rintro ⟨rfl, -⟩
      exact ⟨flight, requests, answers, passed⟩
  · exact iff_of_false (not_complete_of_spoiled body last hspoiled) fun h => hunsettled h.2

end Run

/-! An unfinished upload under the key that the first block does not fit. -/

structure Waits (item : BlockItem) (sys : System) : Prop where
  flight : sys.flight = .request sys.outstanding
  carries : Carries token body contentType 0 sys.outstanding
  stored : sys.server.block1Receive.get? (key net.client (.bytes token)) = some item
  answers : sys.answers = []

theorem deliver_refused (item : BlockItem) (sys : System)
    (h : Waits net token body contentType item sys)
    (hunfit : ∀ held, ¬ (item.num = 0 ∧ item.contentType = contentType ∧
      item.payload = some (.bytes held))) : Spoiled body (deliver net sys) := by
  set t : Transaction := { net.serverTransaction sys.requests with
    request := deliverTo net.client net.server sys.outstanding } with ht
  have hreceive : receiveRequest net.rng (sys.server, t) =
      receiveBlock1Request net.rng (key net.client (.bytes token)) 0 (more body 0) maxPayload
        (sys.server, t) := by
    have hblock := receiveRequest_block1 net.rng sys.server t net.client 0 (more body 0) maxPayload
      h.carries.block2 h.carries.block1 rfl
    rwa [show t.request.token = some token from h.carries.token] at hblock
  have htype : t.request.contentType = contentType := h.carries.contentType
  have hpayload : t.request.payload = some (.bytes (block body 0)) := h.carries.payload
  unfold deliver
  rw [h.flight]
  dsimp only
  rw [← ht, hreceive]
  unfold receiveBlock1Request
  dsimp only
  rw [h.stored]
  dsimp only
  split_ifs with hother
  · unfold incomplete
    dsimp only
    cases Message.initFromRequest net.rng t.request with
    | error e => exact Or.inl ⟨e, rfl⟩
    | ok response =>
      refine Or.inr (Or.inr ⟨some Codes.requestEntityIncomplete, [], ?_, by decide⟩)
      change sys.answers ++ [some Codes.requestEntityIncomplete] = _
      rw [h.answers, List.nil_append]
  · obtain ⟨hnum, hsame⟩ := not_or.mp hother
    rw [hpayload]
    cases hstored : item.payload with
    | none => exact Or.inl ⟨_, rfl⟩
    | some stored =>
      cases stored with
      | str text => exact Or.inl ⟨_, rfl⟩
      | bytes held =>
        exact absurd ⟨(not_not.mp hnum).symm, (not_not.mp hsame).symm.trans htype, hstored⟩
          (hunfit held)

theorem refused_run (item : BlockItem) (events : List Event)
    (hforeign : ∀ e ∈ events, Foreign net token e) (hdelivers : 0 < delivers events)
    (sys : System) (h : Waits net token body contentType item sys)
    (hunfit : ∀ held, ¬ (item.num = 0 ∧ item.contentType = contentType ∧
      item.payload = some (.bytes held))) : Spoiled body (run (step net) sys events) := by
  induction events generalizing sys with
  | nil => exact absurd hdelivers (lt_irrefl 0)
  | cons e events ih =>
    have hrest := fun e' he' => hforeign e' (List.mem_cons_of_mem e he')
    have hhead := hforeign e List.mem_cons_self
    rw [run_cons]
    cases e with
    | deliver =>
      exact spoiled_run net body _ events
        (deliver_refused net token body contentType item sys h hunfit)
    | clientOperation op =>
      exact ih hrest hdelivers _ ⟨h.flight, h.carries, h.stored, h.answers⟩
    | serverOperation op =>
      have hunder := under_apply op sys.server (key net.client (.bytes token)) hhead
      exact ih hrest hdelivers _ ⟨h.flight, h.carries,
        (congrArg Entries.block1Receive hunder).trans h.stored, h.answers⟩

/-! A request that carries a Block2 option: what the server passes on is never more than a block. -/

/-- At most a block, or nothing. -/
def Small (payload : Option Payload) : Prop := ∀ p, payload = some p → p.length ≤ maxPayload

/-- The exchange of a request with a Block2 option, of which the server looks at nothing else. -/
structure Cut (sys : System) : Prop where
  asked : sys.outstanding.block2 ≠ .ok none
  small : Small sys.outstanding.payload
  carried : ∀ m, sys.flight = .request m → m = sys.outstanding
  answered : ∀ m, sys.flight = .response m → m.token = some token
  sizes : ∀ item, sys.client.block1Sent.get? (key net.server (.bytes token)) = some item →
    item.size ≤ maxPayload
  passed : ∀ payload ∈ sys.passed, Small payload

theorem slice_length_le (p : Payload) (i size : ℕ) : (p.slice i (i + size)).length ≤ size := by
  cases p with
  | bytes b =>
    change (slice b i (i + size)).length ≤ size
    rw [slice, List.length_take]
    omega
  | str t =>
    change (slice t i (i + size)).length ≤ size
    rw [slice, List.length_take]
    omega

/-- What a response leaves behind of an exchange whose request asks for a size. -/
structure Kept (s : State) (request : Message) : Prop where
  asked : request.block2 ≠ .ok none
  small : Small request.payload
  sizes : ∀ item, s.block1Sent.get? (key net.server (.bytes token)) = some item →
    item.size ≤ maxPayload

section
variable (s : State) (t : Transaction) (h : Kept net token s t.request)
include h

theorem kept_error (code : ℕ) :
    Kept net token (error net.rng code (s, t)).2.1 (error net.rng code (s, t)).2.2.request := by
  unfold error
  dsimp only
  cases Message.initFromRequest net.rng t.request <;> exact h

theorem kept_requestBlock2 (item : BlockItem) : Kept net token (requestBlock2 item (s, t)).2.1
    (requestBlock2 item (s, t)).2.2.request := by
  rw [requestBlock2_eq]
  exact ⟨block2_asked _ _ _ _, h.small, h.sizes⟩

theorem kept_receiveMoreBlock2 (k : Key) (num m size : ℕ) (response : Message) :
    Kept net token (receiveMoreBlock2 net.rng k num m size response (s, t)).2.1
      (receiveMoreBlock2 net.rng k num m size response (s, t)).2.2.request := by
  unfold receiveMoreBlock2
  dsimp only
  cases s.block2Sent.get? k with
  | none =>
    dsimp only
    refine kept_requestBlock2 net token _ _ ?_ _
    exact ⟨h.asked, h.small, h.sizes⟩
  | some item =>
    dsimp only
    split_ifs
    · exact kept_error net token s _ h _
    · refine kept_error net token _ _ ?_ _
      exact ⟨h.asked, h.small, h.sizes⟩
    · cases appendPayload item.payload response.payload with
      | error e => exact ⟨h.asked, h.small, h.sizes⟩
      | ok payload =>
        dsimp only
        refine kept_requestBlock2 net token _ _ ?_ _
        exact ⟨h.asked, h.small, h.sizes⟩

theorem kept_receiveLastBlock2 (k : Key) (response : Message) :
    Kept net token (receiveLastBlock2 net.rng k response (s, t)).2.1
      (receiveLastBlock2 net.rng k response (s, t)).2.2.request := by
  unfold receiveLastBlock2
  dsimp only
  cases s.block2Sent.get? k with
  | none => exact h
  | some item =>
    dsimp only
    split_ifs
    · exact kept_error net token s _ h _
    · cases appendPayload item.payload response.payload <;>
        exact ⟨h.asked, h.small, h.sizes⟩

theorem kept_receiveBlock2Response (k : Key) (response : Message) :
    Kept net token (receiveBlock2Response net.rng k response (s, t)).2.1
      (receiveBlock2Response net.rng k response (s, t)).2.2.request := by
  unfold receiveBlock2Response
  dsimp only
  cases response.block2 with
  | error e => exact h
  | ok block2 =>
    cases block2 with
    | none => exact h
    | some block =>
      obtain ⟨num, m, size⟩ := block
      dsimp only
      split_ifs
      · exact kept_receiveMoreBlock2 net token s t h k num m size response
      · exact kept_receiveLastBlock2 net token s t h k response

theorem kept_nextBlock1 (item : BlockItem) (nSize : ℕ)
    (hitem : s.block1Sent.get? (key net.server (.bytes token)) = some item) :
    Kept net token (nextBlock1 (key net.server (.bytes token)) item nSize (s, t)).2.1
      (nextBlock1 (key net.server (.bytes token)) item nSize (s, t)).2.2.request := by
  have hsize : (if nSize < item.size then nSize else item.size) ≤ maxPayload := by
    have := h.sizes item hitem
    split_ifs <;> omega
  have hscaled : ∀ changed : BlockItem, changed.size ≤ maxPayload → ∀ item',
      (s.block1Sent.insert (key net.server (.bytes token)) changed).get?
        (key net.server (.bytes token)) = some item' → item'.size ≤ maxPayload := by
    intro changed hchanged item' hget
    rw [Dict.get?_insert_self] at hget
    cases hget
    exact hchanged
  unfold nextBlock1
  dsimp only
  cases item.payload with
  | none =>
    exact ⟨by rw [BlockProgress.block2_delBlock1]; exact h.asked, h.small, hscaled _ hsize⟩
  | some payload =>
    dsimp only
    rw [delBlock1_setPayload, setBlock1_delBlock1]
    refine ⟨by rw [block2_withBlock1]; exact h.asked, ?_, hscaled _ hsize⟩
    intro p hp
    cases hp
    exact (slice_length_le payload item.byte _).trans hsize

theorem kept_receiveResponse (response : Message) (hresponse : t.response = some response)
    (hsource : response.source = some net.server) (htoken : response.token = some token) :
    Kept net token (receiveResponse net.rng (s, t)).2.1
      (receiveResponse net.rng (s, t)).2.2.request := by
  have hkey : key net.server (tokenArg response.token) = key net.server (.bytes token) := by
    rw [htoken]
    rfl
  unfold receiveResponse
  dsimp only
  rw [hresponse]
  dsimp only
  rw [hsource]
  dsimp only
  rw [hkey]
  cases hitem : s.block1Sent.get? (key net.server (.bytes token)) with
  | none => exact kept_receiveBlock2Response net token s t h _ response
  | some item =>
    dsimp only
    cases response.block1 with
    | error e => exact h
    | ok block1 =>
      cases block1 with
      | none => exact kept_receiveBlock2Response net token s t h _ response
      | some block =>
        obtain ⟨num, m, size⟩ := block
        dsimp only
        unfold receiveBlock1Response
        dsimp only
        split_ifs
        · exact ⟨by rw [BlockProgress.block2_delBlock1]; exact h.asked, h.small, h.sizes⟩
        · exact h
        · exact kept_nextBlock1 net token s { t with blockTransfer := true } h item size hitem

end

/-- A request with a Block2 option is passed on with what it carries, whatever it answers. -/
theorem receiveRequest_asked (rng : Bytes) (s : State) (t : Transaction) (address : Address)
    (hsource : t.request.source = some address) (hasked : t.request.block2 ≠ .ok none) :
    (∃ e s', receiveRequest rng (s, t) = (.error e, s')) ∨
      ∃ s' t', receiveRequest rng (s, t) = (.ok (), s', t') ∧
        t'.request.payload = t.request.payload ∧ t'.response = t.response := by
  unfold receiveRequest
  dsimp only
  cases hread : t.request.block2 with
  | error e => exact Or.inl ⟨e, _, rfl⟩
  | ok block =>
    cases block with
    | none => exact absurd hread hasked
    | some block =>
      obtain ⟨num, more, size⟩ := block
      refine Or.inr ?_
      dsimp only
      rw [hsource]
      dsimp only
      unfold receiveBlock2Request
      dsimp only
      cases s.block2Receive.get? (key address (tokenArg t.request.token)) with
      | none => exact ⟨_, _, rfl, rfl, rfl⟩
      | some item => exact ⟨_, _, rfl, rfl, rfl⟩

theorem cut_response (sys : System) (m : Message) (h : Cut net token sys)
    (hflight : sys.flight = .response m) : Cut net token (deliver net sys) := by
  set t : Transaction := { net.clientTransaction sys.requests with
    request := sys.outstanding
    response := some (deliverTo net.server net.client m) } with ht
  have hkept := kept_receiveResponse net token sys.client t ⟨h.asked, h.small, h.sizes⟩
    (deliverTo net.server net.client m) rfl rfl (h.answered m hflight)
  unfold deliver
  rw [hflight]
  dsimp only
  rw [← ht]
  generalize receiveResponse net.rng (sys.client, t) = result at hkept
  obtain ⟨r, s', t'⟩ := result
  cases r with
  | error e => exact ⟨h.asked, h.small, by simp, by simp, hkept.sizes, h.passed⟩
  | ok b =>
    dsimp only
    split_ifs
    · refine ⟨hkept.asked, hkept.small, ?_, by simp, hkept.sizes, h.passed⟩
      intro m' hm'
      cases hm'
      rfl
    · exact ⟨h.asked, h.small, by simp, by simp, hkept.sizes, h.passed⟩

/-- What the transactions of the server hold from before are responses under the same token. -/
def Tokened : Prop :=
  ∀ i response, (net.serverTransaction i).response = some response → response.token = some token

section
variable (hanswer : net.answer.token = some token) (hstale : Tokened net token)
include hanswer hstale

theorem cut_request (sys : System) (h : Cut net token sys)
    (hflight : sys.flight = .request sys.outstanding) : Cut net token (deliver net sys) := by
  set t : Transaction := { net.serverTransaction sys.requests with
    request := deliverTo net.client net.server sys.outstanding } with ht
  unfold deliver
  rw [hflight]
  dsimp only
  rw [← ht]
  rcases receiveRequest_asked net.rng sys.server t net.client rfl h.asked with
    ⟨e, ⟨s', t'⟩, heq⟩ | ⟨s', t', heq, hpayload, hresponse⟩
  · rw [heq]
    exact ⟨h.asked, h.small, by simp, by simp, h.sizes, h.passed⟩
  · rw [heq]
    dsimp only
    split_ifs
    · have hheld : t.response = (net.serverTransaction sys.requests).response := rfl
      rw [hresponse, hheld]
      cases hstored : (net.serverTransaction sys.requests).response with
      | none => exact ⟨h.asked, h.small, by simp, by simp, h.sizes, h.passed⟩
      | some response =>
        refine ⟨h.asked, h.small, by simp, ?_, h.sizes, h.passed⟩
        intro m' hm'
        cases hm'
        exact hstale _ response hstored
    · refine ⟨h.asked, h.small, by simp, ?_, h.sizes, ?_⟩
      · intro m' hm'
        cases hm'
        exact hanswer
      · intro payload hmem
        rcases List.mem_append.mp hmem with hmem | hmem
        · exact h.passed payload hmem
        · rw [List.mem_singleton.mp hmem, hpayload]
          exact h.small

theorem deliver_cut (sys : System) (h : Cut net token sys) : Cut net token (deliver net sys) := by
  cases hflight : sys.flight with
  | raised e =>
    unfold deliver
    rw [hflight]
    exact h
  | ended =>
    unfold deliver
    rw [hflight]
    exact h
  | response m => exact cut_response net token sys m h hflight
  | request m =>
    cases h.carried m hflight
    exact cut_request net token hanswer hstale sys h hflight

theorem run_cut (sys : System) (events : List Event) (hforeign : ∀ e ∈ events, Foreign net token e)
    (h : Cut net token sys) : Cut net token (run (step net) sys events) := by
  refine Runs.run_induction (step net) (fun _ s => Cut net token s) sys events h ?_
  intro pre e post hsplit hcut
  have hhead := hforeign e (by rw [hsplit]; simp)
  cases e with
  | deliver => exact deliver_cut net token hanswer hstale _ hcut
  | clientOperation op =>
    have hunder := under_apply op (run (step net) sys pre).client (key net.server (.bytes token))
      hhead
    refine ⟨hcut.asked, hcut.small, hcut.carried, hcut.answered, ?_, hcut.passed⟩
    intro item hitem
    exact hcut.sizes item ((congrArg Entries.block1Sent hunder).symm.trans hitem)
  | serverOperation op =>
    exact ⟨hcut.asked, hcut.small, hcut.carried, hcut.answered, hcut.sizes, hcut.passed⟩

end

section Send
variable (request : Message) (client server : State)
  (hlarge : maxPayload < body.length)
  (htoken : request.token = some token) (hpayload : request.payload = some (.bytes body))
  (hdestination : request.destination = some net.server)
  (hblock1 : request.block1 = .ok none)
include hlarge htoken hpayload hdestination hblock1

theorem send_eq : send net request client server =
    ⟨{ client with
        block1Sent := client.block1Sent.insert (key net.server (.bytes token))
          ⟨maxPayload, 0, 1, maxPayload, some (.bytes body), request.contentType⟩ },
      server, stamp (net.requestHeader 0) (firstRequest request (.bytes body)),
      .request (stamp (net.requestHeader 0) (firstRequest request (.bytes body))), 1, [], []⟩ := by
  unfold send
  rw [sendRequest_large client request (.bytes body) net.server hblock1 hpayload hlarge
    hdestination, htoken]
  rfl

omit hlarge htoken hpayload hdestination hblock1 in
theorem block2_firstRequest : (firstRequest request (.bytes body)).block2 = request.block2 :=
  (block2_withBlock1 _ _ _ _).trans (block_congr _ _ _
    (ofNumber_replace_of_ne request OptionRegistry.size1 _ rfl rfl _ (by decide)))

omit hpayload hdestination hblock1 in
theorem carries_first (hblock2 : request.block2 = .ok none) :
    Carries token body request.contentType 0
      (stamp (net.requestHeader 0) (firstRequest request (.bytes body))) := by
  have hmax : maxPayload = 1024 := rfl
  have hmore : more body 0 = 1 := if_neg (by omega)
  refine ⟨htoken, ?_, (block2_firstRequest body request).trans hblock2, ?_, ?_⟩
  · rw [hmore]
    exact block1_withBlock1_max _ 0 1 le_rfl (by omega)
  · refine (contentType_withBlock1 _ _ _ _).trans (contentType_congr _ _ ?_)
    exact ofNumber_replace_of_ne request OptionRegistry.size1 _ rfl rfl _ (by decide)
  · change some (Payload.bytes (slice body 0 maxPayload)) = _
    rw [block, Nat.zero_mul, Nat.zero_add, Nat.one_mul]

theorem send_stage (hblock2 : request.block2 = .ok none)
    (hserver : ServerAt net token body held request.contentType 0 server) :
    Stage net token body held request.contentType
      (client.block2Sent.get? (key net.server (.bytes token))) 0
      (send net request client server) := by
  have hmax : maxPayload = 1024 := rfl
  have hmore : more body 0 = 1 := if_neg (by omega)
  have hblocks : 0 < blocks body := by
    unfold blocks
    rw [hmax] at hlarge ⊢
    omega
  rw [send_eq net token body request client server hlarge htoken hpayload hdestination hblock1]
  refine .request 0 _ hblocks rfl
    (carries_first net token body request hlarge htoken hblock2) ⟨?_, rfl⟩ hserver rfl rfl rfl
  dsimp only
  rw [Dict.get?_insert_self, hmore, Nat.zero_add, Nat.one_mul]

theorem send_waits (hblock2 : request.block2 = .ok none) (item : BlockItem)
    (hitem : server.block1Receive.get? (key net.client (.bytes token)) = some item) :
    Waits net token body request.contentType item (send net request client server) := by
  rw [send_eq net token body request client server hlarge htoken hpayload hdestination hblock1]
  exact ⟨rfl, carries_first net token body request hlarge htoken hblock2, hitem, rfl⟩

theorem send_cut (hasked : request.block2 ≠ .ok none) :
    Cut net token (send net request client server) := by
  rw [send_eq net token body request client server hlarge htoken hpayload hdestination hblock1]
  refine ⟨?_, ?_, ?_, by simp, ?_, by simp⟩
  · rw [show (stamp (net.requestHeader 0) (firstRequest request (.bytes body))).block2 =
      request.block2 from block2_firstRequest body request]
    exact hasked
  · intro p hp
    cases hp
    have := slice_length_le (.bytes body) 0 maxPayload
    rwa [Nat.zero_add] at this
  · intro m hm
    cases hm
    rfl
  · intro item hitem
    dsimp only at hitem
    rw [Dict.get?_insert_self] at hitem
    cases hitem
    exact le_rfl

end Send

end Stages

/-- A large body without a Block1 option arrives whole exactly if the request carries no Block2
option, the server holds no bytes of another upload under its key, and the answer to the last block
is not itself sent in blocks. -/
theorem upload_iff (net : Network) (token body : Bytes) (request : Message)
    (client server : State) (events : List Event)
    (hlarge : maxPayload < body.length) (hbody : body.length ≤ 2 ^ 30)
    (htoken : request.token = some token) (hlength : token.length ≤ 256)
    (hpayload : request.payload = some (.bytes body))
    (hdestination : request.destination = some net.server)
    (hblock1 : request.block1 = .ok none) (hanswer : net.answer.token = some token)
    (hstale : Tokened net token) (hforeign : ∀ e ∈ events, Foreign net token e)
    (hdelivers : 2 * blocks body ≤ delivers events) :
    Complete body (run (step net) (send net request client server) events) ↔
      request.block2 = .ok none ∧
        Vacant (server.block1Receive.get? (key net.client (.bytes token))) request.contentType ∧
        Settles (client.block2Sent.get? (key net.server (.bytes token))) net.answer := by
  have hmax : maxPayload = 1024 := rfl
  by_cases hblock2 : request.block2 = .ok none
  · rw [and_iff_right hblock2]
    have hstage : ∀ held, ServerAt net token body held request.contentType 0 server →
        (Complete body (run (step net) (send net request client server) events) ↔
          held = [] ∧ Settles (client.block2Sent.get? (key net.server (.bytes token))) net.answer) :=
      fun held hserver => complete_iff net token body held request.contentType _ hbody hlength
        hanswer events hforeign hdelivers _ (send_stage net token body held request client server
          hlarge htoken hpayload hdestination hblock1 hblock2 hserver)
    cases hitem : server.block1Receive.get? (key net.client (.bytes token)) with
    | none =>
      rw [hstage [] (by unfold ServerAt; rw [hitem]; exact ⟨rfl, rfl⟩)]
      refine and_congr_left fun _ => iff_of_true rfl ?_
      intro item hsome
      cases hsome
    | some item =>
      by_cases hfits : ∃ held, item.num = 0 ∧ item.contentType = request.contentType ∧
          item.payload = some (.bytes held)
      · obtain ⟨held, hnum, htype, hheld⟩ := hfits
        rw [hstage held (by
          unfold ServerAt
          rw [hitem, Nat.zero_mul, List.take_zero, List.append_nil]
          exact ⟨hnum, hheld, htype⟩)]
        refine and_congr_left fun _ => ⟨?_, fun hvacant => ?_⟩
        · rintro rfl item' hsome
          cases hsome
          exact ⟨hnum, htype, hheld⟩
        · have hempty := (hvacant item rfl).2.2
          rw [hheld] at hempty
          cases hempty
          rfl
      · have hpos : 0 < delivers events := by
          have : 0 < blocks body := by
            unfold blocks
            rw [hmax] at hlarge ⊢
            omega
          omega
        refine iff_of_false (not_complete_of_spoiled body _ (refused_run net token body _ item
          events hforeign hpos _ (send_waits net token body request client server hlarge htoken
            hpayload hdestination hblock1 hblock2 item hitem)
          fun held hall => hfits ⟨held, hall⟩)) ?_
        rintro ⟨hvacant, -⟩
        exact hfits ⟨[], hvacant item rfl⟩
  · refine iff_of_false ?_ fun h => hblock2 h.1
    intro hcomplete
    have hcut := run_cut net token hanswer hstale _ events hforeign (send_cut net token body request
      client server hlarge htoken hpayload hdestination hblock1 hblock2)
    have hsmall := hcut.passed (some (.bytes body)) (by
      rw [hcomplete.passed]
      exact List.mem_singleton_self _) _ rfl
    exact absurd hlarge (Nat.not_lt.mpr hsmall)

def sampleBody : Bytes := List.replicate 1025 7

def sampleServer : Address := ("10.0.0.1".toList, 5683)

def sampleClient : Address := ("10.0.0.7".toList, 40000)

def sampleUpload : Message :=
  { Message.new .request with
    token := some [1]
    code := some Codes.post
    destination := some sampleServer
    payload := some (.bytes sampleBody) }

def sampleNetwork : Network where
  client := sampleClient
  server := sampleServer
  rng := []
  requestHeader i := (some .CON, some (i + 1))
  responseHeader i := (some .ACK, some (i + 1))
  serverTransaction _ := Transaction.new (Message.new .request) 0
  clientTransaction _ := Transaction.new (Message.new .request) 0
  answer := { Message.new .response with token := some [1], code := some Codes.changed }

theorem upload_complete_sample : Complete sampleBody
    (run (step sampleNetwork) (send sampleNetwork sampleUpload State.new State.new)
      (List.replicate 4 .deliver)) :=
  (upload_iff sampleNetwork [1] sampleBody sampleUpload State.new State.new
    (List.replicate 4 .deliver) (by decide +kernel) (by decide +kernel) rfl (by decide) rfl rfl rfl
    rfl (fun i response h => by cases h) (by
      intro e he
      rw [List.eq_of_mem_replicate he]
      trivial)
    (by decide +kernel)).mpr
      ⟨rfl, fun item h => (by cases h), Or.inr ⟨rfl, Or.inl rfl⟩⟩

/-- A request that also asks for a block size of the response is passed on with its first block
only. -/
theorem upload_with_block2_incomplete :
    (withBlock2 sampleUpload 0 0 maxPayload).block1 = .ok none ∧
      (withBlock2 sampleUpload 0 0 maxPayload).payload = some (.bytes sampleBody) ∧
      maxPayload < sampleBody.length ∧ sampleBody.length ≤ 2 ^ 30 ∧
      2 * blocks sampleBody ≤ delivers (List.replicate 4 .deliver) ∧
      (run (step sampleNetwork)
        (send sampleNetwork (withBlock2 sampleUpload 0 0 maxPayload) State.new State.new)
        (List.replicate 4 .deliver)).passed = [some (.bytes (sampleBody.take maxPayload))] ∧
      ¬ Complete sampleBody (run (step sampleNetwork)
        (send sampleNetwork (withBlock2 sampleUpload 0 0 maxPayload) State.new State.new)
        (List.replicate 4 .deliver)) := by
  have hpassed : (run (step sampleNetwork)
      (send sampleNetwork (withBlock2 sampleUpload 0 0 maxPayload) State.new State.new)
      (List.replicate 4 .deliver)).passed = [some (.bytes (sampleBody.take maxPayload))] := by
    decide +kernel
  refine ⟨by decide +kernel, by decide +kernel, by decide +kernel, by decide +kernel,
    by decide +kernel, hpassed, ?_⟩
  intro hcomplete
  have hsame := hpassed.symm.trans hcomplete.passed
  revert hsame
  decide +kernel

end BubotCoap.Block1Upload
