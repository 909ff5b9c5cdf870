import BubotCoap.BlockSteps
import BubotCoap.UdpTransfer

set_option autoImplicit false

namespace BubotCoap.Block2Download
open PythonData Defines Utils Messages OptionAccess OptionWire OrderedDict Transactions BlockLayer
  BlockSteps Serializer UdpRoundTrip UdpTransfer FallibleState

/-- The two ends, and what the other layers add: types and message ids, the transactions, and the
response of the handler. -/
structure Network where
  client : Address
  server : Address
  scheme : Text
  rng : Bytes
  requestHeader : ℕ → MsgType × Fin 65536
  responseHeader : ℕ → MsgType × Fin 65536
  transaction : Transaction
  clientTransaction : ℕ → Transaction
  resource : ℕ
  handled : Message

def stamp (header : MsgType × Fin 65536) (m : Message) : Message :=
  { m with type := some header.1, mid := some header.2.val }

structure System where
  client : State
  server : State
  outstanding : Message
  /-- The server's transaction, which all requests of the token share. -/
  transaction : Transaction

inductive Outcome where
  | again (sys : System)
  | finished (response : Message)
  | raised (e : PyErr)
  | rejected (code : ℕ)

/-- The request layer, which does nothing once the transaction has a resource. -/
def handle (net : Network) (t : Transaction) : Transaction :=
  match t.resource with
  | none => { t with response := some net.handled, resource := some net.resource }
  | some _ => t

def reply (net : Network) (n : ℕ) : Action PyErr (State × Transaction) Message := fun (s, t) =>
  match t.response with
  | none => (.error .attributeError, s, t)
  | some response =>
    let response := stamp (net.responseHeader n) response
    (.ok response, s, { t with response := some response })

def respond (net : Network) (n : ℕ) : Action PyErr (State × Transaction) Message := fun st =>
  match sendResponse st with
  | (.error e, st) => (.error e, st)
  | (.ok (), st) => reply net n st

def serve (net : Network) (n : ℕ) : Action PyErr (State × Transaction) Message := fun (s, t) =>
  match receiveRequest net.rng (s, t) with
  | (.error e, st) => (.error e, st)
  | (.ok (), s, t) =>
    if t.blockTransfer then reply net n (s, t) else respond net n (s, handle net t)

def receivedResponse (net : Network) (n : ℕ) (sys : System) (server : State)
    (transaction : Transaction) (response : Message) : Outcome :=
  match receiveResponse net.rng (sys.client, { net.clientTransaction n with
      request := sys.outstanding
      response := some response }) with
  | (.error e, _) => .raised e
  | (.ok _, client, t) =>
    if t.blockTransfer then
      .again ⟨client, server, stamp (net.requestHeader (n + 1)) t.request, transaction⟩
    else
      match t.response with
      | none => .raised .attributeError
      | some response => .finished response

def round (net : Network) (n : ℕ) (sys : System) : Outcome :=
  match transfer net.rng net.scheme net.client net.server sys.outstanding with
  | .error e => .raised e
  | .ok (.code c) => .rejected c
  | .ok (.message request) =>
    match serve net n (sys.server, { sys.transaction with request := request }) with
    | (.error e, _) => .raised e
    | (.ok response, server, transaction) =>
      match transfer net.rng net.scheme net.server net.client response with
      | .error e => .raised e
      | .ok (.code c) => .rejected c
      | .ok (.message response) => receivedResponse net n sys server transaction response

def rounds (net : Network) : ℕ → ℕ → System → Outcome
  | 0, _, sys => .again sys
  | fuel + 1, n, sys =>
    match round net n sys with
    | .again sys => rounds net fuel (n + 1) sys
    | outcome => outcome

def download (net : Network) (fuel : ℕ) (request : Message) (client server : State) : Outcome :=
  match sendRequest request client with
  | (.error e, _) => .raised e
  | (.ok r, s) => rounds net fuel 0 ⟨s, server, stamp (net.requestHeader 0) r, net.transaction⟩

/-- A request without Block options that fits into one datagram. -/
structure PlainRequest (token : Bytes) (request : Message) : Prop where
  code : ∃ c ∈ Codes.list, request.code = some c ∧ isRequest c = true
  token_eq : request.token = some token
  token_pos : 1 ≤ token.length
  token_le : token.length ≤ 15
  options : ∀ o ∈ request.options.toList, Encodable o
  payload : BytesPayload request.payload
  small : (request.payload.map Payload.length).getD 0 ≤ maxPayload
  unicast : request.multicast = false
  addressed : request.destination ≠ none
  block1 : request.block1 = .ok none
  block2 : request.block2 = .ok none

/-- The handler's response carries a representation of several blocks. -/
structure Represents (token body : Bytes) (handled : Message) : Prop where
  code : ∃ c ∈ Codes.list, handled.code = some c ∧ isResponse c = true
  token : handled.token = some token
  options : ∀ o ∈ handled.options.toList, Encodable o
  payload : handled.payload = some (.bytes body)
  block1 : handled.block1 = .ok none
  large : maxPayload < body.length

structure Fresh (net : Network) (token : Bytes) (client server : State) : Prop where
  client : client.block2Sent.get? (key net.server (.bytes token)) = none
  server : server.block2Receive.get? (key net.client (.bytes token)) = none
  resource : net.transaction.resource = none
  blockTransfer : net.transaction.blockTransfer = false

/-- The caller gets the representation after finitely many rounds, in which nothing raises. -/
def Delivered (net : Network) (body : Bytes) (request : Message) (client server : State) : Prop :=
  ∃ fuel response, download net fuel request client server = .finished response ∧
    response.payload = some (.bytes body)

theorem moreBlocks_le (num size length : ℕ) : moreBlocks num size length ≤ 1 := by
  unfold moreBlocks
  split <;> omega

section Rounds
variable (net : Network) (token body : Bytes) (request : Message)

structure Requests (i : ℕ) (m : Message) : Prop where
  type : ∃ t, m.type = some t
  code : m.code = request.code
  mid : ∃ n : ℕ, n ≤ 65535 ∧ m.mid = some (n : ℤ)
  token : m.token = some token
  options : ∀ o ∈ m.options.toList, Encodable o
  payload : m.payload = request.payload
  unicast : m.multicast = false
  addressed : m.destination ≠ none
  block1 : m.block1 = .ok none
  block2 : m.block2 = .ok (if i = 0 then none else some (i % 2 ^ 20, 0, maxPayload))

/-- What all responses of the exchange have from the handler. -/
structure Handled (r : Message) : Prop where
  code : r.code = net.handled.code
  token : r.token = some token
  options : ∀ o ∈ r.options.toList, Encodable o
  block1 : r.block1 = .ok none
  contentType : r.contentType = net.handled.contentType

/-- The response with block number `num` that carries the bytes from `byte` on. -/
structure Replies (num byte : ℕ) (r : Message) : Prop extends Handled net token r where
  type : ∃ t, r.type = some t
  mid : ∃ n : ℕ, n ≤ 65535 ∧ r.mid = some (n : ℤ)
  payload : r.payload = some (.bytes (slice body byte (byte + maxPayload)))
  block2 : r.block2 = .ok (some (num, moreBlocks num maxPayload body.length, maxPayload))

def ServerHolds (byte : ℕ) (s : State) : Prop :=
  ∃ item, s.block2Receive.get? (key net.client (.bytes token)) = some item ∧
    item.byte = byte ∧ item.payload = some (.bytes body)

structure Serving (t : Transaction) : Prop where
  blockTransfer : t.blockTransfer = false
  resource : t.resource ≠ none
  response : ∃ r, t.response = some r ∧ Handled net token r

/-- The client has the first `i` blocks. -/
def ClientHolds (i : ℕ) (s : State) : Prop :=
  ∃ item, s.block2Sent.get? (key net.server (.bytes token)) = some item ∧ item.num = i ∧
    item.payload = some (.bytes (body.take (i * maxPayload))) ∧
    item.contentType = net.handled.contentType

theorem requests_encodable (i : ℕ) (m : Message) (hplain : PlainRequest token request)
    (h : Requests token request i m) : UdpEncodable m where
  type := h.type
  code := by
    obtain ⟨c, hc, hcode, hkind⟩ := hplain.code
    exact ⟨c, hc, h.code.trans hcode, Or.inl hkind⟩
  mid := h.mid
  token := ⟨token, h.token, hplain.token_pos, hplain.token_le⟩
  options := h.options
  payload := by
    rw [h.payload]
    exact hplain.payload

theorem replies_encodable (num byte : ℕ) (r : Message) (hplain : PlainRequest token request)
    (hrepresents : Represents token body net.handled)
    (h : Replies net token body num byte r) : UdpEncodable r where
  type := h.type
  code := by
    obtain ⟨c, hc, hcode, hkind⟩ := hrepresents.code
    exact ⟨c, hc, h.code.trans hcode, Or.inr hkind⟩
  mid := h.mid
  token := ⟨token, h.token, hplain.token_pos, hplain.token_le⟩
  options := h.options
  payload := by
    rw [h.payload]
    trivial

theorem blockValue_encodable (item : OptionItem) (num more : ℕ)
    (h : OptionRegistry.find? item.number = some item) (hi : item.valueType = .INTEGER)
    (hnum : num ≤ 2 ^ 20) (hm : more ≤ 1) :
    Encodable (intOption item (Message.blockValue num more maxPayload) h hi) := by
  apply intOption_encodable
  have hszx := szx_lt maxPayload
  have hlt : Message.blockValue num more maxPayload < 256 ^ 4 := by
    rw [blockValue_eq num more _ hm]
    omega
  have := (byteLen_le_iff _ 4).mpr hlt
  omega

theorem blockOf_handled (r : Message) (item : BlockItem) (hsize : item.size = maxPayload)
    (hnum : item.num < 2 ^ 20) (hsized : byteLen body.length ≤ 65804)
    (h : Handled net token r) : Handled net token (blockOf r item (.bytes body)) := by
  refine ⟨h.code, h.token, ?_, ?_, ?_⟩
  · intro o ho
    rcases mem_replace _ _ _ _ _ o ho with hold | rfl
    · rcases mem_replace _ _ _ _ _ o hold with hold | rfl
      · exact h.options o hold
      · exact intOption_encodable _ _ _ _ hsized
    · rw [hsize]
      exact blockValue_encodable _ _ _ _ _ (by omega) (moreBlocks_le _ _ _)
  · refine (block1_withBlock2 _ _ _ _).trans ((block_congr _ _ _ ?_).trans h.block1)
    exact ofNumber_replace_of_ne r OptionRegistry.size2 _ rfl rfl _ (by decide)
  · refine (contentType_withBlock2 _ _ _ _).trans ((contentType_congr _ _ ?_).trans h.contentType)
    exact ofNumber_replace_of_ne r OptionRegistry.size2 _ rfl rfl _ (by decide)

theorem stamp_handled (header : MsgType × Fin 65536) (r : Message) (h : Handled net token r) :
    Handled net token (stamp header r) :=
  ⟨h.code, h.token, h.options, h.block1, h.contentType⟩

theorem stamp_replies (header : MsgType × Fin 65536) (num byte : ℕ) (r : Message)
    (h : Handled net token r)
    (hpayload : r.payload = some (.bytes (slice body byte (byte + maxPayload))))
    (hblock2 : r.block2 = .ok (some (num, moreBlocks num maxPayload body.length, maxPayload))) :
    Replies net token body num byte (stamp header r) where
  toHandled := stamp_handled net token header r h
  type := ⟨header.1, rfl⟩
  mid := ⟨header.2.val, by omega, rfl⟩
  payload := hpayload
  block2 := hblock2

/-- Sending a response of the exchange: block `num` goes out with the bytes from the entry's
position on, and the entry moves on by one block. -/
theorem send_block (n : ℕ) (s : State) (t : Transaction) (response : Message) (item : BlockItem)
    (hsource : t.request.source = some net.client) (htoken : t.request.token = some token)
    (htransfer : t.blockTransfer = false) (hresource : t.resource ≠ none)
    (hresponse : t.response = some response) (hhandled : Handled net token response)
    (hitem : outgoingItem s (key net.client (.bytes token)) (some response) =
      some (item, .bytes body))
    (hpayload : item.payload = some (.bytes body)) (hsize : item.size = maxPayload)
    (hnum : item.num < 2 ^ 20) (hlarge : maxPayload < body.length)
    (hsized : byteLen body.length ≤ 65804) :
    ∃ s' t' r, respond net n (s, t) = (.ok r, s', t') ∧
      ServerHolds net token body (item.byte + maxPayload) s' ∧ Serving net token t' ∧
      Replies net token body item.num item.byte r := by
  have hkey : key net.client (tokenArg t.request.token) = key net.client (.bytes token) := by
    rw [htoken]
    rfl
  have hsend := sendResponse_block s t net.client response item (.bytes body) hsource hresponse
    (by rwa [hkey]) hlarge
  have hblock := blockOf_handled net token body response item hsize hnum hsized hhandled
  have hmore := moreBlocks_le item.num item.size body.length
  unfold respond
  rw [hsend]
  refine ⟨_, _, _, rfl, ?_, ?_, ?_⟩
  · refine ⟨{ item with byte := item.byte + item.size, num := item.num + 1 }, ?_, ?_, hpayload⟩
    · rw [hkey, Dict.get?_insert_self]
    · change item.byte + item.size = _
      rw [hsize]
  · exact ⟨htransfer, hresource, _, rfl, stamp_handled net token _ _ hblock⟩
  · refine stamp_replies net token body _ item.num item.byte _ hblock ?_ ?_
    · rw [← hsize]
      rfl
    · have hblock2 := block2_withBlock2_max
        ((replace response OptionRegistry.size2 body.length rfl rfl).setPayload
          (some (.bytes (slice body item.byte (item.byte + item.size))))) item.num
        (moreBlocks item.num item.size body.length) hmore
      rw [Nat.mod_eq_of_lt hnum] at hblock2
      rw [← hsize] at hblock2 ⊢
      exact hblock2

theorem handle_of_ne_none (t : Transaction) (h : t.resource ≠ none) : handle net t = t := by
  unfold handle
  split
  · next hnone => exact absurd hnone h
  · rfl

theorem serve_first (n : ℕ) (s : State) (t : Transaction)
    (hsource : t.request.source = some net.client) (htoken : t.request.token = some token)
    (hblock1 : t.request.block1 = .ok none) (hblock2 : t.request.block2 = .ok none)
    (htransfer : t.blockTransfer = false) (hresource : t.resource = none)
    (hfree : s.block2Receive.get? (key net.client (.bytes token)) = none)
    (hrepresents : Represents token body net.handled) (hsized : byteLen body.length ≤ 65804) :
    ∃ s' t' r, serve net n (s, t) = (.ok r, s', t') ∧
      ServerHolds net token body maxPayload s' ∧ Serving net token t' ∧
      Replies net token body 0 0 r := by
  have hhandle : handle net t =
      { t with response := some net.handled, resource := some net.resource } := by
    unfold handle
    rw [hresource]
  have hhandled : Handled net token net.handled :=
    ⟨rfl, hrepresents.token, hrepresents.options, hrepresents.block1, rfl⟩
  have hitem := outgoingItem_new s (key net.client (.bytes token)) net.handled (.bytes body) hfree
    hrepresents.payload hrepresents.large
  obtain ⟨s', t', r, hsend, hserver, hserving, hreplies⟩ := send_block net token body n s
    { t with response := some net.handled, resource := some net.resource } net.handled _ hsource
    htoken htransfer (by simp) rfl hhandled hitem rfl rfl (by
      change 0 < 2 ^ 20
      omega) hrepresents.large hsized
  refine ⟨s', t', r, ?_, ?_, hserving, hreplies⟩
  · unfold serve
    dsimp only
    rw [receiveRequest_plain net.rng s t hblock2 hblock1]
    dsimp only
    rw [htransfer, hhandle, ← hsend]
    exact if_neg (by simp)
  · rwa [Nat.zero_add] at hserver

/-- A further request is answered by the block of its number, but with the bytes from the
position at which the server goes on. -/
theorem serve_next (n num byte : ℕ) (s : State) (t : Transaction)
    (hsource : t.request.source = some net.client) (htoken : t.request.token = some token)
    (hblock2 : t.request.block2 = .ok (some (num, 0, maxPayload))) (hnum : num < 2 ^ 20)
    (hserver : ServerHolds net token body byte s) (hserving : Serving net token t)
    (hlarge : maxPayload < body.length) (hsized : byteLen body.length ≤ 65804) :
    ∃ s' t' r, serve net n (s, t) = (.ok r, s', t') ∧
      ServerHolds net token body (byte + maxPayload) s' ∧ Serving net token t' ∧
      Replies net token body num byte r := by
  obtain ⟨item, hitem, hbyte, hpayload⟩ := hserver
  obtain ⟨response, hresponse, hhandled⟩ := hserving.response
  have hkey : key net.client (tokenArg t.request.token) = key net.client (.bytes token) := by
    rw [htoken]
    rfl
  have hreceive := receiveRequest_block2 net.rng s t net.client item num 0 maxPayload hblock2
    hsource (by rwa [hkey])
  rw [hkey] at hreceive
  set item' : BlockItem := { item with num := num, size := maxPayload, m := 0 } with hitem'
  set s₁ : State := { s with
    block2Receive := s.block2Receive.insert (key net.client (.bytes token)) item' } with hs₁
  set t₁ : Transaction := { t with
    completed := truthy item.payload || t.completed
    request := t.request.delBlock2 } with ht₁
  have hhandle : handle net t₁ = t₁ := handle_of_ne_none net t₁ hserving.resource
  have htransfer : t₁.blockTransfer = false := hserving.blockTransfer
  have hout := outgoingItem_stored s₁ (key net.client (.bytes token)) (some response) item'
    (.bytes body) (Dict.get?_insert_self _ _ _) hpayload
  obtain ⟨s', t', r, hsend, hserver', hserving', hreplies⟩ := send_block net token body n s₁ t₁
    response item' hsource htoken htransfer hserving.resource hresponse hhandled hout hpayload rfl
    hnum hlarge hsized
  refine ⟨s', t', r, ?_, ?_, hserving', ?_⟩
  · unfold serve
    dsimp only
    rw [hreceive]
    dsimp only
    rw [htransfer, hhandle, ← hsend]
    exact if_neg (by simp)
  · rwa [← hbyte]
  · rwa [← hbyte]

structure Start (sys : System) : Prop where
  requests : Requests token request 0 sys.outstanding
  client : sys.client.block2Sent.get? (key net.server (.bytes token)) = none
  server : sys.server.block2Receive.get? (key net.client (.bytes token)) = none
  resource : sys.transaction.resource = none
  blockTransfer : sys.transaction.blockTransfer = false

/-- Block `i` has been requested, and the server goes on at `byte`. -/
structure Stage (i byte : ℕ) (sys : System) : Prop where
  pos : i ≠ 0
  requests : Requests token request i sys.outstanding
  client : ClientHolds net token body i sys.client
  server : ServerHolds net token body byte sys.server
  serving : Serving net token sys.transaction

section Crossing
variable (hplain : PlainRequest token request) (hrepresents : Represents token body net.handled)
include hplain hrepresents

theorem round_eq (i n num byte : ℕ) (sys : System)
    (hrequests : Requests token request i sys.outstanding)
    (hserve : ∀ pt, ∃ s t r, serve net n (sys.server, { sys.transaction with
        request := arrived net.scheme net.client net.server pt sys.outstanding }) = (.ok r, s, t) ∧
      ServerHolds net token body (byte + maxPayload) s ∧ Serving net token t ∧
      Replies net token body num byte r) :
    ∃ pt s t r, round net n sys =
        receivedResponse net n sys s t (arrived net.scheme net.server net.client pt r) ∧
      ServerHolds net token body (byte + maxPayload) s ∧ Serving net token t ∧
      Replies net token body num byte r := by
  obtain ⟨pt, hthere⟩ := transfer_eq net.rng net.scheme net.client net.server sys.outstanding
    (requests_encodable token request i sys.outstanding hplain hrequests)
  obtain ⟨s, t, r, hserved, hserver, hserving, hreplies⟩ := hserve pt
  obtain ⟨pt', hback⟩ := transfer_eq net.rng net.scheme net.server net.client r
    (replies_encodable net token body request num byte r hplain hrepresents hreplies)
  refine ⟨pt', s, t, r, ?_, hserver, hserving, hreplies⟩
  unfold round
  rw [hthere]
  dsimp only
  rw [hserved]
  dsimp only
  rw [hback]

variable (hsized : byteLen body.length ≤ 65804)
include hsized

theorem round_start (n : ℕ) (sys : System) (h : Start net token request sys) :
    ∃ pt s t r, round net n sys =
        receivedResponse net n sys s t (arrived net.scheme net.server net.client pt r) ∧
      ServerHolds net token body maxPayload s ∧ Serving net token t ∧
      Replies net token body 0 0 r := by
  have hround := round_eq net token body request hplain hrepresents 0 n 0 0 sys h.requests
  rw [Nat.zero_add] at hround
  apply hround
  intro pt
  exact serve_first net token body n sys.server { sys.transaction with
      request := arrived net.scheme net.client net.server pt sys.outstanding }
    rfl h.requests.token
    ((block_arrived net.scheme net.client net.server pt sys.outstanding _).trans h.requests.block1)
    ((block_arrived net.scheme net.client net.server pt sys.outstanding _).trans h.requests.block2)
    h.blockTransfer h.resource h.server hrepresents hsized

theorem round_stage (i byte n : ℕ) (sys : System) (h : Stage net token body request i byte sys) :
    ∃ pt s t r, round net n sys =
        receivedResponse net n sys s t (arrived net.scheme net.server net.client pt r) ∧
      ServerHolds net token body (byte + maxPayload) s ∧ Serving net token t ∧
      Replies net token body (i % 2 ^ 20) byte r := by
  have hround := round_eq net token body request hplain hrepresents i n (i % 2 ^ 20) byte sys
    h.requests
  apply hround
  intro pt
  have hblock2 := h.requests.block2
  rw [if_neg h.pos] at hblock2
  exact serve_next net token body n (i % 2 ^ 20) byte sys.server { sys.transaction with
      request := arrived net.scheme net.client net.server pt sys.outstanding }
    rfl h.requests.token
    ((block_arrived net.scheme net.client net.server pt sys.outstanding _).trans hblock2)
    (by omega) h.server
    ⟨h.serving.blockTransfer, h.serving.resource, h.serving.response⟩ hrepresents.large hsized

end Crossing

section Client
variable (n num byte : ℕ) (sys : System) (server : State) (transaction : Transaction) (pt : Value)
  (r : Message)

def answered (sys : System) (response : Message) : Transaction :=
  { net.clientTransaction n with request := sys.outstanding, response := some response }

theorem clientTransaction_answered (response : Message) :
    { net.clientTransaction n with request := sys.outstanding, response := some response } =
      answered net n sys response := rfl

theorem receiveResponse_replies (hreplies : Replies net token body num byte r) :
    receiveResponse net.rng (sys.client,
        answered net n sys (arrived net.scheme net.server net.client pt r)) =
      returned (receiveBlock2Response net.rng (key net.server (.bytes token))
        (arrived net.scheme net.server net.client pt r) (sys.client,
          answered net n sys (arrived net.scheme net.server net.client pt r))) := by
  have hblock1 : (arrived net.scheme net.server net.client pt r).block1 = .ok none :=
    (block_arrived _ _ _ _ _ _).trans hreplies.block1
  have hreceive := receiveResponse_block2 net.rng sys.client
    (answered net n sys (arrived net.scheme net.server net.client pt r))
    (arrived net.scheme net.server net.client pt r) net.server rfl rfl hblock1
  rwa [show (arrived net.scheme net.server net.client pt r).token = some token from
    hreplies.token] at hreceive

theorem payload_arrived (hreplies : Replies net token body num byte r)
    (hbyte : byte < body.length) :
    (arrived net.scheme net.server net.client pt r).payload =
      some (.bytes (slice body byte (byte + maxPayload))) := by
  have hmax : maxPayload = 1024 := rfl
  have hpos : slice body byte (byte + maxPayload) ≠ [] := by
    apply List.ne_nil_of_length_pos
    rw [slice, List.length_take, List.length_drop, hmax]
    omega
  change wirePayload r.payload = _
  rw [hreplies.payload]
  generalize slice body byte (byte + maxPayload) = b at hpos ⊢
  cases b with
  | nil => exact absurd rfl hpos
  | cons x b => rfl

theorem requests_next (i j : ℕ) (header : MsgType × Fin 65536) (m : Message) (hj : j < 2 ^ 20)
    (h : Requests token request i m) :
    Requests token request (j + 1)
      (stamp header (withBlock2 m.delMid (j + 1) 0 maxPayload)) where
  type := ⟨header.1, rfl⟩
  code := h.code
  mid := ⟨header.2.val, by omega, rfl⟩
  token := h.token
  options := by
    intro o ho
    rcases mem_replace _ _ _ _ _ o ho with hold | rfl
    · exact h.options o hold
    · exact blockValue_encodable _ _ _ _ _ (by omega) (by omega)
  payload := h.payload
  unicast := h.unicast
  addressed := h.addressed
  block1 := (block1_withBlock2 m.delMid _ _ _).trans h.block1
  block2 := block2_withBlock2_max m.delMid (j + 1) 0 (by omega)

theorem take_append_slice (i : ℕ) :
    body.take (i * maxPayload) ++ slice body (i * maxPayload) (i * maxPayload + maxPayload) =
      body.take ((i + 1) * maxPayload) := by
  rw [slice, Nat.succ_mul, List.take_add, Nat.add_sub_cancel_left]

theorem received_first (hstart : Start net token request sys)
    (hserver : ServerHolds net token body maxPayload server)
    (hserving : Serving net token transaction) (hreplies : Replies net token body 0 0 r)
    (hlarge : maxPayload < body.length) :
    ∃ sys', receivedResponse net n sys server transaction
        (arrived net.scheme net.server net.client pt r) = .again sys' ∧
      Stage net token body request 1 maxPayload sys' := by
  set response := arrived net.scheme net.server net.client pt r with hresponse
  have hmore : moreBlocks 0 maxPayload body.length = 1 := if_neg (by omega)
  have hblock2 : response.block2 = .ok (some (0, 1, maxPayload)) := by
    have hblock := (block_arrived net.scheme net.server net.client pt r
      OptionRegistry.block2.number).trans hreplies.block2
    rwa [hmore] at hblock
  have hpayload := payload_arrived net token body 0 0 pt r hreplies (by omega)
  have hreceive := receiveResponse_replies net token body n 0 0 sys pt r hreplies
  rw [receiveBlock2Response_first net.rng sys.client _ _ _ 0 maxPayload hblock2 hstart.client,
    hpayload] at hreceive
  unfold receivedResponse
  rw [clientTransaction_answered, hreceive]
  refine ⟨_, rfl, ?_⟩
  refine ⟨by omega, ?_, ?_, hserver, hserving⟩
  · exact requests_next token request 0 0 _ _ (by omega) hstart.requests
  · refine ⟨_, Dict.get?_insert_self _ _ _, rfl, ?_, ?_⟩
    · rw [← take_append_slice, Nat.zero_mul, List.take_zero, List.nil_append, Nat.zero_add]
    · exact (contentType_arrived _ _ _ _ _).trans hreplies.contentType

theorem received_next (i : ℕ) (hi : i < 2 ^ 20)
    (hstage : Stage net token body request i (i * maxPayload) sys)
    (hserver : ServerHolds net token body ((i + 1) * maxPayload) server)
    (hserving : Serving net token transaction)
    (hreplies : Replies net token body i (i * maxPayload) r)
    (hmore : (i + 1) * maxPayload ≤ body.length) :
    ∃ sys', receivedResponse net n sys server transaction
        (arrived net.scheme net.server net.client pt r) = .again sys' ∧
      Stage net token body request (i + 1) ((i + 1) * maxPayload) sys' := by
  set response := arrived net.scheme net.server net.client pt r with hresponse
  have hmax : maxPayload = 1024 := rfl
  have hflag : moreBlocks i maxPayload body.length = 1 := by
    apply if_neg
    rw [Nat.succ_mul] at hmore
    omega
  obtain ⟨item, hitem, hnum, hheld, htype⟩ := hstage.client
  have hblock2 : response.block2 = .ok (some (item.num, 1, maxPayload)) := by
    have hblock := (block_arrived net.scheme net.server net.client pt r
      OptionRegistry.block2.number).trans hreplies.block2
    rwa [hflag, ← hnum] at hblock
  have hcontent : response.contentType = net.handled.contentType :=
    (contentType_arrived _ _ _ _ _).trans hreplies.contentType
  have hpayload := payload_arrived net token body i (i * maxPayload) pt r hreplies (by
    rw [hmax] at hmore ⊢
    omega)
  have hreceive := receiveResponse_replies net token body n i (i * maxPayload) sys pt r hreplies
  rw [receiveBlock2Response_next net.rng sys.client _ _ _ maxPayload item _ _ hblock2 hitem
    (Or.inr (htype.trans hcontent.symm)) hheld hpayload, take_append_slice, hnum] at hreceive
  unfold receivedResponse
  rw [clientTransaction_answered, hreceive]
  refine ⟨_, rfl, ?_⟩
  refine ⟨by omega, ?_, ?_, hserver, hserving⟩
  · exact requests_next token request i i _ _ hi hstage.requests
  · exact ⟨_, Dict.get?_insert_self _ _ _, rfl, rfl, hcontent⟩

/-- The last block completes the representation, if it carries any bytes; a block without bytes
arrives without a payload, which cannot be appended. -/
theorem received_last (i : ℕ) (hstage : Stage net token body request i (i * maxPayload) sys)
    (hreplies : Replies net token body i (i * maxPayload) r)
    (hlast : body.length < (i + 1) * maxPayload) (hle : i * maxPayload ≤ body.length) :
    (i * maxPayload < body.length ∧ ∃ response,
        receivedResponse net n sys server transaction
          (arrived net.scheme net.server net.client pt r) = .finished response ∧
        response.payload = some (.bytes body)) ∨
      (i * maxPayload = body.length ∧ receivedResponse net n sys server transaction
        (arrived net.scheme net.server net.client pt r) = .raised .typeError) := by
  set response := arrived net.scheme net.server net.client pt r with hresponse
  have hflag : moreBlocks i maxPayload body.length = 0 := by
    apply if_pos
    rw [Nat.succ_mul] at hlast
    omega
  obtain ⟨item, hitem, hnum, hheld, htype⟩ := hstage.client
  have hblock2 : response.block2 = .ok (some (i, 0, maxPayload)) := by
    have hblock := (block_arrived net.scheme net.server net.client pt r
      OptionRegistry.block2.number).trans hreplies.block2
    rwa [hflag] at hblock
  have hcontent : response.contentType = net.handled.contentType :=
    (contentType_arrived _ _ _ _ _).trans hreplies.contentType
  have hreceive := receiveResponse_replies net token body n i (i * maxPayload) sys pt r hreplies
  rw [receiveBlock2Response_last net.rng sys.client _ _ _ i maxPayload item _ hblock2 hitem
    (htype.trans hcontent.symm) hheld] at hreceive
  unfold receivedResponse
  rw [clientTransaction_answered, hreceive]
  rcases Nat.lt_or_ge (i * maxPayload) body.length with hlt | hge
  · have hpayload := payload_arrived net token body i (i * maxPayload) pt r hreplies hlt
    rw [← hresponse] at hpayload
    refine Or.inl ⟨hlt, ?_⟩
    rw [hpayload]
    refine ⟨_, rfl, ?_⟩
    change some (Payload.bytes (body.take (i * maxPayload) ++
      slice body (i * maxPayload) (i * maxPayload + maxPayload))) = _
    rw [take_append_slice, List.take_of_length_le (by omega)]
  · refine Or.inr ⟨by omega, ?_⟩
    have hempty : response.payload = none := by
      change wirePayload r.payload = none
      rw [hreplies.payload, slice, List.drop_of_length_le (by omega), List.take_nil]
      rfl
    rw [hempty]
    rfl

theorem received_unwanted (i : ℕ) (hplain : PlainRequest token request)
    (hstage : Stage net token body request i byte sys)
    (hserver : ServerHolds net token body (byte + maxPayload) server)
    (hserving : Serving net token transaction)
    (hreplies : Replies net token body num byte r) (hnum : num ≠ i)
    (hmore : num * maxPayload + maxPayload ≤ body.length) :
    ∃ sys', receivedResponse net n sys server transaction
        (arrived net.scheme net.server net.client pt r) = .again sys' ∧
      Stage net token body request i (byte + maxPayload) sys' := by
  set response := arrived net.scheme net.server net.client pt r with hresponse
  have hflag : moreBlocks num maxPayload body.length = 1 := if_neg (by omega)
  obtain ⟨item, hitem, hi, hheld, htype⟩ := hstage.client
  have hblock2 : response.block2 = .ok (some (num, 1, maxPayload)) := by
    have hblock := (block_arrived net.scheme net.server net.client pt r
      OptionRegistry.block2.number).trans hreplies.block2
    rwa [hflag] at hblock
  have hreceive := receiveResponse_replies net token body n num byte sys pt r hreplies
  obtain ⟨reply, hunwanted⟩ := receiveBlock2Response_unwanted net.rng sys.client
    (answered net n sys response) (key net.server (.bytes token)) response num maxPayload 1 item
    token hblock2 rfl hitem (by rwa [hi]) hstage.requests.unicast
    hstage.requests.addressed hstage.requests.token
    (by
      have := hplain.token_le
      omega)
  rw [hunwanted] at hreceive
  unfold receivedResponse
  rw [clientTransaction_answered, hreceive]
  refine ⟨_, rfl, hstage.pos, ?_, ⟨item, hitem, hi, hheld, htype⟩, hserver, hserving⟩
  have hrequests := hstage.requests
  exact ⟨⟨_, rfl⟩, hrequests.code, ⟨_, by omega, rfl⟩, hrequests.token, hrequests.options,
    hrequests.payload, hrequests.unicast, hrequests.addressed, hrequests.block1,
    hrequests.block2⟩

end Client

section Runs
variable (hplain : PlainRequest token request) (hrepresents : Represents token body net.handled)
include hplain hrepresents

theorem round_next (hsized : byteLen body.length ≤ 65804) (i n : ℕ) (sys : System)
    (hi : i < 2 ^ 20) (hstage : Stage net token body request i (i * maxPayload) sys)
    (hmore : (i + 1) * maxPayload ≤ body.length) :
    ∃ sys', round net n sys = .again sys' ∧
      Stage net token body request (i + 1) ((i + 1) * maxPayload) sys' := by
  obtain ⟨pt, server, transaction, r, hround, hserver, hserving, hreplies⟩ :=
    round_stage net token body request hplain hrepresents hsized i (i * maxPayload) n sys hstage
  rw [← Nat.succ_mul] at hserver
  rw [Nat.mod_eq_of_lt hi] at hreplies
  rw [hround]
  exact received_next net token body request n sys server transaction pt r i hi hstage hserver
    hserving hreplies hmore

theorem round_last (hsized : byteLen body.length ≤ 65804) (i n : ℕ) (sys : System)
    (hi : i < 2 ^ 20) (hstage : Stage net token body request i (i * maxPayload) sys)
    (hlast : body.length < (i + 1) * maxPayload) (hle : i * maxPayload ≤ body.length) :
    (i * maxPayload < body.length ∧ ∃ response, round net n sys = .finished response ∧
        response.payload = some (.bytes body)) ∨
      (i * maxPayload = body.length ∧ round net n sys = .raised .typeError) := by
  obtain ⟨pt, server, transaction, r, hround, _, _, hreplies⟩ :=
    round_stage net token body request hplain hrepresents hsized i (i * maxPayload) n sys hstage
  rw [Nat.mod_eq_of_lt hi] at hreplies
  rw [hround]
  exact received_last net token body request n sys server transaction pt r i hstage hreplies hlast
    hle

/-- Beyond the range of block numbers the server answers with block number 0, for ever. -/
theorem round_stuck (hsized : byteLen body.length ≤ 65804) (byte n : ℕ) (sys : System)
    (hstage : Stage net token body request (2 ^ 20) byte sys) :
    ∃ sys', round net n sys = .again sys' ∧
      Stage net token body request (2 ^ 20) (byte + maxPayload) sys' := by
  have hlarge := hrepresents.large
  obtain ⟨pt, server, transaction, r, hround, hserver, hserving, hreplies⟩ :=
    round_stage net token body request hplain hrepresents hsized (2 ^ 20) byte n sys hstage
  rw [Nat.mod_self] at hreplies
  rw [hround]
  exact received_unwanted net token body request n 0 byte sys server transaction pt r (2 ^ 20)
    hplain hstage hserver hserving hreplies (by omega) (by omega)

theorem rounds_finished (hbound : body.length < 2 ^ 30) (hpart : body.length % maxPayload ≠ 0)
    (hsized : byteLen body.length ≤ 65804) (k i n : ℕ) (sys : System)
    (hk : (i + k) * maxPayload ≤ body.length ∧ body.length < (i + k + 1) * maxPayload)
    (hstage : Stage net token body request i (i * maxPayload) sys) :
    ∃ fuel response, rounds net fuel n sys = .finished response ∧
      response.payload = some (.bytes body) := by
  have hmax : maxPayload = 1024 := rfl
  induction k generalizing i n sys with
  | zero =>
    have hi : i < 2 ^ 20 := by
      rw [hmax] at hk
      omega
    rcases round_last net token body request hplain hrepresents hsized i n sys hi hstage hk.2 hk.1
      with ⟨_, response, hround, hpayload⟩ | ⟨hwhole, _⟩
    · refine ⟨1, response, ?_, hpayload⟩
      rw [rounds, hround]
    · rw [← hwhole, Nat.mul_mod_left] at hpart
      exact absurd rfl hpart
  | succ k ih =>
    have hi : i < 2 ^ 20 := by
      rw [hmax] at hk
      omega
    have hmore : (i + 1) * maxPayload ≤ body.length := by
      rw [hmax] at hk ⊢
      omega
    have hk' : i + (k + 1) = i + 1 + k := by omega
    rw [hk'] at hk
    obtain ⟨sys', hround, hstage'⟩ := round_next net token body request hplain hrepresents hsized
      i n sys hi hstage hmore
    obtain ⟨fuel, response, hrounds, hpayload⟩ := ih (i + 1) (n + 1) sys' hk hstage'
    refine ⟨fuel + 1, response, ?_, hpayload⟩
    rw [rounds, hround]
    exact hrounds

/-- A representation of whole blocks is never handed over: its last block is empty. -/
theorem rounds_whole (hbound : body.length < 2 ^ 30) (hwhole : body.length % maxPayload = 0)
    (hsized : byteLen body.length ≤ 65804) (fuel i n : ℕ) (sys : System)
    (hle : i * maxPayload ≤ body.length)
    (hstage : Stage net token body request i (i * maxPayload) sys) (response : Message) :
    rounds net fuel n sys ≠ .finished response := by
  have hmax : maxPayload = 1024 := rfl
  induction fuel generalizing i n sys with
  | zero => simp [rounds]
  | succ fuel ih =>
    have hi : i < 2 ^ 20 := by
      rw [hmax] at hle
      omega
    rw [rounds]
    rcases Nat.lt_or_ge body.length ((i + 1) * maxPayload) with hlast | hmore
    · rcases round_last net token body request hplain hrepresents hsized i n sys hi hstage hlast hle
        with ⟨hlt, _⟩ | ⟨_, hround⟩
      · rw [hmax] at hwhole hlt hlast
        omega
      · rw [hround]
        simp
    · obtain ⟨sys', hround, hstage'⟩ := round_next net token body request hplain hrepresents hsized
        i n sys hi hstage hmore
      rw [hround]
      exact ih (i + 1) (n + 1) sys' hmore hstage'

theorem rounds_stuck (hsized : byteLen body.length ≤ 65804) (fuel byte n : ℕ) (sys : System)
    (hstage : Stage net token body request (2 ^ 20) byte sys) (response : Message) :
    rounds net fuel n sys ≠ .finished response := by
  induction fuel generalizing byte n sys with
  | zero => simp [rounds]
  | succ fuel ih =>
    obtain ⟨sys', hround, hstage'⟩ := round_stuck net token body request hplain hrepresents hsized
      byte n sys hstage
    rw [rounds, hround]
    exact ih (byte + maxPayload) (n + 1) sys' hstage'

theorem rounds_huge (hbound : 2 ^ 30 ≤ body.length) (hsized : byteLen body.length ≤ 65804)
    (fuel i n : ℕ) (sys : System) (hi : i ≤ 2 ^ 20)
    (hstage : Stage net token body request i (i * maxPayload) sys) (response : Message) :
    rounds net fuel n sys ≠ .finished response := by
  have hmax : maxPayload = 1024 := rfl
  induction fuel generalizing i n sys with
  | zero => simp [rounds]
  | succ fuel ih =>
    rcases Nat.lt_or_ge i (2 ^ 20) with hlt | hge
    · obtain ⟨sys', hround, hstage'⟩ := round_next net token body request hplain hrepresents hsized
        i n sys hlt hstage (by
          rw [hmax]
          omega)
      rw [rounds, hround]
      exact ih (i + 1) (n + 1) sys' hlt hstage'
    · have hlast : i = 2 ^ 20 := by omega
      subst hlast
      exact rounds_stuck net token body request hplain hrepresents hsized (fuel + 1) _ n sys hstage
        response

/-- The length of the representation is an option of the reply, which has to be encodable too. -/
theorem round_unsized (hlong : 65804 < byteLen body.length) (n : ℕ) (sys : System)
    (h : Start net token request sys) : ∃ e, round net n sys = .raised e := by
  obtain ⟨pt, hthere⟩ := transfer_eq net.rng net.scheme net.client net.server sys.outstanding
    (requests_encodable token request 0 sys.outstanding hplain h.requests)
  set t : Transaction := { sys.transaction with
    request := arrived net.scheme net.client net.server pt sys.outstanding } with ht
  set t₁ : Transaction :=
    { t with response := some net.handled, resource := some net.resource } with ht₁
  have hhandle : handle net t = t₁ := by
    unfold handle
    rw [show t.resource = none from h.resource]
  have hreceive := receiveRequest_plain net.rng sys.server t
    ((block_arrived net.scheme net.client net.server pt sys.outstanding _).trans h.requests.block2)
    ((block_arrived net.scheme net.client net.server pt sys.outstanding _).trans h.requests.block1)
  have hkey : key net.client (tokenArg t₁.request.token) = key net.client (.bytes token) := by
    rw [show t₁.request.token = some token from h.requests.token]
    rfl
  have hitem := outgoingItem_new sys.server (key net.client (.bytes token)) net.handled
    (.bytes body) h.server hrepresents.payload hrepresents.large
  have hsend := sendResponse_block sys.server t₁ net.client net.handled _ (.bytes body) rfl rfl
    (by rwa [hkey]) hrepresents.large
  set r := stamp (net.responseHeader n) (blockOf net.handled
    ⟨0, 0, 1, maxPayload, some (.bytes body), net.handled.contentType⟩ (.bytes body)) with hr
  have hmem : intOption OptionRegistry.size2 body.length rfl rfl ∈ r.options.toList := by
    have hof : ofNumber OptionRegistry.size2.number r.options =
        [intOption OptionRegistry.size2 body.length rfl rfl] :=
      (ofNumber_replace_of_ne _ OptionRegistry.block2 _ rfl rfl _ (by decide)).trans
        (ofNumber_replace_self net.handled OptionRegistry.size2 _ rfl rfl)
    exact List.mem_of_mem_filter (hof ▸ List.mem_singleton.mpr rfl)
  obtain ⟨e, hback⟩ := transfer_error net.rng net.scheme net.server net.client r _ hmem hlong
  have hserve : ∃ s t', serve net n (sys.server, t) = (.ok r, s, t') := by
    unfold serve
    dsimp only
    rw [hreceive]
    dsimp only
    rw [if_neg (by simp [show t.blockTransfer = false from h.blockTransfer]), hhandle]
    unfold respond
    rw [hsend]
    exact ⟨_, _, rfl⟩
  obtain ⟨s, t', hserve⟩ := hserve
  refine ⟨e, ?_⟩
  unfold round
  rw [hthere]
  dsimp only
  rw [← ht, hserve]
  dsimp only
  rw [hback]

omit hrepresents in
theorem sendRequest_plain (client : State) :
    sendRequest request client = (.ok request, client) := by
  have hsmall := hplain.small
  unfold sendRequest
  rw [hplain.block1]
  dsimp only
  rw [if_neg (by omega), hplain.block2]

omit hrepresents in
theorem download_eq (client server : State) (fuel : ℕ) :
    download net fuel request client server =
      rounds net fuel 0 ⟨client, server, stamp (net.requestHeader 0) request, net.transaction⟩ := by
  unfold download
  rw [sendRequest_plain token request hplain client]

variable (client server : State) (hfresh : Fresh net token client server)
include hfresh

omit hrepresents in
theorem start :
    Start net token request
      ⟨client, server, stamp (net.requestHeader 0) request, net.transaction⟩ where
  requests :=
    { type := ⟨_, rfl⟩
      code := rfl
      mid := ⟨(net.requestHeader 0).2.val, by omega, rfl⟩
      token := hplain.token_eq
      options := hplain.options
      payload := rfl
      unicast := hplain.unicast
      addressed := hplain.addressed
      block1 := hplain.block1
      block2 := hplain.block2 }
  client := hfresh.client
  server := hfresh.server
  resource := hfresh.resource
  blockTransfer := hfresh.blockTransfer

theorem download_succ (hsized : byteLen body.length ≤ 65804) :
    ∃ sys, Stage net token body request 1 (1 * maxPayload) sys ∧
      ∀ fuel, download net (fuel + 1) request client server = rounds net fuel 1 sys := by
  have hstart := start net token request hplain client server hfresh
  obtain ⟨pt, s, t, r, hround, hserver, hserving, hreplies⟩ :=
    round_start net token body request hplain hrepresents hsized 0 _ hstart
  obtain ⟨sys, hagain, hstage⟩ := received_first net token body request 0 _ s t pt r hstart hserver
    hserving hreplies hrepresents.large
  refine ⟨sys, by rwa [Nat.one_mul], ?_⟩
  intro fuel
  rw [download_eq net token request hplain client server, rounds, hround,
    hagain]

theorem delivered_of_part (hpart : body.length % maxPayload ≠ 0) (hbound : body.length < 2 ^ 30) :
    Delivered net body request client server := by
  have hmax : maxPayload = 1024 := rfl
  have hlarge := hrepresents.large
  have hsized : byteLen body.length ≤ 65804 := by
    have := (byteLen_le_iff body.length 4).mpr (by omega)
    omega
  obtain ⟨sys, hstage, hdownload⟩ :=
    download_succ net token body request hplain hrepresents client server hfresh hsized
  obtain ⟨fuel, response, hrounds, hpayload⟩ := rounds_finished net token body request hplain
    hrepresents hbound hpart hsized (body.length / maxPayload - 1) 1 1 sys (by
      rw [hmax] at hlarge ⊢
      omega) hstage
  exact ⟨fuel + 1, response, (hdownload fuel).trans hrounds, hpayload⟩

theorem not_delivered (h : body.length % maxPayload = 0 ∨ 2 ^ 30 ≤ body.length) :
    ¬ Delivered net body request client server := by
  rintro ⟨fuel, response, hfinished, _⟩
  have hlarge := hrepresents.large
  have hstart := start net token request hplain client server hfresh
  cases fuel with
  | zero =>
    rw [download_eq net token request hplain client server] at hfinished
    cases hfinished
  | succ fuel =>
    rcases Nat.lt_or_ge 65804 (byteLen body.length) with hlong | hsized
    · obtain ⟨e, hround⟩ := round_unsized net token body request hplain hrepresents hlong 0 _ hstart
      rw [download_eq net token request hplain client server, rounds,
        hround] at hfinished
      cases hfinished
    · obtain ⟨sys, hstage, hdownload⟩ :=
        download_succ net token body request hplain hrepresents client server hfresh hsized
      rw [hdownload] at hfinished
      rcases Nat.lt_or_ge body.length (2 ^ 30) with hbound | hbound
      · exact rounds_whole net token body request hplain hrepresents hbound (by omega) hsized fuel 1
          1 sys (by omega) hstage response hfinished
      · exact rounds_huge net token body request hplain hrepresents hbound hsized fuel 1 1 sys
          (by omega) hstage response hfinished

end Runs

end Rounds

/-- The caller gets a representation of several blocks exactly if its last block is not full and
the block numbers suffice. -/
theorem download_delivered_iff (net : Network) (token body : Bytes) (request : Message)
    (client server : State) (hplain : PlainRequest token request)
    (hrepresents : Represents token body net.handled) (hfresh : Fresh net token client server) :
    Delivered net body request client server ↔
      body.length % maxPayload ≠ 0 ∧ body.length < 2 ^ 30 := by
  constructor
  · intro hdelivered
    by_contra hnot
    exact not_delivered net token body request hplain hrepresents client server hfresh (by omega)
      hdelivered
  · rintro ⟨hpart, hbound⟩
    exact delivered_of_part net token body request hplain hrepresents client server hfresh hpart
      hbound

def sampleGet : Message :=
  { Message.new .request with
    code := some Codes.get
    token := some [1]
    destination := some ("10.0.0.1".toList, 5683) }

def sampleNetwork (body : Bytes) : Network where
  client := ("10.0.0.7".toList, 40000)
  server := ("10.0.0.1".toList, 5683)
  scheme := "coap".toList
  rng := []
  requestHeader i := (.CON, Fin.ofNat 65536 (i + 1))
  responseHeader i := (.ACK, Fin.ofNat 65536 (i + 1))
  transaction := Transaction.new (Message.new .request) 0
  clientTransaction _ := Transaction.new (Message.new .request) 0
  resource := 0
  handled := { Message.new .response with
    code := some Codes.content
    token := some [1]
    payload := some (.bytes body) }

theorem sampleGet_plain : PlainRequest [1] sampleGet where
  code := ⟨Codes.get, by decide, rfl, by decide⟩
  token_eq := rfl
  token_pos := by decide
  token_le := by decide
  options := by decide
  payload := trivial
  small := by decide
  unicast := rfl
  addressed := by simp [sampleGet]
  block1 := rfl
  block2 := rfl

theorem sampleNetwork_represents (body : Bytes) (h : maxPayload < body.length) :
    Represents [1] body (sampleNetwork body).handled where
  code := ⟨Codes.content, by decide, rfl, by decide⟩
  token := rfl
  options := by
    intro o ho
    exact absurd ho List.not_mem_nil
  payload := rfl
  block1 := rfl
  large := h

theorem sampleNetwork_fresh (body : Bytes) :
    Fresh (sampleNetwork body) [1] State.new State.new where
  client := rfl
  server := rfl
  resource := rfl
  blockTransfer := rfl

theorem download_delivered_iff_sample :
    Delivered (sampleNetwork (List.replicate 1500 0)) (List.replicate 1500 0) sampleGet State.new
        State.new ↔
      (List.replicate 1500 (0 : UInt8)).length % maxPayload ≠ 0 ∧
        (List.replicate 1500 (0 : UInt8)).length < 2 ^ 30 :=
  download_delivered_iff (sampleNetwork (List.replicate 1500 0)) [1] (List.replicate 1500 0)
    sampleGet State.new State.new sampleGet_plain
    (sampleNetwork_represents _ (by
      rw [List.length_replicate]
      decide))
    (sampleNetwork_fresh _)

theorem not_delivered_two_blocks :
    PlainRequest [1] sampleGet ∧
      Represents [1] (List.replicate 2048 0) (sampleNetwork (List.replicate 2048 0)).handled ∧
      Fresh (sampleNetwork (List.replicate 2048 0)) [1] State.new State.new ∧
      ¬ Delivered (sampleNetwork (List.replicate 2048 0)) (List.replicate 2048 0) sampleGet
        State.new State.new := by
  have hrepresents := sampleNetwork_represents (List.replicate 2048 0) (by
    rw [List.length_replicate]
    decide)
  refine ⟨sampleGet_plain, hrepresents, sampleNetwork_fresh _, ?_⟩
  apply not_delivered (sampleNetwork (List.replicate 2048 0)) [1] (List.replicate 2048 0) sampleGet
    sampleGet_plain hrepresents State.new State.new (sampleNetwork_fresh _)
  left
  rw [List.length_replicate]
  rfl

end BubotCoap.Block2Download
