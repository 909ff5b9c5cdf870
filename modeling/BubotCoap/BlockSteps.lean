import BubotCoap.BlockFrames

set_option autoImplicit false

namespace BubotCoap.BlockSteps
open PythonData Defines Utils Messages OptionAccess OrderedDict Transactions BlockLayer
  FallibleState

/-- What a reply takes over from a request. -/
def replyTo (request : Message) (token : Bytes) : Message :=
  { Message.new .response with
    destination := request.source
    source := request.destination
    scheme := some request.schemeText
    token := some token }

theorem initFromRequest_eq (rng : Bytes) (request : Message) (token : Bytes)
    (hmulticast : request.multicast = false) (hdestination : request.destination ≠ none)
    (htoken : request.token = some token) (hlength : token.length ≤ 256) :
    Message.initFromRequest rng request = .ok (replyTo request token) := by
  obtain ⟨address, haddress⟩ := Option.ne_none_iff_exists'.mp hdestination
  unfold Message.initFromRequest Message.replySource
  rw [hmulticast, haddress]
  simp only [Bool.false_eq_true, if_false, ok_bind]
  unfold Message.setToken
  rw [htoken]
  dsimp only
  rw [if_neg (by omega)]
  unfold replyTo
  rw [haddress]

section Server
variable (rng : Bytes) (s : State) (t : Transaction) (k : Key)

theorem receiveRequest_block1 (address : Address) (num m size : ℕ)
    (hblock2 : t.request.block2 = .ok none)
    (hblock1 : t.request.block1 = .ok (some (num, m, size)))
    (hsource : t.request.source = some address) :
    receiveRequest rng (s, t) =
      receiveBlock1Request rng (key address (tokenArg t.request.token)) num m size (s, t) := by
  unfold receiveRequest
  dsimp only
  rw [hblock2]
  dsimp only
  rw [hblock1]
  dsimp only
  rw [hsource]

theorem receiveBlock1Request_first (m size : ℕ) (hnone : s.block1Receive.get? k = none) :
    receiveBlock1Request rng k 0 m size (s, t) =
      acceptBlock1 rng k 0 m size ⟨size, 0, m, size, t.request.payload, t.request.contentType⟩
        (s, t) := by
  unfold receiveBlock1Request
  dsimp only
  rw [hnone]
  exact if_neg (by simp)

theorem receiveBlock1Request_next (m size : ℕ) (item : BlockItem) (a b : Bytes)
    (hitem : s.block1Receive.get? k = some item) (ha : item.payload = some (.bytes a))
    (hb : t.request.payload = some (.bytes b))
    (htype : t.request.contentType = item.contentType) :
    receiveBlock1Request rng k item.num m size (s, t) =
      acceptBlock1 rng k item.num m size { item with payload := some (.bytes (a ++ b)) }
        (s, t) := by
  unfold receiveBlock1Request
  dsimp only
  rw [hitem]
  dsimp only
  rw [if_neg (by simp [htype]), ha, hb]
  rfl

theorem acceptBlock1_last (num size : ℕ) (item : BlockItem) :
    acceptBlock1 rng k num 0 size item (s, t) =
      (.ok (), { s with block1Receive := s.block1Receive.erase k }, { t with
        request := (t.request.setPayload item.payload).delBlock1
        blockTransfer := false }) := rfl

theorem acceptBlock1_more (num m size : ℕ) (item : BlockItem) (token : Bytes) (hm : m ≠ 0)
    (hmulticast : t.request.multicast = false) (hdestination : t.request.destination ≠ none)
    (htoken : t.request.token = some token) (hlength : token.length ≤ 256) :
    acceptBlock1 rng k num m size item (s, t) =
      (.ok (), { s with
          block1Receive := (s.block1Receive.insert k item).insert k
            { item with byte := size, num := num + 1, size := size, m := m } },
        { t with
          blockTransfer := true
          response := some (withBlock1
            { replyTo t.request token with code := some Codes.continueCode } num m size) }) := by
  have hset : ({ replyTo t.request token with code := some Codes.continueCode } :
      Message).setBlock1 num m size = .ok (withBlock1
        { replyTo t.request token with code := some Codes.continueCode } num m size) :=
    setBlock1_delBlock1 { replyTo t.request token with code := some Codes.continueCode } num m size
  unfold acceptBlock1
  dsimp only
  rw [if_neg hm, initFromRequest_eq rng t.request token hmulticast hdestination htoken hlength]
  dsimp only
  rw [hset]

theorem receiveRequest_plain (hblock2 : t.request.block2 = .ok none)
    (hblock1 : t.request.block1 = .ok none) : receiveRequest rng (s, t) = (.ok (), s, t) := by
  unfold receiveRequest
  dsimp only
  rw [hblock2]
  dsimp only
  rw [hblock1]

theorem receiveRequest_block2 (address : Address) (item : BlockItem) (num m size : ℕ)
    (hblock2 : t.request.block2 = .ok (some (num, m, size)))
    (hsource : t.request.source = some address)
    (hitem : s.block2Receive.get? (key address (tokenArg t.request.token)) = some item) :
    receiveRequest rng (s, t) =
      (.ok (), { s with
          block2Receive := s.block2Receive.insert (key address (tokenArg t.request.token))
            { item with num := num, size := size, m := m } },
        { t with
          completed := truthy item.payload || t.completed
          request := t.request.delBlock2 }) := by
  unfold receiveRequest
  dsimp only
  rw [hblock2]
  dsimp only
  rw [hsource]
  dsimp only
  unfold receiveBlock2Request
  dsimp only
  rw [hitem]

theorem outgoingItem_stored (response : Option Message) (item : BlockItem) (payload : Payload)
    (hitem : s.block2Receive.get? k = some item) (hpayload : item.payload = some payload) :
    outgoingItem s k response = some (item, payload) := by
  unfold outgoingItem
  rw [hitem]
  dsimp only
  rw [hpayload]

theorem outgoingItem_new (response : Message) (payload : Payload)
    (hnone : s.block2Receive.get? k = none) (hpayload : response.payload = some payload)
    (hlarge : payload.length > maxPayload) :
    outgoingItem s k (some response) =
      some (⟨0, 0, 1, maxPayload, some payload, response.contentType⟩, payload) := by
  unfold outgoingItem
  rw [hnone, Option.bind_some, hpayload]
  exact if_pos hlarge

def blockOf (response : Message) (item : BlockItem) (payload : Payload) : Message :=
  withBlock2
    ((replace response OptionRegistry.size2 payload.length rfl rfl).setPayload
      (some (payload.slice item.byte (item.byte + item.size))))
    item.num (moreBlocks item.num item.size payload.length) item.size

theorem blockResponse_large (request response : Message) (item : BlockItem) (payload : Payload)
    (hlarge : payload.length > maxPayload) :
    blockResponse request response item payload = .ok (blockOf response item payload) := by
  unfold blockResponse
  dsimp only
  rw [if_pos (Or.inr hlarge), setSize2_delSize2, ok_bind, setBlock2_delBlock2]
  rfl

theorem sendResponse_block (address : Address) (response : Message) (item : BlockItem)
    (payload : Payload) (hsource : t.request.source = some address)
    (hresponse : t.response = some response)
    (hitem : outgoingItem s (key address (tokenArg t.request.token)) (some response) =
      some (item, payload))
    (hlarge : payload.length > maxPayload) :
    sendResponse (s, t) =
      (.ok (), { s with
          block2Receive := (s.block2Receive.insert (key address (tokenArg t.request.token))
            item).insert (key address (tokenArg t.request.token))
              { item with byte := item.byte + item.size, num := item.num + 1 } },
        { t with response := some (blockOf response item payload) }) := by
  unfold sendResponse
  dsimp only
  rw [hsource]
  dsimp only
  rw [hresponse, hitem]
  dsimp only
  rw [blockResponse_large _ _ _ _ hlarge]

end Server

section Client
variable (rng : Bytes) (s : State) (t : Transaction)

def firstRequest (request : Message) (payload : Payload) : Message :=
  withBlock1
    ((replace request OptionRegistry.size1 payload.length rfl rfl).setPayload
      (some (payload.slice 0 maxPayload)))
    0 1 maxPayload

theorem firstBlock1_eq (num size : ℕ) (request : Message) (payload : Payload) (address : Address)
    (hpayload : request.payload = some payload)
    (hdestination : request.destination = some address) :
    firstBlock1 num size request s =
      (.ok (withBlock1
          ((replace request OptionRegistry.size1 payload.length rfl rfl).setPayload
            (some (payload.slice 0 size)))
          num (moreBlocks num size payload.length) size), { s with
        block1Sent := s.block1Sent.insert (key address (tokenArg request.token))
          ⟨size, num, moreBlocks num size payload.length, size, some payload,
            request.contentType⟩ }) := by
  have htype : (replace request OptionRegistry.size1 payload.length rfl rfl).contentType =
      request.contentType :=
    contentType_congr _ _ (ofNumber_replace_of_ne request OptionRegistry.size1 _ rfl rfl _
      (by decide))
  unfold firstBlock1
  rw [hdestination, hpayload]
  dsimp only
  rw [setSize1_delSize1]
  dsimp only
  rw [setBlock1_delBlock1, htype]
  rfl

theorem sendRequest_large (request : Message) (payload : Payload) (address : Address)
    (hblock1 : request.block1 = .ok none) (hpayload : request.payload = some payload)
    (hlarge : payload.length > maxPayload) (hdestination : request.destination = some address) :
    sendRequest request s =
      (.ok (firstRequest request payload), { s with
        block1Sent := s.block1Sent.insert (key address (tokenArg request.token))
          ⟨maxPayload, 0, 1, maxPayload, some payload, request.contentType⟩ }) := by
  have hmore : moreBlocks 0 maxPayload payload.length = 1 := if_neg (by omega)
  unfold sendRequest
  rw [hblock1]
  dsimp only
  rw [if_pos (by rw [hpayload]; exact hlarge),
    firstBlock1_eq s 0 maxPayload request payload address hpayload hdestination, hmore]
  rfl

theorem receiveResponse_block1 (response : Message) (address : Address) (item : BlockItem)
    (num m size : ℕ) (hresponse : t.response = some response)
    (hsource : response.source = some address)
    (hitem : s.block1Sent.get? (key address (tokenArg response.token)) = some item)
    (hblock1 : response.block1 = .ok (some (num, m, size))) :
    receiveResponse rng (s, t) =
      receiveBlock1Response (key address (tokenArg response.token)) item num size (s, t) := by
  unfold receiveResponse
  dsimp only
  rw [hresponse]
  dsimp only
  rw [hsource]
  dsimp only
  rw [hitem]
  dsimp only
  rw [hblock1]

/-- The block after an acknowledged one, of the acknowledged size. -/
theorem receiveBlock1Response_scaled (k : Key) (item : BlockItem) (payload : Payload) (size : ℕ)
    (hpayload : item.payload = some payload) (hm : item.m ≠ 0) (hsize : size ≤ item.size) :
    receiveBlock1Response k item item.num size (s, t) =
      (.ok true, { s with
          block1Sent := s.block1Sent.insert k
            { item with
              size := size
              num := item.num + 1
              byte := item.byte + size
              m := if payload.length ≤ item.byte + size then 0 else 1 } },
        { t with
          blockTransfer := true
          request := withBlock1
            (t.request.delMid.setPayload (some (payload.slice item.byte (item.byte + size))))
            (item.num + 1) (if payload.length ≤ item.byte + size then 0 else 1) size }) := by
  have hscaled : (if size < item.size then size else item.size) = size := by
    split <;> omega
  unfold receiveBlock1Response
  dsimp only
  rw [if_neg hm, if_neg (by simp)]
  unfold nextBlock1
  dsimp only
  rw [hpayload, hscaled]
  dsimp only
  rw [delBlock1_setPayload, setBlock1_delBlock1]
  rfl

theorem receiveBlock1Response_next (k : Key) (item : BlockItem) (payload : Payload)
    (hpayload : item.payload = some payload) (hm : item.m ≠ 0) :
    receiveBlock1Response k item item.num item.size (s, t) =
      (.ok true, { s with
          block1Sent := s.block1Sent.insert k
            { item with
              num := item.num + 1
              byte := item.byte + item.size
              m := if payload.length ≤ item.byte + item.size then 0 else 1 } },
        { t with
          blockTransfer := true
          request := withBlock1
            (t.request.delMid.setPayload
              (some (payload.slice item.byte (item.byte + item.size))))
            (item.num + 1) (if payload.length ≤ item.byte + item.size then 0 else 1)
            item.size }) :=
  receiveBlock1Response_scaled s t k item payload item.size hpayload hm le_rfl

theorem receiveResponse_block2 (response : Message) (address : Address)
    (hresponse : t.response = some response) (hsource : response.source = some address)
    (hblock1 : response.block1 = .ok none) :
    receiveResponse rng (s, t) =
      returned (receiveBlock2Response rng (key address (tokenArg response.token)) response
        (s, t)) := by
  unfold receiveResponse
  dsimp only
  rw [hresponse]
  dsimp only
  rw [hsource]
  dsimp only
  cases s.block1Sent.get? (key address (tokenArg response.token)) with
  | none => rfl
  | some item =>
    dsimp only
    rw [hblock1]

variable (k : Key) (response : Message) (num size : ℕ)

theorem requestBlock2_eq (item : BlockItem) :
    requestBlock2 item (s, t) =
      (.ok (), s, { t with request := withBlock2 t.request.delMid item.num 0 item.size }) := by
  unfold requestBlock2
  dsimp only
  rw [setBlock2_delBlock2]

theorem receiveBlock2Response_first (hblock2 : response.block2 = .ok (some (num, 1, size)))
    (hnone : s.block2Sent.get? k = none) :
    receiveBlock2Response rng k response (s, t) =
      (.ok (), { s with
          block2Sent := s.block2Sent.insert k
            ⟨size, num + 1, 1, size, response.payload, response.contentType⟩ },
        { t with
          blockTransfer := true
          request := withBlock2 t.request.delMid (num + 1) 0 size }) := by
  unfold receiveBlock2Response
  dsimp only
  rw [hblock2]
  dsimp only
  rw [if_pos rfl]
  unfold receiveMoreBlock2
  dsimp only
  rw [hnone]
  dsimp only
  rw [requestBlock2_eq]

theorem receiveBlock2Response_next (item : BlockItem) (a b : Bytes)
    (hblock2 : response.block2 = .ok (some (item.num, 1, size)))
    (hitem : s.block2Sent.get? k = some item)
    (htype : item.contentType = .none ∨ item.contentType = response.contentType)
    (ha : item.payload = some (.bytes a)) (hb : response.payload = some (.bytes b)) :
    receiveBlock2Response rng k response (s, t) =
      (.ok (), { s with
          block2Sent := s.block2Sent.insert k
            ⟨item.byte + size, item.num + 1, 1, size, some (.bytes (a ++ b)),
              response.contentType⟩ },
        { t with
          blockTransfer := true
          request := withBlock2 t.request.delMid (item.num + 1) 0 size }) := by
  have hexpected : expectedType item response = response.contentType := by
    unfold expectedType
    rcases htype with htype | htype
    · rw [if_pos htype]
    · rw [htype, ite_self]
  unfold receiveBlock2Response
  dsimp only
  rw [hblock2]
  dsimp only
  rw [if_pos rfl]
  unfold receiveMoreBlock2
  dsimp only
  rw [hitem]
  dsimp only
  rw [if_neg (by simp), hexpected, if_neg (by simp), ha, hb]
  change requestBlock2 _ _ = _
  rw [requestBlock2_eq]

theorem receiveBlock2Response_unwanted (m : ℕ) (item : BlockItem) (token : Bytes)
    (hblock2 : response.block2 = .ok (some (num, m, size))) (hm : m = 1)
    (hitem : s.block2Sent.get? k = some item) (hnum : num ≠ item.num)
    (hmulticast : t.request.multicast = false) (hdestination : t.request.destination ≠ none)
    (htoken : t.request.token = some token) (hlength : token.length ≤ 256) :
    ∃ r, receiveBlock2Response rng k response (s, t) =
      (.ok (), s, { t with blockTransfer := true, response := some r }) := by
  unfold receiveBlock2Response
  dsimp only
  rw [hblock2]
  dsimp only
  rw [if_pos hm]
  unfold receiveMoreBlock2
  dsimp only
  rw [hitem]
  dsimp only
  rw [if_pos hnum]
  unfold error
  dsimp only
  rw [initFromRequest_eq rng t.request token hmulticast hdestination htoken hlength]
  exact ⟨_, rfl⟩

theorem receiveBlock2Response_last (item : BlockItem) (a : Bytes)
    (hblock2 : response.block2 = .ok (some (num, 0, size)))
    (hitem : s.block2Sent.get? k = some item) (htype : item.contentType = response.contentType)
    (ha : item.payload = some (.bytes a)) :
    receiveBlock2Response rng k response (s, t) =
      match response.payload with
      | some (.bytes b) =>
        (.ok (), { s with block2Sent := s.block2Sent.erase k },
          { t with
            blockTransfer := false
            response := some (response.setPayload (some (.bytes (a ++ b)))) })
      | _ => (.error .typeError, s, { t with blockTransfer := false }) := by
  unfold receiveBlock2Response
  dsimp only
  rw [hblock2]
  dsimp only
  rw [if_neg (by omega)]
  unfold receiveLastBlock2
  dsimp only
  rw [hitem]
  dsimp only
  rw [if_neg (by simp [htype]), ha]
  match response.payload with
  | some (.bytes b) => rfl
  | some (.str t) => rfl
  | none => rfl

end Client

end BubotCoap.BlockSteps
