import BubotCoap.BlockSteps

set_option autoImplicit false

namespace BubotCoap.Block2Answers
open PythonData Defines Utils Options Messages OptionAccess OrderedDict Transactions BlockLayer
  BlockSteps

theorem block2_registered :
    OptionRegistry.find? OptionRegistry.block2.number = some OptionRegistry.block2 := rfl

theorem block2_integer : OptionRegistry.block2.valueType = .INTEGER := rfl

/-- The Block2 option of the three numbers. -/
def block2Option (num more size : ℕ) : CoapOption :=
  intOption OptionRegistry.block2 (Message.blockValue num more size) block2_registered
    block2_integer

/-- A Block2 request, the transaction it arrives in and the response that `send_response` finds
there. The option holds `num`, `more` and the size exponent `szx`. -/
structure Exchange where
  transaction : Transaction
  response : Message
  num : ℕ
  more : ℕ
  szx : ℕ

namespace Exchange

def size (x : Exchange) : ℕ := 2 ^ (x.szx + 4)

/-- The request's option is written for the key `k`. -/
structure Asks (x : Exchange) (k : Key) : Prop where
  source : ∃ address, x.transaction.request.source = some address ∧
    key address (tokenArg x.transaction.request.token) = k
  num : x.num < 2 ^ 20
  more : x.more ≤ 1
  szx : x.szx ≤ 6
  option : ofNumber OptionRegistry.block2.number x.transaction.request.options =
    [block2Option x.num x.more x.size]

end Exchange

/-- `receive_request` and, unless it raises, `send_response` on the response made meanwhile. -/
def serve (rng : Bytes) (s : State) (x : Exchange) : Except PyErr Unit × State × Transaction :=
  match receiveRequest rng (s, x.transaction) with
  | (.error e, s, t) => (.error e, s, t)
  | (.ok (), s, t) => sendResponse (s, { t with response := some x.response })

/-- The response carries the block that was asked for and the option that describes it. -/
def Answered (representation : Payload) (x : Exchange)
    (result : Except PyErr Unit × State × Transaction) : Prop :=
  result.1 = .ok () ∧ ∃ response more, result.2.2.response = some response ∧
    response.payload = some (representation.slice (x.num * x.size) ((x.num + 1) * x.size)) ∧
    ofNumber OptionRegistry.block2.number response.options =
      [block2Option x.num more x.size] ∧
    more ≤ 1 ∧ (more = 1 ↔ (x.num + 1) * x.size < representation.length)

def AllAnswered (rng : Bytes) (representation : Payload) : State → List Exchange → Prop
  | _, [] => True
  | s, x :: xs => Answered representation x (serve rng s x) ∧
    AllAnswered rng representation (serve rng s x).2.1 xs

/-- The sizes asked for lead to the blocks asked for: what is found at the position `pos`, which
every block moves forward, is the block itself. The option's value is not zero, and no block asked
for ends where the representation ends. -/
def Aligned (representation : Payload) : ℕ → List Exchange → Prop
  | _, [] => True
  | pos, x :: xs => Message.blockValue x.num x.more x.size ≠ 0 ∧
    representation.slice pos (pos + x.size) =
      representation.slice (x.num * x.size) ((x.num + 1) * x.size) ∧
    (x.num + 1) * x.size ≠ representation.length ∧ Aligned representation (pos + x.size) xs

/-- The next block for `k` is cut at `pos`. -/
def Stands (s : State) (k : Key) (representation : Payload) (pos : ℕ) : Prop :=
  ∃ item, s.block2Receive.get? k = some item ∧ item.payload = some representation ∧
    item.byte = pos

theorem block2_of_asks (x : Exchange) (k : Key) (h : x.Asks k)
    (hvalue : Message.blockValue x.num x.more x.size ≠ 0) :
    x.transaction.request.block2 = .ok (some (x.num, x.more, x.size)) := by
  have hne : 16 * x.num + 8 * x.more + x.szx ≠ 0 := by
    rw [blockValue_eq x.num x.more x.size h.more] at hvalue
    unfold Exchange.size at hvalue
    rwa [szx_two_pow x.szx h.szx] at hvalue
  have hread := block_eq_some OptionRegistry.block2 x.transaction.request x.num x.more x.szx rfl rfl
    h.more h.szx hne h.option
  rwa [Nat.mod_eq_of_lt h.num] at hread

/-- The option that is written with no bytes reads as `None`. -/
theorem block2_of_zero (x : Exchange) (k : Key) (h : x.Asks k)
    (hvalue : Message.blockValue x.num x.more x.size = 0) :
    x.transaction.request.block2 = .error .typeError :=
  block_eq_error OptionRegistry.block2 x.transaction.request _ rfl rfl rfl hvalue h.option

/-- The Size2 option depends on the request and the length, the rest of the block does not. -/
theorem blockResponse_eq (request response : Message) (item : BlockItem) (payload : Payload) :
    ∃ r, blockResponse request response item payload = .ok r ∧
      r.payload = some (payload.slice item.byte (item.byte + item.size)) ∧
      ofNumber OptionRegistry.block2.number r.options =
        [block2Option item.num (moreBlocks item.num item.size payload.length) item.size] := by
  unfold blockResponse
  dsimp only
  split_ifs
  · rw [setSize2_delSize2, ok_bind, setBlock2_delBlock2]
    exact ⟨_, rfl, rfl, ofNumber_replace_self _ OptionRegistry.block2 _ rfl rfl⟩
  · rw [ok_bind, setBlock2_delBlock2]
    exact ⟨_, rfl, rfl, ofNumber_replace_self _ OptionRegistry.block2 _ rfl rfl⟩

/-- What is left of the response apart from its payload and the options of the block. -/
theorem blockResponse_same (request response : Message) (item : BlockItem)
    (payload : Payload) (r : Message)
    (h : blockResponse request response item payload = .ok r) :
    r = { response with options := r.options, payload := r.payload } ∧
      ∀ n, n ≠ OptionRegistry.block2.number → n ≠ OptionRegistry.size2.number →
        ofNumber n r.options = ofNumber n response.options := by
  unfold blockResponse at h
  dsimp only at h
  split_ifs at h
  · rw [setSize2_delSize2, ok_bind, setBlock2_delBlock2] at h
    cases h
    refine ⟨rfl, fun n hblock hsize2 => ?_⟩
    refine (ofNumber_replace_of_ne _ OptionRegistry.block2 _ rfl rfl n hblock).trans ?_
    exact ofNumber_replace_of_ne response OptionRegistry.size2 _ rfl rfl n hsize2
  · rw [ok_bind, setBlock2_delBlock2] at h
    cases h
    refine ⟨rfl, fun n hblock hsize2 => ?_⟩
    refine (ofNumber_replace_of_ne _ OptionRegistry.block2 _ rfl rfl n hblock).trans ?_
    exact ofNumber_delete_of_ne n _ response.options hsize2

theorem sendResponse_cut (s : State) (t : Transaction) (address : Address) (response : Message)
    (item : BlockItem) (payload : Payload) (hsource : t.request.source = some address)
    (hresponse : t.response = some response)
    (hitem : outgoingItem s (key address (tokenArg t.request.token)) (some response) =
      some (item, payload)) (hpayload : item.payload = some payload) :
    (sendResponse (s, t)).1 = .ok () ∧
      Stands (sendResponse (s, t)).2.1 (key address (tokenArg t.request.token)) payload
        (item.byte + item.size) ∧
      ∃ r, (sendResponse (s, t)).2.2.response = some r ∧
        r.payload = some (payload.slice item.byte (item.byte + item.size)) ∧
        ofNumber OptionRegistry.block2.number r.options =
          [block2Option item.num (moreBlocks item.num item.size payload.length) item.size] := by
  obtain ⟨r, hr, hslice, hoption⟩ := blockResponse_eq t.request response item payload
  unfold sendResponse
  dsimp only
  rw [hsource]
  dsimp only
  rw [hresponse, hitem]
  dsimp only
  rw [hr]
  exact ⟨rfl, ⟨_, Dict.get?_insert_self _ _ _, hpayload, rfl⟩, r, rfl, hslice, hoption⟩

/-- What `serve` does, `pos` being where the block is cut. -/
structure Cut (representation : Payload) (k : Key) (x : Exchange) (pos : ℕ)
    (result : Except PyErr Unit × State × Transaction) : Prop where
  returns : result.1 = .ok ()
  stands : Stands result.2.1 k representation (pos + x.size)
  block : ∃ r, result.2.2.response = some r ∧
    r.payload = some (representation.slice pos (pos + x.size)) ∧
    ofNumber OptionRegistry.block2.number r.options =
      [block2Option x.num (moreBlocks x.num x.size representation.length) x.size]

/-- What the layer reads in the request. -/
structure Exchange.Reads (x : Exchange) (k : Key) : Prop where
  source : ∃ address, x.transaction.request.source = some address ∧
    key address (tokenArg x.transaction.request.token) = k
  block2 : x.transaction.request.block2 = .ok (some (x.num, x.more, x.size))

theorem reads_of_asks (x : Exchange) (k : Key) (h : x.Asks k)
    (hvalue : Message.blockValue x.num x.more x.size ≠ 0) : x.Reads k :=
  ⟨h.source, block2_of_asks x k h hvalue⟩

/-- After `receive_request` the next block of `k` is the one to be sent. -/
structure Ready (representation : Payload) (x : Exchange) (k : Key) (pos : ℕ) (s : State)
    (t : Transaction) : Prop where
  request : t.request = x.transaction.request.delBlock2
  item : ∃ item, outgoingItem s k (some x.response) = some (item, representation) ∧
    item.payload = some representation ∧ item.num = x.num ∧ item.size = x.size ∧ item.byte = pos

theorem receiveRequest_stands (rng : Bytes) (s : State) (x : Exchange) (k : Key)
    (representation : Payload) (pos : ℕ) (hreads : x.Reads k)
    (h : Stands s k representation pos) :
    ∃ s' t', receiveRequest rng (s, x.transaction) = (.ok (), s', t') ∧
      Ready representation x k pos s' t' := by
  obtain ⟨address, hsource, rfl⟩ := hreads.source
  obtain ⟨item, hitem, hpayload, rfl⟩ := h
  refine ⟨_, _, receiveRequest_block2 rng s x.transaction address item x.num x.more x.size
    hreads.block2 hsource hitem, rfl, ?_⟩
  refine ⟨{ item with num := x.num, size := x.size, m := x.more }, ?_, hpayload, rfl, rfl, rfl⟩
  exact outgoingItem_stored _ _ _ _ representation (Dict.get?_insert_self _ _ _) hpayload

theorem receiveRequest_fresh (rng : Bytes) (s : State) (x : Exchange) (k : Key)
    (representation : Payload) (hreads : x.Reads k)
    (hnone : s.block2Receive.get? k = none) (hpayload : x.response.payload = some representation) :
    ∃ s' t', receiveRequest rng (s, x.transaction) = (.ok (), s', t') ∧
      Ready representation x k (x.num * x.size) s' t' := by
  obtain ⟨address, hsource, rfl⟩ := hreads.source
  unfold receiveRequest
  dsimp only
  rw [hreads.block2]
  dsimp only
  rw [hsource]
  dsimp only
  unfold receiveBlock2Request
  dsimp only
  rw [hnone]
  refine ⟨_, _, rfl, rfl, ?_⟩
  refine ⟨⟨x.num * x.size, x.num, x.more, x.size, some representation, x.response.contentType⟩,
    ?_, rfl, rfl, rfl, rfl⟩
  unfold outgoingItem
  dsimp only
  rw [Dict.get?_insert_self, Option.bind_some, hpayload]
  rfl

theorem sendResponse_ready (s : State) (t : Transaction) (x : Exchange) (k : Key)
    (representation : Payload) (pos : ℕ) (hreads : x.Reads k)
    (hready : Ready representation x k pos s t) :
    Cut representation k x pos (sendResponse (s, { t with response := some x.response })) := by
  obtain ⟨address, hsource, rfl⟩ := hreads.source
  obtain ⟨item, hout, hpayload, hnum, hsize, rfl⟩ := hready.item
  have hkey : key address (tokenArg t.request.token) =
      key address (tokenArg x.transaction.request.token) := by rw [hready.request]; rfl
  have hsend := sendResponse_cut s { t with response := some x.response } address x.response item
    representation (by rw [hready.request]; exact hsource) rfl (by rw [hkey]; exact hout) hpayload
  rw [hkey, hnum, hsize] at hsend
  exact ⟨hsend.1, hsend.2.1, hsend.2.2⟩

theorem serve_cut (rng : Bytes) (s s' : State) (t : Transaction) (x : Exchange) (k : Key)
    (representation : Payload) (pos : ℕ) (hreads : x.Reads k)
    (hreceive : receiveRequest rng (s, x.transaction) = (.ok (), s', t))
    (hready : Ready representation x k pos s' t) :
    Cut representation k x pos (serve rng s x) := by
  unfold serve
  rw [hreceive]
  exact sendResponse_ready s' t x k representation pos hreads hready

theorem blockValue_inj (num more more' size : ℕ) (h : more ≤ 1) (h' : more' ≤ 1)
    (heq : Message.blockValue num more size = Message.blockValue num more' size) :
    more = more' := by
  rw [blockValue_eq num more size h, blockValue_eq num more' size h'] at heq
  omega

theorem more_iff (num size length : ℕ) :
    (moreBlocks num size length = 1 ↔ (num + 1) * size < length) ↔ (num + 1) * size ≠ length := by
  unfold moreBlocks
  rw [Nat.succ_mul]
  generalize num * size + size = n
  split_ifs
  · simp only [false_iff]
    omega
  · simp only [true_iff]
    omega

theorem answered_iff (representation : Payload) (k : Key) (x : Exchange) (pos : ℕ)
    (result : Except PyErr Unit × State × Transaction) (h : Cut representation k x pos result) :
    Answered representation x result ↔
      representation.slice pos (pos + x.size) =
        representation.slice (x.num * x.size) ((x.num + 1) * x.size) ∧
      (x.num + 1) * x.size ≠ representation.length := by
  obtain ⟨r, hr, hslice, hoption⟩ := h.block
  have hle : moreBlocks x.num x.size representation.length ≤ 1 := by
    unfold moreBlocks
    split_ifs <;> omega
  have hmore := more_iff x.num x.size representation.length
  constructor
  · rintro ⟨_, r', more, hr', hslice', hoption', hle', hmore'⟩
    rw [hr, Option.some.injEq] at hr'
    subst hr'
    rw [hslice, Option.some.injEq] at hslice'
    refine ⟨hslice', hmore.mp ?_⟩
    have hvalue : block2Option x.num (moreBlocks x.num x.size representation.length) x.size =
        block2Option x.num more x.size := by
      rw [hoption] at hoption'
      exact (List.cons.inj hoption').1
    have hint := congrArg CoapOption.stored hvalue
    have hsame := blockValue_inj x.num _ more x.size hle hle' (Value.int.inj hint)
    rw [hsame]
    exact hmore'
  · rintro ⟨hsame, hne⟩
    refine ⟨h.returns, r, _, hr, ?_, hoption, hle, hmore.mpr hne⟩
    rw [hslice, hsame]

theorem not_answered_zero (rng : Bytes) (s : State) (x : Exchange) (k : Key)
    (representation : Payload) (hasks : x.Asks k)
    (hvalue : Message.blockValue x.num x.more x.size = 0) :
    ¬ Answered representation x (serve rng s x) := by
  have hreceive : receiveRequest rng (s, x.transaction) =
      (.error .typeError, s, x.transaction) := by
    unfold receiveRequest
    dsimp only
    rw [block2_of_zero x k hasks hvalue]
  rintro ⟨hreturns, _⟩
  unfold serve at hreturns
  rw [hreceive] at hreturns
  cases hreturns

theorem allAnswered_iff (rng : Bytes) (k : Key) (representation : Payload) (xs : List Exchange)
    (s : State) (pos : ℕ) (hasks : ∀ x ∈ xs, x.Asks k) (h : Stands s k representation pos) :
    AllAnswered rng representation s xs ↔ Aligned representation pos xs := by
  induction xs generalizing s pos with
  | nil => exact Iff.rfl
  | cons x xs ih =>
    have hx := hasks x List.mem_cons_self
    unfold AllAnswered Aligned
    by_cases hvalue : Message.blockValue x.num x.more x.size = 0
    · have hno := not_answered_zero rng s x k representation hx hvalue
      simp [hno, hvalue]
    · have hreads := reads_of_asks x k hx hvalue
      obtain ⟨s', t, hreceive, hready⟩ :=
        receiveRequest_stands rng s x k representation pos hreads h
      have hcut := serve_cut rng s s' t x k representation pos hreads hreceive hready
      rw [answered_iff representation k x pos _ hcut,
        ih _ _ (fun y hy => hasks y (List.mem_cons_of_mem x hy)) hcut.stands, and_assoc]
      exact (and_iff_right hvalue).symm

/-- Requests for one key that has no entry yet all get the blocks they ask for exactly if their
sizes lead to these blocks. -/
theorem block2_answers_iff (rng : Bytes) (s : State) (k : Key) (representation : Payload)
    (x : Exchange) (xs : List Exchange)
    (hnone : s.block2Receive.get? k = none) (hpayload : x.response.payload = some representation)
    (hasks : ∀ y ∈ x :: xs, y.Asks k) :
    AllAnswered rng representation s (x :: xs) ↔
      Aligned representation (x.num * x.size) (x :: xs) := by
  have hx := hasks x List.mem_cons_self
  unfold AllAnswered Aligned
  by_cases hvalue : Message.blockValue x.num x.more x.size = 0
  · have hno := not_answered_zero rng s x k representation hx hvalue
    simp [hno, hvalue]
  · have hreads := reads_of_asks x k hx hvalue
    obtain ⟨s', t, hreceive, hready⟩ :=
      receiveRequest_fresh rng s x k representation hreads hnone hpayload
    have hcut := serve_cut rng s s' t x k representation _ hreads hreceive hready
    rw [answered_iff representation k x _ _ hcut, allAnswered_iff rng k representation xs _ _
      (fun y hy => hasks y (List.mem_cons_of_mem x hy)) hcut.stands, and_assoc]
    exact (and_iff_right hvalue).symm

def sampleRepresentation : Payload := .bytes ((List.range 48).map UInt8.ofNat)

def sampleAsk (num : ℕ) : Exchange where
  transaction := Transaction.new
    (withBlock2 { Message.new .request with source := some (['h'], 1), token := some [1] } num 0 16)
    0
  response := { Message.new .response with payload := some sampleRepresentation }
  num := num
  more := 0
  szx := 0

def sampleKey : Key := key (['h'], 1) (tokenArg (some [1]))

theorem sampleAsk_asks (num : ℕ) (h : num < 2 ^ 20) : (sampleAsk num).Asks sampleKey where
  source := ⟨(['h'], 1), rfl, rfl⟩
  num := h
  more := Nat.zero_le 1
  szx := Nat.zero_le 6
  option := ofNumber_replace_self _ OptionRegistry.block2 (Message.blockValue num 0 16) rfl rfl

theorem block2_answers_iff_sample :
    AllAnswered [] sampleRepresentation State.new [sampleAsk 1, sampleAsk 2] ↔
      Aligned sampleRepresentation (1 * 16) [sampleAsk 1, sampleAsk 2] :=
  block2_answers_iff [] State.new sampleKey sampleRepresentation (sampleAsk 1) [sampleAsk 2]
    (Dict.get?_empty sampleKey) rfl (by
      intro y hy
      rcases List.mem_cons.mp hy with rfl | hy
      · exact sampleAsk_asks 1 (by decide)
      · rw [List.mem_singleton.mp hy]
        exact sampleAsk_asks 2 (by decide))

/-- The same block asked for twice: the second answer carries the block behind it. -/
theorem not_block2_answers :
    State.new.block2Receive.get? sampleKey = none ∧ (sampleAsk 1).Asks sampleKey ∧
      (sampleAsk 1).response.payload = some sampleRepresentation ∧
      ¬ AllAnswered [] sampleRepresentation State.new [sampleAsk 1, sampleAsk 1] := by
  refine ⟨Dict.get?_empty sampleKey, sampleAsk_asks 1 (by decide), rfl, ?_⟩
  rintro ⟨_, ⟨_, r, _, hr, hpayload, _⟩, _⟩
  have hsent : ((serve [] (serve [] State.new (sampleAsk 1)).2.1 (sampleAsk 1)).2.2.response.bind
      Message.payload) = some (sampleRepresentation.slice 32 48) := by decide +kernel
  rw [hr, Option.bind_some, hpayload] at hsent
  revert hsent
  decide +kernel

end BubotCoap.Block2Answers
