import BubotCoap.Block2Answers
import BubotCoap.Block2Assembly

set_option autoImplicit false

namespace BubotCoap.Block2Chosen
open PythonData Defines Utils Options Messages OptionAccess OrderedDict Transactions FallibleState
  BlockLayer BlockFrames BlockSteps
open Block2Answers (block2_registered block2_integer block2Option)
open Block2Assembly (Arrival)

/-- A response with the block `num` of the representation. -/
structure Delivers (k : Key) (contentType : Value) (size num m : ℕ) (b : Bytes)
    (response : Message) : Prop where
  source : ∃ address, response.source = some address ∧ key address (tokenArg response.token) = k
  number : num < 2 ^ 20
  option : ofNumber OptionRegistry.block2.number response.options = [block2Option num m size]
  sameType : response.contentType = contentType
  payload : response.payload = some (.bytes b)
  nonempty : b ≠ []
  length : b.length ≤ size
  full : m = 1 → b.length = size

/-- The responses carry the body in blocks, from the number `num` on and in their order. -/
inductive Brings (k : Key) (contentType : Value) (size : ℕ) : ℕ → List Arrival → Bytes → Prop
  | last (num : ℕ) (a : Arrival) (b : Bytes)
    (h : Delivers k contentType size num 0 b a.response) : Brings k contentType size num [a] b
  | more (num : ℕ) (a : Arrival) (b : Bytes) (rest : List Arrival) (body : Bytes)
    (h : Delivers k contentType size num 1 b a.response)
    (brings : Brings k contentType size (num + 1) rest body) :
    Brings k contentType size num (a :: rest) (b ++ body)

/-- The transaction of a response to the request. Sending has set fields of the request, but has
left its options as they are. -/
def answered (a : Arrival) (request : Message) : Transaction :=
  { a.transaction with
    request := { a.transaction.request with options := request.options }
    response := some a.response }

def received (a : Arrival) (s : State) (request : Message) :
    Except PyErr Bool × State × Transaction :=
  receiveResponse a.rng (s, answered a request)

/-- The block after `num` is asked for. -/
def Asks (size num : ℕ) (r : Except PyErr Bool × State × Transaction) : Prop :=
  r.1 = .ok true ∧ r.2.2.blockTransfer = true ∧
    r.2.2.request.block2 = .ok (some (num + 1, 0, size))

/-- The body is handed to the caller. -/
def Hands (body : Bytes) (r : Except PyErr Bool × State × Transaction) : Prop :=
  r.1 = .ok true ∧ r.2.2.blockTransfer = false ∧
    r.2.2.response.bind Message.payload = some (.bytes body)

/-- Each block but the last makes the client ask for the next one, with the request as it has been
left, and after the last one the body is handed to the caller. -/
def Served (size : ℕ) (body : Bytes) : State → Message → ℕ → List Arrival → Prop
  | _, _, _, [] => True
  | s, request, _, [a] => Hands body (received a s request)
  | s, request, num, a :: rest => Asks size num (received a s request) ∧
    Served size body (received a s request).2.1 (received a s request).2.2.request (num + 1) rest

/-- The request is sent, and the caller gets the body that the responses carry. -/
def Works (s : State) (request : Message) (size : ℕ) (arrivals : List Arrival) (body : Bytes) :
    Prop :=
  ∃ sent s', sendRequest request s = (.ok sent, s') ∧ Served size body s' sent 0 arrivals

/-- The request is sent in blocks, and its Block2 option is not looked at. -/
def TakesBlock1 (request : Message) : Prop :=
  request.destination ≠ none ∧ ∃ payload, request.payload = some payload ∧
    ((∃ block, request.block1 = .ok (some block)) ∨
      request.block1 = .ok none ∧ maxPayload < payload.length)

/-- A response with a Block1 option answers the last block of an upload: that of the request, or of
an earlier one under its key. -/
def LastSent (s : State) (k : Key) (request : Message) : Prop :=
  (∃ num m size payload, request.block1 = .ok (some (num, m, size)) ∧
    request.payload = some payload ∧ payload.length < num * size + size) ∨
  request.block1 = .ok none ∧ (request.payload.map Payload.length).getD 0 ≤ maxPayload ∧
    (∃ block, request.block2 = .ok (some block)) ∧
    ∃ item, s.block1Sent.get? k = some item ∧ item.m = 0

/-- The entry takes a block that is not the last, behind what it holds. -/
def Takes (entry : Option BlockItem) (contentType : Value) (num : ℕ) (before : Bytes) : Prop :=
  entry = none ∧ before = [] ∨
    ∃ item, entry = some item ∧ item.num = num ∧
      (item.contentType = .none ∨ item.contentType = contentType) ∧
      item.payload = some (.bytes before)

/-- The entry takes the last block, behind what it holds. -/
def Ends (entry : Option BlockItem) (contentType : Value) (before : Bytes) : Prop :=
  entry = none ∧ before = [] ∨
    ∃ item, entry = some item ∧ item.contentType = contentType ∧
      item.payload = some (.bytes before)

/-- The option of a single block of 16 bytes has the value zero and cannot be read. -/
def Readable (e blocks : ℕ) : Prop := blocks = 1 → e ≠ 0

/-- Nothing is stored that would come in front of the body. -/
def Vacant (entry : Option BlockItem) (contentType : Value) (blocks : ℕ) : Prop :=
  (blocks = 1 → Ends entry contentType []) ∧ (blocks ≠ 1 → Takes entry contentType 0 [])

/-- The client's entry after the blocks before `num`. -/
def Holds (s : State) (k : Key) (contentType : Value) (num : ℕ) (body : Bytes) : Prop :=
  ∃ item, s.block2Sent.get? k = some item ∧ item.num = num ∧ item.contentType = contentType ∧
    item.payload = some (.bytes body)

theorem Brings.ne_nil (k : Key) (contentType : Value) (size num : ℕ) (arrivals : List Arrival)
    (body : Bytes) (h : Brings k contentType size num arrivals body) :
    ∃ a rest m b, arrivals = a :: rest ∧ Delivers k contentType size num m b a.response := by
  cases h with
  | last _ a b h => exact ⟨a, [], 0, body, rfl, h⟩
  | more _ a b rest body h brings => exact ⟨a, rest, 1, b, rfl, h⟩

theorem Brings.num_lt (k : Key) (contentType : Value) (size num : ℕ) (arrivals : List Arrival)
    (body : Bytes) (h : Brings k contentType size num arrivals body) : num < 2 ^ 20 := by
  obtain ⟨a, rest, m, b, -, hdelivers⟩ := Brings.ne_nil k contentType size num arrivals body h
  exact hdelivers.number

theorem Delivers.read (k : Key) (contentType : Value) (e num m : ℕ) (b : Bytes)
    (response : Message) (h : Delivers k contentType (2 ^ (e + 4)) num m b response) (he : e ≤ 6)
    (hm : m ≤ 1) (hpos : 16 * num + 8 * m + e ≠ 0) :
    response.block2 = .ok (some (num, m, 2 ^ (e + 4))) := by
  have hread := block_eq_some OptionRegistry.block2 response num m e rfl rfl hm he hpos h.option
  rwa [Nat.mod_eq_of_lt h.number] at hread

theorem Delivers.unread (k : Key) (contentType : Value) (b : Bytes) (response : Message)
    (h : Delivers k contentType (2 ^ (0 + 4)) 0 0 b response) :
    response.block2 = .error .typeError :=
  block_eq_error OptionRegistry.block2 response _ rfl rfl rfl (by decide) h.option

/-! One response with a Block1 option, while an upload is stored under its key. -/

theorem nextBlock1_block2 (k : Key) (item : BlockItem) (size : ℕ) (s : State) (t : Transaction)
    (hok : (nextBlock1 k item size (s, t)).1 = .ok ()) :
    (nextBlock1 k item size (s, t)).2.2.blockTransfer = t.blockTransfer ∧
      (nextBlock1 k item size (s, t)).2.2.request.block2 = t.request.block2 := by
  unfold nextBlock1 at hok ⊢
  dsimp only at hok ⊢
  cases hpayload : item.payload with
  | none =>
    rw [hpayload] at hok
    cases hok
  | some payload =>
    dsimp only
    rw [delBlock1_setPayload, setBlock1_delBlock1]
    exact ⟨rfl, block2_withBlock1 _ _ _ _⟩

section
variable (s : State) (k : Key) (contentType : Value) (size num m : ℕ) (a : Arrival) (b : Bytes)
  (request : Message) (h : Delivers k contentType size num m b a.response) (item : BlockItem)
  (hitem : s.block1Sent.get? k = some item)
include h hitem

theorem received_error (e : PyErr) (hblock1 : a.response.block1 = .error e) :
    (received a s request).1 = .error e := by
  obtain ⟨address, hsource, rfl⟩ := h.source
  unfold received receiveResponse answered
  dsimp only
  rw [hsource]
  dsimp only
  rw [hitem]
  dsimp only
  rw [hblock1]

theorem received_block1 (num' m' size' : ℕ)
    (hblock1 : a.response.block1 = .ok (some (num', m', size'))) :
    received a s request = receiveBlock1Response k item num' size'
      (s, answered a request) := by
  obtain ⟨address, hsource, rfl⟩ := h.source
  exact receiveResponse_block1 a.rng s _ a.response address item num' m' size' rfl hsource hitem
    hblock1

theorem not_asks_block1 (hblock1 : a.response.block1 ≠ .ok none)
    (hstale : request.block2 ≠ .ok (some (num + 1, 0, size))) :
    ¬ Asks size num (received a s request) := by
  rintro ⟨hok, htransfer, hblock2⟩
  cases hread : a.response.block1 with
  | error e =>
    rw [received_error s k contentType size num m a b request h item hitem e hread] at hok
    cases hok
  | ok block =>
    cases block with
    | none => exact hblock1 hread
    | some block =>
      obtain ⟨num', m', size'⟩ := block
      have heq := received_block1 s k contentType size num m a b request h item hitem _ _ _ hread
      rw [heq] at hok htransfer hblock2
      unfold receiveBlock1Response at hok htransfer hblock2
      dsimp only at hok htransfer hblock2
      by_cases hm : item.m = 0
      · rw [if_pos hm] at htransfer
        cases htransfer
      · rw [if_neg hm] at hok hblock2
        by_cases hnum : num' ≠ item.num
        · rw [if_pos hnum] at hok
          cases hok
        · rw [if_neg hnum] at hok hblock2
          refine hstale ((nextBlock1_block2 k item size' s _ ?_).2.symm.trans hblock2)
          unfold returned at hok
          dsimp only at hok
          cases hnext : (nextBlock1 k item size'
              (s, { answered a request with blockTransfer := true })).1 with
          | error e =>
            rw [hnext] at hok
            cases hok
          | ok u => rfl

theorem hands_block1_iff (body : Bytes) (hblock1 : a.response.block1 ≠ .ok none) :
    Hands body (received a s request) ↔
      (∃ block, a.response.block1 = .ok (some block)) ∧ item.m = 0 ∧ body = b := by
  cases hread : a.response.block1 with
  | error e =>
    refine iff_of_false ?_ (by simp)
    rintro ⟨hok, -⟩
    rw [received_error s k contentType size num m a b request h item hitem e hread] at hok
    cases hok
  | ok block =>
    cases block with
    | none => exact absurd hread hblock1
    | some block =>
      obtain ⟨num', m', size'⟩ := block
      rw [received_block1 s k contentType size num m a b request h item hitem _ _ _ hread]
      unfold receiveBlock1Response
      dsimp only
      by_cases hm : item.m = 0
      · rw [if_pos hm]
        constructor
        · rintro ⟨-, -, hpayload⟩
          have hsame : some (Payload.bytes b) = some (.bytes body) := h.payload.symm.trans hpayload
          cases hsame
          exact ⟨⟨_, rfl⟩, hm, rfl⟩
        · rintro ⟨-, -, rfl⟩
          exact ⟨rfl, rfl, h.payload⟩
      · rw [if_neg hm]
        refine iff_of_false ?_ fun hall => hm hall.2.1
        rintro ⟨hok, htransfer, -⟩
        by_cases hnum : num' ≠ item.num
        · rw [if_pos hnum] at hok
          cases hok
        · rw [if_neg hnum] at hok htransfer
          unfold returned at hok htransfer
          dsimp only at hok htransfer
          cases hnext : (nextBlock1 k item size'
              (s, { answered a request with blockTransfer := true })).1 with
          | error e =>
            rw [hnext] at hok
            cases hok
          | ok u =>
            rw [(nextBlock1_block2 k item size' s _ hnext).1] at htransfer
            cases htransfer

end

/-! One response that is looked at as a block of a representation. -/

section
variable (s : State) (k : Key) (contentType : Value) (num e m : ℕ) (a : Arrival) (b : Bytes)
  (request : Message)

theorem received_block2 (size : ℕ) (h : Delivers k contentType size num m b a.response)
    (hpass : s.block1Sent.get? k = none ∨ a.response.block1 = .ok none) :
    received a s request = returned (receiveBlock2Response a.rng k a.response
      (s, answered a request)) := by
  obtain ⟨address, hsource, rfl⟩ := h.source
  rcases hpass with hnone | hblock1
  · unfold received receiveResponse answered
    dsimp only
    rw [hsource]
    dsimp only
    rw [hnone]
  · exact receiveResponse_block2 a.rng s _ a.response address rfl hsource hblock1

theorem block2_next (he : e ≤ 6) (hnum : num + 1 < 2 ^ 20) :
    (withBlock2 request (num + 1) 0 (2 ^ (e + 4))).block2 =
      .ok (some (num + 1, 0, 2 ^ (e + 4))) := by
  have hread := block2_withBlock2 request (num + 1) 0 e (Nat.zero_le 1) he (by omega)
  rwa [Nat.mod_eq_of_lt hnum] at hread

theorem error_block2 (rng : Bytes) (code : ℕ) (t : Transaction) :
    (returned (error rng code (s, t))).2.2.request = t.request ∧
      (returned (error rng code (s, t))).2.2.blockTransfer = true := by
  unfold error
  dsimp only
  cases Message.initFromRequest rng t.request <;> exact ⟨rfl, rfl⟩

section More
variable (h : Delivers k contentType (2 ^ (e + 4)) num 1 b a.response)
  (hpass : s.block1Sent.get? k = none ∨ a.response.block1 = .ok none) (he : e ≤ 6)
include h hpass he

theorem asks_of_takes (before : Bytes) (htakes : Takes (s.block2Sent.get? k) contentType num before)
    (hnum : num + 1 < 2 ^ 20) :
    Asks (2 ^ (e + 4)) num (received a s request) ∧
      Holds (received a s request).2.1 k contentType (num + 1) (before ++ b) ∧
      (received a s request).2.1.block1Sent = s.block1Sent := by
  have hread := h.read k contentType e num 1 b a.response he le_rfl (by omega)
  rw [received_block2 s k contentType num 1 a b request _ h hpass]
  rcases htakes with ⟨hnone, rfl⟩ | ⟨item, hitem, rfl, htype, hbefore⟩
  · rw [receiveBlock2Response_first a.rng s _ k a.response num _ hread hnone]
    exact ⟨⟨rfl, rfl, block2_next num e _ he hnum⟩,
      ⟨_, Dict.get?_insert_self _ _ _, rfl, h.sameType, h.payload⟩, rfl⟩
  · rw [receiveBlock2Response_next a.rng s _ k a.response _ item before b hread hitem
      (htype.imp_right fun hsame => hsame.trans h.sameType.symm) hbefore h.payload]
    exact ⟨⟨rfl, rfl, block2_next item.num e _ he hnum⟩,
      ⟨_, Dict.get?_insert_self _ _ _, rfl, h.sameType, rfl⟩, rfl⟩

theorem takes_of_asks (item : BlockItem) (hitem : s.block2Sent.get? k = some item)
    (hstale : request.block2 ≠ .ok (some (num + 1, 0, 2 ^ (e + 4))))
    (hasks : Asks (2 ^ (e + 4)) num (received a s request)) :
    ∃ before, Takes (s.block2Sent.get? k) contentType num before := by
  obtain ⟨hok, -, hblock2⟩ := hasks
  rw [received_block2 s k contentType num 1 a b request _ h hpass] at hok hblock2
  unfold receiveBlock2Response at hok hblock2
  dsimp only at hok hblock2
  rw [h.read k contentType e num 1 b a.response he le_rfl (by omega)] at hok hblock2
  dsimp only at hok hblock2
  rw [if_pos rfl] at hok hblock2
  unfold receiveMoreBlock2 at hok hblock2
  dsimp only at hok hblock2
  rw [hitem] at hok hblock2
  dsimp only at hok hblock2
  by_cases hnum : num ≠ item.num
  · rw [if_pos hnum, (error_block2 s a.rng _ _).1] at hblock2
    exact absurd hblock2 hstale
  · rw [if_neg hnum] at hok hblock2
    by_cases htype : expectedType item a.response ≠ a.response.contentType
    · rw [if_pos htype, (error_block2 _ a.rng _ _).1] at hblock2
      exact absurd hblock2 hstale
    · rw [if_neg htype] at hok
      cases happend : appendPayload item.payload a.response.payload with
      | error err =>
        rw [happend] at hok
        cases hok
      | ok payload =>
        have hbytes : ∃ before, item.payload = some (.bytes before) := by
          rw [h.payload] at happend
          cases hpayload : item.payload with
          | none =>
            rw [hpayload] at happend
            cases happend
          | some p =>
            cases p with
            | bytes before => exact ⟨before, rfl⟩
            | str text =>
              rw [hpayload] at happend
              cases happend
        obtain ⟨before, hbefore⟩ := hbytes
        refine ⟨before, Or.inr ⟨item, hitem, (not_not.mp hnum).symm, ?_, hbefore⟩⟩
        have hsame := not_not.mp htype
        unfold expectedType at hsame
        split at hsame
        · next hnone => exact Or.inl hnone
        · exact Or.inr (hsame.trans h.sameType)

end More

theorem hands_block2_iff (body : Bytes) (he : e ≤ 6)
    (h : Delivers k contentType (2 ^ (e + 4)) num 0 b a.response)
    (hpass : s.block1Sent.get? k = none ∨ a.response.block1 = .ok none) :
    Hands body (received a s request) ↔ (num = 0 → e ≠ 0) ∧
      ∃ before, Ends (s.block2Sent.get? k) contentType before ∧ body = before ++ b := by
  rw [received_block2 s k contentType num 0 a b request _ h hpass]
  unfold receiveBlock2Response
  dsimp only
  by_cases hzero : num = 0 ∧ e = 0
  · obtain ⟨rfl, rfl⟩ := hzero
    rw [h.unread]
    exact iff_of_false (fun hhands => by cases hhands.1) fun hall => hall.1 rfl rfl
  have hpos : num = 0 → e ≠ 0 := not_and.mp hzero
  rw [h.read k contentType e num 0 b a.response he (Nat.zero_le 1) (by omega), and_iff_right hpos]
  dsimp only
  rw [if_neg (by omega)]
  unfold receiveLastBlock2
  dsimp only
  cases hitem : s.block2Sent.get? k with
  | none =>
    constructor
    · rintro ⟨-, -, hpayload⟩
      have hsame : some (Payload.bytes b) = some (.bytes body) := h.payload.symm.trans hpayload
      cases hsame
      exact ⟨[], Or.inl ⟨rfl, rfl⟩, rfl⟩
    · rintro ⟨before, ⟨-, rfl⟩ | ⟨item, hsome, -⟩, rfl⟩
      · exact ⟨rfl, rfl, h.payload⟩
      · cases hsome
  | some item =>
    dsimp only
    by_cases htype : item.contentType ≠ a.response.contentType
    · rw [if_pos htype]
      refine iff_of_false ?_ ?_
      · rintro ⟨-, htransfer, -⟩
        rw [(error_block2 s a.rng _ _).2] at htransfer
        cases htransfer
      · rintro ⟨before, ⟨hnone, -⟩ | ⟨item', hsome, hsame, -⟩, -⟩
        · cases hnone
        · cases hsome
          exact htype (hsame.trans h.sameType.symm)
    · rw [if_neg htype, h.payload]
      have hsame := (not_not.mp htype).trans h.sameType
      have hother : (∀ before, item.payload ≠ some (.bytes before)) →
          ¬ ∃ before, Ends (some item) contentType before ∧ body = before ++ b := by
        rintro hno ⟨before, ⟨hnone, -⟩ | ⟨item', hsome, -, hbefore⟩, -⟩
        · cases hnone
        · cases hsome
          exact hno before hbefore
      cases hpayload : item.payload with
      | none => exact iff_of_false (fun hhands => by cases hhands.1) (hother (by simp [hpayload]))
      | some p =>
        cases p with
        | str text =>
          exact iff_of_false (fun hhands => by cases hhands.1) (hother (by simp [hpayload]))
        | bytes before =>
          constructor
          · rintro ⟨-, -, heq⟩
            refine ⟨before, Or.inr ⟨item, rfl, hsame, hpayload⟩, ?_⟩
            have hbytes : some (Payload.bytes (before ++ b)) = some (.bytes body) := heq
            cases hbytes
            rfl
          · rintro ⟨before', ⟨hnone, -⟩ | ⟨item', hsome, -, hbefore⟩, rfl⟩
            · cases hnone
            · cases hsome
              rw [hpayload] at hbefore
              cases hbefore
              exact ⟨rfl, rfl, rfl⟩

end

theorem Holds.takes (s : State) (k : Key) (contentType : Value) (num : ℕ) (before : Bytes)
    (held : Holds s k contentType num before) :
    Takes (s.block2Sent.get? k) contentType num before := by
  obtain ⟨item, hitem, hnum, htype, hpayload⟩ := held
  exact Or.inr ⟨item, hitem, hnum, Or.inr htype, hpayload⟩

theorem Holds.ends_iff (s : State) (k : Key) (contentType : Value) (num : ℕ) (before : Bytes)
    (held : Holds s k contentType num before) (before' : Bytes) :
    Ends (s.block2Sent.get? k) contentType before' ↔ before' = before := by
  obtain ⟨item, hitem, hnum, htype, hpayload⟩ := held
  rw [hitem]
  constructor
  · rintro (⟨hnone, -⟩ | ⟨item', hsome, -, hbefore⟩)
    · cases hnone
    · cases hsome
      rw [hpayload] at hbefore
      cases hbefore
      rfl
  · rintro rfl
    exact Or.inr ⟨item, rfl, htype, hpayload⟩

/-- Behind a first block, while an upload is stored: the rest comes through exactly if no response
carries a Block1 option. -/
theorem served_held_iff (k : Key) (contentType : Value) (e num : ℕ) (s : State) (request : Message)
    (before body whole : Bytes) (arrivals : List Arrival) (he : e ≤ 6) (hbegun : num ≠ 0)
    (h : Brings k contentType (2 ^ (e + 4)) num arrivals body)
    (held : Holds s k contentType num before) (hstored : s.block1Sent.get? k ≠ none)
    (hlonger : body.length < whole.length)
    (hblock2 : request.block2 = .ok (some (num, 0, 2 ^ (e + 4)))) :
    Served (2 ^ (e + 4)) whole s request num arrivals ↔
      (∀ a ∈ arrivals, a.response.block1 = .ok none) ∧ whole = before ++ body := by
  obtain ⟨item, hitem⟩ := Option.ne_none_iff_exists'.mp hstored
  induction h generalizing s before request with
  | last num a b h =>
    change Hands whole (received a s request) ↔ _
    by_cases hpass : a.response.block1 = .ok none
    · rw [hands_block2_iff s k contentType num e a b request whole he h (Or.inr hpass)]
      simp [held.ends_iff s k contentType num before, hpass, hbegun]
    · rw [hands_block1_iff s k contentType _ num 0 a b request h item hitem whole hpass]
      refine iff_of_false ?_ fun hall => hpass (hall.1 a (List.mem_singleton_self a))
      rintro ⟨-, -, rfl⟩
      exact absurd hlonger (lt_irrefl _)
  | more num a b rest body h brings ih =>
    obtain ⟨a', rest', m, b', rfl, -⟩ := Brings.ne_nil k contentType _ _ _ _ brings
    change Asks _ num (received a s request) ∧ Served _ whole _ _ (num + 1) (a' :: rest') ↔ _
    by_cases hpass : a.response.block1 = .ok none
    · obtain ⟨hasks, hheld, hframe⟩ := asks_of_takes s k contentType num e a b request h
        (Or.inr hpass) he before (held.takes s k contentType num before)
        (Brings.num_lt k contentType _ _ _ _ brings)
      rw [and_iff_right hasks,
        ih _ _ (before ++ b) (Nat.succ_ne_zero num) hheld (by rw [hframe]; exact hstored)
        (by rw [List.length_append] at hlonger; omega) hasks.2.2 (by rw [hframe]; exact hitem),
        List.append_assoc]
      simp [hpass]
    · refine iff_of_false ?_ fun hall => hpass (hall.1 a List.mem_cons_self)
      rintro ⟨hasks, -⟩
      refine not_asks_block1 s k contentType _ num 1 a b request h item hitem hpass ?_ hasks
      rw [hblock2]
      simp

section
variable (s : State) (k : Key) (contentType : Value) (e : ℕ) (request : Message)
  (arrivals : List Arrival) (body : Bytes)

/-- The responses to a request that is itself sent in blocks. -/
theorem served_stored_iff (he : e ≤ 6) (h : Brings k contentType (2 ^ (e + 4)) 0 arrivals body)
    (hstale : request.block2 ≠ .ok (some (0 + 1, 0, 2 ^ (e + 4)))) (item : BlockItem)
    (hitem : s.block1Sent.get? k = some item) :
    Served (2 ^ (e + 4)) body s request 0 arrivals ↔
      (Readable e arrivals.length ∧ (∀ a ∈ arrivals, a.response.block1 = .ok none) ∧
        Vacant (s.block2Sent.get? k) contentType arrivals.length) ∨
      ∃ a, arrivals = [a] ∧ (∃ block, a.response.block1 = .ok (some block)) ∧ item.m = 0 := by
  cases h with
  | last _ a b h =>
    change Hands body (received a s request) ↔ _
    by_cases hpass : a.response.block1 = .ok none
    · rw [hands_block2_iff s k contentType 0 e a body request body he h (Or.inr hpass)]
      simp [hpass, Vacant, Readable]
    · rw [hands_block1_iff s k contentType _ 0 0 a body request h item hitem body hpass]
      simp [hpass]
  | more _ a b rest body h brings =>
    obtain ⟨a', rest', m, b', rfl, -⟩ := Brings.ne_nil k contentType _ _ _ _ brings
    change Asks _ 0 (received a s request) ∧ Served _ (b ++ body) _ _ (0 + 1) (a' :: rest') ↔ _
    by_cases hpass : a.response.block1 = .ok none
    · have hrest : ∀ before, Takes (s.block2Sent.get? k) contentType 0 before →
          (Asks (2 ^ (e + 4)) 0 (received a s request) ∧
            Served (2 ^ (e + 4)) (b ++ body) (received a s request).2.1
              (received a s request).2.2.request (0 + 1) (a' :: rest') ↔
            (∀ x ∈ a' :: rest', x.response.block1 = .ok none) ∧ before = []) := by
        intro before htakes
        obtain ⟨hasks, hheld, hframe⟩ := asks_of_takes s k contentType 0 e a b request h
          (Or.inr hpass) he before htakes (by norm_num)
        have hlonger : body.length < (b ++ body).length := by
          have := List.length_pos_of_ne_nil h.nonempty
          rw [List.length_append]
          omega
        rw [and_iff_right hasks, served_held_iff k contentType e (0 + 1) _ _ (before ++ b) body
          (b ++ body) _ he (Nat.succ_ne_zero 0) brings hheld
          (by rw [hframe, hitem]; exact Option.some_ne_none _) hlonger hasks.2.2]
        refine and_congr_right fun _ => ⟨fun heq => ?_, fun heq => by rw [heq, List.nil_append]⟩
        have hlength := congrArg List.length heq
        simp only [List.length_append] at hlength
        exact List.length_eq_zero_iff.mp (by omega)
      constructor
      · intro hserved
        have htakes : ∃ before, Takes (s.block2Sent.get? k) contentType 0 before := by
          cases hentry : s.block2Sent.get? k with
          | none => exact ⟨[], Or.inl ⟨rfl, rfl⟩⟩
          | some entry =>
            rw [← hentry]
            exact takes_of_asks s k contentType 0 e a b request h (Or.inr hpass) he entry hentry
              hstale hserved.1
        obtain ⟨before, htakes⟩ := htakes
        obtain ⟨hall, rfl⟩ := (hrest before htakes).mp hserved
        refine Or.inl ⟨by simp [Readable], ?_, by simp, fun _ => htakes⟩
        intro x hx
        rcases List.mem_cons.mp hx with rfl | hx
        · exact hpass
        · exact hall x hx
      · rintro (⟨-, hall, -, htakes⟩ | ⟨x, heq, -⟩)
        · exact (hrest [] (htakes (by simp))).mpr
            ⟨fun x hx => hall x (List.mem_cons_of_mem a hx), rfl⟩
        · cases heq
    · refine iff_of_false ?_ ?_
      · rintro ⟨hasks, -⟩
        exact not_asks_block1 s k contentType _ 0 1 a b request h item hitem hpass hstale hasks
      · rintro (⟨-, hall, -⟩ | ⟨x, heq, -⟩)
        · exact hpass (hall a List.mem_cons_self)
        · cases heq

/-- The entry that `send_request` makes for the Block2 option fits no representation. -/
theorem served_explicit_iff (he : e ≤ 6)
    (h : Brings k contentType (2 ^ (e + 4)) 0 arrivals body)
    (hstale : request.block2 ≠ .ok (some (0 + 1, 0, 2 ^ (e + 4)))) (entry : BlockItem)
    (hentry : s.block2Sent.get? k = some entry) (hpayload : entry.payload = some (.str [])) :
    Served (2 ^ (e + 4)) body s request 0 arrivals ↔
      ∃ a, arrivals = [a] ∧ (∃ block, a.response.block1 = .ok (some block)) ∧
        ∃ item, s.block1Sent.get? k = some item ∧ item.m = 0 := by
  have hbytes : ∀ before, entry.payload ≠ some (.bytes before) := by simp [hpayload]
  cases h with
  | last _ a b h =>
    change Hands body (received a s request) ↔ _
    by_cases hpass : s.block1Sent.get? k = none ∨ a.response.block1 = .ok none
    · rw [hands_block2_iff s k contentType 0 e a body request body he h hpass]
      refine iff_of_false ?_ ?_
      · rintro ⟨-, before, ⟨hnone, -⟩ | ⟨item, hsome, -, hbefore⟩, -⟩
        · rw [hentry] at hnone
          cases hnone
        · rw [hentry] at hsome
          cases hsome
          exact hbytes before hbefore
      · rintro ⟨a', heq, ⟨block, hblock⟩, item, hitem, -⟩
        cases heq
        rcases hpass with hnone | hnone
        · rw [hitem] at hnone
          cases hnone
        · rw [hblock] at hnone
          cases hnone
    · obtain ⟨hsome, hblock1⟩ := not_or.mp hpass
      obtain ⟨item, hitem⟩ := Option.ne_none_iff_exists'.mp hsome
      rw [hands_block1_iff s k contentType _ 0 0 a body request h item hitem body hblock1]
      constructor
      · rintro ⟨hread, hm, -⟩
        exact ⟨a, rfl, hread, item, hitem, hm⟩
      · rintro ⟨a', heq, hread, item', hitem', hm⟩
        cases heq
        cases Option.some.inj (hitem.symm.trans hitem')
        exact ⟨hread, hm, rfl⟩
  | more _ a b rest body h brings =>
    obtain ⟨a', rest', m, b', rfl, -⟩ := Brings.ne_nil k contentType _ _ _ _ brings
    change Asks _ 0 (received a s request) ∧ _ ↔ _
    refine iff_of_false ?_ (by rintro ⟨x, heq, -⟩; cases heq)
    rintro ⟨hasks, -⟩
    by_cases hpass : s.block1Sent.get? k = none ∨ a.response.block1 = .ok none
    · obtain ⟨before, ⟨hnone, -⟩ | ⟨item, hsome, -, -, hbefore⟩⟩ :=
        takes_of_asks s k contentType 0 e a b request h hpass he entry hentry hstale hasks
      · rw [hentry] at hnone
        cases hnone
      · rw [hentry] at hsome
        cases hsome
        exact hbytes before hbefore
    · obtain ⟨hsome, hblock1⟩ := not_or.mp hpass
      obtain ⟨item, hitem⟩ := Option.ne_none_iff_exists'.mp hsome
      exact not_asks_block1 s k contentType _ 0 1 a b request h item hitem hblock1 hstale hasks

end

/-! What `send_request` stores. -/

section
variable (s : State) (k : Key) (request : Message) (hk : destinationKey request = some k)
include hk

theorem sendRequest_takes (h : TakesBlock1 request) :
    ∃ sent s' item, sendRequest request s = (.ok sent, s') ∧ sent.block2 = request.block2 ∧
      s'.block2Sent = s.block2Sent ∧ s'.block1Sent.get? k = some item ∧
      (item.m = 0 ↔ LastSent s k request) := by
  obtain ⟨-, payload, hpayload, hcases⟩ := h
  obtain ⟨address, haddress, rfl⟩ := Option.map_eq_some_iff.mp hk
  have hblock2 : ∀ num size, (withBlock1
      ((replace request OptionRegistry.size1 payload.length rfl rfl).setPayload
        (some (payload.slice 0 size))) num (moreBlocks num size payload.length) size).block2 =
      request.block2 := by
    intro num size
    rw [block2_withBlock1]
    exact block_congr _ _ _ (ofNumber_replace_of_ne request OptionRegistry.size1 _ rfl rfl _
      (by decide))
  unfold sendRequest
  rcases hcases with ⟨⟨num, m, size⟩, hblock1⟩ | ⟨hblock1, hlarge⟩
  · rw [hblock1]
    refine ⟨_, _, _, firstBlock1_eq s num size request payload address hpayload haddress,
      hblock2 num size, rfl, Dict.get?_insert_self _ _ _, ?_⟩
    unfold LastSent moreBlocks
    rw [hblock1, hpayload]
    constructor
    · intro hm
      refine Or.inl ⟨num, m, size, payload, rfl, rfl, ?_⟩
      by_contra hno
      rw [if_neg (by omega)] at hm
      cases hm
    · rintro (⟨num', m', size', payload', hread, heq, hlast⟩ | ⟨hread, -⟩)
      · cases hread
        cases heq
        exact if_pos (by omega)
      · cases hread
  · rw [hblock1]
    dsimp only
    rw [if_pos (by rw [hpayload]; exact hlarge)]
    refine ⟨_, _, _, firstBlock1_eq s 0 maxPayload request payload address hpayload haddress,
      hblock2 0 maxPayload, rfl, Dict.get?_insert_self _ _ _, ?_⟩
    unfold LastSent moreBlocks
    rw [hblock1, hpayload, if_neg (by omega)]
    refine iff_of_false (by simp) ?_
    rintro (⟨num', m', size', payload', hread, -⟩ | ⟨-, hsmall, -⟩)
    · cases hread
    · exact absurd hlarge (Nat.not_lt.mpr hsmall)

theorem sendRequest_explicit (hasked : request.block2 ≠ .ok none) (h : ¬ TakesBlock1 request) :
    ((∃ err, (sendRequest request s).1 = .error err) ∧ ¬ LastSent s k request) ∨
      ∃ num m size, sendRequest request s = (.ok request, { s with
          block2Sent := s.block2Sent.insert k ⟨size, num, m, size, some (.str []), .none⟩ }) ∧
        (LastSent s k request ↔ ∃ item, s.block1Sent.get? k = some item ∧ item.m = 0) := by
  obtain ⟨address, haddress, rfl⟩ := Option.map_eq_some_iff.mp hk
  have hdestination : request.destination ≠ none := by
    rw [haddress]
    exact Option.some_ne_none _
  unfold sendRequest LastSent
  cases hblock1 : request.block1 with
  | error err => exact Or.inl ⟨⟨err, rfl⟩, by simp⟩
  | ok block =>
    cases block with
    | some block =>
      obtain ⟨num, m, size⟩ := block
      have hpayload : request.payload = none := by
        by_contra hsome
        obtain ⟨payload, hpayload⟩ := Option.ne_none_iff_exists'.mp hsome
        exact h ⟨hdestination, payload, hpayload, Or.inl ⟨_, hblock1⟩⟩
      refine Or.inl ⟨⟨.typeError, ?_⟩, by simp [hpayload]⟩
      dsimp only
      unfold firstBlock1
      rw [haddress, hpayload]
    | none =>
      have hsmall : (request.payload.map Payload.length).getD 0 ≤ maxPayload := by
        by_contra hlarge
        cases hpayload : request.payload with
        | none =>
          rw [hpayload] at hlarge
          exact hlarge (Nat.zero_le _)
        | some payload =>
          rw [hpayload] at hlarge
          exact h ⟨hdestination, payload, hpayload, Or.inr ⟨hblock1, Nat.lt_of_not_le hlarge⟩⟩
      dsimp only
      rw [if_neg (by omega)]
      cases hblock2 : request.block2 with
      | error err => exact Or.inl ⟨⟨err, rfl⟩, by simp⟩
      | ok asked =>
        cases asked with
        | none => exact absurd hblock2 hasked
        | some block =>
          obtain ⟨num, m, size⟩ := block
          dsimp only
          rw [haddress]
          refine Or.inr ⟨num, m, size, rfl, ?_⟩
          simp [hsmall]

end

/-! The option that asks for the size. -/

theorem block2_replace_zero (m : Message) (block : ℕ × ℕ × ℕ) :
    (replace m OptionRegistry.block2 0 block2_registered block2_integer).block2 ≠
      .ok (some block) := by
  unfold Message.block2
  rw [block_eq, ofNumber_replace_self, List.foldlM_cons,
    intOption_value_zero OptionRegistry.block2 block2_registered block2_integer]
  intro h
  cases h

theorem block2_explicit (request : Message) (e : ℕ) (he : e ≤ 6) :
    (withBlock2 request 0 0 (2 ^ (e + 4))).block2 ≠ .ok (some (0 + 1, 0, 2 ^ (e + 4))) := by
  by_cases hzero : e = 0
  · subst hzero
    have hvalue : Message.blockValue 0 0 (2 ^ (0 + 4)) = 0 := by decide
    change (replace request OptionRegistry.block2 (Message.blockValue 0 0 (2 ^ (0 + 4)))
      block2_registered block2_integer).block2 ≠ _
    rw [hvalue]
    exact block2_replace_zero request _
  · rw [block2_withBlock2 request 0 0 e (Nat.zero_le 1) he (by omega)]
    simp

/-- Which requests for a size get the representation from which responses. -/
theorem works_iff (s : State) (request : Message) (e : ℕ) (he : e ≤ 6) (k : Key)
    (hk : destinationKey request = some k) (contentType : Value) (arrivals : List Arrival)
    (body : Bytes) (h : Brings k contentType (2 ^ (e + 4)) 0 arrivals body) :
    Works s (withBlock2 request 0 0 (2 ^ (e + 4))) (2 ^ (e + 4)) arrivals body ↔
      (TakesBlock1 (withBlock2 request 0 0 (2 ^ (e + 4))) ∧ Readable e arrivals.length ∧
        (∀ a ∈ arrivals, a.response.block1 = .ok none) ∧
        Vacant (s.block2Sent.get? k) contentType arrivals.length) ∨
      ∃ a, arrivals = [a] ∧ (∃ block, a.response.block1 = .ok (some block)) ∧
        LastSent s k (withBlock2 request 0 0 (2 ^ (e + 4))) := by
  have hstale := block2_explicit request e he
  have hasked := block2_asked request 0 0 (2 ^ (e + 4))
  have hkey : destinationKey (withBlock2 request 0 0 (2 ^ (e + 4))) = some k := hk
  generalize withBlock2 request 0 0 (2 ^ (e + 4)) = explicit at hstale hasked hkey ⊢
  by_cases htakes : TakesBlock1 explicit
  · obtain ⟨sent, s', item, heq, hblock2, hframe, hitem, hlast⟩ :=
      sendRequest_takes s k explicit hkey htakes
    have hserved := served_stored_iff s' k contentType e sent arrivals body he h
      (by rw [hblock2]; exact hstale) item hitem
    rw [hframe] at hserved
    rw [and_iff_right htakes, ← hlast, ← hserved]
    constructor
    · rintro ⟨sent', s'', heq', hdone⟩
      rw [heq] at heq'
      cases heq'
      exact hdone
    · exact fun hdone => ⟨sent, s', heq, hdone⟩
  · rw [or_iff_right fun hall => htakes hall.1]
    rcases sendRequest_explicit s k explicit hkey hasked htakes with
      ⟨⟨err, herr⟩, hnot⟩ | ⟨num, m, size, heq, hlast⟩
    · refine iff_of_false ?_ fun ⟨a, _, _, hlast⟩ => hnot hlast
      rintro ⟨sent, s', heq, -⟩
      rw [heq] at herr
      cases herr
    · have hserved := served_explicit_iff
        { s with block2Sent := s.block2Sent.insert k ⟨size, num, m, size, some (.str []), .none⟩ }
        k contentType e explicit arrivals body he h hstale _ (Dict.get?_insert_self _ _ _) rfl
      rw [hlast]
      refine Iff.trans ?_ hserved
      constructor
      · rintro ⟨sent', s'', heq', hdone⟩
        rw [heq] at heq'
        cases heq'
        exact hdone
      · exact fun hdone => ⟨_, _, heq, hdone⟩

def single (base : Message) : Arrival where
  rng := []
  transaction := Transaction.new (Message.new .request) 0
  response := withBlock2 { base with
    source := some (['s'], 2), token := some [1], payload := some (.bytes [0]) } 0 0 1024

def untyped : Message := Message.new .response

theorem brings_single :
    Brings (key (['s'], 2) (tokenArg (some [1]))) untyped.contentType (2 ^ (6 + 4)) 0
      [single untyped] [0] := by
  refine .last 0 _ [0]
    ⟨⟨_, rfl, rfl⟩, by decide, ?_, ?_, rfl, List.cons_ne_nil _ _, by decide, by simp⟩
  · exact ofNumber_replace_self _ OptionRegistry.block2 _ rfl rfl
  · exact contentType_withBlock2 _ 0 0 1024

def sampleRequest (payload : Option Payload) : Message :=
  { Message.new .request with
    destination := some (['s'], 2)
    token := some [1]
    payload := payload }

/-- A request of 1025 bytes is sent in blocks. -/
theorem works_large :
    Works State.new (withBlock2 (sampleRequest (some (.bytes (List.replicate 1025 0)))) 0 0
      (2 ^ (6 + 4))) (2 ^ (6 + 4)) [single untyped] [0] := by
  refine (works_iff State.new (sampleRequest (some (.bytes (List.replicate 1025 0)))) 6
    (by decide) _ rfl _ _ _ brings_single).mpr (Or.inl ⟨⟨Option.some_ne_none _, _, rfl, Or.inr
      ⟨(block1_withBlock2 _ 0 0 _).trans rfl, ?_⟩⟩, fun _ => by decide, ?_,
      fun _ => Or.inl ⟨rfl, rfl⟩, fun hne => absurd rfl hne⟩)
  · change 1024 < (List.replicate 1025 (0 : UInt8)).length
    rw [List.length_replicate]
    decide
  · intro a ha
    rw [List.mem_singleton.mp ha]
    exact (block1_withBlock2 _ 0 0 _).trans rfl

/-- A request without a payload asks for blocks of 1024 bytes, and gets one block. -/
theorem not_works_plain :
    Brings (key (['s'], 2) (tokenArg (some [1]))) untyped.contentType (2 ^ (6 + 4)) 0
        [single untyped] [0] ∧
      ¬ Works State.new (withBlock2 (sampleRequest none) 0 0 (2 ^ (6 + 4))) (2 ^ (6 + 4))
        [single untyped] [0] := by
  refine ⟨brings_single, ?_⟩
  have htakes : ¬ TakesBlock1 (withBlock2 (sampleRequest none) 0 0 (2 ^ (6 + 4))) := by
    rintro ⟨-, payload, hpayload, -⟩
    cases hpayload
  rintro ⟨sent, s', heq, hserved⟩
  rcases sendRequest_explicit State.new (key (['s'], 2) (tokenArg (some [1]))) _ rfl
      (block2_asked (sampleRequest none) 0 0 _) htakes with
    ⟨⟨err, herr⟩, -⟩ | ⟨num, m, size, heq', -⟩
  · rw [heq] at herr
    cases herr
  · rw [heq] at heq'
    cases heq'
    obtain ⟨a, -, -, item, hitem, -⟩ := (served_explicit_iff _ _ _ 6 _ _ _ le_rfl brings_single
      (block2_explicit (sampleRequest none) 6 le_rfl) _ (Dict.get?_insert_self _ _ _) rfl).mp
        hserved
    cases hitem

end BubotCoap.Block2Chosen
