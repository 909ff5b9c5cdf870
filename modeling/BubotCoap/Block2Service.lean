import BubotCoap.Block2Answers

set_option autoImplicit false

namespace BubotCoap.Block2Service
open PythonData Defines Utils Options Messages OptionAccess OrderedDict Transactions BlockLayer
  BlockFrames BlockSteps Block2Answers

/-- One request and the response made for it, with what other keys do before the request and
between the two. -/
structure Round where
  before : List Operation
  transaction : Transaction
  between : List Operation
  response : Message

def others (ops : List Operation) (s : State) : State := ops.foldl Operation.apply s

def serveAmong (rng : Bytes) (s : State) (x : Round) : Except PyErr Unit × State × Transaction :=
  match receiveRequest rng (others x.before s, x.transaction) with
  | (.error e, s, t) => (.error e, s, t)
  | (.ok (), s, t) => sendResponse (others x.between s, { t with response := some x.response })

def reply (result : Except PyErr Unit × State × Transaction) : Option Message :=
  match result.1 with
  | .ok () => result.2.2.response
  | .error _ => none

def replies (rng : Bytes) : State → List Round → List (Option Message)
  | _, [] => []
  | s, x :: xs => reply (serveAmong rng s x) :: replies rng (serveAmong rng s x).2.1 xs

/-- The payloads up to and including that of the first response with M = 0, and how many they
are. -/
def collect : List (Option Message) → Option (Bytes × ℕ)
  | some r :: rest =>
    match r.block2, r.payload with
    | .ok (some (_, 0, _)), some (.bytes b) => some (b, 1)
    | .ok (some (_, 1, _)), some (.bytes b) => (collect rest).map fun p => (b ++ p.1, p.2 + 1)
    | _, _ => none
  | _ => none

def Round.Apart (x : Round) (k : Key) : Prop :=
  (∀ op ∈ x.before, op.key ≠ some k) ∧ ∀ op ∈ x.between, op.key ≠ some k

/-- The request asks for the block `num` of the size with exponent `szx`. -/
structure Round.Requests (x : Round) (k : Key) (num szx : ℕ) : Prop where
  source : ∃ address, x.transaction.request.source = some address ∧
    key address (tokenArg x.transaction.request.token) = k
  option : ∃ more ≤ 1, ofNumber OptionRegistry.block2.number x.transaction.request.options =
    [block2Option num more (2 ^ (szx + 4))]
  apart : x.Apart k

/-- A request without a Block2 option that `receive_request` lets pass. -/
structure Round.Starts (x : Round) (rng : Bytes) (k : Key) (s : State) : Prop where
  source : ∃ address, x.transaction.request.source = some address ∧
    key address (tokenArg x.transaction.request.token) = k
  option : ofNumber OptionRegistry.block2.number x.transaction.request.options = []
  passes : (receiveRequest rng (others x.before s, x.transaction)).1 = .ok ()
  apart : x.Apart k

def Sequential (k : Key) (szx : ℕ) : ℕ → List Round → Prop
  | _, [] => True
  | num, x :: xs => x.Requests k num szx ∧ Sequential k szx (num + 1) xs

theorem under_others (ops : List Operation) (s : State) (k : Key)
    (h : ∀ op ∈ ops, op.key ≠ some k) : (others ops s).under k = s.under k := by
  induction ops generalizing s with
  | nil => rfl
  | cons op ops ih =>
    have hrest := ih (op.apply s) fun o ho => h o (List.mem_cons_of_mem op ho)
    exact hrest.trans (under_apply op s k (h op List.mem_cons_self))

theorem get?_others (ops : List Operation) (s : State) (k : Key)
    (h : ∀ op ∈ ops, op.key ≠ some k) :
    (others ops s).block2Receive.get? k = s.block2Receive.get? k :=
  congrArg Entries.block2Receive (under_others ops s k h)

theorem outgoingItem_others (ops : List Operation) (s : State) (k : Key) (r : Option Message)
    (h : ∀ op ∈ ops, op.key ≠ some k) : outgoingItem (others ops s) k r = outgoingItem s k r := by
  unfold outgoingItem
  rw [get?_others ops s k h]

theorem ready_others (ops : List Operation) (representation : Payload) (x : Exchange) (k : Key)
    (pos : ℕ) (s : State) (t : Transaction) (h : ∀ op ∈ ops, op.key ≠ some k)
    (hready : Ready representation x k pos s t) :
    Ready representation x k pos (others ops s) t := by
  refine ⟨hready.request, ?_⟩
  rw [outgoingItem_others ops s k _ h]
  exact hready.item

theorem stands_others (ops : List Operation) (s : State) (k : Key) (representation : Payload)
    (pos : ℕ) (h : ∀ op ∈ ops, op.key ≠ some k) (hstands : Stands s k representation pos) :
    Stands (others ops s) k representation pos := by
  unfold Stands
  rw [get?_others ops s k h]
  exact hstands

variable (rng : Bytes) (k : Key) (representation : Payload)

/-- The request as one of the exchanges of the layer, its number as it is read. -/
def Round.exchange (x : Round) (num more szx : ℕ) : Exchange :=
  ⟨x.transaction, x.response, num % 2 ^ 20, more, szx⟩

theorem reads_of_requests (x : Round) (num szx : ℕ) (h : x.Requests k num szx)
    (hpos : 1 ≤ szx) (hle : szx ≤ 6) : ∃ more, (x.exchange num more szx).Reads k := by
  obtain ⟨more, hmore, hoption⟩ := h.option
  refine ⟨more, h.source, ?_⟩
  exact block_eq_some OptionRegistry.block2 x.transaction.request num more szx rfl rfl hmore hle
    (by omega) hoption

theorem serveAmong_ready (s s' : State) (t : Transaction) (x : Round) (y : Exchange) (pos : ℕ)
    (hresponse : y.response = x.response) (hreads : y.Reads k) (hapart : x.Apart k)
    (hreceive : receiveRequest rng (others x.before s, x.transaction) = (.ok (), s', t))
    (hready : Ready representation y k pos s' t) :
    Cut representation k y pos (serveAmong rng s x) := by
  have hbetween := ready_others x.between representation y k pos s' t hapart.2 hready
  have hsend := sendResponse_ready _ t y k representation pos hreads hbetween
  unfold serveAmong
  rw [hreceive, ← hresponse]
  exact hsend

theorem serveAmong_stands (s : State) (x : Round) (num szx pos : ℕ) (h : x.Requests k num szx)
    (hpos : 1 ≤ szx) (hle : szx ≤ 6) (hstands : Stands s k representation pos) :
    ∃ more, Cut representation k (x.exchange num more szx) pos (serveAmong rng s x) := by
  obtain ⟨more, hreads⟩ := reads_of_requests k x num szx h hpos hle
  obtain ⟨s', t, hreceive, hready⟩ := receiveRequest_stands rng (others x.before s)
    (x.exchange num more szx) k representation pos hreads
    (stands_others x.before s k representation pos h.apart.1 hstands)
  exact ⟨more, serveAmong_ready rng k representation s s' t x _ pos rfl hreads h.apart hreceive
    hready⟩

theorem serveAmong_fresh (s : State) (x : Round) (szx : ℕ) (h : x.Requests k 0 szx)
    (hpos : 1 ≤ szx) (hle : szx ≤ 6) (hfresh : s.block2Receive.get? k = none)
    (hpayload : x.response.payload = some representation) :
    ∃ more, Cut representation k (x.exchange 0 more szx) 0 (serveAmong rng s x) := by
  obtain ⟨more, hreads⟩ := reads_of_requests k x 0 szx h hpos hle
  obtain ⟨s', t, hreceive, hready⟩ := receiveRequest_fresh rng (others x.before s)
    (x.exchange 0 more szx) k representation hreads
    ((get?_others x.before s k h.apart.1).trans hfresh) hpayload
  have hzero : (x.exchange 0 more szx).num * (x.exchange 0 more szx).size = 0 := Nat.zero_mul _
  rw [hzero] at hready
  exact ⟨more, serveAmong_ready rng k representation s s' t x _ 0 rfl hreads h.apart hreceive
    hready⟩

theorem block2Receive_receiveRequest (s : State) (t : Transaction)
    (hblock2 : t.request.block2 = .ok none) :
    (receiveRequest rng (s, t)).2.1.block2Receive = s.block2Receive := by
  have hincomplete : (incomplete rng (s, t)).2.1.block2Receive = s.block2Receive := by
    unfold incomplete
    dsimp only
    split <;> rfl
  have haccept : ∀ k num m size item,
      (acceptBlock1 rng k num m size item (s, t)).2.1.block2Receive = s.block2Receive := by
    intro k num m size item
    unfold acceptBlock1
    dsimp only
    split
    · rfl
    · split
      · rfl
      · split <;> rfl
  unfold receiveRequest
  dsimp only
  rw [hblock2]
  dsimp only
  split
  · rfl
  · rfl
  · split
    · rfl
    · unfold receiveBlock1Request
      dsimp only
      split
      · split
        · exact hincomplete
        · split
          · rfl
          · exact haccept _ _ _ _ _
      · split
        · exact hincomplete
        · exact haccept _ _ _ _ _

theorem serveAmong_starts (s : State) (x : Round) (h : x.Starts rng k s)
    (hfresh : s.block2Receive.get? k = none) (hpayload : x.response.payload = some representation)
    (hlarge : representation.length > maxPayload) :
    Cut representation k (x.exchange 0 1 6) 0 (serveAmong rng s x) := by
  have hblock2 : x.transaction.request.block2 = .ok none :=
    block_eq_none _ x.transaction.request h.option
  obtain ⟨address, hsource, rfl⟩ := h.source
  have htable := block2Receive_receiveRequest rng (others x.before s) x.transaction hblock2
  obtain ⟨⟨options, payload, hrequest⟩, _, _⟩ :=
    passes_receiveRequest rng (others x.before s) x.transaction
  have hpasses := h.passes
  unfold serveAmong
  generalize receiveRequest rng (others x.before s, x.transaction) = r at htable hrequest hpasses
  obtain ⟨result, s', t⟩ := r
  dsimp only at htable hrequest hpasses
  subst hpasses
  dsimp only
  have hkey : key address (tokenArg t.request.token) =
      key address (tokenArg x.transaction.request.token) := by rw [hrequest]
  have hnone : s'.block2Receive.get? (key address (tokenArg x.transaction.request.token)) =
      none := by
    rw [htable, get?_others x.before s _ h.apart.1, hfresh]
  have hitem := outgoingItem_new s' _ x.response representation hnone hpayload hlarge
  rw [← outgoingItem_others x.between s' _ _ h.apart.2, ← hkey] at hitem
  have hsend := sendResponse_cut (others x.between s') { t with response := some x.response }
    address x.response _ representation (by rw [hrequest]; exact hsource) rfl hitem rfl
  rw [hkey] at hsend
  have hnum : (x.exchange 0 1 6).num = 0 := rfl
  have hsize : (x.exchange 0 1 6).size = maxPayload := by
    change 2 ^ (6 + 4) = maxPayload
    decide
  refine ⟨hsend.1, ?_, ?_⟩
  · rw [hsize]
    exact hsend.2.1
  · rw [hnum, hsize]
    exact hsend.2.2

theorem moreBlocks_le (num size length : ℕ) : moreBlocks num size length ≤ 1 := by
  unfold moreBlocks
  split_ifs <;> omega

theorem reply_of_cut (x : Round) (num more szx pos : ℕ) (hpos : 1 ≤ szx) (hle : szx ≤ 6)
    (result : Except PyErr Unit × State × Transaction)
    (h : Cut representation k (x.exchange num more szx) pos result) :
    ∃ r, reply result = some r ∧
      r.block2 = .ok (some (num % 2 ^ 20,
        moreBlocks (num % 2 ^ 20) (2 ^ (szx + 4)) representation.length, 2 ^ (szx + 4))) ∧
      r.payload = some (representation.slice pos (pos + 2 ^ (szx + 4))) := by
  obtain ⟨r, hr, hslice, hoption⟩ := h.block
  refine ⟨r, ?_, ?_, hslice⟩
  · unfold reply
    rw [h.returns]
    exact hr
  · have hread := block_eq_some OptionRegistry.block2 r (num % 2 ^ 20)
      (moreBlocks (num % 2 ^ 20) (2 ^ (szx + 4)) representation.length) szx rfl rfl
      (moreBlocks_le _ _ _) hle (by omega) hoption
    rwa [Nat.mod_mod] at hread

theorem collect_last (r : Message) (rest : List (Option Message)) (num size : ℕ) (b : Bytes)
    (hblock2 : r.block2 = .ok (some (num, 0, size))) (hpayload : r.payload = some (.bytes b)) :
    collect (some r :: rest) = some (b, 1) := by
  rw [collect, hblock2, hpayload]
  rfl

theorem collect_more (r : Message) (rest : List (Option Message)) (num size : ℕ) (b : Bytes)
    (hblock2 : r.block2 = .ok (some (num, 1, size))) (hpayload : r.payload = some (.bytes b)) :
    collect (some r :: rest) = (collect rest).map fun p => (b ++ p.1, p.2 + 1) := by
  rw [collect, hblock2, hpayload]
  rfl

section
variable (body : Bytes) (szx : ℕ) (hpos : 1 ≤ szx) (hle : szx ≤ 6)
include hpos hle

/-- The answer to the request for the block `num`, cut where that block begins, in front of what is
collected from the answers to the requests behind it. -/
theorem collect_step (x : Round) (num more : ℕ) (rest : List (Option Message))
    (result : Except PyErr Unit × State × Transaction) (hnum : num < 2 ^ 20)
    (hbegins : num * 2 ^ (szx + 4) ≤ body.length)
    (hcut : Cut (.bytes body) k (x.exchange num more szx) (num * 2 ^ (szx + 4)) result)
    (hrest : num ≠ body.length / 2 ^ (szx + 4) →
      collect rest = some (body.drop ((num + 1) * 2 ^ (szx + 4)),
        body.length / 2 ^ (szx + 4) + 1 - (num + 1))) :
    collect (reply result :: rest) = some (body.drop (num * 2 ^ (szx + 4)),
      body.length / 2 ^ (szx + 4) + 1 - num) := by
  have hsize : 0 < 2 ^ (szx + 4) := Nat.two_pow_pos _
  obtain ⟨r, hreply, hblock2, hslice⟩ :=
    reply_of_cut k (.bytes body) x num more szx _ hpos hle result hcut
  rw [Nat.mod_eq_of_lt hnum] at hblock2
  have hfloor : num ≤ body.length / 2 ^ (szx + 4) := (Nat.le_div_iff_mul_le hsize).mpr hbegins
  have hbytes : r.payload = some (.bytes ((body.drop (num * 2 ^ (szx + 4))).take
      (2 ^ (szx + 4)))) := by
    rw [hslice]
    simp [Payload.slice, slice]
  by_cases hlast : num = body.length / 2 ^ (szx + 4)
  · have hends : body.length < num * 2 ^ (szx + 4) + 2 ^ (szx + 4) := by
      have hdivide := Nat.div_add_mod body.length (2 ^ (szx + 4))
      have hpart := Nat.mod_lt body.length hsize
      rw [← hlast, Nat.mul_comm] at hdivide
      omega
    have hmore : moreBlocks num (2 ^ (szx + 4)) (Payload.bytes body).length = 0 := if_pos hends
    rw [hmore] at hblock2
    rw [hreply, collect_last r rest _ _ _ hblock2 hbytes, List.take_of_length_le (by
      rw [List.length_drop]
      omega), ← hlast]
    simp
  · have hends : num * 2 ^ (szx + 4) + 2 ^ (szx + 4) ≤ body.length := by
      have := (Nat.le_div_iff_mul_le hsize).mp (show num + 1 ≤ body.length / 2 ^ (szx + 4) by omega)
      rwa [Nat.succ_mul] at this
    have hmore : moreBlocks num (2 ^ (szx + 4)) (Payload.bytes body).length = 1 :=
      if_neg (Nat.not_lt.mpr hends)
    rw [hmore] at hblock2
    rw [hreply, collect_more r rest _ _ _ hblock2 hbytes, hrest hlast, Option.map_some,
      Nat.succ_mul, ← List.drop_drop, List.take_append_drop]
    congr 2
    omega

/-- The number is read modulo 2^20, and the block of that number ends inside the
representation. -/
theorem collect_none (x : Round) (num more pos : ℕ) (rest : List (Option Message))
    (result : Except PyErr Unit × State × Transaction)
    (hlong : 2 ^ 20 * 2 ^ (szx + 4) ≤ body.length)
    (hcut : Cut (.bytes body) k (x.exchange num more szx) pos result)
    (hrest : collect rest = none) : collect (reply result :: rest) = none := by
  obtain ⟨r, hreply, hblock2, hslice⟩ :=
    reply_of_cut k (.bytes body) x num more szx pos hpos hle result hcut
  have hread : num % 2 ^ 20 + 1 ≤ 2 ^ 20 := Nat.mod_lt num (by decide)
  have hends : num % 2 ^ 20 * 2 ^ (szx + 4) + 2 ^ (szx + 4) ≤ body.length := by
    rw [← Nat.succ_mul]
    exact (Nat.mul_le_mul_right _ hread).trans hlong
  have hmore : moreBlocks (num % 2 ^ 20) (2 ^ (szx + 4)) (Payload.bytes body).length = 1 :=
    if_neg (Nat.not_lt.mpr hends)
  rw [hmore] at hblock2
  rw [hreply, collect_more r rest _ _ _ hblock2 hslice, hrest]
  rfl

omit hpos hle in
theorem floor_lt (h : body.length < 2 ^ 20 * 2 ^ (szx + 4)) :
    body.length / 2 ^ (szx + 4) < 2 ^ 20 :=
  (Nat.div_lt_iff_lt_mul (Nat.two_pow_pos _)).mpr h

/-- From a state in which the block `num` is next, the answers to the requests for `num` and the
blocks behind it carry the rest of the representation. -/
theorem collect_sequential (xs : List Round) (num : ℕ) (s : State)
    (hshort : body.length < 2 ^ 20 * 2 ^ (szx + 4))
    (hbegins : num * 2 ^ (szx + 4) ≤ body.length)
    (hstands : Stands s k (.bytes body) (num * 2 ^ (szx + 4)))
    (hasks : Sequential k szx num xs) (henough : body.length / 2 ^ (szx + 4) < num + xs.length) :
    collect (replies rng s xs) = some (body.drop (num * 2 ^ (szx + 4)),
      body.length / 2 ^ (szx + 4) + 1 - num) := by
  induction xs generalizing num s with
  | nil =>
    have hfloor := (Nat.le_div_iff_mul_le (Nat.two_pow_pos (szx + 4))).mpr hbegins
    rw [List.length_nil] at henough
    omega
  | cons x xs ih =>
    have hfloor := (Nat.le_div_iff_mul_le (Nat.two_pow_pos (szx + 4))).mpr hbegins
    have hlimit := floor_lt body szx hshort
    obtain ⟨more, hcut⟩ := serveAmong_stands rng k (.bytes body) s x num szx _ hasks.1 hpos hle
      hstands
    refine collect_step k body szx hpos hle x num more _ _ (by omega) hbegins hcut ?_
    intro hlast
    refine ih (num + 1) _ ?_ ?_ hasks.2 (by rw [List.length_cons] at henough; omega)
    · exact (Nat.le_div_iff_mul_le (Nat.two_pow_pos _)).mp (by omega)
    · have hnext := hcut.stands
      rw [Nat.succ_mul]
      exact hnext

/-- With more blocks than numbers no answer is the last one. -/
theorem collect_never (xs : List Round) (num pos : ℕ) (s : State)
    (hlong : 2 ^ 20 * 2 ^ (szx + 4) ≤ body.length)
    (hstands : Stands s k (.bytes body) pos) (hasks : Sequential k szx num xs) :
    collect (replies rng s xs) = none := by
  induction xs generalizing num pos s with
  | nil => rfl
  | cons x xs ih =>
    obtain ⟨more, hcut⟩ := serveAmong_stands rng k (.bytes body) s x num szx _ hasks.1 hpos hle
      hstands
    have hrest := ih (num + 1) _ _ hcut.stands hasks.2
    exact collect_none k body szx hpos hle x num more pos _ _ hlong hcut hrest

end

/-- A key without an entry gets a representation whose blocks all have a number: what it has
collected with the first response without M = 1 is the representation, and that response is the
one to the request for the last, perhaps empty, block. -/
theorem service_complete (rng : Bytes) (k : Key) (body : Bytes) (szx : ℕ) (s : State) (x : Round)
    (xs : List Round) (hpos : 1 ≤ szx) (hle : szx ≤ 6)
    (hshort : body.length < 2 ^ 20 * 2 ^ (szx + 4))
    (hfresh : s.block2Receive.get? k = none) (hpayload : x.response.payload = some (.bytes body))
    (hfirst : x.Requests k 0 szx ∨
      szx = 6 ∧ body.length > maxPayload ∧ x.Starts rng k s)
    (hasks : Sequential k szx 1 xs) (henough : body.length / 2 ^ (szx + 4) ≤ xs.length) :
    collect (replies rng s (x :: xs)) =
      some (body, body.length / 2 ^ (szx + 4) + 1) := by
  obtain ⟨more, hcut⟩ : ∃ more,
      Cut (.bytes body) k (x.exchange 0 more szx) 0 (serveAmong rng s x) := by
    rcases hfirst with hrequests | ⟨rfl, hlarge, hstarts⟩
    · exact serveAmong_fresh rng k (.bytes body) s x szx hrequests hpos hle hfresh hpayload
    · exact ⟨1, serveAmong_starts rng k (.bytes body) s x hstarts hfresh hpayload hlarge⟩
  have hzero : 0 * 2 ^ (szx + 4) = 0 := Nat.zero_mul _
  have hstep := collect_step k body szx hpos hle x 0 more
    (replies rng (serveAmong rng s x).2.1 xs) (serveAmong rng s x) (by decide)
    (by rw [hzero]; exact Nat.zero_le _) (by rw [hzero]; exact hcut)
  rw [hzero, List.drop_zero, Nat.sub_zero] at hstep
  refine hstep fun hlast => ?_
  refine collect_sequential rng k body szx hpos hle xs 1 _ hshort ?_ ?_ hasks (by omega)
  · exact (Nat.le_div_iff_mul_le (Nat.two_pow_pos _)).mp (Nat.one_le_iff_ne_zero.mpr hlast.symm)
  · have hnext := hcut.stands
    rw [Nat.zero_add] at hnext
    rw [Nat.one_mul]
    exact hnext

def sampleKey : Key := key (['h'], 1) (tokenArg (some [1]))

def sampleRound (body : Bytes) (num : ℕ) : Round where
  before := [.purge (key (['g'], 1) (tokenArg (some [1])))]
  transaction := Transaction.new
    (withBlock2 { Message.new .request with source := some (['h'], 1), token := some [1] } num 0 32)
    0
  between := []
  response := { Message.new .response with payload := some (.bytes body) }

theorem sampleRound_requests (body : Bytes) (num : ℕ) :
    (sampleRound body num).Requests sampleKey num 1 where
  source := ⟨(['h'], 1), rfl, rfl⟩
  option := ⟨0, Nat.zero_le 1,
    ofNumber_replace_self _ OptionRegistry.block2 (Message.blockValue num 0 32) rfl rfl⟩
  apart := by
    refine ⟨?_, fun op hop => absurd hop List.not_mem_nil⟩
    intro op hop
    rw [List.mem_singleton.mp hop]
    decide

theorem sample_sequential (body : Bytes) (n num : ℕ) :
    Sequential sampleKey 1 num ((List.range' num n).map (sampleRound body)) := by
  induction n generalizing num with
  | zero => exact trivial
  | succ n ih => exact ⟨sampleRound_requests body num, ih (num + 1)⟩

theorem service_complete_sample :
    collect (replies [] State.new
        (sampleRound (List.replicate 70 0) 0 ::
          (List.range' 1 2).map (sampleRound (List.replicate 70 0)))) =
      some (List.replicate 70 0, (List.replicate 70 (0 : UInt8)).length / 2 ^ (1 + 4) + 1) :=
  service_complete [] sampleKey (List.replicate 70 0) 1 State.new
    (sampleRound (List.replicate 70 0) 0) ((List.range' 1 2).map (sampleRound (List.replicate 70 0)))
    (by decide) (by decide) (by rw [List.length_replicate]; decide) (Dict.get?_empty sampleKey) rfl
    (Or.inl (sampleRound_requests _ 0)) (sample_sequential _ 2 1)
    (by rw [List.length_replicate]; decide)

/-- A representation of 2^25 bytes asked for in blocks of 32 bytes, however long. -/
theorem not_service_complete :
    State.new.block2Receive.get? sampleKey = none ∧
      ∀ n, Sequential sampleKey 1 0
          ((List.range' 0 n).map (sampleRound (List.replicate (2 ^ 25) 0))) ∧
        collect (replies [] State.new
          ((List.range' 0 n).map (sampleRound (List.replicate (2 ^ 25) 0)))) = none := by
  refine ⟨Dict.get?_empty sampleKey, ?_⟩
  intro n
  refine ⟨sample_sequential _ n 0, ?_⟩
  have hlong : 2 ^ 20 * 2 ^ (1 + 4) ≤ (List.replicate (2 ^ 25) (0 : UInt8)).length := by
    rw [List.length_replicate]
    decide
  cases n with
  | zero => rfl
  | succ n =>
    obtain ⟨more, hcut⟩ := serveAmong_fresh [] sampleKey (.bytes (List.replicate (2 ^ 25) 0))
      State.new (sampleRound _ 0) 1 (sampleRound_requests _ 0) le_rfl (by decide)
      (Dict.get?_empty sampleKey) rfl
    refine collect_none sampleKey _ 1 le_rfl (by decide) _ 0 more 0 _ _ hlong hcut ?_
    exact collect_never [] sampleKey _ 1 le_rfl (by decide) _ 1 _ _ hlong hcut.stands
      (sample_sequential _ n 1)

end BubotCoap.Block2Service
