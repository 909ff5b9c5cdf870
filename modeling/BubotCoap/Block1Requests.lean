import BubotCoap.Block2Assembly

set_option autoImplicit false

namespace BubotCoap.Block1Requests
open PythonData Defines Utils Options Messages OptionAccess OrderedDict Transactions BlockLayer
  BlockFrames BlockSteps
open Block2Assembly (Arrival)

/-- The block number, the more bit and the size in the Block1 option of a request. -/
def namedBlock (request : Message) : Option (ℕ × ℕ × ℕ) :=
  match (ofNumber OptionRegistry.block1.number request.options).map CoapOption.stored with
  | [.int v] => some (v / 16, v / 8 % 2, 2 ^ (v % 8 + 4))
  | _ => none

/-- A request with a Block1 option carries the bytes that the option names, and announces more
exactly if there are more. -/
def Describes (payload : Payload) (request : Message) : Prop :=
  ∀ num more size, namedBlock request = some (num, more, size) →
    request.payload = some (payload.slice (num * size) ((num + 1) * size)) ∧
      (more = 1 ↔ (num + 1) * size < payload.length)

/-- The number and the size of the first block of a body of `length` bytes. -/
def startBlock (request : Message) (length : ℕ) : Option (ℕ × ℕ) :=
  match request.block1 with
  | .ok (some (num, _, size)) => some (num, size)
  | .ok none => if maxPayload < length then some (0, maxPayload) else none
  | .error _ => none

/-- A response that acknowledges the block `num`, with a size of its own. -/
structure Acknowledges (k : Key) (num size : ℕ) (a : Arrival) : Prop where
  key : responseKey a.paired = some k
  code : a.response.code = some Codes.continueCode
  block1 : ∃ more, a.response.block1 = .ok (some (num, more, size))

/-- Each response acknowledges the block after the one before, with a size that is not larger. -/
inductive Continued (k : Key) : ℕ → ℕ → List Arrival → Prop
  | nil (num size : ℕ) : Continued k num size []
  | cons (num size next : ℕ) (a : Arrival) (rest : List Arrival) (h : Acknowledges k num next a)
    (hnext : next ≤ size) (continued : Continued k (num + 1) next rest) :
    Continued k num size (a :: rest)

/-- The requests for which the layer changes the one that was answered. -/
def emitted : State → List Arrival → List Message
  | _, [] => []
  | s, a :: rest =>
    let (returned, s', t) := receiveResponse a.rng (s, a.paired)
    if returned = .ok true ∧ t.blockTransfer = true then t.request :: emitted s' rest
    else emitted s' rest

/-- Whatever the body of `length` bytes, each request of the upload describes its bytes. -/
def Uploads (s : State) (request : Message) (length : ℕ) (arrivals : List Arrival) : Prop :=
  ∀ payload : Payload, payload.length = length → ∀ sent s',
    sendRequest (request.setPayload (some payload)) s = (.ok sent, s') →
      ∀ m ∈ sent :: emitted s' arrivals, Describes payload m

def ackedSize (response : Message) : ℕ :=
  match response.block1 with
  | .ok (some (_, _, size)) => size
  | _ => 0

theorem ackedSize_eq (k : Key) (num size : ℕ) (a : Arrival) (h : Acknowledges k num size a) :
    ackedSize a.response = size := by
  obtain ⟨more, hblock1⟩ := h.block1
  unfold ackedSize
  rw [hblock1]

/-- The responses to all blocks but the last keep the size. -/
def KeepsSize (num size length : ℕ) (arrivals : List Arrival) : Prop :=
  ∀ i a, arrivals[i]? = some a → (num + i + 1) * size < length → ackedSize a.response = size

/-- The responses of an upload; without a first block there is nothing to acknowledge. -/
def Acknowledged (k : Key) : Option (ℕ × ℕ) → List Arrival → Prop
  | some (num, size), arrivals => Continued k num size arrivals
  | none, arrivals => arrivals = []

/-- The upload begins with block 0 and does not end with a full block 0, and its size stays. -/
def Aligned (num size length : ℕ) (arrivals : List Arrival) : Prop :=
  (num = 0 ∨ length = 0) ∧ (num + 1) * size ≠ length ∧ KeepsSize 0 size length arrivals

theorem namedBlock_withBlock1 (m : Message) (num more e : ℕ) (hm : more ≤ 1) (he : e ≤ 6) :
    namedBlock (withBlock1 m num more (2 ^ (e + 4))) = some (num, more, 2 ^ (e + 4)) := by
  have hvalue := blockValue_two_pow num more e hm he
  have h₁ : Message.blockValue num more (2 ^ (e + 4)) / 16 = num := by omega
  have h₂ : Message.blockValue num more (2 ^ (e + 4)) / 8 % 2 = more := by omega
  have h₃ : Message.blockValue num more (2 ^ (e + 4)) % 8 = e := by omega
  have hown : (ofNumber OptionRegistry.block1.number
      (withBlock1 m num more (2 ^ (e + 4))).options).map CoapOption.stored =
        [.int (Message.blockValue num more (2 ^ (e + 4)))] :=
    congrArg (List.map CoapOption.stored) (ofNumber_replace_self m OptionRegistry.block1 _ rfl rfl)
  unfold namedBlock
  rw [hown]
  dsimp only
  rw [h₁, h₂, h₃]

theorem describes_withBlock1 (payload : Payload) (m : Message) (num more e : ℕ) (hm : more ≤ 1)
    (he : e ≤ 6) :
    Describes payload (withBlock1 m num more (2 ^ (e + 4))) ↔
      m.payload = some (payload.slice (num * 2 ^ (e + 4)) ((num + 1) * 2 ^ (e + 4))) ∧
        (more = 1 ↔ (num + 1) * 2 ^ (e + 4) < payload.length) := by
  have hnamed := namedBlock_withBlock1 m num more e hm he
  constructor
  · intro h
    exact h num more _ hnamed
  · intro h num' more' size' hnamed'
    rw [hnamed] at hnamed'
    cases hnamed'
    exact h

/-- The client's entry once the block `i` is sent, all blocks being of `n` bytes. -/
structure Sends (body : Payload) (i n : ℕ) (item : BlockItem) : Prop where
  byte : item.byte = (i + 1) * n
  num : item.num = i
  size : item.size = n
  payload : item.payload = some body
  more : item.m ≠ 0 ↔ (i + 1) * n < body.length

section
variable (s : State) (k : Key) (item : BlockItem) (payload : Payload) (num size next : ℕ)
  (a : Arrival) (rest : List Arrival)

def continued (item : BlockItem) (payload : Payload) (next : ℕ) : BlockItem where
  byte := item.byte + next
  num := item.num + 1
  m := if payload.length ≤ item.byte + next then 0 else 1
  size := next
  payload := some payload
  contentType := item.contentType

theorem receiveResponse_acknowledged (hget : s.block1Sent.get? k = some item)
    (hack : Acknowledges k num next a) :
    receiveResponse a.rng (s, a.paired) =
      receiveBlock1Response k item num next (s, a.paired) := by
  obtain ⟨more, hblock1⟩ := hack.block1
  obtain ⟨address, hsource, hkey⟩ := Option.map_eq_some_iff.mp hack.key
  rw [← hkey] at hget ⊢
  exact receiveResponse_block1 a.rng s a.paired a.response address item num more next rfl hsource
    hget hblock1

theorem emitted_next (hget : s.block1Sent.get? k = some item)
    (hpayload : item.payload = some payload) (hm : item.m ≠ 0) (hnext : next ≤ item.size)
    (hack : Acknowledges k item.num next a) :
    ∃ request : Message, emitted s (a :: rest) =
      withBlock1 (request.setPayload (some (payload.slice item.byte (item.byte + next))))
          (item.num + 1) (if payload.length ≤ item.byte + next then 0 else 1) next ::
        emitted { s with block1Sent := s.block1Sent.insert k (continued item payload next) }
          rest := by
  refine ⟨a.paired.request.delMid, ?_⟩
  have hitem : { continued item payload next with payload := item.payload } =
      continued item payload next := by
    rw [hpayload]
    rfl
  rw [emitted, receiveResponse_acknowledged s k item item.num next a hget hack,
    receiveBlock1Response_scaled s a.paired k item payload next hpayload hm hnext]
  dsimp only
  rw [if_pos ⟨rfl, rfl⟩]
  rw [← hitem]
  rfl

theorem emitted_last (hget : s.block1Sent.get? k = some item) (hm : item.m = 0)
    (hack : Acknowledges k num next a) : emitted s (a :: rest) = emitted s rest := by
  rw [emitted, receiveResponse_acknowledged s k item num next a hget hack]
  unfold receiveBlock1Response
  dsimp only
  rw [if_pos hm]
  dsimp only
  rw [if_neg (by simp)]

end

theorem emitted_done (s : State) (k : Key) (item : BlockItem) (num size : ℕ)
    (arrivals : List Arrival) (hget : s.block1Sent.get? k = some item) (hm : item.m = 0)
    (h : Continued k num size arrivals) : emitted s arrivals = [] := by
  induction h with
  | nil num size => rfl
  | cons num size next a rest hack hnext continued ih =>
    rw [emitted_last s k item num next a rest hget hm hack]
    exact ih

theorem sends_continued (payload : Payload) (num size : ℕ) (item : BlockItem)
    (h : Sends payload num size item) :
    Sends payload (num + 1) size (continued item payload size) where
  byte := by
    change item.byte + size = _
    rw [h.byte]
    ring
  num := congrArg (· + 1) h.num
  size := rfl
  payload := rfl
  more := by
    have hbyte : item.byte + size = (num + 1 + 1) * size := by
      rw [h.byte]
      ring
    change (if payload.length ≤ item.byte + size then 0 else 1) ≠ 0 ↔ _
    rw [hbyte]
    split <;> omega

theorem describes_continued (payload : Payload) (num e : ℕ) (item : BlockItem) (request : Message)
    (he : e ≤ 6) (h : Sends payload num (2 ^ (e + 4)) item) :
    Describes payload (withBlock1
      (request.setPayload (some (payload.slice item.byte (item.byte + 2 ^ (e + 4)))))
      (item.num + 1) (if payload.length ≤ item.byte + 2 ^ (e + 4) then 0 else 1)
      (2 ^ (e + 4))) := by
  have hbyte : item.byte + 2 ^ (e + 4) = (num + 1 + 1) * 2 ^ (e + 4) := by
    rw [h.byte]
    ring
  refine (describes_withBlock1 payload _ _ _ e ?_ he).mpr ⟨?_, ?_⟩
  · split <;> omega
  · change some _ = _
    rw [hbyte, h.num, h.byte]
  · rw [hbyte, h.num]
    split <;> omega

theorem describes_emitted (k : Key) (payload : Payload) (e num : ℕ) (item : BlockItem) (s : State)
    (arrivals : List Arrival) (he : e ≤ 6) (hget : s.block1Sent.get? k = some item)
    (hsends : Sends payload num (2 ^ (e + 4)) item) (hcont : Continued k num (2 ^ (e + 4)) arrivals)
    (hkeeps : KeepsSize num (2 ^ (e + 4)) payload.length arrivals) :
    ∀ m ∈ emitted s arrivals, Describes payload m := by
  induction arrivals generalizing num item s with
  | nil =>
    intro m hm
    cases hm
  | cons a rest ih =>
    by_cases hmore : item.m = 0
    · rw [emitted_done s k item num _ (a :: rest) hget hmore hcont]
      intro m hm
      cases hm
    · cases hcont with
      | cons _ _ next _ _ hack hnext hrest =>
        have hsame : next = 2 ^ (e + 4) := by
          rw [← ackedSize_eq k num next a hack]
          exact hkeeps 0 a rfl (hsends.more.mp hmore)
        subst hsame
        rw [← hsends.num] at hack
        obtain ⟨request, hemitted⟩ := emitted_next s k item payload _ a rest hget hsends.payload
          hmore hsends.size.ge hack
        rw [hemitted]
        refine List.forall_mem_cons.mpr
          ⟨describes_continued payload num e item request he hsends, ?_⟩
        refine ih (num + 1) _ _ (Dict.get?_insert_self _ _ _)
          (sends_continued payload num _ item hsends) hrest ?_
        intro i b hb hlt
        refine hkeeps (i + 1) b hb ?_
        rwa [show num + (i + 1) + 1 = num + 1 + i + 1 by omega]

/-- A body of zeros with a one at a single offset. -/
def marked (length offset : ℕ) : Payload := .bytes ((List.replicate length 0).set offset 1)

theorem length_marked (length offset : ℕ) : (marked length offset).length = length := by
  change ((List.replicate length (0 : UInt8)).set offset 1).length = length
  rw [List.length_set, List.length_replicate]

/-- The marked bytes are found at their own offset only. -/
theorem slice_marked (length offset other n n' : ℕ) (hoffset : offset < length) (hn : 0 < n)
    (hne : offset ≠ other) :
    (marked length offset).slice offset (offset + n) ≠
      (marked length offset).slice other (other + n') := by
  intro h
  have hslices : slice ((List.replicate length (0 : UInt8)).set offset 1) offset (offset + n) =
      slice ((List.replicate length (0 : UInt8)).set offset 1) other (other + n') :=
    Payload.bytes.inj h
  unfold slice at hslices
  rw [Nat.add_sub_cancel_left, Nat.add_sub_cancel_left] at hslices
  have hhead := congrArg (fun l : Bytes => l[0]?) hslices
  rw [List.getElem?_take_of_lt hn, List.getElem?_drop, Nat.add_zero,
    List.getElem?_set_self (by rwa [List.length_replicate]), List.getElem?_take,
    List.getElem?_drop, Nat.add_zero, List.getElem?_set_ne hne, List.getElem?_replicate] at hhead
  split_ifs at hhead
  cases hhead

theorem slice_of_length_zero (payload : Payload) (i j i' j' : ℕ) (h : payload.length = 0) :
    payload.slice i j = payload.slice i' j' := by
  cases payload with
  | bytes b =>
    rw [List.eq_nil_of_length_eq_zero (show b.length = 0 from h)]
    simp [Payload.slice, slice]
  | str t =>
    rw [List.eq_nil_of_length_eq_zero (show t.length = 0 from h)]
    simp [Payload.slice, slice]

theorem describes_first (payload : Payload) (request : Message) (num e : ℕ) (he : e ≤ 6) :
    Describes payload (withBlock1
        (request.setPayload (some (payload.slice 0 (2 ^ (e + 4))))) num
        (moreBlocks num (2 ^ (e + 4)) payload.length) (2 ^ (e + 4))) ↔
      payload.slice 0 (2 ^ (e + 4)) =
          payload.slice (num * 2 ^ (e + 4)) ((num + 1) * 2 ^ (e + 4)) ∧
        (num + 1) * 2 ^ (e + 4) ≠ payload.length := by
  have hmul : num * 2 ^ (e + 4) + 2 ^ (e + 4) = (num + 1) * 2 ^ (e + 4) := by ring
  have hmore : moreBlocks num (2 ^ (e + 4)) payload.length ≤ 1 := by
    unfold moreBlocks
    split <;> omega
  rw [describes_withBlock1 payload _ num _ e hmore he]
  refine and_congr ?_ ?_
  · change some _ = some _ ↔ _
    rw [Option.some_inj]
  · unfold moreBlocks
    rw [hmul]
    split <;> omega

/-- A smaller size is counted in blocks of its own, but cut at the old offset. -/
theorem size_of_describes (payload : Payload) (e num next : ℕ) (item : BlockItem)
    (request : Message) (more : ℕ) (he : e ≤ 6) (hmore : more ≤ 1)
    (hsends : Sends payload num (2 ^ (e + 4)) item)
    (hpayload : payload = marked payload.length ((num + 1) * 2 ^ (e + 4)))
    (hlt : (num + 1) * 2 ^ (e + 4) < payload.length) (hnext : next ≤ 2 ^ (e + 4))
    (hpow : ∃ e', next = 2 ^ (e' + 4))
    (h : Describes payload (withBlock1
      (request.setPayload (some (payload.slice item.byte (item.byte + next)))) (item.num + 1) more
      next)) : next = 2 ^ (e + 4) := by
  obtain ⟨e', rfl⟩ := hpow
  have he' : e' ≤ 6 := by
    have := (Nat.pow_le_pow_iff_right (by norm_num : 1 < 2)).mp hnext
    omega
  have hslices := Option.some.inj ((describes_withBlock1 payload _ _ _ e' hmore he').mp h).1
  have hend : (num + 1 + 1) * 2 ^ (e' + 4) = (num + 1) * 2 ^ (e' + 4) + 2 ^ (e' + 4) := by ring
  rw [hsends.byte, hsends.num, hend, hpayload] at hslices
  by_contra hne
  refine slice_marked payload.length _ _ _ _ hlt (Nat.two_pow_pos _) ?_ hslices
  intro heq
  exact hne (Nat.eq_of_mul_eq_mul_left (Nat.succ_pos num) heq).symm

theorem keepsSize_of_describes (k : Key) (e length num : ℕ) (s : Payload → State)
    (item : Payload → BlockItem) (arrivals : List Arrival) (he : e ≤ 6)
    (hget : ∀ payload, payload.length = length →
      (s payload).block1Sent.get? k = some (item payload))
    (hsends : ∀ payload, payload.length = length →
      Sends payload num (2 ^ (e + 4)) (item payload))
    (hcont : Continued k num (2 ^ (e + 4)) arrivals)
    (h : ∀ payload, payload.length = length → ∀ m ∈ emitted (s payload) arrivals,
      Describes payload m) : KeepsSize num (2 ^ (e + 4)) length arrivals := by
  induction arrivals generalizing num s item with
  | nil =>
    intro i a ha
    cases ha
  | cons a rest ih =>
    cases hcont with
    | cons _ _ next _ _ hack hnext hrest =>
      obtain ⟨more, hblock1⟩ := hack.block1
      have hemitted : ∀ payload, payload.length = length → (num + 1) * 2 ^ (e + 4) < length →
          ∃ request : Message, emitted (s payload) (a :: rest) =
            withBlock1 (request.setPayload
                (some (payload.slice (item payload).byte ((item payload).byte + next))))
              ((item payload).num + 1)
              (if payload.length ≤ (item payload).byte + next then 0 else 1) next ::
            emitted { s payload with
              block1Sent :=
                (s payload).block1Sent.insert k (continued (item payload) payload next) } rest := by
        intro payload hlength hlt
        have hitem := hsends payload hlength
        exact emitted_next (s payload) k (item payload) payload next a rest (hget payload hlength)
          hitem.payload (hitem.more.mpr (by rwa [hlength])) (by rwa [hitem.size])
          (by rwa [hitem.num])
      have hsame : (num + 1) * 2 ^ (e + 4) < length → next = 2 ^ (e + 4) := by
        intro hlt
        have hlength := length_marked length ((num + 1) * 2 ^ (e + 4))
        obtain ⟨request, heq⟩ := hemitted _ hlength hlt
        have hdescribes := h _ hlength _ (by rw [heq]; exact List.mem_cons_self)
        refine size_of_describes _ e num next _ request _ he ?_ (hsends _ hlength)
          (by rw [hlength]) (by rwa [hlength]) hnext (block_size _ a.response num more next hblock1)
          hdescribes
        split <;> omega
      intro i b hb hlt
      cases i with
      | zero =>
        cases hb
        rw [ackedSize_eq k num next a hack]
        exact hsame hlt
      | succ i =>
        have hlt' : (num + 1) * 2 ^ (e + 4) < length :=
          lt_of_le_of_lt (Nat.mul_le_mul_right _ (by omega)) hlt
        obtain rfl := hsame hlt'
        let next := fun payload => continued (item payload) payload (2 ^ (e + 4))
        refine ih (num + 1)
          (fun payload => { s payload with
            block1Sent := (s payload).block1Sent.insert k (next payload) }) next
          (fun payload _ => Dict.get?_insert_self _ _ _)
          (fun payload hlength => sends_continued payload num _ _ (hsends payload hlength)) hrest
          ?_ i b hb (by rwa [show num + 1 + i + 1 = num + (i + 1) + 1 by omega])
        intro payload hlength m hm
        obtain ⟨request, heq⟩ := hemitted payload hlength hlt'
        refine h payload hlength m ?_
        rw [heq]
        exact List.mem_cons_of_mem _ hm

section
variable (s : State) (request : Message) (payload : Payload)

theorem sendRequest_start (num size : ℕ)
    (h : startBlock request payload.length = some (num, size)) :
    sendRequest (request.setPayload (some payload)) s =
      firstBlock1 num size (request.setPayload (some payload)) s := by
  have hsame : (request.setPayload (some payload)).block1 = request.block1 := rfl
  unfold startBlock at h
  unfold sendRequest
  rw [hsame]
  cases hblock1 : request.block1 with
  | error e =>
    rw [hblock1] at h
    cases h
  | ok block =>
    rw [hblock1] at h
    cases block with
    | some block =>
      obtain ⟨num', m, size'⟩ := block
      cases h
      rfl
    | none =>
      dsimp only at h ⊢
      split_ifs at h with hlarge
      cases h
      exact if_pos hlarge

theorem sendRequest_whole (sent : Message) (s' : State)
    (h : startBlock request payload.length = none)
    (hsent : sendRequest (request.setPayload (some payload)) s = (.ok sent, s')) :
    Describes payload sent := by
  have hsame : (request.setPayload (some payload)).block1 = request.block1 := rfl
  unfold startBlock at h
  unfold sendRequest at hsent
  rw [hsame] at hsent
  cases hblock1 : request.block1 with
  | error e =>
    rw [hblock1] at hsent
    cases hsent
  | ok block =>
    rw [hblock1] at h hsent
    cases block with
    | some block =>
      obtain ⟨num, m, size⟩ := block
      cases h
    | none =>
      have hnil : ofNumber OptionRegistry.block1.number request.options = [] :=
        ofNumber_of_block_none _ request hblock1
      dsimp only at h hsent
      split_ifs at h with hlarge
      have hsmall : ¬ ((request.setPayload (some payload)).payload.map Payload.length).getD 0 >
          maxPayload := hlarge
      rw [if_neg hsmall] at hsent
      have hoptions : sent.options = request.options := by
        cases hblock2 : (request.setPayload (some payload)).block2 with
        | error e =>
          rw [hblock2] at hsent
          cases hsent
        | ok asked =>
          rw [hblock2] at hsent
          cases asked with
          | none =>
            cases hsent
            rfl
          | some asked =>
            obtain ⟨num, m, size⟩ := asked
            dsimp only at hsent
            cases hdestination : (request.setPayload (some payload)).destination with
            | none =>
              rw [hdestination] at hsent
              cases hsent
            | some address =>
              rw [hdestination] at hsent
              cases hsent
              rfl
      intro num more size hnamed
      unfold namedBlock at hnamed
      rw [hoptions, hnil] at hnamed
      cases hnamed

end

theorem start_size (request : Message) (length num size : ℕ)
    (h : startBlock request length = some (num, size)) (hsize : size ≤ maxPayload) :
    ∃ e ≤ 6, size = 2 ^ (e + 4) := by
  unfold startBlock at h
  cases hblock1 : request.block1 with
  | error e =>
    rw [hblock1] at h
    cases h
  | ok block =>
    rw [hblock1] at h
    cases block with
    | some block =>
      obtain ⟨num', m, size'⟩ := block
      cases h
      obtain ⟨e, rfl⟩ := block_size _ request num m size hblock1
      have hle := (Nat.pow_le_pow_iff_right (by norm_num : 1 < 2)).mp
        (show 2 ^ (e + 4) ≤ 2 ^ 10 from hsize)
      exact ⟨e, by omega, rfl⟩
    | none =>
      dsimp only at h
      split_ifs at h
      cases h
      exact ⟨6, le_rfl, rfl⟩

/-- The client's entry for the first request, and the tables with it. -/
def firstItem (request : Message) (num size : ℕ) (payload : Payload) : BlockItem where
  byte := size
  num := num
  m := moreBlocks num size payload.length
  size := size
  payload := some payload
  contentType := request.contentType

def begun (s : State) (request : Message) (k : Key) (num size : ℕ) (payload : Payload) : State :=
  { s with block1Sent := s.block1Sent.insert k (firstItem request num size payload) }

theorem sends_first (request : Message) (payload : Payload) (e : ℕ)
    (h : (0 + 1) * 2 ^ (e + 4) ≠ payload.length) :
    Sends payload 0 (2 ^ (e + 4)) (firstItem request 0 (2 ^ (e + 4)) payload) where
  byte := by
    rw [Nat.zero_add, Nat.one_mul]
    rfl
  num := rfl
  size := rfl
  payload := rfl
  more := by
    change moreBlocks 0 (2 ^ (e + 4)) payload.length ≠ 0 ↔ _
    rw [Nat.zero_add, Nat.one_mul] at h ⊢
    unfold moreBlocks
    rw [Nat.zero_mul, Nat.zero_add]
    split <;> omega

section
variable (s : State) (request : Message) (k : Key) (length num e : ℕ) (arrivals : List Arrival)
  (hkey : destinationKey request = some k)
  (hstart : startBlock request length = some (num, 2 ^ (e + 4)))
include hkey hstart

theorem sendRequest_first (payload : Payload) (hlength : payload.length = length) :
    ∃ r : Message, sendRequest (request.setPayload (some payload)) s =
      (.ok (withBlock1 (r.setPayload (some (payload.slice 0 (2 ^ (e + 4))))) num
        (moreBlocks num (2 ^ (e + 4)) payload.length) (2 ^ (e + 4))),
        begun s request k num (2 ^ (e + 4)) payload) := by
  obtain ⟨address, haddress, hk⟩ := Option.map_eq_some_iff.mp hkey
  rw [sendRequest_start s request payload num _ (by rw [hlength, hstart]),
    firstBlock1_eq s num _ (request.setPayload (some payload)) payload address rfl haddress]
  subst hk
  exact ⟨_, rfl⟩

variable (he : e ≤ 6) (hcont : Continued k num (2 ^ (e + 4)) arrivals)
include he hcont

theorem aligned_of_uploads (h : Uploads s request length arrivals) :
    Aligned num (2 ^ (e + 4)) length arrivals := by
  have hfirst : ∀ payload : Payload, payload.length = length →
      payload.slice 0 (2 ^ (e + 4)) =
          payload.slice (num * 2 ^ (e + 4)) ((num + 1) * 2 ^ (e + 4)) ∧
        (num + 1) * 2 ^ (e + 4) ≠ payload.length := by
    intro payload hlength
    obtain ⟨r, heq⟩ := sendRequest_first s request k length num e hkey hstart payload hlength
    exact (describes_first payload r num e he).mp
      (h payload hlength _ _ heq _ List.mem_cons_self)
  have hzero : num = 0 ∨ length = 0 := by
    by_contra hboth
    obtain ⟨hnum, hlength⟩ := not_or.mp hboth
    have hslices := (hfirst (marked length 0) (length_marked length 0)).1
    have hother : num * 2 ^ (e + 4) ≠ 0 := Nat.mul_ne_zero hnum (Nat.two_pow_pos _).ne'
    rw [Nat.add_mul, Nat.one_mul] at hslices
    refine slice_marked length 0 (num * 2 ^ (e + 4)) (2 ^ (e + 4)) (2 ^ (e + 4)) (by omega)
      (Nat.two_pow_pos _) hother.symm ?_
    rwa [Nat.zero_add]
  have hne := (hfirst (marked length 0) (length_marked length 0)).2
  rw [length_marked] at hne
  refine ⟨hzero, hne, ?_⟩
  rcases hzero with rfl | rfl
  · refine keepsSize_of_describes k e length 0 (begun s request k 0 (2 ^ (e + 4)))
      (firstItem request 0 (2 ^ (e + 4))) arrivals he (fun payload _ => Dict.get?_insert_self _ _ _)
      (fun payload hlength => sends_first request payload e (by rwa [hlength])) hcont ?_
    intro payload hlength m hm
    obtain ⟨r, heq⟩ := sendRequest_first s request k length 0 e hkey hstart payload hlength
    exact h payload hlength _ _ heq m (List.mem_cons_of_mem _ hm)
  · intro i a _ hlt
    exact absurd hlt (Nat.not_lt_zero _)

theorem uploads_of_aligned (h : Aligned num (2 ^ (e + 4)) length arrivals) :
    Uploads s request length arrivals := by
  intro payload hlength sent s' heq
  obtain ⟨r, heq'⟩ := sendRequest_first s request k length num e hkey hstart payload hlength
  rw [heq] at heq'
  cases heq'
  obtain ⟨hzero, hne, hkeeps⟩ := h
  rw [← hlength] at hne
  have hget := Dict.get?_insert_self s.block1Sent k (firstItem request num (2 ^ (e + 4)) payload)
  rcases hzero with rfl | hzero
  · refine List.forall_mem_cons.mpr ⟨(describes_first payload r 0 e he).mpr ⟨?_, hne⟩, ?_⟩
    · rw [Nat.zero_mul, Nat.zero_add, Nat.one_mul]
    · exact describes_emitted k payload e 0 _ (begun s request k 0 (2 ^ (e + 4)) payload) arrivals
        he hget (sends_first request payload e hne) hcont (by rwa [hlength])
  · have hlast : (firstItem request num (2 ^ (e + 4)) payload).m = 0 := by
      change moreBlocks num (2 ^ (e + 4)) payload.length = 0
      rw [hlength, hzero]
      exact if_pos (Nat.add_pos_right _ (Nat.two_pow_pos _))
    rw [emitted_done (begun s request k num (2 ^ (e + 4)) payload) k _ num _ arrivals hget hlast
      hcont]
    refine List.forall_mem_cons.mpr ⟨(describes_first payload r num e he).mpr ⟨?_, hne⟩, ?_⟩
    · exact slice_of_length_zero payload _ _ _ _ (hlength.trans hzero)
    · intro m hm
      cases hm

end

/-- The option tells which bytes each request carries, for every body of the length, exactly if
the upload begins with block 0, does not end with a full block 0, and its size stays. -/
theorem uploads_iff (s : State) (request : Message) (k : Key) (length : ℕ)
    (arrivals : List Arrival) (hkey : destinationKey request = some k)
    (hsize : ∀ num size, startBlock request length = some (num, size) → size ≤ maxPayload)
    (hack : Acknowledged k (startBlock request length) arrivals) :
    Uploads s request length arrivals ↔
      ∀ num size, startBlock request length = some (num, size) →
        Aligned num size length arrivals := by
  cases hstart : startBlock request length with
  | none =>
    rw [hstart] at hack
    obtain rfl : arrivals = [] := hack
    constructor
    · intro _ num size h
      cases h
    · intro _ payload hlength sent s' hsent m hm
      rw [List.mem_singleton.mp hm]
      exact sendRequest_whole s request payload sent s' (by rw [hlength, hstart]) hsent
  | some start =>
    obtain ⟨num, size⟩ := start
    obtain ⟨e, he, rfl⟩ := start_size request length num size hstart (hsize num size hstart)
    rw [hstart] at hack
    constructor
    · intro h num' size' hstart'
      cases hstart'
      exact aligned_of_uploads s request k length num e arrivals hkey hstart he hack h
    · intro h
      exact uploads_of_aligned s request k length num e arrivals hkey hstart he hack
        (h num _ rfl)

def sampleRequest : Message :=
  { Message.new .request with
    destination := some (['s'], 2)
    token := some [1] }

def sampleArrival : Arrival where
  rng := []
  transaction := Transaction.new sampleRequest 0
  response := withBlock1
    { Message.new .response with
      source := some (['s'], 2)
      token := some [1]
      code := some Codes.continueCode } 0 1 maxPayload

theorem sampleArrival_acknowledges :
    Acknowledges (key (['s'], 2) (tokenArg (some [1]))) 0 maxPayload sampleArrival where
  key := rfl
  code := rfl
  block1 := ⟨1, block1_withBlock1_max _ 0 1 le_rfl (by norm_num)⟩

theorem uploads_two : Uploads State.new sampleRequest 1500 [sampleArrival] := by
  have hstart : startBlock sampleRequest 1500 = some (0, maxPayload) := rfl
  refine (uploads_iff State.new sampleRequest (key (['s'], 2) (tokenArg (some [1]))) 1500
    [sampleArrival] rfl ?_ ?_).mpr ?_
  · intro num size h
    cases hstart.symm.trans h
    exact le_rfl
  · exact .cons 0 maxPayload maxPayload sampleArrival [] sampleArrival_acknowledges le_rfl
      (.nil 1 maxPayload)
  · intro num size h
    cases hstart.symm.trans h
    refine ⟨Or.inl rfl, by decide, ?_⟩
    intro i a ha _
    cases i with
    | zero =>
      cases ha
      exact ackedSize_eq _ 0 maxPayload sampleArrival sampleArrival_acknowledges
    | succ i => cases ha

def explicitRequest : Message := withBlock1 sampleRequest 0 1 16

/-- A body of 16 bytes in blocks of 16 bytes is announced to have more. -/
theorem not_uploads_full :
    ¬ ∀ (s : State) (request : Message) (k : Key) (length : ℕ) (arrivals : List Arrival),
      destinationKey request = some k →
      (∀ num size, startBlock request length = some (num, size) → size ≤ maxPayload) →
      Acknowledged k (startBlock request length) arrivals →
      Uploads s request length arrivals := by
  intro h
  have hblock1 : explicitRequest.block1 = .ok (some (0, 1, 16)) :=
    block1_withBlock1 sampleRequest 0 1 0 le_rfl (Nat.zero_le 6) (by decide)
  have hstart : startBlock explicitRequest 16 = some (0, 16) := by
    unfold startBlock
    rw [hblock1]
  have huploads := h State.new explicitRequest (key (['s'], 2) (tokenArg (some [1]))) 16 [] rfl
    (by
      intro num size hsize
      cases hstart.symm.trans hsize
      decide)
    (by
      rw [hstart]
      exact .nil 0 16)
  have hsent := sendRequest_start State.new explicitRequest (marked 16 0) 0 16
    (by rw [length_marked, hstart])
  rw [firstBlock1_eq State.new 0 16 (explicitRequest.setPayload (some (marked 16 0))) (marked 16 0)
    (['s'], 2) rfl rfl] at hsent
  have hdescribes := huploads (marked 16 0) (length_marked 16 0) _ _ hsent _ List.mem_cons_self
  exact ((describes_first (marked 16 0) _ 0 0 (Nat.zero_le 6)).mp hdescribes).2 rfl

end BubotCoap.Block1Requests
