import BubotCoap.Block1Assembly

set_option autoImplicit false

namespace BubotCoap.Block2Assembly
open PythonData Defines Utils Options Messages OptionAccess OrderedDict Transactions BlockLayer
  BlockFrames BlockSteps Runs
open Block1Assembly (Block Outcome Entry accepted accepted_concat logged)

/-- A response that carries a Block2 option and no Block1 option, as it has arrived: with a source
address, and a payload of bytes or none. -/
structure Downloads (response : Message) : Prop where
  source : response.source ≠ none
  block1 : response.block1 = .ok none
  block2 : ∃ num m size, response.block2 = .ok (some (num, m, size)) ∧ m ≤ 1
  payload : ∀ text, response.payload ≠ some (.str text)

/-- A response in the transaction of its request that is passed to `receive_response`. -/
structure Arrival where
  rng : Bytes
  transaction : Transaction
  response : Message

def Arrival.paired (a : Arrival) : Transaction :=
  { a.transaction with response := some a.response }

def bytesOf : Option Payload → Bytes
  | some (.bytes b) => b
  | _ => []

def blockOf (response : Message) : Block where
  num := match response.block2 with
    | .ok (some (num, _, _)) => num
    | _ => 0
  more := match response.block2 with
    | .ok (some (_, m, _)) => m
    | _ => 0
  contentType := response.contentType
  payload := bytesOf response.payload

/-- The next block is asked for, the response is handed on, or there is an error. -/
def outcome (t : Transaction) (r : Except PyErr Bool × State × Transaction) : Outcome :=
  match r with
  | (.error _, _) => .refused
  | (.ok _, _, t') =>
    if t'.blockTransfer then if t'.response = t.response then .continued else .refused
    else .finished

/-- The layer together with what has happened to the responses so far. -/
structure Watched where
  state : State
  log : List Entry

def step (w : Watched) (a : Arrival) : Watched where
  state := (receiveResponse a.rng (w.state, a.paired)).2.1
  log := w.log ++ [⟨responseKey a.paired, blockOf a.response,
    outcome a.paired (receiveResponse a.rng (w.state, a.paired))⟩]

/-- What is handed on are the blocks from 0 on, each once and of one content type. -/
structure Assembled (blocks : List Block) (t : Transaction) : Prop where
  payload : bytesOf (t.response.bind Message.payload) = blocks.flatMap Block.payload
  numbered : blocks.map Block.num = List.range blocks.length
  sameType : ∀ b ∈ blocks, ∀ c ∈ blocks, b.contentType = c.contentType

/-- The response could be joined to the entry. -/
def Fits (item : BlockItem) (response : Message) : Prop :=
  item.contentType = response.contentType ∧ ∃ a, item.payload = some (.bytes a)

/-- A response that is not the last is the first block, or does not come in its turn without a
payload. -/
structure Leads (entry : Option BlockItem) (response : Message) : Prop where
  first : entry = none → (blockOf response).num = 0
  filled : ∀ item, entry = some item → Fits item response →
    (blockOf response).num = item.num → response.payload ≠ none

/-- A last response is block 0, or the next one if it could be joined. -/
structure Ends (entry : Option BlockItem) (response : Message) : Prop where
  single : entry = none → (blockOf response).num = 0
  next : ∀ item, entry = some item → Fits item response → response.payload ≠ none →
    (blockOf response).num = item.num

/-- The entry stands for the blocks, if it can be handed on at all. -/
structure Tracks (entry : Option BlockItem) (blocks : List Block) : Prop where
  absent : entry = none → blocks = []
  num : ∀ item a, entry = some item → item.payload = some (.bytes a) → item.num = blocks.length
  payload : ∀ item a, entry = some item → item.payload = some (.bytes a) →
    a = blocks.flatMap Block.payload
  contentType : ∀ item a, entry = some item → item.payload = some (.bytes a) →
    item.contentType ≠ .none
  sameType : ∀ item a, entry = some item → item.payload = some (.bytes a) →
    ∀ b ∈ blocks, b.contentType = item.contentType
  numbered : ∀ item a, entry = some item → item.payload = some (.bytes a) →
    blocks.map Block.num = List.range blocks.length

theorem tracks_none : Tracks none [] where
  absent _ := rfl
  num item a h := by cases h
  payload item a h := by cases h
  contentType item a h := by cases h
  sameType item a h := by cases h
  numbered item a h := by cases h

/-- An entry whose payload is no byte string is never handed on. -/
theorem tracks_unjoinable (item : BlockItem) (blocks : List Block)
    (h : ∀ a, item.payload ≠ some (.bytes a)) : Tracks (some item) blocks where
  absent hnone := by cases hnone
  num item' a hitem ha := by cases hitem; exact absurd ha (h a)
  payload item' a hitem ha := by cases hitem; exact absurd ha (h a)
  contentType item' a hitem ha := by cases hitem; exact absurd ha (h a)
  sameType item' a hitem ha := by cases hitem; exact absurd ha (h a)
  numbered item' a hitem ha := by cases hitem; exact absurd ha (h a)

theorem initFromRequest_options (rng : Bytes) (request r : Message)
    (h : Message.initFromRequest rng request = .ok r) : r.options = OptionList.empty := by
  unfold Message.initFromRequest at h
  cases hsource : request.replySource with
  | error e =>
    rw [hsource] at h
    cases h
  | ok source =>
    rw [hsource, ok_bind] at h
    unfold Message.setToken at h
    split at h
    · split_ifs at h
      cases h
      rfl
    · cases h
      rfl

section
variable (rng : Bytes) (s : State) (t : Transaction) (k : Key) (response : Message)

/-- An error takes nothing: it raises, or puts a response of its own in place of the block. -/
theorem error_refused (code : ℕ) (t' : Transaction) (hresponse : t'.response = some response)
    (hblock2 : response.block2 ≠ .ok none) (ht : t'.response = t.response) :
    outcome t (returned (error rng code (s, t'))) = .refused ∧
      (returned (error rng code (s, t'))).2.1 = s := by
  unfold error
  dsimp only
  cases hinit : Message.initFromRequest rng t'.request with
  | error e => exact ⟨rfl, rfl⟩
  | ok r =>
    refine ⟨?_, rfl⟩
    have hoptions := initFromRequest_options rng _ r hinit
    have hne : some ({ r with type := some .RST, code := some code } : Message) ≠ t.response := by
      rw [← ht, hresponse]
      intro heq
      apply hblock2
      rw [← Option.some.inj heq]
      have hnone : ({ r with type := some .RST, code := some code } : Message).block2 =
          ({ Message.new .response with options := r.options } : Message).block2 := rfl
      rw [hnone, hoptions]
      rfl
    change (if true = true then
        if some ({ r with type := some .RST, code := some code } : Message) = t.response then
          Outcome.continued else .refused
      else .finished) = .refused
    rw [if_pos rfl, if_neg hne]

theorem outcome_continued (t' : Transaction) (s' : State) (b : Bool)
    (htransfer : t'.blockTransfer = true) (hresponse : t'.response = t.response) :
    outcome t (.ok b, s', t') = .continued := by
  change (if t'.blockTransfer then if t'.response = t.response then Outcome.continued else .refused
    else .finished) = .continued
  rw [htransfer, if_pos rfl, if_pos hresponse]

theorem outcome_finished (t' : Transaction) (s' : State) (b : Bool)
    (htransfer : t'.blockTransfer = false) : outcome t (.ok b, s', t') = .finished := by
  change (if t'.blockTransfer then if t'.response = t.response then Outcome.continued else .refused
    else .finished) = .finished
  rw [htransfer]
  rfl

theorem appendPayload_bytes (a : Bytes) (p q : Option Payload) (h : ∀ text, q ≠ some (.str text))
    (hp : p = some (.bytes a)) :
    (q = none ∧ appendPayload p q = .error .typeError) ∨
      ∃ b, q = some (.bytes b) ∧ appendPayload p q = .ok (some (.bytes (a ++ b))) := by
  subst hp
  cases q with
  | none => exact Or.inl ⟨rfl, rfl⟩
  | some q =>
    cases q with
    | bytes b => exact Or.inr ⟨b, rfl, rfl⟩
    | str text => exact absurd rfl (h text)

theorem appendPayload_eq_bytes (c : Bytes) (p q : Option Payload)
    (h : appendPayload p q = .ok (some (.bytes c))) :
    ∃ a b, p = some (.bytes a) ∧ q = some (.bytes b) ∧ c = a ++ b := by
  cases p with
  | none => cases h
  | some p =>
    cases q with
    | none => cases p <;> cases h
    | some q =>
      cases p <;> cases q <;> cases h
      exact ⟨_, _, rfl, rfl, rfl⟩

theorem map_num_append (blocks : List Block) (b : Block)
    (h : blocks.map Block.num = List.range blocks.length) :
    (blocks ++ [b]).map Block.num = List.range (blocks ++ [b]).length ↔
      b.num = blocks.length := by
  rw [List.map_append, h, List.length_append, List.length_singleton, List.range_succ]
  simp

theorem Tracks.join (item : BlockItem) (blocks : List Block) (byte m size : ℕ)
    (payload : Option Payload) (h : Tracks (some item) blocks)
    (hnum : (blockOf response).num = item.num)
    (htype : expectedType item response = response.contentType)
    (happend : appendPayload item.payload response.payload = .ok payload) :
    Tracks (some ⟨byte, item.num + 1, m, size, payload, expectedType item response⟩)
      (blocks ++ [blockOf response]) := by
  by_cases hbytes : ∃ c, payload = some (.bytes c)
  · obtain ⟨c, rfl⟩ := hbytes
    obtain ⟨a, b, ha, hb, rfl⟩ := appendPayload_eq_bytes c _ _ happend
    have hblock : (blockOf response).payload = b := congrArg bytesOf hb
    have hlength := h.num item a rfl ha
    have hcontent : item.contentType = response.contentType := by
      rw [← htype, expectedType, if_neg (h.contentType item a rfl ha)]
    refine ⟨?_, ?_, ?_, ?_, ?_, ?_⟩
    · intro hnone
      cases hnone
    · intro item' a' hitem _
      cases hitem
      rw [List.length_append, List.length_singleton, ← hlength]
    · intro item' a' hitem ha'
      cases hitem
      cases ha'
      rw [List.flatMap_append, List.flatMap_singleton, hblock, ← h.payload item a rfl ha]
    · intro item' a' hitem _
      cases hitem
      rw [htype]
      exact OptionAccess.contentType_ne_none _
    · intro item' a' hitem _ c hc
      cases hitem
      rw [htype]
      rcases List.mem_append.mp hc with hc | hc
      · rw [h.sameType item a rfl ha c hc, hcontent]
      · rw [List.mem_singleton.mp hc]
        rfl
    · intro item' a' hitem _
      exact (map_num_append blocks _ (h.numbered item a rfl ha)).mpr (hnum.trans hlength)
  · refine tracks_unjoinable _ _ ?_
    intro c hc
    exact hbytes ⟨c, hc⟩

theorem Tracks.begin (byte m size num : ℕ) (hnum : (blockOf response).num = 0)
    (hnumber : (blockOf response).num = num) :
    Tracks (some ⟨byte, num + 1, m, size, response.payload, response.contentType⟩)
      [blockOf response] := by
  by_cases hbytes : ∃ c, response.payload = some (.bytes c)
  · obtain ⟨c, hc⟩ := hbytes
    refine ⟨?_, ?_, ?_, ?_, ?_, ?_⟩
    · intro hnone
      cases hnone
    · intro item a hitem _
      cases hitem
      rw [← hnumber, hnum]
      rfl
    · intro item a hitem ha
      cases hitem
      rw [List.flatMap_singleton]
      exact (congrArg bytesOf ha).symm
    · intro item a hitem _
      cases hitem
      exact OptionAccess.contentType_ne_none _
    · intro item a hitem _ b hb
      cases hitem
      rw [List.mem_singleton.mp hb]
      rfl
    · intro item a hitem _
      rw [List.map_singleton, hnum]
      rfl
  · refine tracks_unjoinable _ _ ?_
    intro c hc
    exact hbytes ⟨c, hc⟩

/-- What a response that is not the last does to the blocks taken under its key. -/
inductive More (k : Key) (blocks : List Block) (b : Block) (t : Transaction)
    (r : Except PyErr Bool × State × Transaction) : Prop
  | refused (h : outcome t r = .refused) (tracks : Tracks (r.2.1.block2Sent.get? k) blocks)
  | continued (h : outcome t r = .continued)
    (tracks : Tracks (r.2.1.block2Sent.get? k) (blocks ++ [b]))

/-- What a last response does: there is an error, or the blocks are handed on. -/
inductive Last (k : Key) (blocks : List Block) (b : Block) (ends : Prop) (t : Transaction)
    (r : Except PyErr Bool × State × Transaction) : Prop
  | refused (h : outcome t r = .refused) (tracks : Tracks (r.2.1.block2Sent.get? k) blocks)
    (hends : ends)
  | finished (h : outcome t r = .finished) (gone : r.2.1.block2Sent.get? k = none)
    (assembled : Assembled (blocks ++ [b]) r.2.2 ↔ ends)

variable (blocks : List Block) (hdownloads : Downloads response)
  (hresponse : t.response = some response) (htracks : Tracks (s.block2Sent.get? k) blocks)
include hdownloads hresponse htracks

theorem receivedMore (num size : ℕ) (hblock2 : response.block2 = .ok (some (num, 1, size)))
    (hleads : Leads (s.block2Sent.get? k) response) :
    More k blocks (blockOf response) t
      (returned (receiveMoreBlock2 rng k num 1 size response (s, t))) := by
  have hnumber : (blockOf response).num = num := by
    unfold blockOf
    rw [hblock2]
  have hsome : response.block2 ≠ .ok none := by
    rw [hblock2]
    simp
  unfold receiveMoreBlock2
  dsimp only
  cases hentry : s.block2Sent.get? k with
  | none =>
    rw [hentry] at htracks
    have hnil := htracks.absent rfl
    dsimp only
    rw [requestBlock2_eq]
    refine .continued (outcome_continued t _ _ _ rfl rfl) ?_
    change Tracks ((s.block2Sent.insert k _).get? k) (blocks ++ [blockOf response])
    rw [Dict.get?_insert_self, hnil]
    exact Tracks.begin response size 1 size num (hleads.first hentry) hnumber
  | some item =>
    rw [hentry] at htracks
    dsimp only
    by_cases hne : num ≠ item.num
    · rw [if_pos hne]
      obtain ⟨hrefused, hstate⟩ := error_refused rng s t response
        Codes.requestEntityIncomplete { t with blockTransfer := true } hresponse hsome rfl
      refine .refused hrefused ?_
      rw [hstate, hentry]
      exact htracks
    · have hnum : num = item.num := not_not.mp hne
      rw [if_neg hne]
      by_cases htype : expectedType item response = response.contentType
      · rw [if_neg (by simpa using htype)]
        cases happend : appendPayload item.payload response.payload with
        | error e =>
          refine .refused rfl ?_
          change Tracks ((s.block2Sent.insert k _).get? k) blocks
          rw [Dict.get?_insert_self]
          refine tracks_unjoinable _ _ ?_
          intro a ha
          -- only a block without a payload cannot be joined to bytes
          rcases appendPayload_bytes a item.payload response.payload hdownloads.payload ha with
            ⟨hnone, -⟩ | ⟨b, -, hok⟩
          · have hcontent : item.contentType = response.contentType := by
              rw [← htype, expectedType, if_neg (htracks.contentType item a rfl ha)]
            exact hleads.filled item hentry ⟨hcontent, a, ha⟩ (hnumber.trans hnum) hnone
          · rw [happend] at hok
            cases hok
        | ok payload =>
          dsimp only
          rw [requestBlock2_eq]
          refine .continued (outcome_continued t _ _ _ rfl rfl) ?_
          change Tracks ((s.block2Sent.insert k _).get? k) (blocks ++ [blockOf response])
          rw [Dict.get?_insert_self, hnum]
          exact htracks.join response item blocks _ _ _ payload (hnumber.trans hnum)
            htype happend
      · rw [if_pos htype]
        obtain ⟨hrefused, hstate⟩ := error_refused rng
          { s with
            block2Sent := s.block2Sent.insert k ⟨item.byte, item.num, item.m, item.size,
              item.payload, expectedType item response⟩ } t response
          Codes.unsupportedContentFormat { t with blockTransfer := true } hresponse hsome rfl
        refine .refused hrefused ?_
        rw [hstate, Dict.get?_insert_self]
        by_cases hnone : item.contentType = .none
        · exact absurd (if_pos hnone) htype
        · rw [expectedType, if_neg hnone]
          exact htracks

theorem receivedLast (num size : ℕ) (hblock2 : response.block2 = .ok (some (num, 0, size))) :
    Last k blocks (blockOf response) (Ends (s.block2Sent.get? k) response) t
      (returned (receiveLastBlock2 rng k response (s, t))) := by
  have hsome : response.block2 ≠ .ok none := by
    rw [hblock2]
    simp
  unfold receiveLastBlock2
  dsimp only
  cases hentry : s.block2Sent.get? k with
  | none =>
    rw [hentry] at htracks
    have hnil := htracks.absent rfl
    refine .finished (outcome_finished t _ _ _ rfl) hentry ?_
    rw [hnil, List.nil_append]
    constructor
    · rintro ⟨-, hnumbered, -⟩
      constructor
      · intro _
        simpa using hnumbered
      · intro item hitem
        cases hitem
    · rintro ⟨hsingle, -⟩
      refine ⟨?_, ?_, ?_⟩
      · change bytesOf (t.response.bind Message.payload) = _
        rw [hresponse, List.flatMap_singleton]
        rfl
      · rw [List.map_singleton, hsingle rfl]
        rfl
      · intro b hb c hc
        rw [List.mem_singleton.mp hb, List.mem_singleton.mp hc]
  | some item =>
    rw [hentry] at htracks
    dsimp only
    have hends : (∀ a, item.payload = some (.bytes a) →
        item.contentType = response.contentType → response.payload ≠ none →
          (blockOf response).num = item.num) → Ends (some item) response := by
      intro h
      constructor
      · intro hnone
        cases hnone
      · rintro item' hitem ⟨htype, a, ha⟩ hpayload
        cases hitem
        exact h a ha htype hpayload
    by_cases htype : item.contentType = response.contentType
    · rw [if_neg (by simpa using htype)]
      cases happend : appendPayload item.payload response.payload with
      | error e =>
        refine .refused rfl ?_ (hends ?_)
        · change Tracks (s.block2Sent.get? k) blocks
          rw [hentry]
          exact htracks
        · intro a ha _ hpayload
          rcases appendPayload_bytes a item.payload response.payload hdownloads.payload ha with
            ⟨hnone, -⟩ | ⟨b, -, hok⟩
          · exact absurd hnone hpayload
          · rw [happend] at hok
            cases hok
      | ok payload =>
        refine .finished (outcome_finished t _ _ _ rfl) (Dict.get?_erase_self _ _) ?_
        have hjoined : ∃ a b, item.payload = some (.bytes a) ∧
            response.payload = some (.bytes b) ∧ payload = some (.bytes (a ++ b)) := by
          cases hpayload : item.payload with
          | none =>
            rw [hpayload] at happend
            cases happend
          | some p =>
            cases p with
            | bytes a =>
              rcases appendPayload_bytes a item.payload response.payload hdownloads.payload hpayload
                with ⟨-, herror⟩ | ⟨b, hb, hok⟩
              · rw [happend] at herror
                cases herror
              · rw [happend] at hok
                exact ⟨a, b, rfl, hb, Except.ok.inj hok⟩
            | str text =>
              rw [hpayload] at happend
              cases hq : response.payload with
              | none =>
                rw [hq] at happend
                cases happend
              | some q =>
                cases q with
                | bytes b =>
                  rw [hq] at happend
                  cases happend
                | str text' => exact absurd hq (hdownloads.payload text')
        obtain ⟨a, b, ha, hb, rfl⟩ := hjoined
        have hblock : (blockOf response).payload = b := congrArg bytesOf hb
        constructor
        · rintro ⟨-, hnumbered, -⟩
          refine hends fun a' ha' _ _ => ?_
          rw [htracks.num item a rfl ha]
          exact (map_num_append blocks _ (htracks.numbered item a rfl ha)).mp hnumbered
        · rintro ⟨-, hnext⟩
          have hnum := hnext item rfl ⟨htype, a, ha⟩ (by rw [hb]; exact Option.some_ne_none _)
          refine ⟨?_, ?_, ?_⟩
          · change a ++ b = _
            rw [List.flatMap_append, List.flatMap_singleton, hblock,
              ← htracks.payload item a rfl ha]
          · exact (map_num_append blocks _ (htracks.numbered item a rfl ha)).mpr
              (hnum.trans (htracks.num item a rfl ha))
          · have hall : ∀ c ∈ blocks ++ [blockOf response], c.contentType = item.contentType := by
              intro c hc
              rcases List.mem_append.mp hc with hc | hc
              · exact htracks.sameType item a rfl ha c hc
              · rw [List.mem_singleton.mp hc, htype]
                rfl
            intro c hc d hd
            rw [hall c hc, hall d hd]
    · rw [if_pos htype]
      obtain ⟨hrefused, hstate⟩ := error_refused rng s t response
        Codes.unsupportedContentFormat { t with blockTransfer := false } hresponse hsome rfl
      refine .refused hrefused ?_ (hends fun _ _ heq => absurd heq htype)
      rw [hstate, hentry]
      exact htracks

end

section
variable (s : State) (a : Arrival) (k : Key) (blocks : List Block)
  (hdownloads : Downloads a.response) (hkey : responseKey a.paired = some k)
include hdownloads hkey

theorem receiveResponse_eq :
    receiveResponse a.rng (s, a.paired) =
      returned (receiveBlock2Response a.rng k a.response (s, a.paired)) := by
  obtain ⟨address, hsource⟩ := Option.ne_none_iff_exists'.mp hdownloads.source
  have hk : key address (tokenArg a.response.token) = k := by
    unfold responseKey Arrival.paired at hkey
    dsimp only at hkey
    rw [Option.bind_some, hsource] at hkey
    exact Option.some.inj hkey
  rw [receiveResponse_block2 a.rng s a.paired a.response address rfl hsource hdownloads.block1, hk]

variable (htracks : Tracks (s.block2Sent.get? k) blocks)
include htracks

theorem received_more (hmore : (blockOf a.response).more = 1)
    (hleads : Leads (s.block2Sent.get? k) a.response) :
    More k blocks (blockOf a.response) a.paired (receiveResponse a.rng (s, a.paired)) := by
  obtain ⟨num, m, size, hblock2, -⟩ := hdownloads.block2
  have hm : m = 1 := by
    unfold blockOf at hmore
    rwa [hblock2] at hmore
  subst hm
  rw [receiveResponse_eq s a k hdownloads hkey]
  unfold receiveBlock2Response
  dsimp only
  rw [hblock2]
  exact receivedMore a.rng s a.paired k a.response blocks hdownloads rfl htracks num size hblock2
    hleads

theorem received_last (hmore : (blockOf a.response).more = 0) :
    Last k blocks (blockOf a.response) (Ends (s.block2Sent.get? k) a.response) a.paired
      (receiveResponse a.rng (s, a.paired)) := by
  obtain ⟨num, m, size, hblock2, -⟩ := hdownloads.block2
  have hm : m = 0 := by
    unfold blockOf at hmore
    rwa [hblock2] at hmore
  subst hm
  rw [receiveResponse_eq s a k hdownloads hkey]
  unfold receiveBlock2Response
  dsimp only
  rw [hblock2]
  exact receivedLast a.rng s a.paired k a.response blocks hdownloads rfl htracks num size hblock2

omit hkey htracks in
theorem more_cases : (blockOf a.response).more = 0 ∨ (blockOf a.response).more = 1 := by
  obtain ⟨num, m, size, hblock2, hm⟩ := hdownloads.block2
  unfold blockOf
  rw [hblock2]
  dsimp only
  omega

end

/-- No body has been begun under any key. What `send_request` makes for a request with a Block2
option is such an entry. -/
def Unbegun (s : State) : Prop :=
  ∀ k item a, s.block2Sent.get? k = some item → item.payload ≠ some (.bytes a)

section
variable (s : State) (arrivals : List Arrival)

def watch : Watched := run step ⟨s, []⟩ arrivals

variable (hstart : Unbegun s) (hdownloads : ∀ a ∈ arrivals, Downloads a.response)
  (hleads : ∀ pre a post k, arrivals = pre ++ a :: post → responseKey a.paired = some k →
    (blockOf a.response).more = 1 → Leads ((watch s pre).state.block2Sent.get? k) a.response)
include hstart hdownloads hleads

theorem watch_tracks (k : Key) :
    Tracks ((watch s arrivals).state.block2Sent.get? k) (accepted k (watch s arrivals).log) := by
  refine run_induction step
    (fun _ w => Tracks (w.state.block2Sent.get? k) (accepted k w.log)) ⟨s, []⟩ arrivals ?_ ?_
  · change Tracks (s.block2Sent.get? k) []
    cases hentry : s.block2Sent.get? k with
    | none => exact tracks_none
    | some item => exact tracks_unjoinable item [] fun a => hstart k item a hentry
  · intro pre a post hsplit htracks
    have hdown := hdownloads a (by rw [hsplit]; simp)
    change Tracks ((watch s pre).state.block2Sent.get? k) (accepted k (watch s pre).log) at htracks
    change Tracks ((step (watch s pre) a).state.block2Sent.get? k)
      (accepted k (step (watch s pre) a).log)
    unfold step
    dsimp only
    rw [accepted_concat]
    unfold logged
    dsimp only
    by_cases hkey : responseKey a.paired = some k
    · rw [if_pos hkey]
      rcases more_cases a hdown with hzero | hone
      · rcases received_last (watch s pre).state a k _ hdown hkey htracks hzero with
          ⟨h, hsame, -⟩ | ⟨h, hgone, -⟩
        · rw [h]
          exact hsame
        · rw [h, hgone]
          exact tracks_none
      · rcases received_more (watch s pre).state a k _ hdown hkey htracks hone
          (hleads pre a post k hsplit hkey hone) with ⟨h, hsame⟩ | ⟨h, hjoined⟩
        · rw [h]
          exact hsame
        · rw [h]
          exact hjoined
    · rw [if_neg hkey]
      have hunder := under_receiveResponse a.rng (watch s pre).state a.paired k hkey
      have hsame := congrArg Entries.block2Sent hunder
      dsimp only [State.under] at hsame
      rw [hsame]
      exact htracks

omit hstart hdownloads hleads in
/-- Every response that is handed on completes the blocks from 0 on. -/
def Reassembles : Prop :=
  ∀ pre a post k, arrivals = pre ++ a :: post → responseKey a.paired = some k →
    outcome a.paired (receiveResponse a.rng ((watch s pre).state, a.paired)) = .finished →
      Assembled (accepted k (watch s pre).log ++ [blockOf a.response])
        (receiveResponse a.rng ((watch s pre).state, a.paired)).2.2

/-- Which sequences of responses are reassembled or end in an error. -/
theorem reassembles_iff :
    Reassembles s arrivals ↔ ∀ pre a post k, arrivals = pre ++ a :: post →
      responseKey a.paired = some k → (blockOf a.response).more = 0 →
        Ends ((watch s pre).state.block2Sent.get? k) a.response := by
  have htracks : ∀ pre a post k, arrivals = pre ++ a :: post →
      Tracks ((watch s pre).state.block2Sent.get? k) (accepted k (watch s pre).log) := by
    intro pre a post k hsplit
    refine watch_tracks s pre hstart (fun b hb => ?_) (fun q b r k' hpre hkey hone => ?_) k
    · exact hdownloads b (by rw [hsplit]; exact List.mem_append_left _ hb)
    · exact hleads q b (r ++ a :: post) k'
        (by rw [hsplit, hpre, List.append_assoc, List.cons_append]) hkey hone
  constructor
  · intro h pre a post k hsplit hkey hzero
    have hdown := hdownloads a (by rw [hsplit]; simp)
    rcases received_last (watch s pre).state a k _ hdown hkey (htracks pre a post k hsplit) hzero
      with ⟨-, -, hends⟩ | ⟨hout, -, hassembled⟩
    · exact hends
    · exact hassembled.mp (h pre a post k hsplit hkey hout)
  · intro h pre a post k hsplit hkey hout
    have hdown := hdownloads a (by rw [hsplit]; simp)
    rcases more_cases a hdown with hzero | hone
    · rcases received_last (watch s pre).state a k _ hdown hkey (htracks pre a post k hsplit) hzero
        with ⟨hrefused, -, -⟩ | ⟨-, -, hassembled⟩
      · rw [hrefused] at hout
        cases hout
      · exact hassembled.mpr (h pre a post k hsplit hkey hzero)
    · rcases received_more (watch s pre).state a k _ hdown hkey (htracks pre a post k hsplit) hone
        (hleads pre a post k hsplit hkey hone) with ⟨hrefused, -⟩ | ⟨hcontinued, -⟩
      · rw [hrefused] at hout
        cases hout
      · rw [hcontinued] at hout
        cases hout

end

def sampleBase (b : UInt8) : Message :=
  { Message.new .response with
    source := some (['s'], 2)
    token := some [1]
    code := some 69
    payload := some (.bytes [b]) }

/-- The block `num` of a representation, with `m` as its more bit and one byte of payload. -/
def sampleArrival (num m : ℕ) (b : UInt8) : Arrival where
  rng := []
  transaction := Transaction.new
    { Message.new .request with destination := some (['s'], 2), token := some [1] } 0
  response := withBlock2 (sampleBase b) num m 16

theorem block2_sampleArrival (num m : ℕ) (b : UInt8) (hnum : num < 2 ^ 20) (hm : m ≤ 1)
    (hne : 16 * num + 8 * m ≠ 0) :
    (sampleArrival num m b).response.block2 = .ok (some (num, m, 16)) := by
  have hread := block2_withBlock2 (sampleBase b) num m 0 hm (Nat.zero_le 6) hne
  rwa [Nat.mod_eq_of_lt hnum] at hread

theorem sampleArrival_downloads (num m : ℕ) (b : UInt8) (hnum : num < 2 ^ 20) (hm : m ≤ 1)
    (hne : 16 * num + 8 * m ≠ 0) : Downloads (sampleArrival num m b).response where
  source := Option.some_ne_none _
  block1 := block1_withBlock2 _ num m 16
  block2 := ⟨num, m, 16, block2_sampleArrival num m b hnum hm hne, hm⟩
  payload text := by
    change some (Payload.bytes [b]) ≠ _
    simp

theorem unbegun_new : Unbegun State.new := by
  intro k item a h
  cases h

def sampleKey : Key := key (['s'], 2) (tokenArg (some [1]))

theorem key_sampleArrival (num m : ℕ) (b : UInt8) :
    responseKey (sampleArrival num m b).paired = some sampleKey := rfl

/-- Two blocks in their order. -/
theorem reassembles_two : Reassembles State.new [sampleArrival 0 1 7, sampleArrival 1 0 8] := by
  have hfirst := block2_sampleArrival 0 1 7 (by decide) (by decide) (by decide)
  have hsecond := block2_sampleArrival 1 0 8 (by decide) (by decide) (by decide)
  refine (reassembles_iff State.new [sampleArrival 0 1 7, sampleArrival 1 0 8] unbegun_new
    ?_ ?_).mpr ?_
  · intro a ha
    rcases List.mem_cons.mp ha with rfl | ha
    · exact sampleArrival_downloads 0 1 7 (by decide) (by decide) (by decide)
    · rw [List.mem_singleton.mp ha]
      exact sampleArrival_downloads 1 0 8 (by decide) (by decide) (by decide)
  · intro pre a post k hsplit hkey hmore
    rcases pre with _ | ⟨c, _ | ⟨d, pre⟩⟩
    · cases hsplit
      refine ⟨fun _ => ?_, ?_⟩
      · unfold blockOf
        rw [hfirst]
      · intro item hitem
        cases hitem
    · cases hsplit
      unfold blockOf at hmore
      rw [hsecond] at hmore
      cases hmore
    · simp at hsplit
  · intro pre a post k hsplit hkey hmore
    rcases pre with _ | ⟨c, _ | ⟨d, pre⟩⟩
    · cases hsplit
      unfold blockOf at hmore
      rw [hfirst] at hmore
      cases hmore
    · cases hsplit
      rw [key_sampleArrival] at hkey
      cases hkey
      refine ⟨fun hnone => ?_, ?_⟩
      · exact absurd hnone (by decide +kernel)
      · intro item hitem _ _
        have hnum : ((watch State.new [sampleArrival 0 1 7]).state.block2Sent.get? sampleKey).map
            BlockItem.num = some 1 := by decide +kernel
        rw [hitem] at hnum
        unfold blockOf
        rw [hsecond]
        exact (Option.some.inj hnum).symm
    · simp at hsplit

theorem not_reassembles_missing :
    ¬ ∀ arrivals : List Arrival, (∀ a ∈ arrivals, Downloads a.response) →
      Reassembles State.new arrivals := by
  intro h
  have hreassembles := h [sampleArrival 0 1 7, sampleArrival 2 0 8] (by
    intro a ha
    rcases List.mem_cons.mp ha with rfl | ha
    · exact sampleArrival_downloads 0 1 7 (by decide) (by decide) (by decide)
    · rw [List.mem_singleton.mp ha]
      exact sampleArrival_downloads 2 0 8 (by decide) (by decide) (by decide))
  have hassembled := hreassembles [sampleArrival 0 1 7] (sampleArrival 2 0 8) [] sampleKey rfl rfl
    (by decide +kernel)
  exact absurd hassembled.numbered (by decide +kernel)

end BubotCoap.Block2Assembly
