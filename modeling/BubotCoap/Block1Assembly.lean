import BubotCoap.BlockSteps
import BubotCoap.Runs

set_option autoImplicit false

namespace BubotCoap.Block1Assembly
open PythonData Defines Utils Options Messages OptionAccess OrderedDict Transactions BlockLayer
  BlockFrames BlockSteps Runs

/-- A request in a transaction that is passed to `receive_request`. -/
structure Arrival where
  rng : Bytes
  transaction : Transaction

/-- The request carries a Block1 option, a byte string and no Block2 option. The addresses and the
token are those of a message that has arrived. -/
structure Uploads (request : Message) : Prop where
  source : request.source ≠ none
  destination : request.destination ≠ none
  token : ∀ token, request.token = some token → token.length ≤ 256
  block2 : request.block2 = .ok none
  block1 : ∃ num m size, request.block1 = .ok (some (num, m, size)) ∧ m ≤ 1
  payload : ∃ b, request.payload = some (.bytes b)

structure Block where
  num : ℕ
  more : ℕ
  contentType : Value
  payload : Bytes

def blockOf (request : Message) : Block where
  num := match request.block1 with
    | .ok (some (num, _, _)) => num
    | _ => 0
  more := match request.block1 with
    | .ok (some (_, m, _)) => m
    | _ => 0
  contentType := request.contentType
  payload := match request.payload with
    | some (.bytes b) => b
    | _ => []

/-- A block is asked for, the body is complete, or the request is answered 4.08. -/
inductive Outcome where
  | continued
  | finished
  | refused
  deriving DecidableEq

def outcome (t : Transaction) : Outcome :=
  if t.blockTransfer then
    if t.response.bind Message.code = some Codes.continueCode then .continued else .refused
  else .finished

structure Entry where
  key : Option Key
  block : Block
  outcome : Outcome

/-- The layer together with what has happened to the requests so far. -/
structure Watched where
  state : State
  log : List Entry

def step (w : Watched) (a : Arrival) : Watched where
  state := (receiveRequest a.rng (w.state, a.transaction)).2.1
  log := w.log ++ [⟨requestKey a.transaction, blockOf a.transaction.request,
    outcome (receiveRequest a.rng (w.state, a.transaction)).2.2⟩]

def logged (k : Key) (blocks : List Block) (e : Entry) : List Block :=
  if e.key = some k then
    match e.outcome with
    | .continued => blocks ++ [e.block]
    | .finished => []
    | .refused => blocks
  else blocks

/-- The blocks of `k` accepted since its entry was made. -/
def accepted (k : Key) (log : List Entry) : List Block := log.foldl (logged k) []

/-- The request left with the body of the blocks, and the entry is gone. -/
structure Assembled (k : Key) (blocks : List Block) (s : State) (t : Transaction) : Prop where
  payload : t.request.payload = some (.bytes (blocks.flatMap Block.payload))
  numbered : blocks.map Block.num = List.range blocks.length
  sameType : ∀ b ∈ blocks, ∀ c ∈ blocks, b.contentType = c.contentType
  lastOnly : blocks.map Block.more = List.replicate (blocks.length - 1) 1 ++ [0]
  gone : s.block1Receive.get? k = none

/-- The entry stands for the blocks. -/
structure Tracks (entry : Option BlockItem) (blocks : List Block) : Prop where
  absent : entry = none → blocks = []
  num : ∀ item, entry = some item → item.num = blocks.length
  payload : ∀ item, entry = some item →
    item.payload = some (.bytes (blocks.flatMap Block.payload))
  sameType : ∀ item, entry = some item → ∀ b ∈ blocks, b.contentType = item.contentType
  numbered : blocks.map Block.num = List.range blocks.length
  more : blocks.map Block.more = List.replicate blocks.length 1

theorem tracks_none : Tracks none [] where
  absent _ := rfl
  num item h := by cases h
  payload item h := by cases h
  sameType item h := by cases h
  numbered := rfl
  more := rfl

theorem initFromRequest_ok (rng : Bytes) (request : Message) (h : Uploads request) :
    ∃ r, Message.initFromRequest rng request = .ok r ∧ r.options = OptionList.empty := by
  obtain ⟨address, haddress⟩ := Option.ne_none_iff_exists'.mp h.destination
  have hsource : ∃ source, request.replySource = .ok source := by
    unfold Message.replySource
    rw [haddress]
    split
    · exact ⟨_, rfl⟩
    · exact ⟨_, rfl⟩
  obtain ⟨source, hsource⟩ := hsource
  unfold Message.initFromRequest
  rw [hsource, ok_bind]
  unfold Message.setToken
  cases htoken : request.token with
  | none => exact ⟨_, rfl, rfl⟩
  | some token =>
    dsimp only
    rw [if_neg (Nat.not_lt.mpr (h.token token htoken))]
    exact ⟨_, rfl, rfl⟩

theorem setBlock1_fresh (r : Message) (num m size : ℕ) (h : r.options = OptionList.empty) :
    ∃ r', r.setBlock1 num m size = .ok r' ∧ r'.code = r.code := by
  have hfree : ofNumber OptionRegistry.block1.number r.options = [] := by
    rw [h]
    rfl
  exact ⟨_, addNew_int r OptionRegistry.block1 _ rfl rfl hfree, rfl⟩

section
variable (rng : Bytes) (s : State) (t : Transaction) (k : Key) (num m size : ℕ)

theorem incomplete_refused (h : Uploads t.request) :
    (incomplete rng (s, t)).1 = .ok () ∧ (incomplete rng (s, t)).2.1 = s ∧
      outcome (incomplete rng (s, t)).2.2 = .refused := by
  obtain ⟨r, hr, _⟩ := initFromRequest_ok rng t.request h
  unfold incomplete
  dsimp only
  rw [hr]
  exact ⟨rfl, rfl, rfl⟩

theorem acceptBlock1_continued (item : BlockItem) (hm : m ≠ 0) (h : Uploads t.request) :
    (acceptBlock1 rng k num m size item (s, t)).1 = .ok () ∧
      (acceptBlock1 rng k num m size item (s, t)).2.1.block1Receive.get? k =
        some { item with byte := size, num := num + 1, size := size, m := m } ∧
      outcome (acceptBlock1 rng k num m size item (s, t)).2.2 = .continued := by
  obtain ⟨r, hr, hoptions⟩ := initFromRequest_ok rng t.request h
  obtain ⟨r', hset, hcode⟩ := setBlock1_fresh { r with code := some Codes.continueCode } num m size
    hoptions
  unfold acceptBlock1
  dsimp only
  rw [if_neg hm, hr]
  dsimp only
  rw [hset]
  refine ⟨rfl, Dict.get?_insert_self _ _ _, ?_⟩
  unfold outcome
  rw [if_pos rfl, Option.bind_some, hcode, if_pos rfl]

theorem receiveBlock1Request_cases (blocks : List Block) (b : Bytes)
    (hpayload : t.request.payload = some (.bytes b))
    (htracks : Tracks (s.block1Receive.get? k) blocks) :
    receiveBlock1Request rng k num m size (s, t) = incomplete rng (s, t) ∨
      (num = blocks.length ∧ (∀ c ∈ blocks, c.contentType = t.request.contentType) ∧
        ∃ item, item.payload = some (.bytes (blocks.flatMap Block.payload ++ b)) ∧
          item.contentType = t.request.contentType ∧
          receiveBlock1Request rng k num m size (s, t) =
            acceptBlock1 rng k num m size item (s, t)) := by
  unfold receiveBlock1Request
  dsimp only
  cases hentry : s.block1Receive.get? k with
  | none =>
    have hnil := htracks.absent hentry
    dsimp only
    by_cases hnum : num ≠ 0
    · exact Or.inl (if_pos hnum)
    · rw [if_neg hnum]
      refine Or.inr ⟨?_, ?_, _, ?_, rfl, rfl⟩
      · rw [hnil]
        exact not_not.mp hnum
      · rw [hnil]
        simp
      · rw [hnil]
        exact hpayload
  | some item =>
    dsimp only
    by_cases hne : num ≠ item.num ∨ t.request.contentType ≠ item.contentType
    · exact Or.inl (if_pos hne)
    · obtain ⟨hnum, htype⟩ := not_or.mp hne
      rw [if_neg hne, htracks.payload item hentry, hpayload]
      refine Or.inr ⟨?_, ?_, _, rfl, ?_, rfl⟩
      · rw [← htracks.num item hentry]
        exact not_not.mp hnum
      · intro c hc
        rw [htracks.sameType item hentry c hc, not_not.mp htype]
      · exact (not_not.mp htype).symm

end

theorem map_num_append (blocks : List Block) (b : Block)
    (h : blocks.map Block.num = List.range blocks.length) (hnum : b.num = blocks.length) :
    (blocks ++ [b]).map Block.num = List.range (blocks ++ [b]).length := by
  rw [List.map_append, h, List.length_append, List.length_singleton, List.range_succ]
  simp [hnum]

/-- What `receive_request` does to a request under the key `k`, `b` being its block. -/
inductive Received (k : Key) (blocks : List Block) (b : Block) (s : State) :
    Except PyErr Unit × State × Transaction → Prop
  | refused (t : Transaction) (h : outcome t = .refused) : Received k blocks b s (.ok (), s, t)
  | finished (s' : State) (t : Transaction) (h : outcome t = .finished)
    (hbody : Assembled k (blocks ++ [b]) s' t) : Received k blocks b s (.ok (), s', t)
  | continued (s' : State) (t : Transaction) (h : outcome t = .continued)
    (htracks : Tracks (s'.block1Receive.get? k) (blocks ++ [b])) :
    Received k blocks b s (.ok (), s', t)

theorem received (rng : Bytes) (s : State) (t : Transaction) (k : Key) (blocks : List Block)
    (h : Uploads t.request) (hkey : requestKey t = some k)
    (htracks : Tracks (s.block1Receive.get? k) blocks) :
    Received k blocks (blockOf t.request) s (receiveRequest rng (s, t)) := by
  obtain ⟨num, m, size, hblock1, hm⟩ := h.block1
  obtain ⟨b, hpayload⟩ := h.payload
  obtain ⟨address, hsource⟩ := Option.ne_none_iff_exists'.mp h.source
  have hk : key address (tokenArg t.request.token) = k := by
    unfold requestKey at hkey
    rw [hsource] at hkey
    exact Option.some.inj hkey
  have hblock : blockOf t.request = ⟨num, m, t.request.contentType, b⟩ := by
    unfold blockOf
    rw [hblock1, hpayload]
  rw [receiveRequest_block1 rng s t address num m size h.block2 hblock1 hsource, hk, hblock]
  rcases receiveBlock1Request_cases rng s t k num m size blocks b hpayload htracks with
    hrefused | ⟨hnum, htype, item, hjoined, hitem, haccept⟩
  · rw [hrefused]
    obtain ⟨hok, hs, hout⟩ := incomplete_refused rng s t h
    generalize incomplete rng (s, t) = r at hok hs hout
    obtain ⟨result, s', t'⟩ := r
    dsimp only at hok hs hout
    subst hok hs
    exact .refused t' hout
  · rw [haccept]
    by_cases hzero : m = 0
    · subst hzero
      rw [acceptBlock1_last]
      refine .finished _ _ rfl ⟨?_, map_num_append blocks _ htracks.numbered hnum, ?_, ?_, ?_⟩
      · rw [List.flatMap_append, List.flatMap_singleton]
        exact hjoined
      · intro c hc d hd
        have hall : ∀ c ∈ blocks ++ [(⟨num, 0, t.request.contentType, b⟩ : Block)],
            c.contentType = t.request.contentType := by
          intro c hc
          rcases List.mem_append.mp hc with hc | hc
          · exact htype c hc
          · rw [List.mem_singleton.mp hc]
        rw [hall c hc, hall d hd]
      · rw [List.map_append, htracks.more]
        simp
      · exact Dict.get?_erase_self _ _
    · obtain ⟨hok, hentry, hout⟩ := acceptBlock1_continued rng s t k num m size item hzero h
      generalize acceptBlock1 rng k num m size item (s, t) = r at hok hentry hout
      obtain ⟨result, s', t'⟩ := r
      dsimp only at hok hentry hout
      subst hok
      have hone : m = 1 := by omega
      refine .continued s' t' hout ⟨?_, ?_, ?_, ?_, ?_, ?_⟩
      · intro hnone
        rw [hentry] at hnone
        cases hnone
      · intro item' h'
        rw [hentry] at h'
        rw [← Option.some.inj h', List.length_append, hnum]
        rfl
      · intro item' h'
        rw [hentry] at h'
        rw [← Option.some.inj h', List.flatMap_append, List.flatMap_singleton]
        exact hjoined
      · intro item' h' c hc
        rw [hentry] at h'
        rw [← Option.some.inj h']
        rcases List.mem_append.mp hc with hc | hc
        · rw [htype c hc]
          exact hitem.symm
        · rw [List.mem_singleton.mp hc]
          exact hitem.symm
      · exact map_num_append blocks _ htracks.numbered hnum
      · rw [List.map_append, htracks.more, hone, List.length_append]
        exact List.replicate_succ'.symm

theorem accepted_concat (k : Key) (log : List Entry) (e : Entry) :
    accepted k (log ++ [e]) = logged k (accepted k log) e :=
  List.foldl_concat _ _ _ _

theorem run_tracks (s : State) (hempty : ∀ k, s.block1Receive.get? k = none)
    (arrivals : List Arrival) (h : ∀ a ∈ arrivals, Uploads a.transaction.request) (k : Key) :
    Tracks ((run step ⟨s, []⟩ arrivals).state.block1Receive.get? k)
      (accepted k (run step ⟨s, []⟩ arrivals).log) := by
  refine run_induction step
    (fun _ w => Tracks (w.state.block1Receive.get? k) (accepted k w.log)) ⟨s, []⟩ arrivals ?_ ?_
  · rw [hempty k]
    exact tracks_none
  · intro pre a post hsplit ih
    have ha : Uploads a.transaction.request := h a (by rw [hsplit]; simp)
    generalize run step ⟨s, []⟩ pre = w at ih
    unfold step
    dsimp only
    rw [accepted_concat]
    unfold logged
    dsimp only
    by_cases hkey : requestKey a.transaction = some k
    · rw [if_pos hkey]
      have hspec := received a.rng w.state a.transaction k (accepted k w.log) ha hkey ih
      generalize receiveRequest a.rng (w.state, a.transaction) = r at hspec
      cases hspec with
      | refused t hout =>
        rw [hout]
        exact ih
      | finished s' t hout hbody =>
        rw [hout]
        rw [hbody.gone]
        exact tracks_none
      | continued s' t hout htracks =>
        rw [hout]
        exact htracks
    · rw [if_neg hkey]
      have hunder := under_receiveRequest a.rng w.state a.transaction k hkey
      have hsame := congrArg Entries.block1Receive hunder
      dsimp only [State.under] at hsame
      rw [hsame]
      exact ih

/-- A request that leaves as complete has the body of the blocks `0` to `n` accepted under its key;
one that is answered 4.08 leaves the layer as it was. -/
theorem block1_assembled (s : State) (hempty : ∀ k, s.block1Receive.get? k = none)
    (before : List Arrival) (a : Arrival) (k : Key)
    (h : ∀ b ∈ before ++ [a], Uploads b.transaction.request)
    (hkey : requestKey a.transaction = some k) :
    ∃ w s' t, run step ⟨s, []⟩ before = w ∧
      receiveRequest a.rng (w.state, a.transaction) = (.ok (), s', t) ∧
      (t.blockTransfer = false →
        Assembled k (accepted k w.log ++ [blockOf a.transaction.request]) s' t) ∧
      (t.blockTransfer = true →
        t.response.bind Message.code = some Codes.requestEntityIncomplete → s' = w.state) := by
  have hbefore : ∀ b ∈ before, Uploads b.transaction.request :=
    fun b hb => h b (List.mem_append_left [a] hb)
  have ha : Uploads a.transaction.request := h a (by simp)
  have htracks := run_tracks s hempty before hbefore k
  set w := run step ⟨s, []⟩ before with hw
  have hspec := received a.rng w.state a.transaction k (accepted k w.log) ha hkey htracks
  generalize hr : receiveRequest a.rng (w.state, a.transaction) = r at hspec
  cases hspec with
  | refused t hout =>
    refine ⟨w, w.state, t, rfl, hr, ?_, fun _ _ => rfl⟩
    intro hfalse
    unfold outcome at hout
    rw [hfalse] at hout
    cases hout
  | finished s' t hout hbody =>
    refine ⟨w, s', t, rfl, hr, fun _ => hbody, ?_⟩
    intro htrue
    unfold outcome at hout
    rw [htrue, if_pos rfl] at hout
    split_ifs at hout
  | continued s' t hout _ =>
    refine ⟨w, s', t, rfl, hr, ?_, ?_⟩
    · intro hfalse
      unfold outcome at hout
      rw [hfalse] at hout
      cases hout
    · intro htrue hcode
      unfold outcome at hout
      rw [htrue, if_pos rfl, hcode] at hout
      exact absurd hout (by decide)

def sampleArrival (num m : ℕ) (b : UInt8) : Arrival where
  rng := []
  transaction := Transaction.new
    (withBlock1
      { Message.new .request with
        source := some (['h'], 1)
        destination := some (['s'], 2)
        token := some [1]
        payload := some (.bytes [b]) }
      num m 16) 0

theorem sampleArrival_uploads (num m : ℕ) (b : UInt8) (hnum : num < 2 ^ 20) (hm : m ≤ 1)
    (hne : 16 * num + 8 * m ≠ 0) : Uploads (sampleArrival num m b).transaction.request where
  source := by simp [sampleArrival, Transaction.new, withBlock1, replace]
  destination := by simp [sampleArrival, Transaction.new, withBlock1, replace]
  token := by
    intro token htoken
    rw [← Option.some.inj (show some [1] = some token from htoken)]
    decide
  block2 := block2_withBlock1 _ num m 16
  block1 := ⟨num, m, 16, by
    have hread := block1_withBlock1 { Message.new .request with
      source := some (['h'], 1)
      destination := some (['s'], 2)
      token := some [1]
      payload := some (.bytes [b]) } num m 0 hm (Nat.zero_le 6) hne
    rwa [Nat.mod_eq_of_lt hnum] at hread, hm⟩
  payload := ⟨[b], rfl⟩

theorem block1_assembled_sample :
    ∃ w s' t, run step ⟨State.new, []⟩ [sampleArrival 0 1 7] = w ∧
      receiveRequest [] (w.state, (sampleArrival 1 0 8).transaction) = (.ok (), s', t) ∧
      (t.blockTransfer = false →
        Assembled (key (['h'], 1) (tokenArg (some [1])))
          (accepted (key (['h'], 1) (tokenArg (some [1]))) w.log ++
            [blockOf (sampleArrival 1 0 8).transaction.request]) s' t) ∧
      (t.blockTransfer = true →
        t.response.bind Message.code = some Codes.requestEntityIncomplete → s' = w.state) :=
  block1_assembled State.new (fun k => Dict.get?_empty k) [sampleArrival 0 1 7]
    (sampleArrival 1 0 8) (key (['h'], 1) (tokenArg (some [1]))) (by
      intro b hb
      rcases List.mem_cons.mp hb with rfl | hb
      · exact sampleArrival_uploads 0 1 7 (by decide) (by decide) (by decide)
      · rw [List.mem_singleton.mp hb]
        exact sampleArrival_uploads 1 0 8 (by decide) (by decide) (by decide)) rfl

end BubotCoap.Block1Assembly
