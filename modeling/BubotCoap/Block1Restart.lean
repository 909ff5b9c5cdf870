import BubotCoap.Block1Assembly

set_option autoImplicit false

namespace BubotCoap.Block1Restart
open PythonData Defines Utils Options Messages OptionAccess OrderedDict Transactions BlockLayer
  BlockFrames BlockSteps Block1Assembly Runs

/-- The first block of an upload, in a new transaction or in one that is taken into use again. The
addresses and the token are those of a message that has arrived. -/
structure Opens (t : Transaction) : Prop where
  source : t.request.source ≠ none
  destination : t.request.destination ≠ none
  token : ∀ token, t.request.token = some token → token.length ≤ 256
  block1 : ∃ size, t.request.block1 = .ok (some (0, 1, size))
  payload : ∃ b, t.request.payload = some (.bytes b)

/-- A block of the upload under the key `k`. -/
structure Carries (k : Key) (contentType : Value) (num m : ℕ) (b : Bytes) (t : Transaction) :
    Prop where
  uploads : Uploads t.request
  key : requestKey t = some k
  block1 : ∃ size, t.request.block1 = .ok (some (num, m, size))
  contentType : t.request.contentType = contentType
  payload : t.request.payload = some (.bytes b)

/-- Operations among which the blocks of the upload follow in order, from the number `num` on and
with the body `body` so far, up to the given number and body. Whatever else happens is under other
keys. -/
inductive Continues (k : Key) (contentType : Value) :
    ℕ → Bytes → List Operation → ℕ → Bytes → Prop
  | done (num : ℕ) (body : Bytes) : Continues k contentType num body [] num body
  | other (op : Operation) (num num' : ℕ) (body body' : Bytes) (ops : List Operation)
    (h : op.key ≠ some k) (rest : Continues k contentType num body ops num' body') :
    Continues k contentType num body (op :: ops) num' body'
  | block (rng : Bytes) (t : Transaction) (num num' : ℕ) (b body body' : Bytes)
    (ops : List Operation) (h : Carries k contentType num 1 b t)
    (rest : Continues k contentType (num + 1) (body ++ b) ops num' body') :
    Continues k contentType num body (.receiveRequest rng t :: ops) num' body'

/-- The layer accepts the request, whatever answer the transaction holds from an earlier one. -/
def Accepted (rng : Bytes) (s : State) (t : Transaction) : Prop :=
  ∀ former, (receiveRequest rng (s, { t with response := former })).1 = .ok () ∧
    outcome (receiveRequest rng (s, { t with response := former })).2.2 = .continued

/-- The request is accepted, what was stored is discarded, and the blocks that follow complete the
body of this upload alone. -/
structure Restarts (rng : Bytes) (s : State) (t : Transaction) (k : Key) : Prop where
  accepted : Accepted rng s t
  discarded : ∃ item, (receiveRequest rng (s, t)).2.1.block1Receive.get? k = some item ∧
    item.payload = t.request.payload
  assembled : ∀ (b body c : Bytes) (num : ℕ) (ops : List Operation) (rng' : Bytes)
    (last : Transaction), t.request.payload = some (.bytes b) →
      Continues k t.request.contentType 1 b ops num body →
        Carries k t.request.contentType num 0 c last →
          ∃ s' t', receiveRequest rng'
              (run Operation.apply (receiveRequest rng (s, t)).2.1 ops, last) = (.ok (), s', t') ∧
            t'.blockTransfer = false ∧ t'.request.payload = some (.bytes (body ++ c)) ∧
              s'.block1Receive.get? k = none

/-- Nothing is stored, or an entry that is as good as new. -/
def Restartable (entry : Option BlockItem) (contentType : Value) : Prop :=
  ∀ item, entry = some item →
    item.num = 0 ∧ item.contentType = contentType ∧ item.payload = some (.bytes [])

/-- What the layer holds of the upload between two of its blocks. -/
def Holds (s : State) (k : Key) (contentType : Value) (num : ℕ) (body : Bytes) : Prop :=
  ∃ item, s.block1Receive.get? k = some item ∧ item.num = num ∧
    item.contentType = contentType ∧ item.payload = some (.bytes body)

section
variable (rng : Bytes) (s : State) (t : Transaction) (k : Key)

theorem key_of_requestKey (address : Address) (hsource : t.request.source = some address)
    (hkey : requestKey t = some k) : key address (tokenArg t.request.token) = k := by
  unfold requestKey at hkey
  rw [hsource] at hkey
  exact Option.some.inj hkey

theorem receiveRequest_next (contentType : Value) (num m : ℕ) (b body : Bytes)
    (h : Carries k contentType num m b t) (held : Holds s k contentType num body) :
    ∃ size item, item.num = num ∧ item.contentType = contentType ∧
      item.payload = some (.bytes (body ++ b)) ∧
        receiveRequest rng (s, t) = acceptBlock1 rng k num m size item (s, t) := by
  obtain ⟨size, hblock1⟩ := h.block1
  obtain ⟨address, hsource⟩ := Option.ne_none_iff_exists'.mp h.uploads.source
  obtain ⟨item, hget, hnum, htype, hbody⟩ := held
  refine ⟨size, { item with payload := some (.bytes (body ++ b)) }, hnum, htype, rfl, ?_⟩
  rw [receiveRequest_block1 rng s t address num m size h.uploads.block2 hblock1 hsource,
    key_of_requestKey t k address hsource h.key, ← hnum]
  exact receiveBlock1Request_next rng s t k m size item body b hget hbody h.payload
    (h.contentType.trans htype.symm)

theorem holds_continued (contentType : Value) (num : ℕ) (b body : Bytes)
    (h : Carries k contentType num 1 b t) (held : Holds s k contentType num body) :
    Holds (receiveRequest rng (s, t)).2.1 k contentType (num + 1) (body ++ b) := by
  obtain ⟨size, item, -, htype, hbody, heq⟩ :=
    receiveRequest_next rng s t k contentType num 1 b body h held
  rw [heq]
  obtain ⟨-, hget, -⟩ := acceptBlock1_continued rng s t k num 1 size item one_ne_zero h.uploads
  exact ⟨_, hget, rfl, htype, hbody⟩

theorem holds_other (op : Operation) (contentType : Value) (num : ℕ) (body : Bytes)
    (h : op.key ≠ some k) (held : Holds s k contentType num body) :
    Holds (op.apply s) k contentType num body := by
  have hsame := congrArg Entries.block1Receive (under_apply op s k h)
  dsimp only [State.under] at hsame
  unfold Holds
  rw [hsame]
  exact held

theorem holds_run (contentType : Value) (num num' : ℕ) (body body' : Bytes)
    (ops : List Operation) (h : Continues k contentType num body ops num' body')
    (held : Holds s k contentType num body) :
    Holds (run Operation.apply s ops) k contentType num' body' := by
  induction h generalizing s with
  | done num body => exact held
  | other op num num' body body' ops hop rest ih =>
    exact ih (op.apply s) (holds_other s k op contentType num body hop held)
  | block rng t num num' b body body' ops hblock rest ih =>
    exact ih (receiveRequest rng (s, t)).2.1
      (holds_continued rng s t k contentType num b body hblock held)

theorem receiveRequest_complete (contentType : Value) (num : ℕ) (b body : Bytes)
    (h : Carries k contentType num 0 b t) (held : Holds s k contentType num body) :
    ∃ s' t', receiveRequest rng (s, t) = (.ok (), s', t') ∧ t'.blockTransfer = false ∧
      t'.request.payload = some (.bytes (body ++ b)) ∧ s'.block1Receive.get? k = none := by
  obtain ⟨size, item, -, -, hbody, heq⟩ :=
    receiveRequest_next rng s t k contentType num 0 b body h held
  rw [heq, acceptBlock1_last]
  exact ⟨_, _, rfl, rfl, hbody, Dict.get?_erase_self _ _⟩

theorem restarts_of_holds (accepted : Accepted rng s t) (b : Bytes)
    (hb : t.request.payload = some (.bytes b))
    (held : Holds (receiveRequest rng (s, t)).2.1 k t.request.contentType 1 b) :
    Restarts rng s t k := by
  refine ⟨accepted, ?_, ?_⟩
  · obtain ⟨item, hget, -, -, hbody⟩ := held
    exact ⟨item, hget, hbody.trans hb.symm⟩
  · intro b' body c num ops rng' last hb' hcontinues hlast
    rw [hb] at hb'
    cases hb'
    have hheld := holds_run _ k t.request.contentType 1 num b body ops hcontinues held
    exact receiveRequest_complete rng' _ last k t.request.contentType num c body hlast hheld

theorem joined_of_accepted (num size : ℕ) (b : Bytes) (item : BlockItem) (h : Uploads t.request)
    (hb : t.request.payload = some (.bytes b)) (hget : s.block1Receive.get? k = some item)
    (ok : (receiveBlock1Request rng k num 1 size (s, t)).1 = .ok ())
    (continued : outcome (receiveBlock1Request rng k num 1 size (s, t)).2.2 = .continued) :
    ∃ a, item.num = num ∧ item.contentType = t.request.contentType ∧
      item.payload = some (.bytes a) ∧
        receiveBlock1Request rng k num 1 size (s, t) =
          acceptBlock1 rng k num 1 size { item with payload := some (.bytes (a ++ b)) } (s, t) := by
  have hrefused := (incomplete_refused rng s t h).2.2
  unfold receiveBlock1Request at ok continued ⊢
  dsimp only at ok continued ⊢
  rw [hget] at ok continued ⊢
  dsimp only at ok continued ⊢
  by_cases hne : num ≠ item.num ∨ t.request.contentType ≠ item.contentType
  · rw [if_pos hne, hrefused] at continued
    cases continued
  · rw [if_neg hne, hb] at ok ⊢
    obtain ⟨hnum, htype⟩ := not_or.mp hne
    cases hstored : item.payload with
    | none =>
      rw [hstored] at ok
      cases ok
    | some stored =>
      cases stored with
      | str text =>
        rw [hstored] at ok
        cases ok
      | bytes a => exact ⟨a, (not_not.mp hnum).symm, (not_not.mp htype).symm, rfl, rfl⟩

variable (h : Opens t)
include h

theorem Opens.uploads (hblock2 : t.request.block2 = .ok none) : Uploads t.request := by
  obtain ⟨size, hblock1⟩ := h.block1
  exact ⟨h.source, h.destination, h.token, hblock2, ⟨0, 1, size, hblock1, Nat.le_refl 1⟩,
    h.payload⟩

/-- With a Block2 option the request goes the way of a download, and is not answered here. -/
theorem block2_of_accepted (accepted : Accepted rng s t) : t.request.block2 = .ok none := by
  obtain ⟨address, hsource⟩ := Option.ne_none_iff_exists'.mp h.source
  obtain ⟨ok, continued⟩ := accepted none
  unfold receiveRequest at ok continued
  dsimp only at ok continued
  cases hblock2 : t.request.block2 with
  | error e =>
    rw [hblock2] at ok
    cases ok
  | ok block =>
    cases block with
    | none => rfl
    | some block =>
      exfalso
      rw [hblock2, hsource] at continued
      unfold receiveBlock2Request at continued
      dsimp only at continued
      -- the flag may be left from an earlier block, but no answer is
      cases hflag : t.blockTransfer with
      | true => split at continued <;> simp [outcome, hflag] at continued
      | false => split at continued <;> simp [outcome, hflag] at continued

variable (hkey : requestKey t = some k)
include hkey

theorem receiveRequest_opens (hblock2 : t.request.block2 = .ok none) :
    ∃ size, receiveRequest rng (s, t) = receiveBlock1Request rng k 0 1 size (s, t) := by
  obtain ⟨size, hblock1⟩ := h.block1
  obtain ⟨address, hsource⟩ := Option.ne_none_iff_exists'.mp h.source
  refine ⟨size, ?_⟩
  rw [receiveRequest_block1 rng s t address 0 1 size hblock2 hblock1 hsource,
    key_of_requestKey t k address hsource hkey]

theorem receiveRequest_restartable (hblock2 : t.request.block2 = .ok none) (b : Bytes)
    (hb : t.request.payload = some (.bytes b))
    (hrestartable : Restartable (s.block1Receive.get? k) t.request.contentType) :
    (receiveRequest rng (s, t)).1 = .ok () ∧
      outcome (receiveRequest rng (s, t)).2.2 = .continued ∧
        Holds (receiveRequest rng (s, t)).2.1 k t.request.contentType 1 b := by
  obtain ⟨size, heq⟩ := receiveRequest_opens rng s t k h hkey hblock2
  have haccept : ∃ item, item.contentType = t.request.contentType ∧
      item.payload = some (.bytes b) ∧
        receiveRequest rng (s, t) = acceptBlock1 rng k 0 1 size item (s, t) := by
    rw [heq]
    cases hget : s.block1Receive.get? k with
    | none =>
      exact ⟨_, rfl, hb, receiveBlock1Request_first rng s t k 1 size hget⟩
    | some item =>
      obtain ⟨hnum, htype, hempty⟩ := hrestartable item hget
      refine ⟨{ item with payload := some (.bytes b) }, htype, rfl, ?_⟩
      rw [← hnum]
      exact receiveBlock1Request_next rng s t k 1 size item [] b hget hempty hb htype.symm
  obtain ⟨item, htype, hbody, haccept⟩ := haccept
  obtain ⟨hok, hentry, hcontinued⟩ :=
    acceptBlock1_continued rng s t k 0 1 size item one_ne_zero (h.uploads t hblock2)
  rw [haccept]
  exact ⟨hok, hcontinued, _, hentry, rfl, htype, hbody⟩

theorem restarts_iff_state :
    Restarts rng s t k ↔ t.request.block2 = .ok none ∧
      Restartable (s.block1Receive.get? k) t.request.contentType := by
  obtain ⟨b, hb⟩ := h.payload
  constructor
  · intro hrestarts
    obtain ⟨hok, hcontinued⟩ := hrestarts.accepted t.response
    have hblock2 := block2_of_accepted rng s t h hrestarts.accepted
    refine ⟨hblock2, ?_⟩
    intro item hget
    obtain ⟨size, heq⟩ := receiveRequest_opens rng s t k h hkey hblock2
    obtain ⟨item', hget', hbody⟩ := hrestarts.discarded
    rw [heq] at hok hcontinued hget'
    obtain ⟨a, hnum, htype, hstored, hjoined⟩ :=
      joined_of_accepted rng s t k 0 size b item (h.uploads t hblock2) hb hget hok hcontinued
    refine ⟨hnum, htype, ?_⟩
    rw [hjoined, (acceptBlock1_continued rng s t k 0 1 size
      { item with payload := some (.bytes (a ++ b)) } one_ne_zero (h.uploads t hblock2)).2.1]
      at hget'
    cases hget'
    have hbytes : a ++ b = b := Payload.bytes.inj (Option.some.inj (hbody.trans hb))
    rw [hstored, List.append_left_eq_self.mp hbytes]
  · rintro ⟨hblock2, hrestartable⟩
    have haccepted : Accepted rng s t := by
      intro former
      obtain ⟨hok, hcontinued, -⟩ := receiveRequest_restartable rng s
        { t with response := former } k ⟨h.source, h.destination, h.token, h.block1, h.payload⟩
        hkey hblock2 b hb hrestartable
      exact ⟨hok, hcontinued⟩
    obtain ⟨-, -, hheld⟩ := receiveRequest_restartable rng s t k h hkey hblock2 b hb hrestartable
    exact restarts_of_holds rng s t k haccepted b hb hheld

end

/-- In the states that any operations of the layer lead to. -/
theorem restarts_iff (ops : List Operation) (rng : Bytes) (t : Transaction) (k : Key)
    (h : Opens t) (hkey : requestKey t = some k) :
    Restarts rng (run Operation.apply State.new ops) t k ↔ t.request.block2 = .ok none ∧
      Restartable ((run Operation.apply State.new ops).block1Receive.get? k)
        t.request.contentType :=
  restarts_iff_state rng (run Operation.apply State.new ops) t k h hkey

def sampleKey : Key := key (['h'], 1) (tokenArg (some [1]))

theorem sampleArrival_opens (b : UInt8) : Opens (sampleArrival 0 1 b).transaction := by
  have huploads := sampleArrival_uploads 0 1 b (by decide) (by decide) (by decide)
  refine ⟨huploads.source, huploads.destination, huploads.token, ⟨16, ?_⟩, huploads.payload⟩
  exact block1_withBlock1 { Message.new .request with
    source := some (['h'], 1)
    destination := some (['s'], 2)
    token := some [1]
    payload := some (.bytes [b]) } 0 1 0 (by decide) (by decide) (by decide)

theorem restarts_new : Restarts [] (run Operation.apply State.new [])
    (sampleArrival 0 1 7).transaction sampleKey :=
  (restarts_iff [] [] (sampleArrival 0 1 7).transaction sampleKey (sampleArrival_opens 7) rfl).mpr
    ⟨block2_withBlock1 _ 0 1 16, fun item hget => by cases hget⟩

/-- The upload is begun a second time. -/
theorem not_restarts_again :
    ¬ ∀ ops rng t k, Opens t → requestKey t = some k →
      Restarts rng (run Operation.apply State.new ops) t k := by
  intro h
  have hrestarts := h [.receiveRequest [] (sampleArrival 0 1 7).transaction] []
    (sampleArrival 0 1 8).transaction sampleKey (sampleArrival_opens 8) rfl
  exact absurd (hrestarts.accepted none).2 (by decide +kernel)

end BubotCoap.Block1Restart
