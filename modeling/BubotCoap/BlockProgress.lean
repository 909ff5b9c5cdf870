import BubotCoap.BlockSteps
import BubotCoap.MessageLayer
import BubotCoap.Runs

set_option autoImplicit false

namespace BubotCoap.BlockProgress
open PythonData Defines Utils Messages OptionAccess OrderedDict Transactions BlockLayer
  BlockFrames BlockSteps FallibleState Runs

/-- The number in a Block option. The getter raises on an option without a value, which stands for
number zero. -/
def number : Except PyErr (Option (ℕ × ℕ × ℕ)) → Option ℕ
  | .ok block => block.map Prod.fst
  | .error _ => some 0

def Greater (before after : Except PyErr (Option (ℕ × ℕ × ℕ))) : Prop :=
  ∃ n, number after = some n ∧ ∀ p, number before = some p → p < n

/-- A request with a greater Block1 or Block2 number than the one before it. -/
def Advances (before after : Message) : Prop :=
  Greater before.block1 after.block1 ∨ Greater before.block2 after.block2

/-- The response of block `num` is not behind the request, and there is a number after it. -/
def Follows (before : Option ℕ) (num : ℕ) : Prop :=
  ∀ p, before = some p → p ≤ num ∧ num + 1 < 2 ^ 20

/-- The response is not taken for the acknowledgement of a block. -/
def OfBlock2 (s : State) (k : Key) (response : Message) : Prop :=
  s.block1Sent.get? k = none ∨ response.block1 = .ok none

/-- A response with a block of the representation that does not lead astray. -/
structure FitsBlock2 (s : State) (k : Key) (previous response : Message) : Prop where
  /-- One of several blocks is the wanted one, and of the content type of those before. -/
  wanted : ∀ num m size, response.block2 = .ok (some (num, m, size)) → m = 1 →
    ∀ item, s.block2Sent.get? k = some item →
      num = item.num ∧ expectedType item response = response.contentType
  /-- Its number is not behind the request's, unless its payload cannot be joined to those before. -/
  follows : ∀ num m size, response.block2 = .ok (some (num, m, size)) → m = 1 →
    (∀ item, s.block2Sent.get? k = some item →
      ∃ p, appendPayload item.payload response.payload = .ok p) →
    Follows (number previous.block2) num
  /-- The last block is of the stored content type. -/
  last : ∀ num m size, response.block2 = .ok (some (num, m, size)) → m ≠ 1 →
    ∀ item, s.block2Sent.get? k = some item → item.contentType = response.contentType

/-- The responses that do not lead astray, with what the tables hold when they come and with the
request that was sent before. -/
structure Fits (s : State) (k : Key) (previous response : Message) : Prop where
  /-- The acknowledged block is the one that was sent, unless the last one has been sent. -/
  acknowledged : ∀ item num m size, s.block1Sent.get? k = some item →
    response.block1 = .ok (some (num, m, size)) → item.m ≠ 0 →
      num = item.num ∧ (item.payload ≠ none → Follows (number previous.block1) num)
  block2 : OfBlock2 s k response → FitsBlock2 s k previous response

section Numbers
variable (before after : Except PyErr (Option (ℕ × ℕ × ℕ)))

theorem not_greater_self : ¬ Greater before before := by
  rintro ⟨n, hn, hlt⟩
  exact absurd (hlt n hn) (lt_irrefl n)

theorem not_greater_none : ¬ Greater before (.ok none) := by
  rintro ⟨n, hn, _⟩
  cases hn

theorem greater_iff (num : ℕ) (hnum : num < 2 ^ 20)
    (h : number after = some ((num + 1) % 2 ^ 20)) :
    Greater before after ↔ Follows (number before) num := by
  unfold Greater Follows
  rw [h]
  simp only [Option.some.injEq, exists_eq_left']
  apply forall_congr'
  intro p
  apply imp_congr_right
  intro _
  omega

end Numbers

/-- A request as the node sends it: to an address, and with a token that its setter accepts. -/
structure Addressed (m : Message) : Prop where
  destination : m.destination ≠ none
  token : ∃ token, m.token = some token ∧ token.length ≤ 256

/-- The request object after it was sent: it can only have lost its Block1 option. -/
structure Kept (previous request : Message) : Prop where
  block1 : request.block1 = previous.block1 ∨ request.block1 = .ok none
  block2 : request.block2 = previous.block2

/-- The next request has a greater number, if there is one. -/
def Leads {β : Type} (previous : Message) (r : Except PyErr β × State × Transaction) : Prop :=
  ∀ b, r.1 = .ok b → r.2.2.blockTransfer = true → Advances previous r.2.2.request

/-- What is to be known of the handling of a response: exactly if `fits` it leads on. -/
structure Handled {β : Type} (previous request : Message) (fits : Prop)
    (r : Except PyErr β × State × Transaction) : Prop where
  leads_iff : Leads previous r ↔ fits
  addressed : Addressed r.2.2.request
  quiet : (∀ b, r.1 = .ok b → r.2.2.blockTransfer = false) → Kept previous r.2.2.request
  other : r.2.2.request.block1 = request.block1 ∨ r.2.2.request.block2 = request.block2

section Handling
variable {β : Type} (previous request : Message) (fits : Prop)

theorem handled_quiet (result : Except PyErr β) (s : State) (t : Transaction) (hfits : fits)
    (hquiet : ∀ b, result = .ok b → t.blockTransfer = false) (haddressed : Addressed t.request)
    (hkept : Kept previous t.request) (hblock2 : t.request.block2 = request.block2) :
    Handled previous request fits (result, s, t) where
  leads_iff := by
    refine iff_of_true ?_ hfits
    intro b hb htransfer
    rw [hquiet b hb] at htransfer
    cases htransfer
  addressed := haddressed
  quiet _ := hkept
  other := Or.inr hblock2

theorem not_advances_kept (hkept : Kept previous request) : ¬ Advances previous request := by
  rintro (hgreater | hgreater)
  · rcases hkept.block1 with h | h
    · rw [h] at hgreater
      exact not_greater_self _ hgreater
    · rw [h] at hgreater
      exact not_greater_none _ hgreater
  · rw [hkept.block2] at hgreater
    exact not_greater_self _ hgreater

theorem handled_again (b : β) (s : State) (t : Transaction) (hfits : ¬ fits)
    (htransfer : t.blockTransfer = true) (haddressed : Addressed t.request)
    (hkept : Kept previous t.request) (hblock2 : t.request.block2 = request.block2) :
    Handled previous request fits (.ok b, s, t) where
  leads_iff := by
    refine iff_of_false ?_ hfits
    intro hleads
    exact not_advances_kept previous t.request hkept (hleads b rfl htransfer)
  addressed := haddressed
  quiet _ := hkept
  other := Or.inr hblock2

theorem handled_block1 (num : ℕ) (b : β) (s : State) (t : Transaction) (hnum : num < 2 ^ 20)
    (htransfer : t.blockTransfer = true) (haddressed : Addressed t.request)
    (hkept : Kept previous request) (hblock2 : t.request.block2 = request.block2)
    (hblock1 : number t.request.block1 = some ((num + 1) % 2 ^ 20)) :
    Handled previous request (Follows (number previous.block1) num) (.ok b, s, t) where
  leads_iff := by
    rw [← greater_iff _ _ num hnum hblock1]
    constructor
    · intro hleads
      rcases hleads b rfl htransfer with hgreater | hgreater
      · exact hgreater
      · rw [hblock2, hkept.block2] at hgreater
        exact absurd hgreater (not_greater_self _)
    · intro hgreater _ _ _
      exact Or.inl hgreater
  addressed := haddressed
  quiet hquiet := by
    rw [hquiet b rfl] at htransfer
    cases htransfer
  other := Or.inr hblock2

theorem handled_block2 (num : ℕ) (b : β) (s : State) (t : Transaction) (hnum : num < 2 ^ 20)
    (htransfer : t.blockTransfer = true) (haddressed : Addressed t.request)
    (hkept : Kept previous request) (hblock1 : t.request.block1 = request.block1)
    (hblock2 : number t.request.block2 = some ((num + 1) % 2 ^ 20)) :
    Handled previous request (Follows (number previous.block2) num) (.ok b, s, t) where
  leads_iff := by
    rw [← greater_iff _ _ num hnum hblock2]
    constructor
    · intro hleads
      rcases hleads b rfl htransfer with hgreater | hgreater
      · rw [hblock1] at hgreater
        rcases hkept.block1 with h | h
        · rw [h] at hgreater
          exact absurd hgreater (not_greater_self _)
        · rw [h] at hgreater
          exact absurd hgreater (not_greater_none _)
      · exact hgreater
    · intro hgreater _ _ _
      exact Or.inr hgreater
  addressed := haddressed
  quiet hquiet := by
    rw [hquiet b rfl] at htransfer
    cases htransfer
  other := Or.inl hblock1

theorem Handled.congr (fits fits' : Prop) (r : Except PyErr β × State × Transaction)
    (h : Handled previous request fits r) (hiff : fits ↔ fits') :
    Handled previous request fits' r :=
  ⟨h.leads_iff.trans hiff, h.addressed, h.quiet, h.other⟩

theorem handled_returned (r : Except PyErr Unit × State × Transaction)
    (h : Handled previous request fits r) : Handled previous request fits (returned r) := by
  obtain ⟨result, s, t⟩ := r
  cases result with
  | error e =>
    refine ⟨Iff.trans ?_ h.leads_iff, h.addressed, fun _ => h.quiet (by simp), h.other⟩
    simp [Leads, returned, Except.map]
  | ok _ =>
    refine ⟨Iff.trans ?_ h.leads_iff, h.addressed, fun hquiet => h.quiet ?_, h.other⟩
    · simp [Leads, returned, Except.map]
    · exact fun _ _ => hquiet true rfl

end Handling

theorem block1_delBlock1 (m : Message) : m.delBlock1.block1 = .ok none :=
  block_eq_none _ m.delBlock1 (ofNumber_delete_self _ m.options)

theorem block2_delBlock1 (m : Message) : m.delBlock1.block2 = m.block2 :=
  block_congr _ _ _ (ofNumber_delete_of_ne _ _ m.options (by decide))

theorem initFromRequest_ok (rng : Bytes) (request : Message) (h : Addressed request) :
    ∃ response, Message.initFromRequest rng request = .ok response := by
  obtain ⟨token, htoken, hlength⟩ := h.token
  obtain ⟨address, haddress⟩ := Option.ne_none_iff_exists'.mp h.destination
  have hsource : ∃ source, Message.replySource request = .ok source := by
    unfold Message.replySource
    rw [haddress]
    split
    · exact ⟨_, rfl⟩
    · exact ⟨_, rfl⟩
  obtain ⟨source, hsource⟩ := hsource
  unfold Message.initFromRequest
  rw [hsource, ok_bind]
  unfold Message.setToken
  rw [htoken]
  dsimp only
  rw [if_neg (by omega)]
  exact ⟨_, rfl⟩

section Layer
variable (rng : Bytes) (s : State) (t : Transaction) (k : Key) (previous response : Message)
  (hkept : Kept previous t.request) (haddressed : Addressed t.request)
include hkept haddressed

theorem handled_nextBlock1 (item : BlockItem) (size : ℕ) (hnum : item.num < 2 ^ 20)
    (htransfer : t.blockTransfer = true) :
    Handled previous t.request (item.payload ≠ none → Follows (number previous.block1) item.num)
      (nextBlock1 k item size (s, t)) := by
  unfold nextBlock1
  dsimp only
  cases hpayload : item.payload with
  | none =>
    refine handled_quiet previous t.request _ _ _ _ (fun h => absurd rfl h) (fun b h => ?_) ?_ ?_ ?_
    · cases h
    · exact ⟨haddressed.destination, haddressed.token⟩
    · exact ⟨Or.inr (block1_delBlock1 _), (block2_delBlock1 _).trans hkept.block2⟩
    · exact block2_delBlock1 _
  | some payload =>
    have hm : (if payload.length ≤ item.byte + (if size < item.size then size else item.size)
        then 0 else 1) ≤ 1 := by
      split_ifs <;> omega
    dsimp only
    rw [delBlock1_setPayload, setBlock1_delBlock1]
    refine Handled.congr previous t.request _ _ _ (handled_block1 previous t.request item.num _ _ _
      hnum htransfer ⟨haddressed.destination, haddressed.token⟩ hkept ?_ ?_) (by simp)
    · exact block2_withBlock1 _ _ _ _
    · have hblock1 := block_replace (t.request.delMid.setPayload
        (some (payload.slice item.byte
          (item.byte + (if size < item.size then size else item.size)))))
        OptionRegistry.block1 (item.num + 1) _
        (if size < item.size then size else item.size) rfl rfl hm (by omega)
      exact congrArg number hblock1

theorem handled_receiveBlock1Response (item : BlockItem) (num size : ℕ) (hnum : num < 2 ^ 20) :
    Handled previous t.request (item.m ≠ 0 → num = item.num ∧
        (item.payload ≠ none → Follows (number previous.block1) num))
      (receiveBlock1Response k item num size (s, t)) := by
  unfold receiveBlock1Response
  dsimp only
  by_cases hm : item.m = 0
  · rw [if_pos hm]
    refine handled_quiet previous t.request _ _ _ _ (fun h => absurd hm h) (fun _ _ => rfl) ?_ ?_ ?_
    · exact ⟨haddressed.destination, haddressed.token⟩
    · exact ⟨Or.inr (block1_delBlock1 _), (block2_delBlock1 _).trans hkept.block2⟩
    · exact block2_delBlock1 _
  · rw [if_neg hm]
    by_cases heq : num = item.num
    · rw [if_neg (by simpa using heq)]
      subst heq
      refine Handled.congr previous t.request _ _ _ (handled_returned previous t.request _ _
        (handled_nextBlock1 s { t with blockTransfer := true } k previous hkept haddressed item size
          hnum rfl)) ?_
      simp [hm]
    · rw [if_pos heq]
      exact handled_again previous t.request _ _ _ _ (fun h => heq (h hm).1) rfl haddressed hkept rfl

theorem handled_error (code : ℕ) (fits : Prop) (hfits : ¬ fits) :
    Handled previous t.request fits (error rng code (s, t)) := by
  obtain ⟨response, hresponse⟩ := initFromRequest_ok rng t.request haddressed
  unfold error
  dsimp only
  rw [hresponse]
  exact handled_again previous t.request _ _ _ _ hfits rfl haddressed hkept rfl

theorem handled_requestBlock2 (item : BlockItem) (num : ℕ) (hitem : item.num = num + 1)
    (hnum : num < 2 ^ 20) (htransfer : t.blockTransfer = true) :
    Handled previous t.request (Follows (number previous.block2) num)
      (requestBlock2 item (s, t)) := by
  rw [requestBlock2_eq, hitem]
  refine handled_block2 previous t.request num _ _ _ hnum htransfer
    ⟨haddressed.destination, haddressed.token⟩ hkept ?_ ?_
  · exact block1_withBlock2 _ _ _ _
  · have hblock2 := block_replace t.request.delMid OptionRegistry.block2 (num + 1) 0 item.size rfl rfl
      (by omega) (by omega)
    exact congrArg number hblock2

theorem handled_receiveMoreBlock2 (num m size : ℕ) (hnum : num < 2 ^ 20) :
    Handled previous t.request
      ((∀ item, s.block2Sent.get? k = some item →
          num = item.num ∧ expectedType item response = response.contentType) ∧
        ((∀ item, s.block2Sent.get? k = some item →
            ∃ p, appendPayload item.payload response.payload = .ok p) →
          Follows (number previous.block2) num))
      (receiveMoreBlock2 rng k num m size response (s, t)) := by
  have haddressed' : Addressed ({ t with blockTransfer := true } : Transaction).request := haddressed
  unfold receiveMoreBlock2
  dsimp only
  cases hitem : s.block2Sent.get? k with
  | none =>
    refine Handled.congr previous t.request _ _ _ (handled_requestBlock2 _
      { t with blockTransfer := true } previous hkept haddressed _ num rfl hnum rfl) ?_
    simp
  | some item =>
    dsimp only
    simp only [Option.some.injEq, forall_eq']
    by_cases heq : num = item.num
    · rw [if_neg (by simpa using heq)]
      by_cases htype : expectedType item response = response.contentType
      · rw [if_neg (by simpa using htype)]
        cases hpayload : appendPayload item.payload response.payload with
        | error e =>
          refine handled_quiet previous t.request _ _ _ _ ⟨⟨heq, htype⟩, ?_⟩ (fun b h => ?_)
            haddressed hkept rfl
          · rintro ⟨p, hp⟩
            cases hp
          · cases h
        | ok payload =>
          refine Handled.congr previous t.request _ _ _ (handled_requestBlock2 _
            { t with blockTransfer := true } previous hkept haddressed _ num rfl hnum rfl) ?_
          simp [heq, htype]
      · rw [if_pos htype]
        exact handled_error rng _ { t with blockTransfer := true } previous hkept haddressed _ _
          fun h => htype h.1.2
    · rw [if_pos heq]
      exact handled_error rng _ { t with blockTransfer := true } previous hkept haddressed _ _
        fun h => heq h.1.1

theorem handled_receiveLastBlock2 :
    Handled previous t.request
      (∀ item, s.block2Sent.get? k = some item → item.contentType = response.contentType)
      (receiveLastBlock2 rng k response (s, t)) := by
  unfold receiveLastBlock2
  dsimp only
  cases hitem : s.block2Sent.get? k with
  | none =>
    refine handled_quiet previous t.request _ _ _ _ ?_ (fun _ _ => rfl) haddressed hkept rfl
    intro item h
    cases h
  | some item =>
    dsimp only
    simp only [Option.some.injEq, forall_eq']
    by_cases htype : item.contentType = response.contentType
    · rw [if_neg (by simpa using htype)]
      cases appendPayload item.payload response.payload with
      | error e =>
        refine handled_quiet previous t.request _ _ _ _ htype (fun b h => ?_) haddressed hkept rfl
        cases h
      | ok payload =>
        exact handled_quiet previous t.request _ _ _ _ htype (fun _ _ => rfl) haddressed hkept rfl
    · rw [if_pos htype]
      exact handled_error rng _ { t with blockTransfer := false } previous hkept haddressed _ _ htype

theorem handled_receiveBlock2Response :
    Handled previous t.request (FitsBlock2 s k previous response)
      (receiveBlock2Response rng k response (s, t)) := by
  have hfits : (∀ num m size, response.block2 ≠ .ok (some (num, m, size))) →
      FitsBlock2 s k previous response := fun h =>
    ⟨fun num m size hb => absurd hb (h num m size), fun num m size hb => absurd hb (h num m size),
      fun num m size hb => absurd hb (h num m size)⟩
  unfold receiveBlock2Response
  dsimp only
  cases hblock2 : response.block2 with
  | error e =>
    refine handled_quiet previous t.request _ _ _ _ (hfits (by simp [hblock2])) (fun b h => ?_)
      haddressed hkept rfl
    cases h
  | ok block =>
    cases block with
    | none =>
      exact handled_quiet previous t.request _ _ _ _ (hfits (by simp [hblock2])) (fun _ _ => rfl)
        haddressed hkept rfl
    | some b =>
      obtain ⟨num, m, size⟩ := b
      obtain ⟨hnum, _⟩ := block_lt _ response num m size hblock2
      have hsame : ∀ num' m' size', response.block2 = .ok (some (num', m', size')) →
          num' = num ∧ m' = m := by
        intro num' m' size' h
        rw [hblock2, Except.ok.injEq, Option.some.injEq, Prod.mk.injEq, Prod.mk.injEq] at h
        exact ⟨h.1.symm, h.2.1.symm⟩
      dsimp only
      by_cases hm : m = 1
      · rw [if_pos hm]
        refine Handled.congr previous t.request _ _ _ (handled_receiveMoreBlock2 rng s t k previous
          response hkept haddressed num m size hnum) ?_
        constructor
        · rintro ⟨hwanted, hfollows⟩
          refine ⟨?_, ?_, ?_⟩
          · intro num' m' size' hb _
            rwa [(hsame num' m' size' hb).1]
          · intro num' m' size' hb _
            rwa [(hsame num' m' size' hb).1]
          · intro num' m' size' hb hne
            rw [(hsame num' m' size' hb).2] at hne
            exact absurd hm hne
        · intro h
          exact ⟨h.wanted num m size hblock2 hm, h.follows num m size hblock2 hm⟩
      · rw [if_neg hm]
        refine Handled.congr previous t.request _ _ _ (handled_receiveLastBlock2 rng s t k previous
          response hkept haddressed) ?_
        constructor
        · intro hlast
          refine ⟨?_, ?_, fun _ _ _ _ _ => hlast⟩
          · intro num' m' size' hb h
            rw [(hsame num' m' size' hb).2] at h
            exact absurd h hm
          · intro num' m' size' hb h
            rw [(hsame num' m' size' hb).2] at h
            exact absurd h hm
        · intro h
          exact h.last num m size hblock2 hm

theorem handled_receiveResponse (hresponse : t.response = some response) :
    Handled previous t.request
      (∀ address, response.source = some address →
        Fits s (key address (tokenArg response.token)) previous response)
      (receiveResponse rng (s, t)) := by
  unfold receiveResponse
  dsimp only
  rw [hresponse]
  dsimp only
  cases hsource : response.source with
  | none =>
    refine handled_quiet previous t.request _ _ _ _ (fun _ h => ?_) (fun b h => ?_) haddressed
      hkept rfl
    · cases h
    · cases h
  | some address =>
    simp only [Option.some.injEq, forall_eq']
    generalize key address (tokenArg response.token) = k
    have hblock2 := handled_returned previous t.request _ _
      (handled_receiveBlock2Response rng s t k previous response hkept haddressed)
    cases hitem : s.block1Sent.get? k with
    | none =>
      refine hblock2.congr previous t.request _ _ _ ⟨fun h => ⟨?_, fun _ => h⟩, fun h => ?_⟩
      · intro item num m size h
        rw [hitem] at h
        cases h
      · exact h.block2 (Or.inl hitem)
    | some item =>
      have hof : ∀ block, response.block1 = block → block ≠ .ok none → ¬ OfBlock2 s k response := by
        rintro block hblock hne (h | h)
        · rw [hitem] at h
          cases h
        · exact hne (hblock.symm.trans h)
      dsimp only
      cases hblock1 : response.block1 with
      | error e =>
        refine handled_quiet previous t.request _ _ _ _ ⟨?_, ?_⟩ (fun b h => ?_) haddressed hkept rfl
        · intro _ _ _ _ _ h
          rw [hblock1] at h
          cases h
        · exact fun h => absurd h (hof _ hblock1 (by simp))
        · cases h
      | ok block =>
        cases block with
        | none =>
          refine hblock2.congr previous t.request _ _ _ ⟨fun h => ⟨?_, fun _ => h⟩, fun h => ?_⟩
          · intro _ _ _ _ _ h
            rw [hblock1] at h
            cases h
          · exact h.block2 (Or.inr hblock1)
        | some b =>
          obtain ⟨num, m, size⟩ := b
          refine Handled.congr previous t.request _ _ _ (handled_receiveBlock1Response s t k previous
            hkept haddressed item num size (block_lt _ response num m size hblock1).1) ?_
          constructor
          · intro h
            refine ⟨?_, fun h => absurd h (hof _ hblock1 (by simp))⟩
            intro item' num' m' size' hitem' hblock1' hm
            rw [hitem, Option.some.injEq] at hitem'
            rw [hblock1, Except.ok.injEq, Option.some.injEq, Prod.mk.injEq] at hblock1'
            rw [← hitem', ← hblock1'.1]
            exact h (by rwa [hitem'])
          · intro h
            exact h.acknowledged item num m size hitem hblock1

end Layer

/-- A client's exchange: the request object, which all requests of the exchange share, as it is
and as it was sent last, and how many block requests have been sent in a row. -/
structure Exchange where
  state : State
  request : Message
  previous : Message
  rounds : ℕ

/-- A response with the transaction it belongs to, and what the message layer has for a request
that lacks it. -/
structure Reception where
  response : Message
  transaction : Transaction
  now : ℚ
  mid : ℤ
  rng : Bytes

/-- Operations of the block layer for other exchanges may come between the responses. -/
inductive Event where
  | response (r : Reception)
  | operation (op : Operation)

def Exchange.start (s : State) (request : { m : Message // Addressed m }) : Exchange :=
  ⟨s, request, request, 0⟩

/-- `Server.send_block_request`. -/
def sendBlockRequest (r : Reception) (request : Message) : Message :=
  { request with
    timestamp := some r.now
    type := some (request.type.getD .CON)
    mid := some (request.mid.getD r.mid)
    token := some (request.token.getD r.rng) }.setAcknowledged false

/-- The transaction as the message layer hands it over, with the request of the exchange. -/
def paired (x : Exchange) (r : Reception) : Transaction :=
  { MessageLayer.acknowledgeRequest { r.transaction with request := x.request } with
    completed := true
    response := some r.response }

/-- What the protocol does with a response. Whether the block layer returned a transaction makes
no difference to it. -/
def datagramReceivedResponse (r : Reception) (x : Exchange) : Exchange :=
  match receiveResponse r.rng (x.state, paired x r) with
  | (.error _, s, t) => { x with state := s, request := t.request, rounds := 0 }
  | (.ok _, s, t) =>
    if t.blockTransfer then
      let request := sendBlockRequest r t.request
      ⟨s, request, request, x.rounds + 1⟩
    else { x with state := s, request := t.request, rounds := 0 }

def Exchange.step (x : Exchange) : Event → Exchange
  | .response r => datagramReceivedResponse r x
  | .operation op => { x with state := op.apply x.state }

/-- If the response makes the protocol send a block request, it is one of a greater number. -/
def Progresses (x : Exchange) (r : Reception) : Prop :=
  ∀ b s t, receiveResponse r.rng (x.state, paired x r) = (.ok b, s, t) → t.blockTransfer = true →
    Advances x.previous (sendBlockRequest r t.request)

def Fitting (x : Exchange) (r : Reception) : Prop :=
  ∀ address, r.response.source = some address →
    Fits x.state (key address (tokenArg r.response.token)) x.previous r.response

/-- What holds of an exchange at any time. -/
structure Valid (x : Exchange) : Prop where
  addressed : Addressed x.request
  kept : Kept x.previous x.request
  same : x.rounds ≠ 0 → x.request = x.previous

theorem handled_paired (x : Exchange) (r : Reception) (h : Valid x) :
    Handled x.previous (paired x r).request (Fitting x r)
      (receiveResponse r.rng (x.state, paired x r)) :=
  handled_receiveResponse r.rng x.state (paired x r) x.previous r.response
    ⟨h.kept.block1, h.kept.block2⟩ ⟨h.addressed.destination, h.addressed.token⟩ rfl

theorem addressed_sendBlockRequest (r : Reception) (m : Message) (h : Addressed m) :
    Addressed (sendBlockRequest r m) := by
  obtain ⟨token, htoken, hlength⟩ := h.token
  refine ⟨h.destination, token, ?_, hlength⟩
  change some (m.token.getD r.rng) = some token
  rw [htoken]
  rfl

theorem valid_receivedResponse (x : Exchange) (r : Reception) (h : Valid x) :
    Valid (datagramReceivedResponse r x) := by
  have hhandled := handled_paired x r h
  unfold datagramReceivedResponse
  generalize receiveResponse r.rng (x.state, paired x r) = result at hhandled
  obtain ⟨result, s, t⟩ := result
  cases result with
  | error e =>
    have hkept := hhandled.quiet fun b hb => absurd hb (by simp)
    exact ⟨hhandled.addressed, hkept, fun h => absurd rfl h⟩
  | ok b =>
    dsimp only
    cases htransfer : t.blockTransfer with
    | true =>
      rw [if_pos rfl]
      exact ⟨addressed_sendBlockRequest r _ hhandled.addressed, ⟨Or.inl rfl, rfl⟩, fun _ => rfl⟩
    | false =>
      rw [if_neg (by simp)]
      exact ⟨hhandled.addressed, hhandled.quiet fun _ _ => htransfer, fun h => absurd rfl h⟩

theorem valid_run (s : State) (request : { m : Message // Addressed m }) (es : List Event) :
    Valid (run Exchange.step (Exchange.start s request) es) := by
  refine run_induction Exchange.step (fun _ x => Valid x) _ es ?_ ?_
  · exact ⟨request.property, ⟨Or.inl rfl, rfl⟩, fun h => absurd rfl h⟩
  · intro pre e post _ h
    cases e with
    | response r => exact valid_receivedResponse _ r h
    | operation op => exact ⟨h.addressed, h.kept, h.same⟩

theorem progresses_iff (x : Exchange) (r : Reception) (h : Valid x) :
    Progresses x r ↔ Fitting x r := by
  rw [← (handled_paired x r h).leads_iff]
  constructor
  · intro hprogress b hb htransfer
    exact hprogress b _ _ (Prod.ext hb rfl) htransfer
  · intro hleads b s t hresult htransfer
    rw [hresult] at hleads
    exact hleads b rfl htransfer

section Rank

/-- The numbers of the request, counted from one. -/
def rank (m : Message) : ℕ :=
  (number m.block1).elim 0 (· + 1) + (number m.block2).elim 0 (· + 1)

theorem number_lt (n : ℕ) (m : Message) (p : ℕ) (h : number (m.block n) = some p) :
    p < 2 ^ 20 := by
  cases hblock : m.block n with
  | error e =>
    rw [hblock] at h
    simp only [number, Option.some.injEq] at h
    omega
  | ok block =>
    rw [hblock] at h
    obtain ⟨⟨num, more, size⟩, rfl, rfl⟩ := Option.map_eq_some_iff.mp h
    exact (block_lt n m num more size hblock).1

theorem rank_le (m : Message) : rank m ≤ 2 ^ 21 := by
  have hle : ∀ n, (number (m.block n)).elim 0 (· + 1) ≤ 2 ^ 20 := by
    intro n
    cases hnumber : number (m.block n) with
    | none => exact Nat.zero_le _
    | some p => exact number_lt n m p hnumber
  have h₁ := hle OptionRegistry.block1.number
  have h₂ := hle OptionRegistry.block2.number
  unfold rank Message.block1 Message.block2
  omega

theorem elim_lt (before after : Except PyErr (Option (ℕ × ℕ × ℕ))) (h : Greater before after) :
    (number before).elim 0 (· + 1) < (number after).elim 0 (· + 1) := by
  obtain ⟨n, hn, hlt⟩ := h
  rw [hn]
  cases hbefore : number before with
  | none => exact Nat.succ_pos n
  | some p => exact Nat.succ_lt_succ (hlt p hbefore)

theorem rank_pos (previous m : Message) (h : Advances previous m) : 0 < rank m := by
  unfold rank
  rcases h with h | h
  · have hlt := elim_lt _ _ h
    omega
  · have hlt := elim_lt _ _ h
    omega

theorem rank_lt (previous m : Message) (h : Advances previous m)
    (hother : m.block1 = previous.block1 ∨ m.block2 = previous.block2) :
    rank previous < rank m := by
  unfold rank
  rcases hother with heq | heq
  · rw [heq]
    rcases h with h | h
    · rw [heq] at h
      exact absurd h (not_greater_self _)
    · have hlt := elim_lt _ _ h
      omega
  · rw [heq]
    rcases h with h | h
    · have hlt := elim_lt _ _ h
      omega
    · rw [heq] at h
      exact absurd h (not_greater_self _)

theorem rounds_receivedResponse (x : Exchange) (r : Reception) (h : Valid x)
    (hprogress : Progresses x r) (hrounds : x.rounds ≤ rank x.previous) :
    (datagramReceivedResponse r x).rounds ≤ rank (datagramReceivedResponse r x).previous := by
  have hhandled := handled_paired x r h
  unfold Progresses at hprogress
  unfold datagramReceivedResponse
  generalize receiveResponse r.rng (x.state, paired x r) = result at hhandled hprogress
  obtain ⟨result, s, t⟩ := result
  cases result with
  | error e => exact Nat.zero_le _
  | ok b =>
    dsimp only
    cases htransfer : t.blockTransfer with
    | false =>
      rw [if_neg (by simp)]
      exact Nat.zero_le _
    | true =>
      have hadvances := hprogress b s t rfl htransfer
      rw [if_pos rfl]
      change x.rounds + 1 ≤ rank (sendBlockRequest r t.request)
      by_cases hzero : x.rounds = 0
      · have hpos := rank_pos _ _ hadvances
        omega
      · have hother : t.request.block1 = x.previous.block1 ∨
            t.request.block2 = x.previous.block2 := by
          rw [← h.same hzero]
          exact hhandled.other
        have hlt := rank_lt x.previous _ hadvances hother
        omega

end Rank

/-- In every exchange, each block request has a greater number than the request before it exactly
if all responses fit; and as long as they fit, there are no more of them in a row than there are
block numbers. -/
theorem progresses_iff_fitting (s : State) (request : { m : Message // Addressed m })
    (es : List Event) :
    ((∀ pre r post, es = pre ++ .response r :: post →
        Progresses (run Exchange.step (Exchange.start s request) pre) r) ↔
      ∀ pre r post, es = pre ++ .response r :: post →
        Fitting (run Exchange.step (Exchange.start s request) pre) r) ∧
    ((∀ pre r post, es = pre ++ .response r :: post →
        Fitting (run Exchange.step (Exchange.start s request) pre) r) →
      (run Exchange.step (Exchange.start s request) es).rounds ≤ 2 ^ 21) := by
  have hiff : ∀ pre r, Progresses (run Exchange.step (Exchange.start s request) pre) r ↔
      Fitting (run Exchange.step (Exchange.start s request) pre) r := fun pre r =>
    progresses_iff _ r (valid_run s request pre)
  refine ⟨?_, ?_⟩
  · simp only [hiff]
  · intro hfitting
    have hrank : (run Exchange.step (Exchange.start s request) es).rounds ≤
        rank (run Exchange.step (Exchange.start s request) es).previous := by
      refine run_induction Exchange.step (fun _ x => x.rounds ≤ rank x.previous) _ es ?_ ?_
      · exact Nat.zero_le _
      · intro pre e post hes hrounds
        cases e with
        | response r =>
          exact rounds_receivedResponse _ r (valid_run s request pre)
            ((hiff pre r).mpr (hfitting pre r post hes)) hrounds
        | operation op => exact hrounds
    exact hrank.trans (rank_le _)

def sampleGet : Message :=
  withBlock2 { Message.new .request with
    type := some .CON
    mid := some 1
    token := some [1]
    code := some Codes.get
    destination := some (['h'], 1)
    timestamp := some 0 } 0 0 64

theorem sampleGet_addressed : Addressed sampleGet where
  destination := by simp [sampleGet, withBlock2, replace]
  token := ⟨[1], rfl, by decide⟩

def sampleReception : Reception where
  response := withBlock2 { Message.new .response with
    type := some .ACK
    mid := some 1
    token := some [1]
    code := some Codes.content
    source := some (['h'], 1)
    payload := some (.bytes [104, 105]) } 0 0 64
  transaction := Transaction.new sampleGet 0
  now := 0
  mid := 2
  rng := []

def sampleState : State := (sendRequest sampleGet State.new).2

theorem step_sample (n : ℕ) :
    Exchange.step ⟨sampleState, sampleGet, sampleGet, n⟩ (.response sampleReception) =
      ⟨sampleState, sampleGet, sampleGet, n + 1⟩ := rfl

/-- However often the response comes, the client answers it by the request it has sent before. -/
theorem not_progresses :
    (sendRequest sampleGet State.new).1 = .ok sampleGet ∧
    ∀ n, run Exchange.step (Exchange.start sampleState ⟨sampleGet, sampleGet_addressed⟩)
        (List.replicate n (.response sampleReception)) = ⟨sampleState, sampleGet, sampleGet, n⟩ ∧
      ¬ Progresses ⟨sampleState, sampleGet, sampleGet, n⟩ sampleReception := by
  refine ⟨rfl, ?_⟩
  intro n
  refine ⟨?_, ?_⟩
  · induction n with
    | zero => rfl
    | succ n ih => rw [List.replicate_succ', run_concat, ih, step_sample]
  · intro h
    have hadvances := h true sampleState _ rfl rfl
    exact not_advances_kept sampleGet _ ⟨Or.inl rfl, rfl⟩ hadvances

end BubotCoap.BlockProgress
