import BubotCoap.Block2Answers
import BubotCoap.FreshExecution
import BubotCoap.FreshResponses
import BubotCoap.RequestFrames
import BubotCoap.ServerTriples

set_option autoImplicit false

namespace BubotCoap.Piggyback
open PythonData Defines Utils Messages OptionAccess OrderedDict Transactions Resources BlockFrames
  RequestFrames FreshResponses ActionTriples ServerTriples Replies Answering Server ServerFrames
  Runs Journal FreshExecution FallibleState
open ObserveLayer (Relations)
open Deduplication (sampleClient)

variable {ω : Type}

/-- A response as an acknowledgement, which an empty message is not. -/
def Acknowledges (m : Message) : Prop := m.type = some .ACK ∧ m.code ≠ some Codes.empty

def Matches (request m : Message) : Prop := m.mid = request.mid ∧ m.token = request.token

/-- A response that becomes an acknowledgement of the request, or is one. -/
structure Fits (request m : Message) : Prop where
  blank : m.type = none → m.token = request.token
  acknowledged : m.type = some .ACK → Matches request m

structure Apt (request : Message) (t : Transaction) : Prop where
  matching : Matches request t.request
  response : ∀ m, t.response = some m → Fits request m

section Layers
variable (request : Message)

theorem Fits.congr (m m' : Message) (type : m'.type = m.type) (mid : m'.mid = m.mid)
    (token : m'.token = m.token) (h : Fits request m) : Fits request m' := by
  refine ⟨fun hnone => ?_, fun hack => ?_⟩
  · rw [token]
    exact h.blank (type ▸ hnone)
  · obtain ⟨hmid, htoken⟩ := h.acknowledged (type ▸ hack)
    exact ⟨mid.trans hmid, token.trans htoken⟩

theorem apt_observed (now : ℚ) (tid : ℕ) (counter : Option ℕ) (relations relations' : Relations)
    (t t' : Transaction) (h : Apt request t)
    (hr : ObserveLayer.sendResponse now tid counter (relations, t) = (.ok (), relations', t')) :
    Apt request t' := by
  unfold ObserveLayer.sendResponse at hr
  dsimp only at hr
  split at hr
  · cases hr
  · split at hr
    · cases hr
      exact h
    · split at hr
      · cases hr
      · next response hresponse =>
        split at hr
        · split at hr
          · cases hr
            exact h
          · split at hr
            · cases hr
            · next response' hset =>
              cases hr
              refine ⟨h.matching, fun m hm => ?_⟩
              cases hm
              have hsame := addNew_ok _ _ _ _ hset
              refine (h.response response hresponse).congr request response response' ?_ ?_ ?_
              · rw [hsame]
                rfl
              · rw [hsame]
                rfl
              · rw [hsame]
                rfl
        · split at hr
          · cases hr
          · split at hr
            · cases hr
              exact h
            · cases hr
              exact h

theorem apt_blocked (s s' : BlockLayer.State) (t t' : Transaction) (h : Apt request t)
    (hr : BlockLayer.sendResponse (s, t) = (.ok (), s', t')) : Apt request t' := by
  unfold BlockLayer.sendResponse at hr
  dsimp only at hr
  split at hr
  · cases hr
  · split at hr
    · cases hr
      exact h
    · split at hr
      · cases hr
      · next response hresponse =>
        split at hr
        · cases hr
        · next response' hblock =>
          cases hr
          refine ⟨h.matching, fun m hm => ?_⟩
          cases hm
          obtain ⟨hkept, _⟩ := Block2Answers.blockResponse_same _ _ _ _ _ hblock
          refine (h.response response hresponse).congr request response response' ?_ ?_ ?_
          · rw [hkept]
          · rw [hkept]
          · rw [hkept]

theorem setResponseType_fits (rng : Bytes) (t : Transaction) (response response' : Message)
    (completed : Bool) (ht : Matches request t.request) (h : Fits request response)
    (hr : MessageLayer.setResponseType rng t response = .ok (response', completed)) :
    response'.type = some .ACK → Matches request response' := by
  unfold MessageLayer.setResponseType at hr
  split at hr
  · cases hr
    exact h.acknowledged
  · next htype =>
    split_ifs at hr with hcon hnon
    · obtain ⟨r, hset, hr⟩ := (bind_eq_ok _ _ _).mp hr
      cases hr
      rw [MessageLayer.setMid_eq _ _ _ hset]
      exact fun _ => ⟨ht.1, h.blank htype⟩
    · cases hr
      intro hack
      cases hack
    · obtain ⟨r, hset, hr⟩ := (bind_eq_ok _ _ _).mp hr
      cases hr
      rw [MessageLayer.setToken_eq _ _ _ _ hset]
      intro hack
      cases hack

/-- An acknowledgement has its message id already. -/
theorem setResponseMid_matches (tid : ℕ) (response : Message) (s s' : MessageLayer.State)
    (hmid : request.mid ≠ none) (hcell : (s.heap.cell tid).response = some response)
    (h : response.type = some .ACK → Matches request response)
    (hr : MessageLayer.setResponseMid tid response s = (.ok (), s')) (m : Message)
    (hm : (s'.heap.cell tid).response = some m) : m.type = some .ACK → Matches request m := by
  unfold MessageLayer.setResponseMid at hr
  split at hr
  · cases hr
    rw [hcell] at hm
    cases hm
    exact h
  · next hnone =>
    dsimp only at hr
    split at hr
    · cases hr
    · next response' hset =>
      have hsame := MessageLayer.setMid_eq _ _ _ hset
      split at hr
      · cases hr
      · cases hr
        dsimp only at hm
        rw [MessageLayer.update_cell_self] at hm
        cases hm
        intro hack
        rw [hsame] at hack
        have hmatch := h hack
        exact absurd (hmatch.1.symm.trans hnone) hmid

theorem sendResponse_matches (rng : Bytes) (tid : ℕ) (s s' : MessageLayer.State)
    (sent : Option ℕ) (hmid : request.mid ≠ none) (h : Apt request (s.heap.cell tid))
    (hr : MessageLayer.sendResponse rng tid s = (.ok sent, s')) (m : Message)
    (hm : (s'.heap.cell tid).response = some m) : m.type = some .ACK → Matches request m := by
  unfold MessageLayer.sendResponse at hr
  split at hr
  · next hnone =>
    cases hr
    rw [MessageLayer.update_cell_self, hnone] at hm
    cases hm
  · next response hresponse =>
    split at hr
    · cases hr
    · next response' completed htype =>
      have hack := setResponseType_fits request rng _ _ _ _ h.matching (h.response _ hresponse) htype
      dsimp only at hr
      split at hr
      · cases hr
      · next u hsend =>
        cases hr
        rw [MessageLayer.update_cell_self] at hm
        exact setResponseMid_matches request tid response' _ u hmid
          (by rw [MessageLayer.update_cell_self]) hack hsend m hm

end Layers

section Notifications
variable (rid : ℕ)

theorem notifyItem_none (k : Key) (item : ObserveLayer.ObserveItem)
    (state state' : Relations × Heap)
    (h : ObserveLayer.notifyItem rid k item state = (.ok none, state')) : state' = state := by
  obtain ⟨relations, heap⟩ := state
  unfold ObserveLayer.notifyItem at h
  dsimp only at h
  split at h
  · cases h
  · split at h
    · split at h
      · cases h
      · split at h
        · cases h
        · cases h
    · cases h
      rfl

theorem notifyKeys_nil (ks : List Key) (state state' : Relations × Heap)
    (h : ObserveLayer.notifyKeys rid ks state = (.ok [], state')) : state' = state := by
  induction ks generalizing state with
  | nil =>
    cases h
    rfl
  | cons k ks ih =>
    obtain ⟨relations, heap⟩ := state
    unfold ObserveLayer.notifyKeys at h
    dsimp only at h
    split at h
    · cases h
    · next item hitem =>
      rw [Action.bind_apply] at h
      generalize hfirst : ObserveLayer.notifyItem rid k item (relations, heap) = r at h
      obtain ⟨result, u⟩ := r
      cases result with
      | error e => cases h
      | ok first =>
        dsimp only at h
        rw [Action.bind_apply] at h
        generalize hrest : ObserveLayer.notifyKeys rid ks u = r at h
        obtain ⟨result, v⟩ := r
        cases result with
        | error e => cases h
        | ok rest =>
          cases first with
          | some i => cases h
          | none =>
            cases h
            have hu := notifyItem_none rid k item _ u hfirst
            rw [← hu]
            exact ih u hrest

end Notifications

section Reception
variable (request : Message) (tid : ℕ) (s₀ : Server.State ω)

/-- Nothing has been sent since `s₀`. -/
def Silent (s : Server.State ω) : Prop := s.sent = s₀.sent ∧ s.received = s₀.received

/-- What has been sent since `s₀` matches the request, if it is an acknowledgement. -/
def Good (s : Server.State ω) : Prop :=
  ∃ new : List Datagram, s.sent = s₀.sent ++ new.map (Prod.mk s₀.received) ∧
    ∀ d ∈ new, Acknowledges d.message → Matches request d.message

structure Sound (s : Server.State ω) : Prop where
  silent : Silent s₀ s
  apt : Apt request (s.transaction tid)

theorem good_of_silent (s : Server.State ω) (h : Silent s₀ s) : Good request s₀ s := by
  refine ⟨[], ?_, fun d hd => absurd hd List.not_mem_nil⟩
  rw [h.1, List.map_nil, List.append_nil]

theorem good_sends (s : Server.State ω) (d : Datagram) (h : Silent s₀ s)
    (hd : Acknowledges d.message → Matches request d.message) :
    Good request s₀ (sendDatagram d s).2 := by
  refine ⟨[d], ?_, fun d' hd' => ?_⟩
  · change s.sent ++ [(s.received, d)] = _
    rw [h.1, h.2]
    rfl
  · rw [List.mem_singleton] at hd'
    rw [hd']
    exact hd

abbrev Keeping {α : Type} (x : Action Stop (Server.State ω) α) : Prop :=
  Triple (Sound request tid s₀) x (fun _ => Sound request tid s₀) (Good request s₀)

theorem keeping_onObserve {α : Type} (x : Action PyErr (Relations × Transaction) α)
    (hx : ∀ o t a o' t', Apt request t → x (o, t) = (.ok a, o', t') → Apt request t') :
    Keeping request tid s₀ (onObserve tid x) := by
  refine triple_zoom _ _ _ x fun s hs => ⟨?_, ?_⟩
  · rintro _ rfl a ⟨o', t'⟩ hr
    refine ⟨hs.silent, ?_⟩
    rw [transaction_setTransaction]
    exact hx _ _ a o' t' hs.apt hr
  · rintro _ rfl e ⟨o', t'⟩ _
    exact good_of_silent request s₀ _ hs.silent

theorem keeping_onBlock {α : Type} (x : Action PyErr (BlockLayer.State × Transaction) α)
    (hx : ∀ b t a b' t', Apt request t → x (b, t) = (.ok a, b', t') → Apt request t') :
    Keeping request tid s₀ (onBlock tid x) := by
  refine triple_zoom _ _ _ x fun s hs => ⟨?_, ?_⟩
  · rintro _ rfl a ⟨b', t'⟩ hr
    refine ⟨hs.silent, ?_⟩
    rw [transaction_setTransaction]
    exact hx _ _ a b' t' hs.apt hr
  · rintro _ rfl e ⟨b', t'⟩ _
    exact good_of_silent request s₀ _ hs.silent

theorem keeping_notify (rid : ℕ) : Keeping request tid s₀ (Server.notify rid) := by
  have hheap : Triple (Sound request tid s₀) (onHeap (ObserveLayer.notify rid))
      (fun observers s => Silent s₀ s ∧ (observers = [] → Sound request tid s₀ s))
      (Good request s₀) := by
    refine triple_zoom _ _ _ _ fun s hs => ⟨?_, ?_⟩
    · rintro _ rfl observers state hr
      refine ⟨hs.silent, ?_⟩
      rintro rfl
      rw [notifyKeys_nil rid _ _ state hr]
      exact hs
    · rintro _ rfl e state _
      exact good_of_silent request s₀ _ hs.silent
  refine triple_bind _ _ hheap fun observers => ?_
  cases observers with
  | nil => exact triple_pure () fun s hs => hs.2 rfl
  | cons first rest => exact triple_raise _ fun s hs => good_of_silent request s₀ s hs.1

theorem keeping_updateResource (rid : ℕ) (f : Resource → Resource) :
    Keeping request tid s₀ (Server.updateResource rid f) :=
  triple_modify _ fun _ hs => ⟨hs.silent, hs.apt⟩

theorem keeping_notifyMarked (resource : Option ℕ) :
    Keeping request tid s₀ (notifyMarked resource) := by
  refine triple_notifyMarked resource (fun rid => ?_) (keeping_updateResource request tid s₀)
  exact (keeping_notify request tid s₀ rid).conseq (fun _ h => h.1) (fun _ _ h => h) fun _ h => h

variable (handlers : Handlers ω) (rng : Bytes) (now : ℚ) (hmid : request.mid ≠ none)
include hmid

theorem send_good (f : Transaction → Action Stop (Server.State ω) Unit)
    (hf : ∀ t, Triple
      (fun s => Silent s₀ s ∧
        ∀ m, t.response = some m → m.type = some .ACK → Matches request m)
      (f t) (fun _ => Good request s₀) (Good request s₀)) :
    Triple (Sound request tid s₀)
      (Server.sendResponse handlers rng tid >>= fun _ => getTransaction tid >>= f)
      (fun _ => Good request s₀) (Good request s₀) := by
  have hmessage : Triple (Sound request tid s₀) (onMessage (MessageLayer.sendResponse rng tid))
      (fun _ s => Silent s₀ s ∧ ∀ m, (s.transaction tid).response = some m →
        m.type = some .ACK → Matches request m) (Good request s₀) := by
    refine triple_zoom _ _ _ _ fun s hs => ⟨?_, ?_⟩
    · rintro _ rfl sent state hr
      exact ⟨hs.silent, fun m hm =>
        sendResponse_matches request rng tid _ state sent hmid hs.apt hr m hm⟩
    · rintro _ rfl e state _
      exact good_of_silent request s₀ _ hs.silent
  have hlog : Triple (fun s => Silent s₀ s ∧ ∀ m, (s.transaction tid).response = some m →
      m.type = some .ACK → Matches request m) (logResponse handlers.platform tid)
      (fun _ s => Silent s₀ s ∧ ∀ m, (s.transaction tid).response = some m →
        m.type = some .ACK → Matches request m) (Good request s₀) := by
    refine triple_logResponse handlers.platform tid (fun _ hs => hs) fun s response hs hr => ?_
    refine ⟨⟨hs.1, fun m hm => ?_⟩, good_of_silent request s₀ _ hs.1⟩
    rw [transaction_setTransaction] at hm
    cases hm
    exact hs.2 response hr
  refine triple_bind _ _ (triple_bind _ _ hmessage fun _ => hlog) fun _ => ?_
  refine triple_bind _ _ (triple_getTransaction tid) fun t => ?_
  refine (hf t).conseq (fun s hs => ?_) (fun _ _ h => h) fun _ h => h
  obtain ⟨rfl, hsilent, hmatch⟩ := hs
  exact ⟨hsilent, hmatch⟩

theorem reply_good : Triple (Sound request tid s₀) (reply handlers rng now tid)
    (fun _ => Good request s₀) (Good request s₀) := by
  refine triple_bind _ _ (triple_getTransaction tid) fun t => ?_
  refine triple_bind _ _ ((keeping_notifyMarked request tid s₀ _).conseq (fun _ h => h.2)
    (fun _ _ h => h) fun _ h => h) fun _ => ?_
  refine triple_bind _ _ triple_get fun s => ?_
  refine triple_bind _ _ ((keeping_onObserve request tid s₀ _ fun o t a o' t' ht hr =>
    apt_observed request now tid _ o o' t t' ht hr).conseq (fun _ h => h.2) (fun _ _ h => h)
    fun _ h => h) fun _ => ?_
  refine triple_bind _ _ (keeping_onBlock request tid s₀ _ fun b t a b' t' ht hr =>
    apt_blocked request b b' t t' ht hr) fun _ => ?_
  refine send_good request tid s₀ handlers rng hmid _ fun t => ?_
  cases hresponse : t.response with
  | none => exact triple_pure () fun s hs => good_of_silent request s₀ s hs.1
  | some response =>
    refine triple_modify _ fun s hs => ?_
    exact good_sends request s₀ s _ hs.1 fun hack => hs.2 response rfl hack.1

end Reception

/-- The block layer has seen the request. -/
structure Ready (request : Message) (tid : ℕ) (s₀ s : Server.State ω) : Prop where
  silent : Silent s₀ s
  matching : Matches request (s.transaction tid).request
  response : (s.transaction tid).blockTransfer = true ∨ (s.transaction tid).resource ≠ none →
    ∀ m, (s.transaction tid).response = some m → Fits request m

section Process
variable (handlers : Handlers ω) (plain : Plain handlers) (request : Message) (tid : ℕ)
  (s₀ : Server.State ω) (rng : Bytes) (now : ℚ) (hmid : request.mid ≠ none)
  (htoken : request.token ≠ none)
include plain hmid htoken

omit hmid in
theorem onScene_sound :
    Triple (fun s : Server.State ω => Silent s₀ s ∧ Matches request (s.transaction tid).request)
      (onScene tid (RequestLayer.receiveRequest handlers rng)) (fun _ => Sound request tid s₀)
      (Good request s₀) := by
  refine triple_zoom _ _ _ _ fun s hs => ⟨?_, ?_⟩
  · rintro _ rfl a scene hr
    have hprepared := (receiveRequest_prepared handlers rng request.token plain htoken).returns
      ⟨s.app, [], s.transaction tid⟩ hs.2.2 a scene hr
    obtain ⟨resource, response, hkeeps⟩ := keeps_receiveRequest handlers rng
      ⟨s.app, [], s.transaction tid⟩
    rw [hr] at hkeeps
    have hrequest : scene.transaction.request = (s.transaction tid).request :=
      (congrArg Transaction.request hkeeps).trans rfl
    refine ⟨hs.1, ?_⟩
    rw [transaction_setTransaction]
    refine ⟨by rw [hrequest]; exact hs.2, fun m hm => ?_⟩
    obtain ⟨htype, hsame⟩ := hprepared.response m hm
    refine ⟨fun _ => hsame, fun hack => ?_⟩
    rw [htype] at hack
    cases hack
  · rintro _ rfl e scene _
    exact good_of_silent request s₀ _ hs.1

theorem answer_good :
    Triple (Ready request tid s₀) (answer handlers rng now tid) (fun _ => Good request s₀)
      (Good request s₀) := by
  refine triple_bind _ _ (triple_getTransaction tid) fun t => ?_
  have hrelations : Triple (fun s => t = s.transaction tid ∧ Ready request tid s₀ s)
      (onRelations (ObserveLayer.receiveRequest now tid t.request))
      (fun _ s => t = s.transaction tid ∧ Ready request tid s₀ s) (Good request s₀) := by
    refine triple_zoom _ _ _ _ fun s hs => ⟨fun _ _ a o _ => ?_, fun _ _ e o _ => ?_⟩
    · exact ⟨hs.1, hs.2.silent, hs.2.matching, hs.2.response⟩
    · exact good_of_silent request s₀ _ hs.2.silent
  refine triple_bind _ _ hrelations fun _ => ?_
  split
  · refine triple_bind _ _ ?_ fun _ => reply_good request tid s₀ handlers rng now hmid
    exact (onScene_sound handlers plain request tid s₀ rng htoken).conseq
      (fun s hs => ⟨hs.2.silent, hs.2.matching⟩) (fun _ _ h => h) fun _ h => h
  · next hresource =>
    refine (reply_good request tid s₀ handlers rng now hmid).conseq (fun s hs => ?_) (fun _ _ h => h)
      fun _ h => h
    obtain ⟨rfl, hready⟩ := hs
    exact ⟨hready.silent, hready.matching, hready.response (Or.inr hresource)⟩

/-- A response that is at hand when the block layer has seen the request fits it. -/
def AtHand (s : BlockLayer.State) (t : Transaction) : Prop :=
  ∀ s' t', BlockLayer.receiveRequest rng (s, t) = (.ok (), s', t') →
    t'.blockTransfer = true ∨ t'.resource ≠ none → ∀ m, t'.response = some m → Fits request m

theorem process_triple (hrequest : Matches request (s₀.transaction tid).request)
    (hhand : AtHand request rng s₀.block (s₀.transaction tid)) :
    Triple (fun s => s = s₀) (process handlers rng now tid) (fun _ => Good request s₀)
      (Good request s₀) := by
  have hblock : Triple (fun s => s = s₀) (onBlock tid (BlockLayer.receiveRequest rng))
      (fun _ => Ready request tid s₀) (Good request s₀) := by
    refine triple_zoom _ _ _ _ fun s hs => ?_
    subst hs
    refine ⟨?_, ?_⟩
    · rintro _ rfl a ⟨b, t⟩ hr
      have hpasses := passes_receiveRequest rng s.block (s.transaction tid)
      rw [hr] at hpasses
      obtain ⟨options, payload, hkept⟩ := hpasses.request
      refine ⟨⟨rfl, rfl⟩, ?_, ?_⟩
      · rw [transaction_setTransaction, hkept]
        exact hrequest
      · rw [transaction_setTransaction]
        exact hhand b t hr
    · rintro _ rfl e ⟨b, t⟩ _
      exact good_of_silent request s _ ⟨rfl, rfl⟩
  refine triple_bind _ _ hblock fun _ => ?_
  refine triple_bind _ _ (triple_getTransaction tid) fun t => ?_
  split
  · next htransfer =>
    refine Triple.conseq (P := Sound request tid s₀) ?_ (fun s hs => ?_) (fun _ _ h => h)
      fun _ h => h
    · refine send_good request tid s₀ handlers rng hmid _ fun t => ?_
      cases hresponse : t.response with
      | none => exact triple_raise _ fun s hs => good_of_silent request s₀ s hs.1
      | some response =>
        refine triple_modify _ fun s hs => ?_
        exact good_sends request s₀ s _ hs.1 fun hack => hs.2 response rfl hack.1
    · obtain ⟨rfl, hready⟩ := hs
      exact ⟨hready.silent, hready.matching, hready.response (Or.inl htransfer)⟩
  · exact (answer_good handlers plain request tid s₀ rng now hmid htoken).conseq
      (fun s hs => hs.2) (fun _ _ h => h) fun _ h => h

theorem process_good (hrequest : Matches request (s₀.transaction tid).request)
    (hhand : AtHand request rng s₀.block (s₀.transaction tid)) :
    Good request s₀ (process handlers rng now tid s₀).2 := by
  exact (process_triple handlers plain request tid s₀ rng now hmid htoken hrequest hhand).ends s₀ rfl
    (fun _ _ h => h) fun _ h => h

end Process

section First
variable (rng : Bytes)

/-- The request belongs to an upload in blocks. -/
def GoesOn (request : Message) : Prop :=
  request.block2 = .ok none ∧ ∃ block, request.block1 = .ok (some block)

/-- The block is the one the entry waits for, or the first where there is no entry. -/
def Due (num : ℕ) (contentType : Value) : Option BlockLayer.BlockItem → Prop
  | none => num = 0
  | some item => num = item.num ∧ contentType = item.contentType

/-- The request does not complete an upload: more blocks follow, or another block is due. -/
def Interim (request : Message) (address : Address) (s : BlockLayer.State) : Prop :=
  request.block2 = .ok none ∧ ∃ num m size, request.block1 = .ok (some (num, m, size)) ∧
    (m = 0 → ¬ Due num request.contentType
      (s.block1Receive.get? (key address (tokenArg request.token))))

/-- The response is a new one to the request. -/
def Renewed (t t' : Transaction) : Prop :=
  ∃ m, t'.response = some m ∧ m.type = none ∧ m.token = t.request.token

variable (s s' : BlockLayer.State) (t t' : Transaction) (htoken : t.request.token ≠ none)
include htoken

theorem renewed_incomplete (h : BlockLayer.incomplete rng (s, t) = (.ok (), s', t')) :
    Renewed t t' := by
  unfold BlockLayer.incomplete at h
  dsimp only at h
  split at h
  · cases h
  · next response hinit =>
    cases h
    obtain ⟨htype, hsame⟩ := initFromRequest_blank rng t.request response htoken hinit
    exact ⟨_, rfl, htype, hsame⟩

theorem answered_acceptBlock1 (k : Key) (num m size : ℕ) (item : BlockLayer.BlockItem)
    (h : BlockLayer.acceptBlock1 rng k num m size item (s, t) = (.ok (), s', t')) :
    Renewed t t' ∨ m = 0 ∧ t'.response = t.response ∧ t'.blockTransfer = false := by
  unfold BlockLayer.acceptBlock1 at h
  dsimp only at h
  split at h
  · next hlast =>
    cases h
    exact Or.inr ⟨hlast, rfl, rfl⟩
  · split at h
    · cases h
    · next response hinit =>
      split at h
      · cases h
      · next response' hset =>
        cases h
        obtain ⟨htype, hsame⟩ := initFromRequest_blank rng t.request response htoken hinit
        refine Or.inl ⟨response', rfl, ?_, ?_⟩
        · rw [addNew_ok _ _ _ _ hset]
          exact htype
        · rw [addNew_ok _ _ _ _ hset]
          exact hsame

theorem answered_receiveBlock1Request (k : Key) (num m size : ℕ)
    (h : BlockLayer.receiveBlock1Request rng k num m size (s, t) = (.ok (), s', t')) :
    Renewed t t' ∨ (m = 0 ∧ Due num t.request.contentType (s.block1Receive.get? k)) ∧
      t'.response = t.response ∧ t'.blockTransfer = false := by
  unfold BlockLayer.receiveBlock1Request at h
  dsimp only at h
  split at h
  · next item hitem =>
    split at h
    · exact Or.inl (renewed_incomplete rng s s' t t' htoken h)
    · next hdue =>
      split at h
      · cases h
      · rcases answered_acceptBlock1 rng s s' t t' htoken _ _ _ _ _ h with hnew | ⟨hm, hsame⟩
        · exact Or.inl hnew
        · rw [hitem]
          exact Or.inr ⟨⟨hm, not_or.mp hdue |>.imp not_not.mp not_not.mp⟩, hsame⟩
  · next hitem =>
    split at h
    · exact Or.inl (renewed_incomplete rng s s' t t' htoken h)
    · next hdue =>
      rcases answered_acceptBlock1 rng s s' t t' htoken _ _ _ _ _ h with hnew | ⟨hm, hsame⟩
      · exact Or.inl hnew
      · rw [hitem]
        exact Or.inr ⟨⟨hm, not_not.mp hdue⟩, hsame⟩

/-- The response the block layer leaves is a new one, or the one that was there; that, where the
request completes an upload or belongs to none. -/
theorem answered_receiveRequest (address : Address) (hsource : t.request.source = some address)
    (h : BlockLayer.receiveRequest rng (s, t) = (.ok (), s', t')) :
    Renewed t t' ∨ t'.response = t.response ∧ ¬ Interim t.request address s ∧
      (t'.blockTransfer = true → t.blockTransfer = true ∧ ¬ GoesOn t.request) := by
  unfold BlockLayer.receiveRequest at h
  dsimp only at h
  split at h
  · cases h
  · next hblock2 =>
    have hother : t.request.block2 ≠ .ok none := by
      rw [hblock2]
      intro h
      cases h
    rw [hsource] at h
    unfold BlockLayer.receiveBlock2Request at h
    dsimp only at h
    split at h
    · cases h
      exact Or.inr ⟨rfl, fun hinterim => hother hinterim.1,
        fun htransfer => ⟨htransfer, fun hgoes => hother hgoes.1⟩⟩
    · cases h
      exact Or.inr ⟨rfl, fun hinterim => hother hinterim.1,
        fun htransfer => ⟨htransfer, fun hgoes => hother hgoes.1⟩⟩
  · split at h
    · cases h
    · next hblock1 =>
      cases h
      refine Or.inr ⟨rfl, ?_, fun htransfer => ⟨htransfer, ?_⟩⟩
      · rintro ⟨_, num, m, size, hsome, _⟩
        cases hblock1.symm.trans hsome
      · rintro ⟨_, block, hsome⟩
        cases hblock1.symm.trans hsome
    · next num m size hblock1 =>
      rw [hsource] at h
      rcases answered_receiveBlock1Request rng s s' t t' htoken _ _ _ _ h with
        hnew | ⟨⟨hm, hdue⟩, hsame, htransfer⟩
      · exact Or.inl hnew
      · refine Or.inr ⟨hsame, ?_, fun hset => ?_⟩
        · rintro ⟨_, num', m', size', hsome, hnot⟩
          cases hblock1.symm.trans hsome
          exact hnot hm hdue
        · rw [htransfer] at hset
          cases hset

end First

section Datagrams
variable (handlers : Handlers ω) (rng : Bytes) (now : ℚ) (request : Message) (address : Address)

/-- A request as the deserializer leaves it. -/
structure Wired : Prop where
  source : request.source = some address
  id : request.mid ≠ none
  token : request.token ≠ none
  duplicated : request.duplicated = false

/-- The transaction in which a request is processed that is no duplicate. -/
def takenOver (s : Server.State ω) : Transaction :=
  match MessageLayer.answered request address s.message with
  | some tid => { s.transaction tid with request := stamped now request }
  | none => Transaction.new (stamped now request) now

/-- What a response that is there leaves to a request of its transaction: it is no acknowledgement,
and a new one only under the token of the request. -/
structure Open (request m : Message) : Prop where
  type : m.type ≠ some .ACK
  token : m.type = none → m.token = request.token

/-- The response of an earlier request under the token is not used again: the block layer answers
the request itself; or the transaction has no resource and is in no transfer, at least not after
the request; or it has no response, or one that is no acknowledgement. -/
def Unbound (s : Server.State ω) : Prop :=
  ∀ tid, MessageLayer.answered request address s.message = some tid →
    Interim request address s.block ∨
    ((s.transaction tid).resource = none ∧
      ((s.transaction tid).blockTransfer = true → GoesOn request)) ∨
    ∀ m, (s.transaction tid).response = some m → Open request m

variable (s : Server.State ω)

theorem sendAck_good (tid : ℕ) : Good request s (sendAck tid s).2 := by
  have hack : Triple (fun s' => Silent s s') (do
      let ack ← onMessage
        (MessageLayer.sendAckOfRequest tid { Message.new .message with type := some .ACK })
      if ack.type ≠ none ∧ ack.mid ≠ none then sendDatagram ⟨ack, false⟩)
      (fun _ => Good request s) (Good request s) := by
    have hmessage : Triple (fun s' => Silent s s')
        (onMessage
          (MessageLayer.sendAckOfRequest tid { Message.new .message with type := some .ACK }))
        (fun ack s' => ack.code = some Codes.empty ∧ Silent s s') (Good request s) := by
      refine triple_zoom _ _ _ _ fun s' hs => ⟨?_, ?_⟩
      · rintro _ rfl ack m hr
        refine ⟨?_, hs⟩
        unfold MessageLayer.sendAckOfRequest at hr
        rw [Action.bind_ok _ (Action.modify_apply _ _), Action.bind_get, Action.bind_apply,
          Action.ofExcept_apply] at hr
        split at hr
        · next message u _ =>
          rw [Action.bind_apply, Action.ofExcept_apply] at hr
          cases hr
          rfl
        · cases hr
      · rintro _ rfl e m _
        exact good_of_silent request s _ hs
    refine triple_bind _ _ hmessage fun ack => ?_
    split
    · refine triple_modify _ fun s' hs => ?_
      exact good_sends request s s' _ hs.2 fun hacknowledges => absurd hs.1 hacknowledges.2
    · exact triple_pure () fun s' hs => good_of_silent request s s' hs.2
  unfold sendAck
  split
  · exact good_of_silent request s s ⟨rfl, rfl⟩
  · dsimp only
    split
    · exact hack.ends s ⟨rfl, rfl⟩ (fun _ _ h => h) fun _ h => h
    · exact good_of_silent request s s ⟨rfl, rfl⟩

theorem duplicate_good (tid : ℕ) (hwired : Wired request address)
    (hduplicate : MessageLayer.duplicateOf request address s.message = some tid)
    (hresend : (s.transaction tid).completed = true → ∀ m, (s.transaction tid).response = some m →
      Acknowledges m → Matches request m) :
    Good request s (datagramReceivedRequest handlers rng now request s).2 := by
  let m : MessageLayer.State := s.message.update tid MessageLayer.markDuplicated
  have hdispatch := CoapUdpProtocol.datagramReceivedRequest_duplicate now request address tid
    s.message hwired.source hduplicate
  have hcell : m.heap.cell tid = MessageLayer.markDuplicated (s.transaction tid) :=
    MessageLayer.update_cell_self s.message tid MessageLayer.markDuplicated
  unfold Server.datagramReceivedRequest
  split
  · exact good_of_silent request s s ⟨rfl, rfl⟩
  · rw [Action.bind_ok _ (onMessage_ok s _ _ m hdispatch)]
    unfold CoapUdpProtocol.dispatch
    dsimp only
    rw [hcell]
    unfold MessageLayer.markDuplicated
    dsimp only
    cases hcompleted : (s.transaction tid).completed with
    | true =>
      rw [if_pos ⟨rfl, rfl⟩]
      cases hresponse : (s.transaction tid).response with
      | none => exact good_of_silent request s _ ⟨rfl, rfl⟩
      | some response =>
        refine good_sends request s _ _ ⟨rfl, rfl⟩ fun hack => ?_
        exact hresend hcompleted response hresponse hack
    | false =>
      rw [if_neg (by simp), if_pos (by simp)]
      exact sendAck_good request { s with message := m } tid

theorem fresh_ends (R : Server.State ω → Prop) (hsource : request.source = some address)
    (hduplicated : request.duplicated = false)
    (hfresh : MessageLayer.duplicateOf request address s.message = none) (hwaits : R s)
    (hlock : ∀ u held, R u → R { u with held := held })
    (hprocess : ∀ m' : MessageLayer.State,
      m'.heap.cell (nextTransaction request address s) = takenOver now request address s →
      R (process handlers rng now (nextTransaction request address s)
        { s with message := m' }).2) :
    R (datagramReceivedRequest handlers rng now request s).2 := by
  by_cases hfree : nextTransaction request address s ∈ s.held
  · have hwaiting : waits request s = true := by
      unfold waits
      rw [hsource]
      exact decide_eq_true ⟨hfresh, hfree⟩
    unfold Server.datagramReceivedRequest
    rw [if_pos hwaiting]
    exact hwaits
  · obtain ⟨m', hreceive, hrequest, _, _, htaken, hnew⟩ :=
      receiveRequest_takes now request address s.message hsource hfresh
    have hcell : m'.heap.cell (nextTransaction request address s) =
        takenOver now request address s := by
      unfold takenOver nextTransaction
      cases h : MessageLayer.answered request address s.message with
      | none => exact hnew h
      | some tid => exact htaken tid h
    have hprocessed := hprocess m' hcell
    have hheld : nextTransaction request address s ∉
        ({ s with message := m' } : Server.State ω).held := hfree
    rw [datagramReceivedRequest_fresh handlers rng now request address s m' hsource hduplicated hfree
      hreceive hrequest]
    unfold Server.receiveRequest
    rw [if_neg hheld]
    generalize process handlers rng now (nextTransaction request address s)
      { s with message := m' } = r at hprocessed
    obtain ⟨(_ | _ | _) | _, u⟩ := r
    · exact hprocessed
    · exact hprocessed
    · exact hlock u _ hprocessed
    · exact hprocessed

theorem takenOver_request :
    (takenOver now request address s).request = stamped now request := by
  unfold takenOver
  cases MessageLayer.answered request address s.message with
  | none => rfl
  | some tid => rfl

theorem atHand_of_unbound (hwired : Wired request address)
    (hunbound : Unbound request address s) :
    AtHand request rng s.block (takenOver now request address s) := by
  intro s' t' hr hused m hm
  have hrequest := takenOver_request now request address s
  have hpasses := passes_receiveRequest rng s.block (takenOver now request address s)
  rw [hr] at hpasses
  have htoken : (takenOver now request address s).request.token ≠ none := by
    rw [hrequest]
    exact hwired.token
  have hsource : (takenOver now request address s).request.source = some address := by
    rw [hrequest]
    exact hwired.source
  rcases answered_receiveRequest rng s.block s' _ t' htoken address hsource hr with
    ⟨m', hm', htype, hsame⟩ | ⟨hsame, hinterim, htransfer⟩
  · cases hm'.symm.trans hm
    rw [hrequest] at hsame
    exact ⟨fun _ => hsame, fun hack => by rw [htype] at hack; cases hack⟩
  · rw [hsame] at hm
    rw [hrequest] at hinterim htransfer
    rw [hpasses.resource] at hused
    cases hanswered : MessageLayer.answered request address s.message with
    | none =>
      unfold takenOver at hm
      rw [hanswered] at hm
      cases hm
    | some tid =>
      unfold takenOver at hm htransfer hused
      rw [hanswered] at hm htransfer hused
      rcases hunbound tid hanswered with hdoes | ⟨hresource, hgoes⟩ | hopen
      · exact absurd hdoes hinterim
      · rcases hused with hset | hset
        · obtain ⟨hold, hnot⟩ := htransfer hset
          exact absurd (hgoes hold) hnot
        · exact absurd hresource hset
      · obtain ⟨htype, htoken⟩ := hopen m hm
        exact ⟨htoken, fun hack => absurd hack htype⟩

theorem fresh_good (plain : Plain handlers) (hwired : Wired request address)
    (hfresh : MessageLayer.duplicateOf request address s.message = none)
    (hunbound : Unbound request address s) :
    Good request s (datagramReceivedRequest handlers rng now request s).2 := by
  refine fresh_ends handlers rng now request address s (Good request s) hwired.source
    hwired.duplicated hfresh (good_of_silent request s s ⟨rfl, rfl⟩) (fun _ _ h => h)
    fun m' hcell => ?_
  let s' : Server.State ω := { s with message := m' }
  have hcell' : s'.transaction (nextTransaction request address s) =
      takenOver now request address s := hcell
  refine process_good handlers plain request (nextTransaction request address s) s' rng now
    hwired.id hwired.token ?_ ?_
  · rw [hcell', takenOver_request]
    exact ⟨rfl, rfl⟩
  · rw [hcell']
    exact atHand_of_unbound rng now request address s hwired hunbound

end Datagrams

theorem sampleHandlers_plain : Plain sampleHandlers where
  edit _ _ _ _ _ _ h := h
  returned := by
    intro handler rid request response app h
    refine ⟨fun rid' m hm => ?_, fun delete m hm => ?_⟩
    · obtain ⟨_, hresponse⟩ := Outcome.pair.inj hm
      obtain ⟨m', hm', rfl⟩ := Option.map_eq_some_iff.mp hresponse
      exact h m' hm'
    · cases hm

/-- Every handler answers with a representation of 40 bytes. -/
def largeHandlers : Handlers Unit where
  platform := Rendering.plainPlatform
  isAsync _ _ := true
  render _ rid _ response app :=
    ⟨.pair rid (response.map fun m => m.setPayload (some (.bytes (List.replicate 40 7)))), id, app⟩

/-- The request for a block of 32 bytes of `/a`. -/
def sampleAsk (num : ℕ) (mid : ℤ) : Message := withBlock2 (sampleGet 'a' [7] mid) num 0 32

def sampleDownload : List (Timed Unit) :=
  [(0, .receive [] (sampleAsk 0 1)), (1, .receive [] (sampleAsk 1 2))]

instance (m : Message) : Decidable (Acknowledges m) :=
  inferInstanceAs (Decidable (_ ∧ _))

end BubotCoap.Piggyback
