import BubotCoap.Block2Answers
import BubotCoap.MessageTables
import BubotCoap.ObserveLayer
import BubotCoap.ResponseKeeping

set_option autoImplicit false

namespace BubotCoap.ServedTransactions
open PythonData Defines Utils Messages OrderedDict Transactions MessageLayer MessageTables
  ResponseKeeping FallibleState

/-- A request that differs in nothing by which it is stored or answered. -/
structure Same (q q' : Message) : Prop where
  source : q'.source = q.source
  token : q'.token = q.token
  multicast : q'.multicast = q.multicast
  mid : q'.mid = q.mid

theorem Same.refl (q : Message) : Same q q := ⟨rfl, rfl, rfl, rfl⟩

theorem Same.trans (q q' q'' : Message) (h : Same q q') (h' : Same q' q'') : Same q q'' :=
  ⟨h'.source.trans h.source, h'.token.trans h.token, h'.multicast.trans h.multicast,
    h'.mid.trans h.mid⟩

/-- The key of the request's transaction. -/
def storedUnder (request : Message) : Option Key := request.source.map (keyToken request)

theorem storedUnder_same (q q' : Message) (h : Same q q') : storedUnder q' = storedUnder q := by
  unfold storedUnder keyToken
  rw [h.source, h.multicast, h.token]

theorem same_setAcknowledged (m : Message) (b : Bool) : Same m (m.setAcknowledged b) := by
  cases b <;> exact ⟨rfl, rfl, rfl, rfl⟩

theorem same_setRejected (m : Message) (b : Bool) : Same m (m.setRejected b) := by
  cases b <;> exact ⟨rfl, rfl, rfl, rfl⟩

/-- What a request has that was decoded from a datagram. -/
structure Decoded (request : Message) : Prop where
  token : request.token ≠ none
  mid : 0 ≤ request.mid.getD 0 ∧ request.mid.getD 0 < 65536

/-- The message goes to where one of the requests came from that share a transaction, with the token
of one of them or without any. -/
structure Returns (requests : List Message) (k : Option Key) (m : Message) : Prop where
  destination : ∃ r ∈ requests, storedUnder r = k ∧ m.destination = r.source
  token : m.token = none ∨ ∃ r ∈ requests, storedUnder r = k ∧ m.token = r.token
  mid : 0 ≤ m.mid.getD 0 ∧ m.mid.getD 0 < 65536
  code : Coded m

theorem Returns.mono (requests requests' : List Message) (k : Option Key) (m : Message)
    (h : Returns requests k m) (hsub : requests ⊆ requests') : Returns requests' k m := by
  refine ⟨?_, ?_, h.mid, h.code⟩
  · obtain ⟨r, hr, hrest⟩ := h.destination
    exact ⟨r, hsub hr, hrest⟩
  · rcases h.token with hnone | ⟨r, hr, hrest⟩
    · exact Or.inl hnone
    · exact Or.inr ⟨r, hsub hr, hrest⟩

theorem Returns.restated (requests : List Message) (k : Option Key) (m m' : Message)
    (h : Returns requests k m) (hm : Restated m m') : Returns requests k m' := by
  refine ⟨?_, ?_, ?_, ?_⟩
  · rw [hm.destination]
    exact h.destination
  · rw [hm.token]
    exact h.token
  · rw [hm.mid]
    exact h.mid
  · rcases hm.code with hsame | hcode
    · unfold Coded
      rw [hsame]
      exact h.code
    · exact Or.inr hcode

section Transactions
variable {requests : List Message} {k : Option Key}

/-- A transaction of one of the requests, under its key. -/
structure Served (requests : List Message) (k : Option Key) (t : Transaction) : Prop where
  request : ∃ r ∈ requests, Same r t.request
  key : storedUnder t.request = k
  response : ∀ m, t.response = some m → Returns requests k m

theorem Served.mono (requests' : List Message) (t : Transaction) (h : Served requests k t)
    (hsub : requests ⊆ requests') : Served requests' k t := by
  obtain ⟨r, hr, hsame⟩ := h.request
  exact ⟨⟨r, hsub hr, hsame⟩, h.key, fun m hm => (h.response m hm).mono _ _ _ _ hsub⟩

theorem Served.step (t t' : Transaction) (h : Served requests k t)
    (hsame : Same t.request t'.request)
    (hresponse : ∀ m, t'.response = some m → Returns requests k m) : Served requests k t' := by
  obtain ⟨r, hr, hrequest⟩ := h.request
  exact ⟨⟨r, hr, hrequest.trans _ _ _ hsame⟩, (storedUnder_same _ _ hsame).trans h.key, hresponse⟩

theorem Served.restated (t t' : Transaction) (h : Served requests k t)
    (hsame : Same t.request t'.request)
    (hresponse : ∀ m', t'.response = some m' → ∃ m, t.response = some m ∧ Restated m m') :
    Served requests k t' := by
  refine h.step t t' hsame fun m' hm' => ?_
  obtain ⟨m, hm, hrestated⟩ := hresponse m' hm'
  exact (h.response m hm).restated _ _ _ _ hrestated

theorem Served.kept (t t' : Transaction) (h : Served requests k t)
    (hsame : Same t.request t'.request) (hresponse : t'.response = t.response) :
    Served requests k t' :=
  h.restated t t' hsame fun m hm => ⟨m, hresponse ▸ hm, Restated.refl m⟩

theorem Served.decoded (t : Transaction) (h : Served requests k t)
    (hdecoded : ∀ r ∈ requests, Decoded r) : Decoded t.request := by
  obtain ⟨r, hr, hsame⟩ := h.request
  refine ⟨?_, ?_⟩
  · rw [hsame.token]
    exact (hdecoded r hr).token
  · rw [hsame.mid]
    exact (hdecoded r hr).mid

/-- What is known of a response to the transaction's request stays known of it. -/
theorem lasting_returns (t : Transaction) (h : Served requests k t) :
    Lasting t.request (Returns requests k) := by
  obtain ⟨r, hr, hsame⟩ := h.request
  have hkey : storedUnder r = k := (storedUnder_same r t.request hsame).symm.trans h.key
  refine ⟨fun m hm => ⟨⟨r, hr, hkey, ?_⟩, Or.inr ⟨r, hr, hkey, ?_⟩, ?_, hm.code⟩,
    fun m m' hm' hm => hm.restated _ _ m m' hm'⟩
  · rw [hm.destination, hsame.source]
  · rw [hm.token, hsame.token]
  · rw [hm.mid, Option.getD_none]
    omega

theorem Served.replied (rng : Bytes) (t t' : Transaction) (response m : Message)
    (h : Served requests k t) (hdecoded : ∀ r ∈ requests, Decoded r)
    (hinit : Message.initFromRequest rng t.request = .ok response)
    (hrestated : Restated response m) (hrequest : Same t.request t'.request)
    (hresponse : t'.response = some m) : Served requests k t' := by
  have hlasting := lasting_returns t h
  refine h.step t t' hrequest fun m' hm' => ?_
  rw [hresponse] at hm'
  cases hm'
  exact hlasting.restated response m hrestated
    (hlasting.replies response (initFromRequest_replies rng _ _ (h.decoded t hdecoded).token hinit))

end Transactions

section BlockLayer
open BlockLayer
variable {requests : List Message} (hdecoded : ∀ r ∈ requests, Decoded r)
  {k : Option Key}
  (rng : Bytes) (s : BlockLayer.State) (t : Transaction) (i : Key)
include hdecoded

theorem served_incomplete (h : Served requests k t) :
    Served requests k (incomplete rng (s, t)).2.2 := by
  unfold incomplete
  dsimp only
  split
  · exact h.kept t _ (Same.refl _) rfl
  · next response hinit =>
    exact h.replied rng t _ response _ hdecoded hinit
      (restated_code response Codes.requestEntityIncomplete (by decide)) (Same.refl _) rfl

theorem served_acceptBlock1 (num m size : ℕ) (item : BlockItem) (h : Served requests k t) :
    Served requests k (acceptBlock1 rng i num m size item (s, t)).2.2 := by
  unfold acceptBlock1
  dsimp only
  split
  · exact h.kept t _ ⟨rfl, rfl, rfl, rfl⟩ rfl
  · split
    · exact h.kept t _ (Same.refl _) rfl
    · next response hinit =>
      have hcoded := restated_code response Codes.continueCode (by decide)
      split
      · exact h.replied rng t _ response _ hdecoded hinit hcoded (Same.refl _) rfl
      · next response' hset =>
        exact h.replied rng t _ response _ hdecoded hinit
          (hcoded.trans _ _ _ (restated_addNew _ _ _ _ hset)) (Same.refl _) rfl

theorem served_receiveBlock1Request (num m size : ℕ) (h : Served requests k t) :
    Served requests k (receiveBlock1Request rng i num m size (s, t)).2.2 := by
  unfold receiveBlock1Request
  dsimp only
  split
  · split
    · exact served_incomplete hdecoded rng s t h
    · split
      · exact h
      · exact served_acceptBlock1 hdecoded rng s t i num m size _ h
  · split
    · exact served_incomplete hdecoded rng s t h
    · exact served_acceptBlock1 hdecoded rng s t i num m size _ h

theorem served_receiveBlock (h : Served requests k t) :
    Served requests k (BlockLayer.receiveRequest rng (s, t)).2.2 := by
  unfold BlockLayer.receiveRequest
  dsimp only
  split
  · exact h
  · split
    · exact h
    · unfold receiveBlock2Request
      dsimp only
      split <;> exact h.kept t _ ⟨rfl, rfl, rfl, rfl⟩ rfl
  · split
    · exact h
    · exact h
    · split
      · exact h
      · exact served_receiveBlock1Request hdecoded rng s t _ _ _ _ h

omit hdecoded in
theorem served_sendBlock (h : Served requests k t) :
    Served requests k (BlockLayer.sendResponse (s, t)).2.2 := by
  unfold BlockLayer.sendResponse
  dsimp only
  split
  · exact h
  · split
    · exact h
    · split
      · exact h
      · next response hresponse =>
        split
        · exact h
        · next response' hblock =>
          refine h.restated t _ (Same.refl _) fun m hm => ⟨response, hresponse, ?_⟩
          cases hm
          rw [(Block2Answers.blockResponse_same _ _ _ _ _ hblock).1]
          exact ⟨rfl, rfl, rfl, Or.inl rfl⟩

end BlockLayer

section ObserveLayer
variable {requests : List Message} {k : Option Key} (relations : ObserveLayer.Relations)

theorem served_observe (now : ℚ) (tid : ℕ) (counter : Option ℕ) (t : Transaction)
    (h : Served requests k t) :
    Served requests k (ObserveLayer.sendResponse now tid counter (relations, t)).2.2 := by
  unfold ObserveLayer.sendResponse
  dsimp only
  split
  · exact h
  · split
    · exact h
    · split
      · exact h
      · next response hresponse =>
        split
        · split
          · exact h
          · split
            · exact h
            · next response' hset =>
              refine h.restated t _ (Same.refl _) fun m hm => ⟨response, hresponse, ?_⟩
              cases hm
              have hadded := restated_addNew _ _ _ _ hset
              exact ⟨hadded.destination, hadded.token, hadded.mid, hadded.code⟩
        · split
          · exact h
          · split <;> exact h

theorem served_reset (message : Message) (t : Transaction) (h : Served requests k t) :
    Served requests k (ObserveLayer.receiveEmpty message (relations, t)).2.2 := by
  unfold ObserveLayer.receiveEmpty
  dsimp only
  split
  · split
    · exact h
    · exact h.kept t _ (Same.refl _) rfl
  · exact h

/-- A notification forgets under which token the observer asked. -/
theorem served_notifyItem (resource : ℕ) (name : Key) (item : ObserveLayer.ObserveItem)
    (state : ObserveLayer.Relations × Heap) (i : ℕ) (h : Served requests k (state.2.cell i)) :
    Served requests k ((ObserveLayer.notifyItem resource name item state).2.2.cell i) := by
  obtain ⟨relations, heap⟩ := state
  unfold ObserveLayer.notifyItem
  cases item.transaction with
  | none => exact h
  | some tid =>
    dsimp only
    split
    · cases ObserveLayer.notificationType item.nonCounter (heap.cell tid).request.type with
      | error e => exact h
      | ok result =>
        obtain ⟨type, nonCounter⟩ := result
        dsimp only
        cases hresponse : (heap.cell tid).response with
        | none => exact h
        | some response =>
          by_cases heq : i = tid
          · subst heq
            dsimp only
            rw [Heap.set_cell_self]
            refine h.step _ _ (Same.refl _) fun m hm => ?_
            cases hm
            have hreturns := h.response response hresponse
            refine ⟨hreturns.destination, Or.inl rfl, ?_, hreturns.code⟩
            rw [Option.getD_none]
            omega
          · dsimp only
            rw [Heap.set_cell_of_ne heap tid i _ heq]
            exact h
    · exact h

theorem served_notifyKeys (resource : ℕ) (names : List Key)
    (state : ObserveLayer.Relations × Heap) (i : ℕ) (h : Served requests k (state.2.cell i)) :
    Served requests k ((ObserveLayer.notifyKeys resource names state).2.2.cell i) := by
  induction names generalizing state with
  | nil => exact h
  | cons name names ih =>
    obtain ⟨relations, heap⟩ := state
    unfold ObserveLayer.notifyKeys
    dsimp only
    cases relations.get? name with
    | none => exact h
    | some item =>
      dsimp only
      have hfirst := served_notifyItem resource name item (relations, heap) i h
      rw [Action.bind_apply]
      generalize ObserveLayer.notifyItem resource name item (relations, heap) = r at hfirst
      obtain ⟨result, state'⟩ := r
      cases result with
      | error e => exact hfirst
      | ok first =>
        have hrest := ih state' hfirst
        dsimp only
        rw [Action.bind_apply]
        generalize ObserveLayer.notifyKeys resource names state' = r at hrest
        obtain ⟨result, state''⟩ := r
        cases result <;> exact hrest

end ObserveLayer

section MessageLayer
variable {requests : List Message} {m : MessageLayer.State}

/-- The tables of a node that has received the requests and sent none. -/
structure Known (requests : List Message) (m : MessageLayer.State) : Prop where
  leads : Leads (List.range m.heap.next) [] m
  served : ∀ i < m.heap.next, ∃ k, Served requests k (m.heap.cell i)
  stored : ∀ k i, m.transactionsToken.get? k = some i →
    storedUnder (m.heap.cell i).request = some k
  mid : m.currentMid < 65536

theorem leads_congr (served : List ℕ) (m' : MessageLayer.State) (h : Leads served [] m)
    (transactions : m'.transactions = m.transactions)
    (transactionsToken : m'.transactionsToken = m.transactionsToken)
    (sent : m'.transactionsSent = m.transactionsSent)
    (sentToken : m'.transactionsSentToken = m.transactionsSentToken) : Leads served [] m' :=
  ⟨transactions ▸ h.transactions, transactionsToken ▸ h.transactionsToken,
    sent ▸ h.transactionsSent, sentToken ▸ h.transactionsSentToken⟩

theorem Known.mono (h : Known requests m) (requests' : List Message) (hsub : requests ⊆ requests') :
    Known requests' m :=
  ⟨h.leads, fun i hi => (h.served i hi).imp fun _ hserved => hserved.mono _ _ hsub, h.stored, h.mid⟩

theorem Known.token_lt (h : Known requests m) (k : Key) (i : ℕ)
    (hk : m.transactionsToken.get? k = some i) : i < m.heap.next :=
  List.mem_range.mp (h.leads.transactionsToken k i hk)

theorem Known.withHeap (h : Known requests m) (heap : Heap) (hnext : heap.next = m.heap.next)
    (hcell : ∀ i k, Served requests k (m.heap.cell i) → Served requests k (heap.cell i)) :
    Known requests { m with heap := heap } := by
  refine ⟨?_, fun i hi => ?_, fun k i hk => ?_, h.mid⟩
  · change Leads (List.range heap.next) [] _
    rw [hnext]
    exact leads_congr _ _ h.leads rfl rfl rfl rfl
  · have hi : i < heap.next := hi
    obtain ⟨k, hserved⟩ := h.served i (hnext ▸ hi)
    exact ⟨k, hcell i k hserved⟩
  · obtain ⟨k', hserved⟩ := h.served i (h.token_lt k i hk)
    change storedUnder (heap.cell i).request = some k
    rw [(hcell i k' hserved).key, ← hserved.key]
    exact h.stored k i hk

theorem Known.update (h : Known requests m) (tid : ℕ) (f : Transaction → Transaction)
    (hserved : ∀ k, Served requests k (m.heap.cell tid) → Served requests k (f (m.heap.cell tid))) :
    Known requests (m.update tid f) := by
  refine h.withHeap (m.heap.set tid (f (m.heap.cell tid))) rfl fun i k hcell => ?_
  by_cases heq : i = tid
  · subst heq
    rw [Heap.set_cell_self]
    exact hserved k hcell
  · rw [Heap.set_cell_of_ne m.heap tid i _ heq]
    exact hcell

theorem Known.insert (h : Known requests m) (k : Key) (tid : ℕ) (htid : tid < m.heap.next) :
    Known requests { m with transactions := m.transactions.insert k tid } :=
  ⟨⟨leadsTo_insert _ _ _ _ h.leads.transactions (List.mem_range.mpr htid),
    h.leads.transactionsToken, h.leads.transactionsSent, h.leads.transactionsSentToken⟩, h.served,
    h.stored, h.mid⟩

theorem known_new (startingMid : ℕ) (hmid : startingMid < 65536) :
    Known [] (MessageLayer.State.new startingMid) := by
  refine ⟨⟨leadsTo_empty _, leadsTo_empty _, leadsTo_empty _, leadsTo_empty _⟩, ?_, ?_, hmid⟩
  · intro i hi
    exact absurd hi (Nat.not_lt_zero i)
  · intro k i hk
    cases hk

theorem known_fetchMid (h : Known requests m) : Known requests (fetchMid m).2 := by
  refine ⟨leads_congr _ _ h.leads rfl rfl rfl rfl, h.served, h.stored, ?_⟩
  have hlt := Nat.mod_lt (m.currentMid + 1) (show 65535 > 0 by omega)
  change (m.currentMid + 1) % 65535 < 65536
  omega

theorem duplicateOf_lt (h : Known requests m) (request : Message) (address : Address) (tid : ℕ)
    (hduplicate : duplicateOf request address m = some tid) : tid < m.heap.next := by
  unfold duplicateOf at hduplicate
  split at hduplicate
  · exact h.token_lt _ _ hduplicate
  · split at hduplicate
    · cases hduplicate
    · split_ifs at hduplicate
      exact List.mem_range.mp (h.leads.transactions _ _ hduplicate)

/-- An answered transaction that takes over a request keeps its key. -/
theorem known_storeRequest (h : Known requests m) (request : Message) (address : Address)
    (hmem : ∃ r ∈ requests, Same r request) (hsource : request.source = some address) :
    Known requests (storeRequest request address m).2 ∧
      (storeRequest request address m).1 < (storeRequest request address m).2.heap.next := by
  have hkey : storedUnder request = some (keyToken request address) := by
    unfold storedUnder
    rw [hsource, Option.map_some]
  unfold storeRequest
  split
  · next tid hanswered =>
    obtain ⟨htable, hlt⟩ : m.transactionsToken.get? (keyToken request address) = some tid ∧
        tid < m.heap.next := by
      unfold answered at hanswered
      split at hanswered
      · next i hi =>
        split at hanswered
        · cases hanswered
          exact ⟨hi, h.token_lt _ _ hi⟩
        · cases hanswered
      · cases hanswered
    have hsame : storedUnder request = storedUnder (m.heap.cell tid).request :=
      hkey.trans (h.stored _ _ htable).symm
    refine ⟨Known.insert (h.update tid _ fun k hcell => ?_) _ tid hlt, hlt⟩
    exact ⟨hmem, hsame.trans hcell.key, hcell.response⟩
  · refine ⟨⟨?_, ?_, ?_, h.mid⟩, Nat.lt_succ_self _⟩
    · have hsub : List.range m.heap.next ⊆ List.range (m.heap.next + 1) :=
        List.range_subset.mpr (Nat.le_succ _)
      have hmem : m.heap.next ∈ List.range (m.heap.next + 1) :=
        List.mem_range.mpr (Nat.lt_succ_self _)
      exact ⟨leadsTo_insert _ _ _ _ (h.leads.transactions.mono _ _ _ hsub) hmem,
        leadsTo_insert _ _ _ _ (h.leads.transactionsToken.mono _ _ _ hsub) hmem,
        h.leads.transactionsSent, h.leads.transactionsSentToken⟩
    · intro i hi
      by_cases heq : i = m.heap.next
      · subst heq
        change ∃ k, Served requests k ((m.heap.alloc _).2.cell m.heap.next)
        rw [Heap.alloc_cell_self]
        refine ⟨_, hmem, hkey, fun response hresponse => ?_⟩
        cases hresponse
      · change ∃ k, Served requests k ((m.heap.alloc _).2.cell i)
        rw [Heap.alloc_cell_of_ne m.heap i _ heq]
        have hi : i < m.heap.next + 1 := hi
        exact h.served i (by omega)
    · intro k i hk
      by_cases heq : i = m.heap.next
      · subst heq
        change storedUnder ((m.heap.alloc _).2.cell m.heap.next).request = some k
        rw [Heap.alloc_cell_self]
        by_cases hk' : k = keyToken request address
        · rw [hk']
          exact hkey
        · change (m.transactionsToken.insert (keyToken request address) m.heap.next).get? k
            = _ at hk
          rw [Dict.get?_insert_of_ne _ _ hk'] at hk
          exact absurd (h.token_lt k _ hk) (Nat.lt_irrefl _)
      · change storedUnder ((m.heap.alloc _).2.cell i).request = some k
        rw [Heap.alloc_cell_of_ne m.heap i _ heq]
        change (m.transactionsToken.insert (keyToken request address) m.heap.next).get? k = _ at hk
        by_cases hk' : k = keyToken request address
        · rw [hk', Dict.get?_insert_self] at hk
          exact absurd (Option.some.inj hk).symm heq
        · rw [Dict.get?_insert_of_ne _ _ hk'] at hk
          exact h.stored k i hk

theorem known_receiveRequest (h : Known requests m) (now : ℚ) (request : Message)
    (hmem : request ∈ requests) (tid : ℕ) (m' : MessageLayer.State)
    (hr : MessageLayer.receiveRequest now request m = (.ok tid, m')) :
    Known requests m' ∧ tid < m'.heap.next := by
  unfold MessageLayer.receiveRequest at hr
  split at hr
  · cases hr
  · next address hsource =>
    split at hr
    · next i hduplicate =>
      cases hr
      have hlt := duplicateOf_lt h request address tid hduplicate
      refine ⟨h.update tid markDuplicated fun k hcell => ?_, hlt⟩
      exact hcell.kept _ _ ⟨rfl, rfl, rfl, rfl⟩ rfl
    · have hstore := known_storeRequest h { request with timestamp := some now } address
        ⟨request, hmem, ⟨rfl, rfl, rfl, rfl⟩⟩ hsource
      cases hr
      exact hstore

variable (hdecoded : ∀ r ∈ requests, Decoded r)
include hdecoded

theorem returns_setResponseType (rng : Bytes) (k : Option Key) (t : Transaction)
    (response response' : Message) (completed : Bool) (h : Served requests k t)
    (hreturns : Returns requests k response)
    (hr : setResponseType rng t response = .ok (response', completed)) :
    Returns requests k response' := by
  unfold setResponseType at hr
  split at hr
  · cases hr
    exact hreturns
  · split at hr
    · obtain ⟨numbered, hset, hr⟩ := (bind_eq_ok _ _ _).mp hr
      cases hr
      rw [setMid_eq _ _ _ hset]
      exact ⟨hreturns.destination, hreturns.token, (h.decoded t hdecoded).mid, hreturns.code⟩
    · split at hr
      · cases hr
        exact ⟨hreturns.destination, hreturns.token, hreturns.mid, hreturns.code⟩
      · obtain ⟨named, hset, hr⟩ := (bind_eq_ok _ _ _).mp hr
        cases hr
        rw [setToken_eq _ _ _ _ hset]
        obtain ⟨r, hr, hsame⟩ := h.request
        obtain ⟨token, htoken⟩ := Option.ne_none_iff_exists'.mp (h.decoded t hdecoded).token
        refine ⟨hreturns.destination, Or.inr ⟨r, hr, ?_, ?_⟩, hreturns.mid, hreturns.code⟩
        · exact (storedUnder_same r t.request hsame).symm.trans h.key
        · change some (t.request.token.getD rng) = r.token
          rw [← hsame.token, htoken, Option.getD_some]

omit hdecoded in
theorem known_setResponseMid (h : Known requests m) (k : Option Key) (tid : ℕ)
    (htid : tid < m.heap.next) (response : Message)
    (hkey : storedUnder (m.heap.cell tid).request = k)
    (hreturns : Returns requests k response) :
    Known requests (setResponseMid tid response m).2 := by
  unfold setResponseMid
  split
  · exact h
  · dsimp only
    split
    · exact known_fetchMid h
    · next response' hset =>
      have hupdated : Known requests ((fetchMid m).2.update tid fun t =>
          { t with response := some response' }) := by
        refine (known_fetchMid h).update tid _ fun k' hcell => ?_
        refine hcell.step _ _ (Same.refl _) fun m' hm' => ?_
        cases hm'
        rw [setMid_eq _ _ _ hset, ← hcell.key]
        change Returns requests (storedUnder (m.heap.cell tid).request) _
        rw [hkey]
        have hmid := h.mid
        refine ⟨hreturns.destination, hreturns.token, ?_, hreturns.code⟩
        change 0 ≤ (m.currentMid : ℤ) ∧ (m.currentMid : ℤ) < 65536
        omega
      split
      · exact hupdated
      · exact hupdated.insert _ tid htid

theorem known_sendResponse (h : Known requests m) (rng : Bytes) (tid : ℕ)
    (htid : tid < m.heap.next) : Known requests (MessageLayer.sendResponse rng tid m).2 := by
  obtain ⟨k, hserved⟩ := h.served tid htid
  unfold MessageLayer.sendResponse
  split
  · refine h.update tid (fun t => { t with completed := true }) fun k hcell => ?_
    exact hcell.kept _ _ (Same.refl _) rfl
  · next response hresponse =>
    split
    · exact h
    · next response' completed htype =>
      have hreturns := returns_setResponseType hdecoded rng k (m.heap.cell tid) response response'
        completed hserved (hserved.response response hresponse) htype
      have htyped : Known requests (m.update tid fun t =>
          { t with response := some response', completed := completed }) := by
        refine h.update tid _ fun k' hcell => hcell.step _ _ (Same.refl _) fun m' hm' => ?_
        cases hm'
        rw [← hcell.key, hserved.key]
        exact hreturns
      have hkey : storedUnder ((m.update tid fun t => { t with
          response := some response', completed := completed }).heap.cell tid).request = k := by
        rw [update_cell_self]
        exact hserved.key
      have hmid := known_setResponseMid htyped k tid htid response' hkey hreturns
      dsimp only
      split
      · next heq =>
        rw [heq] at hmid
        exact hmid
      · next heq =>
        rw [heq] at hmid
        exact hmid.update tid acknowledgeRequest fun k hcell =>
          hcell.kept _ _ (same_setAcknowledged _ true) rfl

end MessageLayer

end BubotCoap.ServedTransactions
