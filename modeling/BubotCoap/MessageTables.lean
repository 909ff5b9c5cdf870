import BubotCoap.MessagePairing

set_option autoImplicit false

namespace BubotCoap.MessageTables
open PythonData Defines Utils Messages OrderedDict Transactions MessageLayer MessagePairing
  FallibleState

section Tables

/-- Whatever the table leads to is in the list. -/
def LeadsTo (tids : List ℕ) (table : Dict Key ℕ) : Prop :=
  ∀ k tid, table.get? k = some tid → tid ∈ tids

theorem leadsTo_empty (tids : List ℕ) : LeadsTo tids Dict.empty := by
  intro k tid h
  cases h

theorem LeadsTo.mono (tids tids' : List ℕ) (table : Dict Key ℕ) (h : LeadsTo tids table)
    (hsub : tids ⊆ tids') : LeadsTo tids' table :=
  fun k tid hk => hsub (h k tid hk)

theorem leadsTo_insert (tids : List ℕ) (table : Dict Key ℕ) (k : Key) (tid : ℕ)
    (h : LeadsTo tids table) (hmem : tid ∈ tids) : LeadsTo tids (table.insert k tid) := by
  intro k' tid' hk'
  by_cases heq : k' = k
  · rw [heq, Dict.get?_insert_self] at hk'
    cases hk'
    exact hmem
  · rw [Dict.get?_insert_of_ne table tid heq] at hk'
    exact h k' tid' hk'

theorem leadsTo_keep (tids : List ℕ) (table : Dict Key ℕ) (p : Key → Bool)
    (h : LeadsTo tids table) : LeadsTo tids (table.keep p) := by
  intro k tid hk
  rw [Dict.get?_keep] at hk
  split at hk
  · exact h k tid hk
  · cases hk

/-- The tables of received messages lead to the transactions `served`, those of sent messages to
the transactions `own`. -/
structure Leads (served own : List ℕ) (s : State) : Prop where
  transactions : LeadsTo served s.transactions
  transactionsToken : LeadsTo served s.transactionsToken
  transactionsSent : LeadsTo own s.transactionsSent
  transactionsSentToken : LeadsTo own s.transactionsSentToken

theorem Leads.mono (served served' own own' : List ℕ) (s : State) (h : Leads served own s)
    (hserved : served ⊆ served') (hown : own ⊆ own') : Leads served' own' s where
  transactions := h.transactions.mono _ _ _ hserved
  transactionsToken := h.transactionsToken.mono _ _ _ hserved
  transactionsSent := h.transactionsSent.mono _ _ _ hown
  transactionsSentToken := h.transactionsSentToken.mono _ _ _ hown

end Tables

section Layer
variable (served own : List ℕ) (s : State)

theorem leads_storeRequest (request : Message) (address : Address) (h : Leads served own s) :
    Leads ((storeRequest request address s).1 :: served) own (storeRequest request address s).2 ∧
      ((storeRequest request address s).1 ∈ served ∧
          (storeRequest request address s).2.heap.next = s.heap.next ∨
        (storeRequest request address s).1 = s.heap.next ∧
          (storeRequest request address s).2.heap.next = s.heap.next + 1) := by
  have hmore : ∀ tid, Leads (tid :: served) own s := fun tid =>
    h.mono _ _ _ _ _ (List.subset_cons_self _ _) (List.Subset.refl _)
  unfold storeRequest
  split
  · next tid hanswered =>
    have hmem : tid ∈ served := by
      unfold answered at hanswered
      split at hanswered
      · next i hi =>
        split at hanswered
        · cases hanswered
          exact h.transactionsToken _ _ hi
        · cases hanswered
      · cases hanswered
    refine ⟨⟨?_, (hmore tid).transactionsToken, h.transactionsSent, h.transactionsSentToken⟩,
      Or.inl ⟨hmem, rfl⟩⟩
    exact leadsTo_insert _ _ _ _ (hmore tid).transactions List.mem_cons_self
  · refine ⟨⟨?_, ?_, h.transactionsSent, h.transactionsSentToken⟩, Or.inr ⟨rfl, rfl⟩⟩
    · exact leadsTo_insert _ _ _ _ (hmore s.heap.next).transactions List.mem_cons_self
    · exact leadsTo_insert _ _ _ _ (hmore s.heap.next).transactionsToken List.mem_cons_self

theorem leads_receiveRequest (now : ℚ) (request : Message) (tid : ℕ) (s' : State)
    (h : Leads served own s) (hr : MessageLayer.receiveRequest now request s = (.ok tid, s')) :
    Leads (tid :: served) own s' ∧
      (tid ∈ served ∧ s'.heap.next = s.heap.next ∨
        tid = s.heap.next ∧ s'.heap.next = s.heap.next + 1) := by
  unfold MessageLayer.receiveRequest at hr
  split at hr
  · cases hr
  · next address _ =>
    split at hr
    · next i hduplicate =>
      have hmem : i ∈ served := by
        unfold duplicateOf at hduplicate
        split at hduplicate
        · exact h.transactionsToken _ i hduplicate
        · split at hduplicate
          · cases hduplicate
          · split_ifs at hduplicate
            exact h.transactions _ i hduplicate
      cases hr
      have hmore : Leads (tid :: served) own s :=
        h.mono _ _ _ _ _ (List.subset_cons_self _ _) (List.Subset.refl _)
      exact ⟨⟨hmore.transactions, hmore.transactionsToken, hmore.transactionsSent,
        hmore.transactionsSentToken⟩, Or.inl ⟨hmem, rfl⟩⟩
    · cases hr
      exact leads_storeRequest served own s _ address h

theorem receiveRequest_error (now : ℚ) (request : Message) (e : PyErr) (s' : State)
    (hr : MessageLayer.receiveRequest now request s = (.error e, s')) : s' = s := by
  unfold MessageLayer.receiveRequest at hr
  split at hr
  · cases hr
    rfl
  · split at hr
    · cases hr
    · cases hr

theorem matchResponse_own (response : Message) (address destination : Address) (tid : ℕ)
    (h : Leads served own s) (hr : matchResponse response address destination s = some tid) :
    tid ∈ own := by
  have htoken : ∀ p, matchResponse.byToken response address destination s p = some tid →
      tid ∈ own := by
    intro p hp
    unfold matchResponse.byToken at hp
    split at hp
    · next i hi =>
      cases hp
      exact h.transactionsSentToken _ _ hi
    · exact h.transactionsSentToken _ _ (Option.filter_eq_some_iff.mp hp).1
  unfold matchResponse at hr
  dsimp only at hr
  split at hr
  · next i hi =>
    split at hr
    · split at hr
      · cases hr
        exact h.transactionsSent _ _ hi
      · cases hr
    · exact htoken _ hr
  · exact htoken _ hr

theorem matchEmpty_served (ipv6 : Text → Bool) (message : Message) (address : Address) (tid : ℕ)
    (h : Leads served own s) (hr : matchEmpty ipv6 message address s = some tid) :
    tid ∈ served := by
  unfold matchEmpty at hr
  dsimp only at hr
  rcases Option.or_eq_some_iff.mp hr with hk | ⟨_, hr⟩
  · exact h.transactions _ _ hk
  · rcases Option.or_eq_some_iff.mp hr with hk | ⟨_, hr⟩
    · exact h.transactionsToken _ _ hk
    · rcases Option.or_eq_some_iff.mp hr with hk | ⟨_, hr⟩
      · exact h.transactions _ _ hk
      · exact h.transactionsToken _ _ hr

/-- What a request lacks is taken from the counter of message ids only. -/
theorem completeRequest_state (rng : Bytes) (request : Message) :
    ∃ mid, (completeRequest rng request s).2 = { s with currentMid := mid } := by
  unfold completeRequest
  dsimp only
  split
  · exact ⟨_, rfl⟩
  · split
    · exact ⟨_, rfl⟩
    · exact ⟨_, rfl⟩

theorem leads_storeSent (tid : ℕ) (request : Message) (address : Address)
    (h : Leads served own s) :
    (storeSent tid request address s).2.heap = s.heap ∧
      (storeSent tid request address s).2.transactions = s.transactions ∧
      ((storeSent tid request address s).1 = .error .typeError ∧
          Leads served own (storeSent tid request address s).2 ∨
        (storeSent tid request address s).1 = .ok tid ∧
          Leads served (tid :: own) (storeSent tid request address s).2) := by
  have hmore : Leads served (tid :: own) s :=
    h.mono _ _ _ _ _ (List.Subset.refl _) (List.subset_cons_self _ _)
  unfold storeSent
  split
  · split
    · exact ⟨rfl, rfl, Or.inl ⟨rfl, h⟩⟩
    · refine ⟨rfl, rfl, Or.inr ⟨rfl, h.transactions, h.transactionsToken, hmore.transactionsSent, ?_⟩⟩
      exact leadsTo_insert _ _ _ _ hmore.transactionsSentToken List.mem_cons_self
  · refine ⟨rfl, rfl, Or.inr ⟨rfl, h.transactions, h.transactionsToken, ?_, ?_⟩⟩
    · exact leadsTo_insert _ _ _ _ hmore.transactionsSent List.mem_cons_self
    · exact leadsTo_insert _ _ _ _ hmore.transactionsSentToken List.mem_cons_self

/-- What sending a request of the node's own does: its transaction is new. -/
structure Requests (result : Except PyErr ℕ) (s' : State) : Prop where
  cell : ∀ i < s.heap.next, s'.heap.cell i = s.heap.cell i
  next : s.heap.next ≤ s'.heap.next
  transactions : s'.transactions = s.transactions
  leads : (∃ e, result = .error e) ∧ Leads served own s' ∨
    result = .ok s.heap.next ∧ Leads served (s.heap.next :: own) s' ∧
      s'.heap.next = s.heap.next + 1

theorem sendRequest_requests (now : ℚ) (rng : Bytes) (request : Message)
    (h : Leads served own s) :
    Requests served own s (MessagePairing.sendRequest now rng request s).1
      (MessagePairing.sendRequest now rng request s).2 := by
  unfold MessagePairing.sendRequest
  split
  · exact ⟨fun _ _ => rfl, Nat.le_refl _, rfl, Or.inl ⟨⟨_, rfl⟩, h⟩⟩
  · split
    · exact ⟨fun _ _ => rfl, Nat.le_refl _, rfl, Or.inl ⟨⟨_, rfl⟩, h⟩⟩
    · next address _ =>
      obtain ⟨mid, hstate⟩ := completeRequest_state s rng { request with timestamp := some now }
      split
      · next e s' heq =>
        rw [heq] at hstate
        change s' = _ at hstate
        subst hstate
        exact ⟨fun _ _ => rfl, Nat.le_refl _, rfl, Or.inl ⟨⟨_, rfl⟩, h.transactions,
          h.transactionsToken, h.transactionsSent, h.transactionsSentToken⟩⟩
      · next completed s' heq =>
        rw [heq] at hstate
        change s' = _ at hstate
        subst hstate
        obtain ⟨hheap, htransactions, hleads⟩ := leads_storeSent served own
          { s with
            currentMid := mid
            heap := (s.heap.alloc (Transaction.new completed now)).2 } s.heap.next completed address
          ⟨h.transactions, h.transactionsToken, h.transactionsSent, h.transactionsSentToken⟩
        have hnext := congrArg Heap.next hheap
        refine ⟨?_, ?_, htransactions, ?_⟩
        · intro i hi
          refine (congrArg (fun heap => heap.cell i) hheap).trans ?_
          exact Heap.alloc_cell_of_ne s.heap i _ (Nat.ne_of_lt hi)
        · exact (Nat.le_succ _).trans_eq hnext.symm
        · rcases hleads with ⟨herror, hleads⟩ | ⟨hok, hleads⟩
          · exact Or.inl ⟨⟨_, herror⟩, hleads⟩
          · exact Or.inr ⟨hok, hleads, hnext⟩

theorem leads_sendResponse (rng : Bytes) (tid : ℕ) (h : Leads served own s) (hmem : tid ∈ served) :
    Leads served own (MessageLayer.sendResponse rng tid s).2 ∧
      (MessageLayer.sendResponse rng tid s).2.heap.next = s.heap.next := by
  refine ⟨?_, ?_⟩
  · refine sendResponse_frame tid (fun s s' => Leads served own s → Leads served own s')
      ?_ ?_ ?_ ?_ ?_ rng s h
    · exact fun _ h => h
    · exact fun _ _ _ h h' hs => h' (h hs)
    · exact fun _ h =>
        ⟨h.transactions, h.transactionsToken, h.transactionsSent, h.transactionsSentToken⟩
    · exact fun _ _ h =>
        ⟨h.transactions, h.transactionsToken, h.transactionsSent, h.transactionsSentToken⟩
    · exact fun _ _ h => ⟨leadsTo_insert _ _ _ _ h.transactions hmem, h.transactionsToken,
        h.transactionsSent, h.transactionsSentToken⟩
  · refine sendResponse_frame tid (fun s s' => s'.heap.next = s.heap.next) ?_ ?_ ?_ ?_ ?_ rng s
    · exact fun _ => rfl
    · exact fun _ _ _ h h' => h'.trans h
    · exact fun _ => rfl
    · exact fun _ _ => rfl
    · exact fun _ _ => rfl

theorem receiveResponse_pairs (response : Message) (result : Except PyErr (Option ℕ × Bool))
    (s' : State) (hr : MessagePairing.receiveResponse response s = (result, s')) :
    s' = s ∧ (∀ tid b, result ≠ .ok (some tid, b)) ∨
      ∃ tid b address destination, result = .ok (some tid, b) ∧
        matchResponse response address destination s = some tid ∧
        s' = s.update tid fun t =>
          { acknowledgeRequest t with completed := true, response := some response } := by
  unfold MessagePairing.receiveResponse at hr
  split at hr
  · cases hr
    exact Or.inl ⟨rfl, fun tid b h => by cases h⟩
  · split at hr
    · cases hr
      exact Or.inl ⟨rfl, fun tid b h => by cases h⟩
    · split at hr
      · cases hr
        exact Or.inl ⟨rfl, fun tid b h => by cases h⟩
      · next tid hmatch =>
        cases hr
        exact Or.inr ⟨tid, _, _, _, rfl, hmatch, rfl⟩

theorem receiveEmpty_pairs (ipv6 : Text → Bool) (message : Message) :
    (MessagePairing.receiveEmpty ipv6 message s).2 = s ∨
      ∃ address tid t, message.source = some address ∧
        matchEmpty ipv6 message address s = some tid ∧
        pairEmpty message.type (s.heap.cell tid) = .ok t ∧
        (MessagePairing.receiveEmpty ipv6 message s).2 = s.update tid fun _ => t := by
  unfold MessagePairing.receiveEmpty
  split
  · exact Or.inl rfl
  · next address hsource =>
    split
    · exact Or.inl rfl
    · next tid hmatch =>
      split
      · exact Or.inl rfl
      · next t ht => exact Or.inr ⟨address, tid, t, hsource, hmatch, ht, rfl⟩

theorem setResponseMid_stored (tid : ℕ) (response : Message) (address : Address)
    (layer layer' : State) (hmid : response.mid = none)
    (hdestination : response.destination = some address)
    (hr : setResponseMid tid response layer = (.ok (), layer')) :
    (layer'.heap.cell tid).response = some { response with mid := some layer.currentMid } ∧
      layer'.transactions = layer.transactions.insert (key address (.int layer.currentMid)) tid := by
  unfold setResponseMid at hr
  rw [hmid] at hr
  dsimp only at hr
  split at hr
  · cases hr
  · next response' hset =>
    have hsame := setMid_eq _ _ _ hset
    have hpeer : response'.destination = some address := by
      rw [hsame]
      exact hdestination
    rw [hpeer] at hr
    cases hr
    refine ⟨?_, ?_⟩
    · rw [← hsame]
      exact congrArg Transaction.response (update_cell_self (fetchMid layer).2 tid
        fun t => { t with response := some response' })
    · rw [hsame]
      rfl

theorem sendResponse_stored (rng : Bytes) (tid : ℕ) (layer layer' : State) (sent : Option ℕ)
    (hown : (ownKey layer tid).isSome)
    (hr : MessageLayer.sendResponse rng tid layer = (.ok sent, layer')) :
    ∃ response peer mid, (layer'.heap.cell tid).response = some response ∧
      response.destination = some peer ∧ response.mid = some mid ∧
      layer'.transactions = layer.transactions.insert (key peer (.int mid)) tid := by
  unfold ownKey at hown
  unfold MessageLayer.sendResponse at hr
  split at hr
  · next hnone =>
    rw [hnone] at hown
    cases hown
  · next response hresponse =>
    rw [hresponse] at hown
    dsimp only at hown
    split at hr
    · cases hr
    · next response' completed htype =>
      obtain ⟨hmid, hdestination⟩ := setResponseType_mid _ _ _ _ _ htype
      rw [← hmid, ← hdestination] at hown
      split at hown
      · next address hnone haddress =>
        dsimp only at hr
        split at hr
        · cases hr
        · next layer₁ heq =>
          obtain ⟨hcell, htransactions⟩ := setResponseMid_stored tid response' address _ layer₁ hnone
            haddress heq
          cases hr
          refine ⟨{ response' with mid := some layer.currentMid }, address, layer.currentMid, ?_,
            haddress, rfl, htransactions⟩
          rw [update_cell_self]
          exact hcell
      · cases hown

end Layer

end BubotCoap.MessageTables
