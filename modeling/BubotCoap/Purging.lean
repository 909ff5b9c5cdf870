import BubotCoap.BlockFrames
import BubotCoap.MessageTables
import BubotCoap.Runs

set_option autoImplicit false

namespace BubotCoap.Purging
open PythonData Defines Utils Messages OrderedDict Transactions MessageLayer MessagePairing
  MessageTables BlockFrames FallibleState Runs

structure Node where
  message : MessageLayer.State
  block : BlockLayer.State

def Node.new (startingMid : ℕ) : Node := ⟨MessageLayer.State.new startingMid, BlockLayer.State.new⟩

/-- An operation of the block layer on a stored transaction, which it may change. -/
def onTransaction {α : Type} (tid : ℕ)
    (x : Action PyErr (BlockLayer.State × Transaction) α) (n : Node) : Node :=
  let (_, block, t) := x (n.block, n.message.heap.cell tid)
  ⟨n.message.update tid fun _ => t, block⟩

/-- `MessageLayer.purge`, which goes on to the block layer with each token key it drops. -/
def purge (timeoutTime now : ℚ) (n : Node) : Node :=
  let (dropped, message) := MessageLayer.purge timeoutTime now n.message
  ⟨message, dropped.foldl (fun block k => BlockLayer.purge k block) n.block⟩

/-- What can happen to the two layers. Other layers may change a transaction in any way but its
timestamp. -/
inductive Event where
  | receiveRequest (now : ℚ) (request : Message)
  | sendResponse (rng : Bytes) (tid : ℕ)
  | sendRequest (now : ℚ) (rng : Bytes) (request : Message)
  | receiveResponse (response : Message)
  | receiveEmpty (ipv6 : Text → Bool) (message : Message)
  | blockReceiveRequest (rng : Bytes) (tid : ℕ)
  | blockReceiveResponse (rng : Bytes) (tid : ℕ)
  | blockSendResponse (tid : ℕ)
  | blockSendRequest (request : Message)
  | touch (tid : ℕ) (f : Transaction → Transaction)
  | purge (timeoutTime now : ℚ)

def step (n : Node) : Event → Node
  | .receiveRequest now request =>
    { n with message := (MessageLayer.receiveRequest now request n.message).2 }
  | .sendResponse rng tid => { n with message := (MessageLayer.sendResponse rng tid n.message).2 }
  | .sendRequest now rng request =>
    { n with message := (MessagePairing.sendRequest now rng request n.message).2 }
  | .receiveResponse response =>
    { n with message := (MessagePairing.receiveResponse response n.message).2 }
  | .receiveEmpty ipv6 message =>
    { n with message := (MessagePairing.receiveEmpty ipv6 message n.message).2 }
  | .blockReceiveRequest rng tid => onTransaction tid (BlockLayer.receiveRequest rng) n
  | .blockReceiveResponse rng tid => onTransaction tid (BlockLayer.receiveResponse rng) n
  | .blockSendResponse tid => onTransaction tid BlockLayer.sendResponse n
  | .blockSendRequest request =>
    { n with block := (BlockLayer.sendRequest request n.block).2 }
  | .touch tid f =>
    { n with message := n.message.update tid fun t => { f t with timestamp := t.timestamp } }
  | .purge timeoutTime now => purge timeoutTime now n

section
variable (timeoutTime now : ℚ) (n : Node)

/-- The table refers to no transaction that is completed or too old. -/
def Fresh (table : Dict Key ℕ) : Prop :=
  ∀ k tid, table.get? k = some tid → expired n.message.heap timeoutTime now tid = false

/-- A transaction is stored under the token key that is neither completed nor too old. -/
def Used (k : Key) : Prop :=
  ∃ tid, (n.message.transactionsToken.get? k = some tid ∨
      n.message.transactionsSentToken.get? k = some tid) ∧
    expired n.message.heap timeoutTime now tid = false

/-- The state of exchanges is bounded by what is going on. -/
structure Clean : Prop where
  transactions : Fresh timeoutTime now n n.message.transactions
  transactionsToken : Fresh timeoutTime now n n.message.transactionsToken
  transactionsSent : Fresh timeoutTime now n n.message.transactionsSent
  transactionsSentToken : Fresh timeoutTime now n n.message.transactionsSentToken
  block1Receive : ∀ k, n.block.block1Receive.contains k = true → Used timeoutTime now n k
  block2Receive : ∀ k, n.block.block2Receive.contains k = true → Used timeoutTime now n k
  block1Sent : ∀ k, n.block.block1Sent.contains k = true → Used timeoutTime now n k
  block2Sent : ∀ k, n.block.block2Sent.contains k = true → Used timeoutTime now n k

/-- Before a purge: own requests are neither answered nor too old, uploads and downloads go on,
and a representation that is sent in blocks belongs to a request that is stored. -/
structure Ready : Prop where
  own : Fresh timeoutTime now n n.message.transactionsSent ∧
    Fresh timeoutTime now n n.message.transactionsSentToken
  ongoing : ∀ k, n.block.block1Receive.contains k = true ∨ n.block.block1Sent.contains k = true ∨
    n.block.block2Sent.contains k = true → Used timeoutTime now n k
  served : ∀ k, n.block.block2Receive.contains k = true →
    n.message.transactionsToken.contains k = true ∨ Used timeoutTime now n k

end

theorem blockPurge_tables (ks : List Key) (s : BlockLayer.State) :
    (ks.foldl (fun block k => BlockLayer.purge k block) s).block1Receive = s.block1Receive ∧
      (ks.foldl (fun block k => BlockLayer.purge k block) s).block1Sent = s.block1Sent ∧
        (ks.foldl (fun block k => BlockLayer.purge k block) s).block2Sent = s.block2Sent := by
  induction ks generalizing s with
  | nil => exact ⟨rfl, rfl, rfl⟩
  | cons k ks ih => exact ih (BlockLayer.purge k s)

theorem blockPurge_contains (ks : List Key) (s : BlockLayer.State) (k : Key) :
    (ks.foldl (fun block k => BlockLayer.purge k block) s).block2Receive.contains k = true ↔
      s.block2Receive.contains k = true ∧ k ∉ ks := by
  induction ks generalizing s with
  | nil => simp
  | cons k' ks ih =>
    have herase : (BlockLayer.purge k' s).block2Receive.contains k =
        (!decide (k = k') && s.block2Receive.contains k) := Dict.contains_erase _ _ _
    rw [List.foldl_cons, ih, herase, List.mem_cons, not_or]
    simp only [Bool.and_eq_true, Bool.not_eq_true', decide_eq_false_iff_not]
    constructor
    · rintro ⟨⟨hne, hcontains⟩, hnot⟩
      exact ⟨hcontains, hne, hnot⟩
    · rintro ⟨hcontains, hne, hnot⟩
      exact ⟨⟨hne, hcontains⟩, hnot⟩

section
variable (timeoutTime now : ℚ) (n : Node)

theorem get?_kept (table : Dict Key ℕ) (k : Key) (tid : ℕ) :
    (table.keep (keepsKey n.message.heap timeoutTime now table)).get? k = some tid ↔
      table.get? k = some tid ∧ expired n.message.heap timeoutTime now tid = false := by
  rw [Dict.get?_keep]
  unfold keepsKey
  cases hget : table.get? k with
  | none => simp
  | some tid' =>
    dsimp only
    rw [Option.some.injEq]
    constructor
    · intro h
      split_ifs at h with hlive
      cases h
      exact ⟨rfl, by simpa using hlive⟩
    · rintro ⟨rfl, hlive⟩
      simp [hlive]

theorem mem_dropped (k : Key) :
    k ∈ (MessageLayer.purge timeoutTime now n.message).1 ↔
      ∃ tid, n.message.transactionsToken.get? k = some tid ∧
        expired n.message.heap timeoutTime now tid = true := by
  unfold MessageLayer.purge
  dsimp only
  rw [List.mem_filter]
  unfold keepsKey
  constructor
  · rintro ⟨-, hkeep⟩
    cases hget : n.message.transactionsToken.get? k with
    | none => simp [hget] at hkeep
    | some tid =>
      rw [hget] at hkeep
      refine ⟨tid, rfl, ?_⟩
      simpa using hkeep
  · rintro ⟨tid, hget, hexpired⟩
    refine ⟨List.mem_map.mpr ⟨(k, tid), (Dict.mem_entries_iff _ _ _).mpr hget, rfl⟩, ?_⟩
    rw [hget]
    simp [hexpired]

theorem used_purge (k : Key) :
    Used timeoutTime now (purge timeoutTime now n) k ↔ Used timeoutTime now n k := by
  refine exists_congr fun tid => ?_
  change ((n.message.transactionsToken.keep _).get? k = some tid ∨ _) ∧ _ ↔ _
  rw [get?_kept]
  constructor
  · rintro ⟨hget | hget, hlive⟩
    · exact ⟨Or.inl hget.1, hlive⟩
    · exact ⟨Or.inr hget, hlive⟩
  · rintro ⟨hget | hget, hlive⟩
    · exact ⟨Or.inl ⟨hget, hlive⟩, hlive⟩
    · exact ⟨Or.inr hget, hlive⟩

theorem clean_purge_iff :
    Clean timeoutTime now (purge timeoutTime now n) ↔ Ready timeoutTime now n := by
  obtain ⟨hblock1Receive, hblock1Sent, hblock2Sent⟩ :=
    blockPurge_tables (MessageLayer.purge timeoutTime now n.message).1 n.block
  have hused := used_purge timeoutTime now n
  constructor
  · intro h
    refine ⟨⟨h.transactionsSent, h.transactionsSentToken⟩, ?_, ?_⟩
    · rintro k (hk | hk | hk)
      · exact (hused k).mp (h.block1Receive k (by rw [← hblock1Receive] at hk; exact hk))
      · exact (hused k).mp (h.block1Sent k (by rw [← hblock1Sent] at hk; exact hk))
      · exact (hused k).mp (h.block2Sent k (by rw [← hblock2Sent] at hk; exact hk))
    · intro k hk
      by_cases hdropped : k ∈ (MessageLayer.purge timeoutTime now n.message).1
      · obtain ⟨tid, hget, -⟩ := (mem_dropped timeoutTime now n k).mp hdropped
        refine Or.inl ?_
        unfold Dict.contains
        rw [hget]
        rfl
      · exact Or.inr ((hused k).mp
          (h.block2Receive k ((blockPurge_contains _ n.block k).mpr ⟨hk, hdropped⟩)))
  · intro h
    refine ⟨?_, ?_, h.own.1, h.own.2, ?_, ?_, ?_, ?_⟩
    · exact fun k tid hget => ((get?_kept timeoutTime now n _ k tid).mp hget).2
    · exact fun k tid hget => ((get?_kept timeoutTime now n _ k tid).mp hget).2
    · intro k hk
      exact (hused k).mpr (h.ongoing k (Or.inl (by rw [← hblock1Receive]; exact hk)))
    · intro k hk
      obtain ⟨hbefore, hkept⟩ := (blockPurge_contains _ n.block k).mp hk
      refine (hused k).mpr ?_
      rcases h.served k hbefore with hstored | hlive
      · -- the transaction that is stored under the key has not been dropped
        obtain ⟨tid, hget⟩ := Option.isSome_iff_exists.mp hstored
        refine ⟨tid, Or.inl hget, ?_⟩
        cases hexpired : expired n.message.heap timeoutTime now tid with
        | false => rfl
        | true => exact absurd ((mem_dropped timeoutTime now n k).mpr ⟨tid, hget, hexpired⟩) hkept
      · exact hlive
    · intro k hk
      exact (hused k).mpr (h.ongoing k (Or.inr (Or.inl (by rw [← hblock1Sent]; exact hk))))
    · intro k hk
      exact (hused k).mpr (h.ongoing k (Or.inr (Or.inr (by rw [← hblock2Sent]; exact hk))))

end

/-- After every purge of the run the tables are clean. -/
def PurgesClean (startingMid : ℕ) (events : List Event) : Prop :=
  ∀ pre timeoutTime now post, events = pre ++ .purge timeoutTime now :: post →
    Clean timeoutTime now (run step (Node.new startingMid) (pre ++ [.purge timeoutTime now]))

/-- Every purge of a run leaves clean tables, exactly if each finds a state that is ready for it. -/
theorem purgesClean_iff (startingMid : ℕ) (events : List Event) :
    PurgesClean startingMid events ↔
      ∀ pre timeoutTime now post, events = pre ++ .purge timeoutTime now :: post →
        Ready timeoutTime now (run step (Node.new startingMid) pre) := by
  refine forall_congr' fun pre => forall_congr' fun timeoutTime => forall_congr' fun now =>
    forall_congr' fun post => forall_congr' fun _ => ?_
  rw [run_concat]
  exact clean_purge_iff timeoutTime now (run step (Node.new startingMid) pre)

section OwnRequests

/-- The tables of own requests are as they were, and so is the time of each transaction. -/
structure LeavesOwn (s s' : MessageLayer.State) : Prop where
  sent : s'.transactionsSent = s.transactionsSent
  token : s'.transactionsSentToken = s.transactionsSentToken
  next : s.heap.next ≤ s'.heap.next
  timestamp : ∀ tid < s.heap.next, (s'.heap.cell tid).timestamp = (s.heap.cell tid).timestamp

theorem LeavesOwn.refl (s : MessageLayer.State) : LeavesOwn s s :=
  ⟨rfl, rfl, Nat.le_refl _, fun _ _ => rfl⟩

theorem LeavesOwn.trans (s t u : MessageLayer.State) (h : LeavesOwn s t) (h' : LeavesOwn t u) :
    LeavesOwn s u where
  sent := h'.sent.trans h.sent
  token := h'.token.trans h.token
  next := h.next.trans h'.next
  timestamp := fun tid htid =>
    (h'.timestamp tid (htid.trans_le h.next)).trans (h.timestamp tid htid)

theorem leavesOwn_update (s : MessageLayer.State) (tid : ℕ) (f : Transaction → Transaction)
    (h : (f (s.heap.cell tid)).timestamp = (s.heap.cell tid).timestamp) :
    LeavesOwn s (s.update tid f) := by
  refine ⟨rfl, rfl, Nat.le_refl _, fun i _ => ?_⟩
  by_cases hi : i = tid
  · subst hi
    rw [update_cell_self, h]
  · exact congrArg Transaction.timestamp (Heap.set_cell_of_ne _ _ _ _ hi)

theorem leavesOwn_receiveRequest (now : ℚ) (request : Message) (s : MessageLayer.State) :
    LeavesOwn s (MessageLayer.receiveRequest now request s).2 := by
  unfold MessageLayer.receiveRequest
  split
  · exact LeavesOwn.refl s
  · split
    · refine leavesOwn_update s _ _ ?_
      rfl
    · dsimp only
      unfold storeRequest
      split
      · next tid _ =>
        have hupdated := leavesOwn_update s tid
          (fun t => { t with request := { request with timestamp := some now } }) rfl
        exact ⟨rfl, rfl, hupdated.next, hupdated.timestamp⟩
      · refine ⟨rfl, rfl, Nat.le_succ _, fun tid htid => ?_⟩
        exact congrArg Transaction.timestamp
          (Heap.alloc_cell_of_ne s.heap tid _ (Nat.ne_of_lt htid))

theorem leavesOwn_setResponseMid (tid : ℕ) (response : Message) (s : MessageLayer.State) :
    LeavesOwn s (setResponseMid tid response s).2 := by
  unfold setResponseMid
  split
  · exact LeavesOwn.refl s
  · dsimp only
    split
    · exact ⟨rfl, rfl, Nat.le_refl _, fun _ _ => rfl⟩
    · next response' _ =>
      have hupdated := leavesOwn_update (fetchMid s).2 tid
        (fun t => { t with response := some response' }) rfl
      split <;> exact ⟨rfl, rfl, hupdated.next, hupdated.timestamp⟩

theorem leavesOwn_sendResponse (rng : Bytes) (tid : ℕ) (s : MessageLayer.State) :
    LeavesOwn s (MessageLayer.sendResponse rng tid s).2 := by
  unfold MessageLayer.sendResponse
  split
  · exact leavesOwn_update s tid (fun t => { t with completed := true }) rfl
  · split
    · exact LeavesOwn.refl s
    · next response completed _ =>
      have hupdated := leavesOwn_update s tid
        (fun t => { t with response := some response, completed := completed }) rfl
      have hmid := leavesOwn_setResponseMid tid response
        (s.update tid fun t => { t with response := some response, completed := completed })
      dsimp only
      split
      · next heq =>
        rw [heq] at hmid
        exact hupdated.trans _ _ _ hmid
      · next heq =>
        rw [heq] at hmid
        exact (hupdated.trans _ _ _ hmid).trans _ _ _ 
          (leavesOwn_update _ tid acknowledgeRequest rfl)

theorem leavesOwn_receiveResponse (response : Message) (s : MessageLayer.State) :
    LeavesOwn s (MessagePairing.receiveResponse response s).2 := by
  unfold MessagePairing.receiveResponse
  split
  · exact LeavesOwn.refl s
  · split
    · exact LeavesOwn.refl s
    · split
      · exact LeavesOwn.refl s
      · next tid _ =>
        exact leavesOwn_update s tid
          (fun t => { acknowledgeRequest t with completed := true, response := some response }) rfl

theorem pairEmpty_timestamp (type : Option MsgType) (t t' : Transaction)
    (h : pairEmpty type t = .ok t') : t'.timestamp = t.timestamp := by
  unfold pairEmpty at h
  split at h
  · split at h
    · cases h
      rfl
    · split at h
      · cases h
        rfl
      · split at h <;> cases h <;> rfl
  · split at h
    · cases h
      rfl
    · split at h
      · cases h
      · split at h <;> cases h <;> rfl
  · cases h
    rfl
  · cases h
    rfl

theorem leavesOwn_receiveEmpty (ipv6 : Text → Bool) (message : Message)
    (s : MessageLayer.State) : LeavesOwn s (MessagePairing.receiveEmpty ipv6 message s).2 := by
  unfold MessagePairing.receiveEmpty
  split
  · exact LeavesOwn.refl s
  · split
    · exact LeavesOwn.refl s
    · split
      · exact LeavesOwn.refl s
      · next tid _ _ t ht =>
        exact leavesOwn_update s tid (fun _ => t) (pairEmpty_timestamp _ _ _ ht)

theorem leavesOwn_onTransaction {α : Type} (tid : ℕ)
    (x : Action PyErr (BlockLayer.State × Transaction) α) (n : Node)
    (h : ∀ s t, (x (s, t)).2.2.timestamp = t.timestamp) :
    LeavesOwn n.message (onTransaction tid x n).message :=
  leavesOwn_update n.message tid (fun _ => (x (n.block, n.message.heap.cell tid)).2.2) (h _ _)

theorem leavesOwn_step (n : Node) (e : Event)
    (h : ∀ now rng request, e ≠ .sendRequest now rng request) :
    LeavesOwn n.message (step n e).message := by
  cases e with
  | receiveRequest now request => exact leavesOwn_receiveRequest now request n.message
  | sendResponse rng tid => exact leavesOwn_sendResponse rng tid n.message
  | sendRequest now rng request => exact absurd rfl (h now rng request)
  | receiveResponse response => exact leavesOwn_receiveResponse response n.message
  | receiveEmpty ipv6 message => exact leavesOwn_receiveEmpty ipv6 message n.message
  | blockReceiveRequest rng tid =>
    exact leavesOwn_onTransaction tid _ n (timestamp_receiveRequest rng)
  | blockReceiveResponse rng tid =>
    exact leavesOwn_onTransaction tid _ n (timestamp_receiveResponse rng)
  | blockSendResponse tid => exact leavesOwn_onTransaction tid _ n timestamp_sendResponse
  | blockSendRequest request => exact LeavesOwn.refl _
  | touch tid f =>
    exact leavesOwn_update n.message tid (fun t => { f t with timestamp := t.timestamp }) rfl
  | purge timeoutTime now => exact ⟨rfl, rfl, Nat.le_refl _, fun _ _ => rfl⟩

/-- The own requests that are stored under a token were sent no later than `latest`. -/
def SentBy (latest : ℚ) (s : MessageLayer.State) : Prop :=
  ∀ k tid, s.transactionsSentToken.get? k = some tid →
    tid < s.heap.next ∧ (s.heap.cell tid).timestamp ≤ latest

theorem SentBy.leaves (latest : ℚ) (s s' : MessageLayer.State) (h : SentBy latest s)
    (hleaves : LeavesOwn s s') : SentBy latest s' := by
  intro k tid hget
  rw [hleaves.token] at hget
  obtain ⟨hlt, htime⟩ := h k tid hget
  exact ⟨hlt.trans_le hleaves.next, (hleaves.timestamp tid hlt).le.trans htime⟩

/-- Sending a request stores its transaction under a token, and drops none. -/
structure StoresOwn (now : ℚ) (s : MessageLayer.State) (result : Except PyErr ℕ)
    (s' : MessageLayer.State) : Prop where
  keeps : ∀ k, s.transactionsSentToken.contains k = true →
    s'.transactionsSentToken.contains k = true
  stored : ∀ tid, result = .ok tid → ∃ k, s'.transactionsSentToken.contains k = true
  sentBy : ∀ latest, now ≤ latest → SentBy latest s → SentBy latest s'

theorem storesOwn_of_leaves (now : ℚ) (s s' : MessageLayer.State) (e : PyErr)
    (h : LeavesOwn s s') : StoresOwn now s (.error e) s' where
  keeps := fun k hk => h.token ▸ hk
  stored := fun tid htid => by cases htid
  sentBy := fun latest _ hsent => hsent.leaves latest s s' h

theorem storeSent_storesOwn (tid : ℕ) (request : Message) (address : Address)
    (s s' : MessageLayer.State) (h : LeavesOwn s s') (htid : tid < s'.heap.next) :
    StoresOwn (s'.heap.cell tid).timestamp s (storeSent tid request address s').1
      (storeSent tid request address s').2 := by
  have hinsert : ∀ (k : Key) (u : MessageLayer.State), u.heap = s'.heap →
      u.transactionsSentToken = s'.transactionsSentToken.insert k tid →
      StoresOwn (s'.heap.cell tid).timestamp s (.ok tid) u := by
    intro k u hheap htable
    rw [h.token] at htable
    refine ⟨fun k' hk' => ?_, fun _ _ => ⟨k, ?_⟩, fun latest hnow hsent k' tid' hget => ?_⟩
    · rw [htable, Dict.contains_insert, hk', Bool.or_true]
    · rw [htable, Dict.contains_insert, decide_eq_true rfl, Bool.true_or]
    · rw [htable, Dict.get?_insert] at hget
      rw [hheap]
      split at hget
      · cases hget
        exact ⟨htid, hnow⟩
      · rw [← h.token] at hget
        exact hsent.leaves latest s s' h k' tid' hget
  unfold storeSent
  split
  · split
    · exact storesOwn_of_leaves _ s s' _ h
    · exact hinsert _ _ rfl rfl
  · exact hinsert _ _ rfl rfl

theorem sendRequest_storesOwn (now : ℚ) (rng : Bytes) (request : Message)
    (s : MessageLayer.State) :
    StoresOwn now s (MessagePairing.sendRequest now rng request s).1
      (MessagePairing.sendRequest now rng request s).2 := by
  unfold MessagePairing.sendRequest
  split
  · exact storesOwn_of_leaves now s s _ (LeavesOwn.refl s)
  · split
    · exact storesOwn_of_leaves now s s _ (LeavesOwn.refl s)
    · next address _ =>
      obtain ⟨mid, hstate⟩ := completeRequest_state s rng { request with timestamp := some now }
      split
      · next e s' heq =>
        rw [heq] at hstate
        change s' = _ at hstate
        subst hstate
        exact storesOwn_of_leaves now s _ e ⟨rfl, rfl, Nat.le_refl _, fun _ _ => rfl⟩
      · next completed s' heq =>
        rw [heq] at hstate
        change s' = _ at hstate
        subst hstate
        have hstored := storeSent_storesOwn s.heap.next completed address s
          { s with
            currentMid := mid
            heap := (s.heap.alloc (Transaction.new completed now)).2 }
          ⟨rfl, rfl, Nat.le_succ _, fun tid htid => congrArg Transaction.timestamp
            (Heap.alloc_cell_of_ne s.heap tid _ (Nat.ne_of_lt htid))⟩ (Nat.lt_succ_self _)
        rw [Heap.alloc_cell_self] at hstored
        exact hstored

/-- No step takes an own request out of the table of tokens. -/
theorem keepsOwn_step (n : Node) (e : Event) (k : Key)
    (h : n.message.transactionsSentToken.contains k = true) :
    (step n e).message.transactionsSentToken.contains k = true := by
  by_cases hsends : ∃ now rng request, e = .sendRequest now rng request
  · obtain ⟨now, rng, request, rfl⟩ := hsends
    exact (sendRequest_storesOwn now rng request n.message).keeps k h
  · have hleaves := leavesOwn_step n e fun now rng request he => hsends ⟨now, rng, request, he⟩
    rw [hleaves.token]
    exact h

theorem keepsOwn_run (n : Node) (events : List Event) (k : Key)
    (h : n.message.transactionsSentToken.contains k = true) :
    (run step n events).message.transactionsSentToken.contains k = true := by
  induction events generalizing n with
  | nil => exact h
  | cons e events ih => exact ih (step n e) (keepsOwn_step n e k h)

theorem sentBy_run (latest : ℚ) (startingMid : ℕ) (events : List Event)
    (h : ∀ now rng request, Event.sendRequest now rng request ∈ events → now ≤ latest) :
    SentBy latest (run step (Node.new startingMid) events).message := by
  refine run_induction step (fun _ n => SentBy latest n.message) _ events ?_ ?_
  · intro k tid hget
    cases hget
  · intro pre e post hsplit hsent
    by_cases hsends : ∃ now rng request, e = .sendRequest now rng request
    · obtain ⟨now, rng, request, rfl⟩ := hsends
      refine (sendRequest_storesOwn now rng request _).sentBy latest (h now rng request ?_) hsent
      rw [hsplit]
      exact List.mem_append_right pre List.mem_cons_self
    · exact hsent.leaves latest _ _
        (leavesOwn_step _ e fun now rng request he => hsends ⟨now, rng, request, he⟩)

/-- Once a request of the node's own has been sent, the tables are clean only as long as purges
come within their time-out after the last such request. -/
theorem not_purgesClean_late (startingMid : ℕ) (pre between post : List Event) (sent : ℚ)
    (rng : Bytes) (request : Message) (tid : ℕ) (latest timeoutTime now : ℚ)
    (hsent : (MessagePairing.sendRequest sent rng request
      (run step (Node.new startingMid) pre).message).1 = .ok tid)
    (hlatest : ∀ sent' rng' request', Event.sendRequest sent' rng' request' ∈
      pre ++ .sendRequest sent rng request :: between → sent' ≤ latest)
    (hlate : latest + timeoutTime < now) :
    ¬ PurgesClean startingMid
      ((pre ++ .sendRequest sent rng request :: between) ++ .purge timeoutTime now :: post) := by
  intro hclean
  have hfresh := (((purgesClean_iff startingMid _).mp hclean) _ timeoutTime now post rfl).own.2
  obtain ⟨k, hk⟩ := (sendRequest_storesOwn sent rng request _).stored tid hsent
  have hkept := keepsOwn_run (step (run step (Node.new startingMid) pre)
    (.sendRequest sent rng request)) between k hk
  rw [← run_cons, ← run_append] at hkept
  obtain ⟨i, hi⟩ := Option.isSome_iff_exists.mp hkept
  obtain ⟨-, htime⟩ := sentBy_run latest startingMid _ hlatest k i hi
  have hexpired := hfresh k i hi
  rw [expired, Bool.or_eq_false_iff, decide_eq_false_iff_not] at hexpired
  exact hexpired.1 ((add_le_add_left htime timeoutTime).trans_lt hlate)

/-- Neither a request of the node's own nor a block. -/
def Serves : Event → Prop
  | .sendRequest .. | .blockReceiveRequest .. | .blockReceiveResponse .. | .blockSendResponse ..
  | .blockSendRequest .. => False
  | _ => True

structure Unused (n : Node) : Prop where
  sent : n.message.transactionsSent = Dict.empty
  token : n.message.transactionsSentToken = Dict.empty
  block : n.block = BlockLayer.State.new

theorem blockPurge_new (ks : List Key) :
    ks.foldl (fun block k => BlockLayer.purge k block) BlockLayer.State.new =
      BlockLayer.State.new := by
  induction ks with
  | nil => rfl
  | cons k ks ih => exact ih

theorem unused_step (n : Node) (e : Event) (h : Serves e) (hunused : Unused n) :
    Unused (step n e) := by
  have hleaves := leavesOwn_step n e (by rintro now rng request rfl; exact h)
  refine ⟨hleaves.sent.trans hunused.sent, hleaves.token.trans hunused.token, ?_⟩
  cases e with
  | purge timeoutTime now =>
    change List.foldl _ n.block _ = _
    rw [hunused.block]
    exact blockPurge_new _
  | receiveRequest => exact hunused.block
  | sendResponse => exact hunused.block
  | receiveResponse => exact hunused.block
  | receiveEmpty => exact hunused.block
  | touch => exact hunused.block
  | _ => exact h.elim

/-- A node that only answers requests, without blocks, always has clean tables after a purge. -/
theorem purgesClean_of_serves (startingMid : ℕ) (events : List Event)
    (h : ∀ e ∈ events, Serves e) : PurgesClean startingMid events := by
  refine (purgesClean_iff startingMid events).mpr ?_
  rintro pre timeoutTime now post rfl
  have hunused : Unused (run step (Node.new startingMid) pre) := by
    refine run_induction step (fun _ n => Unused n) _ pre ⟨rfl, rfl, rfl⟩ ?_
    rintro pre' e post' rfl hunused
    exact unused_step _ e (h e (by simp)) hunused
  refine ⟨⟨fun k tid hget => ?_, fun k tid hget => ?_⟩, fun k hk => ?_, fun k hk => ?_⟩
  · rw [hunused.sent] at hget
    cases hget
  · rw [hunused.token] at hget
    cases hget
  · rw [hunused.block] at hk
    rcases hk with hk | hk | hk <;> cases hk
  · rw [hunused.block] at hk
    cases hk

end OwnRequests

def sampleRequest : Message :=
  { Message.new .request with
    destination := some (['s'], 2)
    source := some (['c'], 1)
    token := some [1]
    type := some .CON
    mid := some 7 }

def sampleResponse : Message :=
  { Message.new .response with
    source := some (['s'], 2)
    destination := some (['c'], 1)
    token := some [1]
    type := some .ACK
    mid := some 7
    code := some 69 }

/-- A request of the node is sent and answered, and its transaction is still there after a purge. -/
theorem not_purgesClean_answered :
    ¬ ∀ (startingMid : ℕ) (events : List Event), PurgesClean startingMid events := by
  intro h
  have hclean := h 1 [.sendRequest 0 [] sampleRequest, .receiveResponse sampleResponse,
    .purge exchangeLifetime 1] [.sendRequest 0 [] sampleRequest, .receiveResponse sampleResponse]
    exchangeLifetime 1 [] rfl
  have hfresh := hclean.transactionsSentToken (key (['s'], 2) (tokenArg (some [1]))) 0
    (by decide +kernel)
  exact absurd hfresh (by decide +kernel)

end BubotCoap.Purging
