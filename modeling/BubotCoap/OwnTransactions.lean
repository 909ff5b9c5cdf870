import BubotCoap.FreshExecution
import BubotCoap.MessageTables
import BubotCoap.ServerMoves

set_option autoImplicit false

namespace BubotCoap.OwnTransactions
open PythonData Defines Utils Messages OrderedDict Transactions Resources MessageLayer
  MessageTables ObserveLayer Server FallibleState

variable {ω : Type}

/-- The relations are those of received requests, or have no transaction. -/
def Observes (served : List ℕ) (relations : Relations) : Prop :=
  ∀ k item i, relations.get? k = some item → item.transaction = some i → i ∈ served

theorem observes_insert (served : List ℕ) (relations : Relations) (k : Key) (item : ObserveItem)
    (h : Observes served relations) (hitem : ∀ i, item.transaction = some i → i ∈ served) :
    Observes served (relations.insert k item) := by
  intro k' item' i hk' hi
  by_cases heq : k' = k
  · rw [heq, Dict.get?_insert_self] at hk'
    cases hk'
    exact hitem i hi
  · rw [Dict.get?_insert_of_ne relations item heq] at hk'
    exact h k' item' i hk' hi

theorem observes_erase (served : List ℕ) (relations : Relations) (k : Key)
    (h : Observes served relations) : Observes served (relations.erase k) := by
  intro k' item i hk' hi
  rw [Dict.get?_erase] at hk'
  split at hk'
  · cases hk'
  · exact h k' item i hk' hi

section ObserveLayer
variable (served : List ℕ)

theorem observes_receiveRequest (now : ℚ) (tid : ℕ) (request : Message) (relations : Relations)
    (h : Observes served relations) (hmem : tid ∈ served) :
    Observes served (ObserveLayer.receiveRequest now tid request relations).2 := by
  unfold ObserveLayer.receiveRequest
  split
  · split
    · exact h
    · refine observes_insert served relations _ _ h fun i hi => ?_
      cases hi
      exact hmem
  · split
    · split
      · exact h
      · exact observes_erase served relations _ h
    · exact h

theorem observes_sendResponse (now : ℚ) (tid : ℕ) (counter : Option ℕ) (relations : Relations)
    (t : Transaction) (h : Observes served relations) (hmem : tid ∈ served) :
    Observes served (ObserveLayer.sendResponse now tid counter (relations, t)).2.1 := by
  unfold ObserveLayer.sendResponse
  dsimp only
  split
  · exact h
  · split
    · exact h
    · split
      · exact h
      · split
        · split
          · exact observes_erase served relations _ h
          · split
            · exact h
            · refine observes_insert served relations _ _ h fun i hi => ?_
              cases hi
              exact hmem
        · split
          · exact h
          · split
            · exact observes_erase served relations _ h
            · exact h

/-- The transactions that are not served are left alone by notifications. -/
structure Spares (state state' : Relations × Heap) : Prop where
  observes : Observes served state.1 → Observes served state'.1
  cell : Observes served state.1 → ∀ i, i ∉ served → state'.2.cell i = state.2.cell i
  next : state'.2.next = state.2.next

theorem Spares.refl (state : Relations × Heap) : Spares served state state :=
  ⟨id, fun _ _ _ => rfl, rfl⟩

theorem Spares.trans (s t u : Relations × Heap) (h : Spares served s t) (h' : Spares served t u) :
    Spares served s u where
  observes := fun hs => h'.observes (h.observes hs)
  cell := fun hs i hi => (h'.cell (h.observes hs) i hi).trans (h.cell hs i hi)
  next := h'.next.trans h.next

theorem notifyItem_spares (resource : ℕ) (k : Key) (item : ObserveItem)
    (state : Relations × Heap) (hitem : state.1.get? k = some item) :
    Spares served state (notifyItem resource k item state).2 := by
  obtain ⟨relations, heap⟩ := state
  have hcounted : ∀ nonCounter, Observes served relations →
      Observes served (relations.insert k { item with nonCounter := nonCounter }) :=
    fun _ h => observes_insert served relations k _ h fun i hi => h k item i hitem hi
  unfold notifyItem
  cases htid : item.transaction with
  | none => exact Spares.refl served _
  | some tid =>
    dsimp only
    split
    · cases notificationType item.nonCounter (heap.cell tid).request.type with
      | error e => exact Spares.refl served _
      | ok result =>
        obtain ⟨type, nonCounter⟩ := result
        dsimp only
        cases (heap.cell tid).response with
        | none =>
          dsimp only
          split
          · exact ⟨htid ▸ hcounted nonCounter, fun _ _ _ => rfl, rfl⟩
          · exact Spares.refl served _
        | some response =>
          refine ⟨htid ▸ hcounted nonCounter, fun h i hi => ?_, rfl⟩
          have hmem := h k item tid hitem htid
          refine Heap.set_cell_of_ne heap tid i _ ?_
          rintro rfl
          exact hi hmem
    · exact Spares.refl served _

theorem notifyKeys_spares (resource : ℕ) (ks : List Key) (state : Relations × Heap) :
    Spares served state (notifyKeys resource ks state).2 := by
  induction ks generalizing state with
  | nil => exact Spares.refl served _
  | cons k ks ih =>
    obtain ⟨relations, heap⟩ := state
    unfold notifyKeys
    dsimp only
    cases hitem : relations.get? k with
    | none => exact Spares.refl served _
    | some item =>
      dsimp only
      have hfirst := notifyItem_spares served resource k item (relations, heap) hitem
      rw [Action.bind_apply]
      generalize notifyItem resource k item (relations, heap) = r at hfirst
      obtain ⟨result, state'⟩ := r
      cases result with
      | error e => exact hfirst
      | ok first =>
        refine hfirst.trans served _ _ _ ?_
        have hrest := ih state'
        dsimp only
        rw [Action.bind_apply]
        generalize notifyKeys resource ks state' = r at hrest
        obtain ⟨result, state''⟩ := r
        cases result <;> exact hrest

end ObserveLayer

/-- The tables lead to the transactions `served` and `own`, and of the latter nothing has changed
since `m`. -/
structure Guarded (served own : List ℕ) (m : MessageLayer.State) (s : Server.State ω) : Prop where
  leads : Leads served own s.message
  observes : Observes served s.observe
  next : s.message.heap.next = m.heap.next
  sent : s.message.transactionsSent = m.transactionsSent
  sentToken : s.message.transactionsSentToken = m.transactionsSentToken
  cell : ∀ i ∈ own, s.message.heap.cell i = m.heap.cell i

section Processing
variable (served own : List ℕ) (m : MessageLayer.State) (tid : ℕ) (hmem : tid ∈ served)
  (hdisjoint : ∀ i ∈ served, i ∉ own)

/-- The action guards the node's own transactions. -/
abbrev Guards {α : Type} (x : Action Stop (Server.State ω) α) : Prop :=
  Action.Moves (fun s s' => Guarded served own m s → Guarded served own m s') x

theorem guarded_congr (s s' : Server.State ω) (hmessage : s'.message = s.message)
    (hobserve : s'.observe = s.observe) (h : Guarded served own m s) : Guarded served own m s' := by
  refine ⟨?_, ?_, ?_, ?_, ?_, ?_⟩
  · rw [hmessage]
    exact h.leads
  · rw [hobserve]
    exact h.observes
  · rw [hmessage]
    exact h.next
  · rw [hmessage]
    exact h.sent
  · rw [hmessage]
    exact h.sentToken
  · rw [hmessage]
    exact h.cell

include hmem hdisjoint

theorem guarded_setTransaction (s : Server.State ω) (t : Transaction)
    (h : Guarded served own m s) : Guarded served own m (s.setTransaction tid t) := by
  refine ⟨⟨h.leads.transactions, h.leads.transactionsToken, h.leads.transactionsSent,
    h.leads.transactionsSentToken⟩, h.observes, h.next, h.sent, h.sentToken, fun i hi => ?_⟩
  refine (Heap.set_cell_of_ne s.message.heap tid i t ?_).trans (h.cell i hi)
  rintro rfl
  exact hdisjoint _ hmem hi

theorem guards_respond (rng : Bytes) :
    Guards served own m (onMessage (MessageLayer.sendResponse rng tid) :
      Action Stop (Server.State ω) _) := by
  intro s h
  have hleads := leads_sendResponse served own s.message rng tid h.leads hmem
  have htables : ((MessageLayer.sendResponse rng tid s.message).2.transactionsSent =
        s.message.transactionsSent) ∧
      (MessageLayer.sendResponse rng tid s.message).2.transactionsSentToken =
        s.message.transactionsSentToken := by
    refine sendResponse_frame tid (fun s s' => s'.transactionsSent = s.transactionsSent ∧
      s'.transactionsSentToken = s.transactionsSentToken) ?_ ?_ ?_ ?_ ?_ rng s.message
    · exact fun _ => ⟨rfl, rfl⟩
    · exact fun _ _ _ h h' => ⟨h'.1.trans h.1, h'.2.trans h.2⟩
    · exact fun _ => ⟨rfl, rfl⟩
    · exact fun _ _ => ⟨rfl, rfl⟩
    · exact fun _ _ => ⟨rfl, rfl⟩
  refine ⟨hleads.1, h.observes, hleads.2.trans h.next, htables.1.trans h.sent,
    htables.2.trans h.sentToken, fun i hi => ?_⟩
  refine (sendResponse_cell i rng tid s.message ?_).trans (h.cell i hi)
  rintro rfl
  exact hdisjoint _ hmem hi

omit hmem in
theorem guards_notify (rid : ℕ) :
    Guards served own m (onHeap (ObserveLayer.notify rid) : Action Stop (Server.State ω) _) := by
  intro s h
  have hspares := notifyKeys_spares served rid (s.observe.entries.map Prod.fst)
    (s.observe, s.message.heap)
  refine ⟨⟨h.leads.transactions, h.leads.transactionsToken, h.leads.transactionsSent,
    h.leads.transactionsSentToken⟩, hspares.observes h.observes, hspares.next.trans h.next, h.sent,
    h.sentToken, fun i hi => ?_⟩
  exact (hspares.cell h.observes i fun hserved => hdisjoint i hserved hi).trans (h.cell i hi)

theorem guards_steps (handlers : Handlers ω) (rng : Bytes) (now : ℚ) :
    ServerMoves.Steps (fun s s' => Guarded served own m s → Guarded served own m s') handlers
      rng now tid where
  refl := fun _ h => h
  trans := fun _ _ _ h h' hs => h' (h hs)
  receiveBlock := fun s h => guarded_setTransaction served own m tid hmem hdisjoint _ _
    (guarded_congr served own m s _ rfl rfl h)
  register := fun s h => ⟨h.leads,
    observes_receiveRequest served now tid _ s.observe h.observes hmem, h.next, h.sent,
    h.sentToken, h.cell⟩
  execute := fun s h => guarded_setTransaction served own m tid hmem hdisjoint _ _
    (guarded_congr served own m s _ rfl rfl h)
  notify := guards_notify served own m hdisjoint
  mark := fun _ _ s h => guarded_congr served own m s _ rfl rfl h
  observe := fun counter s h => guarded_setTransaction served own m tid hmem hdisjoint _ _
    ⟨h.leads, observes_sendResponse served now tid counter s.observe (s.transaction tid) h.observes
      hmem, h.next, h.sent, h.sentToken, h.cell⟩
  sendBlock := fun s h => guarded_setTransaction served own m tid hmem hdisjoint _ _
    (guarded_congr served own m s _ rfl rfl h)
  respond := guards_respond served own m tid hmem hdisjoint rng
  log := fun s _ _ h => guarded_setTransaction served own m tid hmem hdisjoint s _ h
  send := fun s _ _ _ h => guarded_congr served own m s _ rfl rfl h
  lock := fun s h => guarded_congr served own m s _ rfl rfl h

theorem guards_sendAck : Guards served own m (sendAck tid : Action Stop (Server.State ω) Unit) := by
  intro s h
  unfold sendAck
  split
  · exact h
  · dsimp only
    split
    · have hack : Guards served own m (do
          let ack ← onMessage
            (MessageLayer.sendAckOfRequest tid { Message.new .message with type := some .ACK })
          if ack.type ≠ none ∧ ack.mid ≠ none then sendDatagram ⟨ack, false⟩ :
          Action Stop (Server.State ω) Unit) := by
        refine Action.Moves.andThen _ (fun _ _ _ h h' hs => h' (h hs)) _ _ ?_ fun ack => ?_
        · intro s h
          have hstate : (onMessage (MessageLayer.sendAckOfRequest tid
              { Message.new .message with type := some .ACK }) s).2 =
              s.setTransaction tid
                { acknowledgeRequest (s.transaction tid) with completed := true } := by
            refine congrArg (fun m => ({ s with message := m } : Server.State ω)) ?_
            unfold MessageLayer.sendAckOfRequest
            rw [Action.bind_ok _ (Action.modify_apply _ _), Action.bind_get, Action.bind_apply,
              Action.ofExcept_apply]
            cases Message.setMid _ _ with
            | error e => rfl
            | ok message =>
              dsimp only
              rw [Action.bind_apply, Action.ofExcept_apply]
              cases message.setCode (some Codes.empty) <;> rfl
          rw [hstate]
          exact guarded_setTransaction served own m tid hmem hdisjoint s _ h
        · split
          · exact fun s h => guarded_congr served own m s _ rfl rfl h
          · exact fun _ h => h
      exact hack s h
    · exact h

end Processing

/-- The transactions of received requests and those of the node's own requests. -/
structure Apart (served own : List ℕ) (s : Server.State ω) : Prop where
  leads : Leads served own s.message
  observes : Observes served s.observe
  disjoint : ∀ i ∈ served, i ∉ own
  served_lt : ∀ i ∈ served, i < s.message.heap.next
  own_lt : ∀ i ∈ own, i < s.message.heap.next

/-- What a node knows of its own requests is the same. -/
structure SameOwn (own : List ℕ) (m m' : MessageLayer.State) : Prop where
  next : m.heap.next ≤ m'.heap.next
  sent : m'.transactionsSent = m.transactionsSent
  sentToken : m'.transactionsSentToken = m.transactionsSentToken
  cell : ∀ i ∈ own, m'.heap.cell i = m.heap.cell i

theorem receiveRequest_same (own : List ℕ) (now : ℚ) (request : Message) (m : MessageLayer.State)
    (served : List ℕ) (hleads : Leads served own m) (hdisjoint : ∀ i ∈ served, i ∉ own)
    (hown : ∀ i ∈ own, i < m.heap.next) :
    SameOwn own m (MessageLayer.receiveRequest now request m).2 := by
  have hupdate : ∀ tid f, tid ∉ own → SameOwn own m (m.update tid f) := by
    intro tid f htid
    refine ⟨Nat.le_refl _, rfl, rfl, fun i hi => ?_⟩
    refine update_cell_of_ne i m tid f ?_
    rintro rfl
    exact htid hi
  unfold MessageLayer.receiveRequest
  split
  · exact ⟨Nat.le_refl _, rfl, rfl, fun _ _ => rfl⟩
  · next address _ =>
    split
    · next tid hduplicate =>
      refine hupdate tid _ (hdisjoint tid ?_)
      unfold duplicateOf at hduplicate
      split at hduplicate
      · exact hleads.transactionsToken _ _ hduplicate
      · split at hduplicate
        · cases hduplicate
        · split_ifs at hduplicate
          exact hleads.transactions _ _ hduplicate
    · dsimp only
      unfold storeRequest
      split
      · next tid hanswered =>
        have hmem : tid ∈ served := by
          unfold answered at hanswered
          split at hanswered
          · next i hi =>
            split at hanswered
            · cases hanswered
              exact hleads.transactionsToken _ _ hi
            · cases hanswered
          · cases hanswered
        have hsame := hupdate tid (fun t =>
          { t with request := { request with timestamp := some now } })
          (hdisjoint tid hmem)
        exact ⟨hsame.next, hsame.sent, hsame.sentToken, hsame.cell⟩
      · refine ⟨Nat.le_succ _, rfl, rfl, fun i hi => ?_⟩
        exact Heap.alloc_cell_of_ne m.heap i _ (Nat.ne_of_lt (hown i hi))

theorem datagramReceivedRequest_apart (handlers : Handlers ω) (rng : Bytes) (now : ℚ)
    (request : Message) (served own : List ℕ) (s : Server.State ω) (h : Apart served own s) :
    ∃ served', Apart served' own (datagramReceivedRequest handlers rng now request s).2 ∧
      SameOwn own s.message (datagramReceivedRequest handlers rng now request s).2.message := by
  have hsame := receiveRequest_same own now request s.message served h.leads h.disjoint h.own_lt
  unfold datagramReceivedRequest
  split
  · exact ⟨served, h, Nat.le_refl _, rfl, rfl, fun _ _ => rfl⟩
  · generalize hr : MessageLayer.receiveRequest now request s.message = r at hsame
    obtain ⟨result, m⟩ := r
    cases result with
    | error e =>
      have hm := receiveRequest_error s.message now request e m hr
      subst hm
      rw [Action.bind_error _ (ServerMoves.onMessage_refused now request s s.message e hr)]
      exact ⟨served, h, Nat.le_refl _, rfl, rfl, fun _ _ => rfl⟩
    | ok tid =>
      obtain ⟨hleads, htid⟩ := leads_receiveRequest served own s.message now request tid m
        h.leads hr
      have hmem : tid ∈ tid :: served := List.mem_cons_self
      have hdisjoint : ∀ i ∈ tid :: served, i ∉ own := by
        intro i hi
        rcases List.mem_cons.mp hi with rfl | hi
        · rcases htid with ⟨hold, _⟩ | ⟨hnew, _⟩
          · exact h.disjoint i hold
          · intro hown
            have hlt := h.own_lt i hown
            omega
        · exact h.disjoint i hi
      have hlt : ∀ i ∈ tid :: served, i < m.heap.next := by
        intro i hi
        rcases List.mem_cons.mp hi with rfl | hi
        · rcases htid with ⟨hold, hnext⟩ | ⟨hnew, hnext⟩
          · have hlt := h.served_lt i hold
            omega
          · omega
        · exact Nat.lt_of_lt_of_le (h.served_lt i hi) hsame.next
      have hguarded : Guarded (tid :: served) own m { s with message := m } := by
        refine ⟨hleads, ?_, rfl, rfl, rfl, fun _ _ => rfl⟩
        intro k item i hk hi
        exact List.mem_cons_of_mem tid (h.observes k item i hk hi)
      have hfinal : ∀ s' : Server.State ω, Guarded (tid :: served) own m s' →
          ∃ served', Apart served' own s' ∧ SameOwn own s.message s'.message := by
        intro s' hs'
        refine ⟨tid :: served, ⟨hs'.leads, hs'.observes, hdisjoint, ?_, ?_⟩, ?_, ?_, ?_, ?_⟩
        · rw [hs'.next]
          exact hlt
        · intro i hi
          rw [hs'.next]
          exact Nat.lt_of_lt_of_le (h.own_lt i hi) hsame.next
        · rw [hs'.next]
          exact hsame.next
        · exact hs'.sent.trans hsame.sent
        · exact hs'.sentToken.trans hsame.sentToken
        · exact fun i hi => (hs'.cell i hi).trans (hsame.cell i hi)
      apply hfinal
      rw [Action.bind_ok _ (ServerMoves.onMessage_received now request s tid m hr)]
      rcases ServerMoves.dispatch_cases tid m with ⟨response, _, hcase⟩ | hcase | hcase | hcase
      · rw [hcase]
        exact guarded_congr _ own m { s with message := m } _ rfl rfl hguarded
      · rw [hcase]
        exact hguarded
      · rw [hcase]
        exact guards_sendAck _ own m tid hmem hdisjoint _ hguarded
      · rw [hcase]
        exact ServerMoves.moves_receiveRequest (guards_steps _ own m tid hmem hdisjoint handlers rng
          now) _ hguarded

theorem purge_apart (now : ℚ) (served own : List ℕ) (s : Server.State ω) (h : Apart served own s) :
    Apart served own (Server.purge now s) ∧ SameOwn own s.message (Server.purge now s).message :=
  ⟨⟨⟨leadsTo_keep _ _ _ h.leads.transactions, leadsTo_keep _ _ _ h.leads.transactionsToken,
    h.leads.transactionsSent, h.leads.transactionsSentToken⟩, h.observes, h.disjoint, h.served_lt,
    h.own_lt⟩, Nat.le_refl _, rfl, rfl, fun _ _ => rfl⟩

end BubotCoap.OwnTransactions
