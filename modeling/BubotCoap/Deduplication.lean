import BubotCoap.CoapUdpProtocol
import BubotCoap.ExchangeKeys
import BubotCoap.Runs
import Mathlib.Tactic.Linarith

set_option autoImplicit false

namespace BubotCoap.Deduplication
open PythonData Defines Utils Messages OrderedDict Transactions MessageLayer CoapUdpProtocol Runs
  ExchangeKeys FallibleState

/-- What can happen to the layer. Other layers may change a transaction in any way but its
timestamp. -/
inductive Event where
  | receive (request : Message)
  | touch (tid : ℕ) (f : Transaction → Transaction)
  | sendResponse (rng : Bytes) (tid : ℕ)
  | purge

abbrev Timed := ℚ × Event

def step (s : State) (e : Timed) : State :=
  match e.2 with
  | .receive request => (receiveRequest e.1 request s).2
  | .touch tid f => s.update tid fun t => { f t with timestamp := t.timestamp }
  | .sendResponse rng tid => (sendResponse rng tid s).2
  | .purge => (purge exchangeLifetime e.1 s).2

/-- A unicast request as it comes off the wire. -/
structure Wire (request : Message) (address : Address) (mid : ℤ) : Prop where
  source : request.source = some address
  unicast : request.multicast = false
  id : request.mid = some mid
  id_le : mid ≤ 65535

theorem keyMid_wire (request : Message) (address : Address) (mid : ℤ)
    (h : Wire request address mid) : keyMid request address = key address (.int mid) := by
  simp [keyMid, h.unicast, h.id, midArg]

theorem receiveRequest_stored (now : ℚ) (request : Message) (address : Address) (mid : ℤ) (tid : ℕ)
    (s : State) (h : Wire request address mid) (hmid : mid ≠ 0)
    (hstored : s.transactions.get? (key address (.int mid)) = some tid) :
    receiveRequest now request s = (.ok tid, s.update tid markDuplicated) := by
  have hkey := keyMid_wire request address mid h
  have hdup : duplicateOf request address s = some tid := by
    simp only [duplicateOf, h.unicast, h.id, hkey, hstored, hmid, Bool.false_eq_true, if_false]
  unfold receiveRequest
  rw [h.source]
  dsimp only
  rw [hdup]

theorem dispatch_duplicated (tid : ℕ) (s : State)
    (h : (s.heap.cell tid).request.duplicated = true) (t : ℕ) :
    dispatch tid s ≠ .receiveRequest t := by
  unfold dispatch
  dsimp only
  rw [h]
  split_ifs with h₁ h₂
  · split <;> simp
  · simp
  · simp_all

theorem receiveRequest_isSome (now : ℚ) (request : Message) (address : Address) (mid : ℤ)
    (s : State) (h : Wire request address mid) :
    ((receiveRequest now request s).2.transactions.get? (key address (.int mid))).isSome := by
  have hkey := keyMid_wire request address mid h
  unfold receiveRequest
  rw [h.source]
  dsimp only
  split
  · next tid hdup =>
    rw [update_transactions, ← hkey]
    unfold duplicateOf at hdup
    rw [h.unicast, h.id] at hdup
    by_cases hmid : mid = 0
    · simp [hmid] at hdup
    · simp only [Bool.false_eq_true, if_false, hmid] at hdup
      rw [hdup]
      rfl
  · rw [storeRequest_transactions]
    change ((s.transactions.insert (keyMid request address) _).get? _).isSome
    rw [hkey, Dict.get?_insert_self]
    rfl

theorem isSome_insert (d : Dict Key ℕ) (k k' : Key) (tid : ℕ) (h : (d.get? k).isSome) :
    ((d.insert k' tid).get? k).isSome := by
  rw [Dict.get?_insert]
  split
  · rfl
  · exact h

theorem step_isSome (s : State) (e : Timed) (k : Key) (h : (s.transactions.get? k).isSome)
    (hpurge : e.2 = .purge → ∀ tid, s.transactions.get? k = some tid →
      expired s.heap exchangeLifetime e.1 tid = false) :
    ((step s e).transactions.get? k).isSome := by
  obtain ⟨now, event⟩ := e
  cases event with
  | receive request =>
    rcases receiveRequest_transactions now request s with heq | ⟨address, tid, _, heq⟩
    · change ((receiveRequest now request s).2.transactions.get? k).isSome
      rwa [heq]
    · change ((receiveRequest now request s).2.transactions.get? k).isSome
      rw [heq]
      exact isSome_insert _ _ _ _ h
  | touch tid f => exact h
  | sendResponse rng tid =>
    rcases sendResponse_transactions rng tid s with heq | ⟨k', _, heq⟩
    · change ((sendResponse rng tid s).2.transactions.get? k).isSome
      rwa [heq]
    · change ((sendResponse rng tid s).2.transactions.get? k).isSome
      rw [heq]
      exact isSome_insert _ _ _ _ h
  | purge =>
    obtain ⟨tid, htid⟩ := Option.isSome_iff_exists.mp h
    have hkeeps : keepsKey s.heap exchangeLifetime now s.transactions k = true := by
      rw [keepsKey, htid]
      simp only [Bool.not_eq_true']
      exact hpurge rfl tid htid
    change ((s.transactions.keep _).get? k).isSome
    rw [Dict.get?_keep, hkeeps]
    exact h

/-- A request that comes less than the lifetime of an exchange after one of the same source and
message id is found to be a duplicate and does not reach the request layer, unless a purge in
between came upon a transaction that was completed or older than the first request. -/
theorem second_request_duplicated (s : State) (between : List Timed) (a b : ℚ)
    (first second : Message) (address : Address) (mid : ℤ) (hfirst : Wire first address mid)
    (hsecond : Wire second address mid) (hmid : mid ≠ 0) (hclose : b - a < exchangeLifetime)
    (htimes : ∀ e ∈ between, e.1 ≤ b)
    (hpurge : ∀ pre now post, between = pre ++ (now, Event.purge) :: post →
      ∀ tid, (run step (step s (a, .receive first)) pre).transactions.get?
          (key address (.int mid)) = some tid →
        ((run step (step s (a, .receive first)) pre).heap.cell tid).completed = false ∧
        a ≤ ((run step (step s (a, .receive first)) pre).heap.cell tid).timestamp) :
    ∃ tid s' next,
      receiveRequest b second (run step (step s (a, .receive first)) between) = (.ok tid, s') ∧
      (s'.heap.cell tid).request.duplicated = true ∧
      datagramReceivedRequest b second (run step (step s (a, .receive first)) between) =
        (.ok next, s') ∧
      ∀ t, next ≠ .receiveRequest t := by
  have hstored : ((run step (step s (a, .receive first)) between).transactions.get?
      (key address (.int mid))).isSome := by
    refine run_induction step (fun _ s => (s.transactions.get? (key address (.int mid))).isSome)
      _ between (receiveRequest_isSome a first address mid s hfirst) ?_
    intro pre e post hsplit hsome
    refine step_isSome _ e _ hsome ?_
    intro he tid htid
    have hnow : e.1 ≤ b := htimes e (by rw [hsplit]; simp)
    obtain ⟨hcompleted, hopened⟩ := hpurge pre e.1 post (by rw [hsplit, ← he]) tid htid
    rw [expired, hcompleted, Bool.or_false, decide_eq_false_iff_not]
    linarith
  obtain ⟨tid, htid⟩ := Option.isSome_iff_exists.mp hstored
  have hreceive := receiveRequest_stored b second address mid tid _ hsecond hmid htid
  have hmarked : (((run step (step s (a, .receive first)) between).update tid
      markDuplicated).heap.cell tid).request.duplicated = true := by
    rw [update_cell_self]
    rfl
  refine ⟨tid, _, _, hreceive, hmarked, ?_, dispatch_duplicated tid _ hmarked⟩
  unfold datagramReceivedRequest
  rw [Action.bind_ok _ hreceive]
  rfl

theorem step_stores (s : State) (e : Timed) (k : Key)
    (h : ¬ (s.transactions.get? k).isSome ∧ ((step s e).transactions.get? k).isSome) :
    (∃ request address, e.2 = .receive request ∧ request.source = some address ∧
        keyMid request address = k) ∨
      ∃ rng tid, e.2 = .sendResponse rng tid ∧ ownKey s tid = some k := by
  obtain ⟨now, event⟩ := e
  obtain ⟨hfree, htaken⟩ := h
  have hinsert : ∀ (k' : Key) (tid : ℕ), ((s.transactions.insert k' tid).get? k).isSome →
      k' = k := by
    intro k' tid hsome
    by_contra hne
    rw [Dict.get?_insert_of_ne _ _ (Ne.symm hne)] at hsome
    exact hfree hsome
  cases event with
  | receive request =>
    change ((receiveRequest now request s).2.transactions.get? k).isSome at htaken
    rcases receiveRequest_transactions now request s with heq | ⟨address, tid, hsource, heq⟩
    · rw [heq] at htaken
      exact absurd htaken hfree
    · rw [heq] at htaken
      exact Or.inl ⟨request, address, rfl, hsource, hinsert _ _ htaken⟩
  | touch tid f => exact absurd htaken hfree
  | sendResponse rng tid =>
    change ((sendResponse rng tid s).2.transactions.get? k).isSome at htaken
    rcases sendResponse_transactions rng tid s with heq | ⟨k', hown, heq⟩
    · rw [heq] at htaken
      exact absurd htaken hfree
    · rw [heq] at htaken
      have hk := hinsert _ _ htaken
      exact Or.inr ⟨rng, tid, rfl, by rw [hown, hk]⟩
  | purge =>
    change ((s.transactions.keep _).get? k).isSome at htaken
    rw [Dict.get?_keep] at htaken
    split at htaken
    · exact absurd htaken hfree
    · exact absurd htaken (by simp)

def Stored (k : Key) (s : State) : Prop := (s.transactions.get? k).isSome

/-- A reply without a message id goes out, and the key of the id it is given is `k`. -/
def OwnReply (k : Key) (s : State) (e : Timed) : Prop :=
  ∃ rng tid, e.2 = .sendResponse rng tid ∧ ownKey s tid = some k

/-- A request of another endpoint comes with the key `k`. -/
def ForeignRequest (address : Address) (k : Key) (_ : State) (e : Timed) : Prop :=
  ∃ request other, e.2 = .receive request ∧ request.source = some other ∧ other ≠ address ∧
    keyMid request other = k

/-- The request `request` is received and found to be a duplicate. -/
def Marked (now : ℚ) (request : Message) (s : State) : Prop :=
  ∃ tid s', receiveRequest now request s = (.ok tid, s') ∧
    (s'.heap.cell tid).request.duplicated = true

def Received (events : List Timed) (address : Address) (mid : ℤ) : Prop :=
  ∃ now request, (now, Event.receive request) ∈ events ∧ request.source = some address ∧
    request.mid = some mid

theorem storeRequest_request (request : Message) (address : Address) (s : State) :
    ((storeRequest request address s).2.heap.cell (storeRequest request address s).1).request =
      request := by
  unfold storeRequest
  split
  · next tid _ =>
    exact congrArg Transaction.request
      (update_cell_self s tid fun t => { t with request := request })
  · change ((s.heap.alloc _).2.cell s.heap.next).request = request
    rw [Heap.alloc_cell_self]
    rfl

theorem stored_of_marked (now : ℚ) (request : Message) (address : Address) (mid : ℤ) (s : State)
    (h : Wire request address mid) (hfresh : request.duplicated = false)
    (hmarked : Marked now request s) : Stored (key address (.int mid)) s := by
  have hkey := keyMid_wire request address mid h
  obtain ⟨tid, s', hreceive, hdup⟩ := hmarked
  unfold receiveRequest at hreceive
  rw [h.source] at hreceive
  dsimp only at hreceive
  split at hreceive
  · next t hstored =>
    unfold duplicateOf at hstored
    rw [h.unicast, h.id] at hstored
    by_cases hmid : mid = 0
    · simp [hmid] at hstored
    · simp only [Bool.false_eq_true, if_false, hmid] at hstored
      rw [Stored, ← hkey, hstored]
      rfl
  · obtain ⟨htid, hs'⟩ := Prod.mk.inj hreceive
    rw [← hs', ← Except.ok.inj htid, storeRequest_request] at hdup
    rw [hfresh] at hdup
    exact absurd hdup (by simp)

theorem keyMid_eq (request : Message) (address : Address) (mid : ℤ)
    (h : keyMid request address = key address (.int mid)) : request.mid = some mid := by
  unfold keyMid at h
  split at h
  · cases h
  · cases hmid : request.mid with
    | none =>
      rw [hmid, key_eq_iff] at h
      have hnil := List.append_cancel_left h
      exact absurd hnil.symm (integerText_ne_nil mid)
    | some n =>
      rw [hmid] at h
      rw [(separated address).mids n mid h]

/-- In a run in which no request finds, under the key of its message id, an entry that a reply
under this node's own id or a request of another endpoint has left there, every request found to
be a duplicate has come before. -/
theorem duplicate_received_before (startingMid : ℕ) (events : List Timed)
    (clear : ∀ pre now request post address mid,
      events = pre ++ (now, Event.receive request) :: post → Wire request address mid →
      ¬ Since step (Stored (key address (.int mid))) (OwnReply (key address (.int mid)))
        (State.new startingMid) pre ∧
      ¬ Since step (Stored (key address (.int mid)))
        (ForeignRequest address (key address (.int mid))) (State.new startingMid) pre) :
    ∀ pre now request post address mid,
      events = pre ++ (now, Event.receive request) :: post → Wire request address mid →
      request.duplicated = false → Marked now request (run step (State.new startingMid) pre) →
      Received pre address mid := by
  intro pre now request post address mid hsplit hwire hfresh hmarked
  obtain ⟨hown, hforeign⟩ := clear pre now request post address mid hsplit hwire
  have hstored := stored_of_marked now request address mid _ hwire hfresh hmarked
  have hsince := since_of_run step (Stored (key address (.int mid))) (State.new startingMid) pre
    (by simp [Stored, State.new]) hstored
  obtain ⟨before, e, after, hpre, hmade, hrest⟩ := hsince
  rcases step_stores _ e _ hmade with ⟨earlier, source, he, hsource, hkey⟩ | ⟨rng, tid, he, hk⟩
  · by_cases hsame : source = address
    · subst hsame
      refine ⟨e.1, earlier, ?_, hsource, keyMid_eq earlier source mid hkey⟩
      rw [hpre, ← he]
      exact List.mem_append_right before List.mem_cons_self
    · exact absurd ⟨before, e, after, hpre, ⟨earlier, source, he, hsource, hsame, hkey⟩, hrest⟩
        hforeign
  · exact absurd ⟨before, e, after, hpre, ⟨rng, tid, he, hk⟩, hrest⟩ hown

def sampleClient : Address := ("10.0.0.7".toList, 40000)

def sampleGet (type : MsgType) (mid : ℤ) : Message :=
  { Message.new .request with
    type := some type
    mid := some mid
    token := some [1]
    code := some Codes.get
    source := some sampleClient }

theorem sampleGet_wire (type : MsgType) (mid : ℤ) (h : mid ≤ 65535) :
    Wire (sampleGet type mid) sampleClient mid where
  source := rfl
  unicast := rfl
  id := rfl
  id_le := h

def answer (t : Transaction) : Transaction :=
  { t with
    response := some { Message.new .response with
      code := some Codes.content
      token := t.request.token
      destination := t.request.source } }

theorem second_request_duplicated_sample : ∃ tid s' next,
    receiveRequest 100 (sampleGet .CON 500)
      (run step (step (State.new 1) (0, .receive (sampleGet .CON 500))) [(50, .purge)]) =
        (.ok tid, s') ∧
      (s'.heap.cell tid).request.duplicated = true ∧
      datagramReceivedRequest 100 (sampleGet .CON 500)
        (run step (step (State.new 1) (0, .receive (sampleGet .CON 500))) [(50, .purge)]) =
          (.ok next, s') ∧
      ∀ t, next ≠ .receiveRequest t := by
  refine second_request_duplicated (State.new 1) [(50, .purge)] 0 100 (sampleGet .CON 500)
    (sampleGet .CON 500) sampleClient 500 (sampleGet_wire _ _ (by omega))
    (sampleGet_wire _ _ (by omega)) (by omega) (by decide +kernel) ?_ ?_
  · intro e he
    rw [List.mem_singleton.mp he]
    decide +kernel
  · intro pre now post hsplit tid htid
    have hpre : pre = [] := by
      rcases List.cons_eq_append_iff.mp hsplit with ⟨hnil, _⟩ | ⟨pre', _, hmore⟩
      · exact hnil
      · exact absurd hmore.symm (by simp)
    subst hpre
    have : some 0 = some tid := by
      rw [← htid]
      decide +kernel
    rw [← Option.some.inj this]
    decide +kernel

/-- The response is sent, a purge runs, and the same request comes again: it is executed again. -/
theorem completed_request_not_duplicated :
    ∃ (between : List Timed) (s : State), between =
        [(1, .touch 0 answer), (1, .sendResponse [] 0), (2, .purge)] ∧
      s = run step (step (State.new 1) (0, .receive (sampleGet .CON 500))) between ∧
      Wire (sampleGet .CON 500) sampleClient 500 ∧ (3 : ℚ) - 0 < exchangeLifetime ∧
      (datagramReceivedRequest 3 (sampleGet .CON 500) s).1 = .ok (.receiveRequest 1) ∧
      ((datagramReceivedRequest 3 (sampleGet .CON 500) s).2.heap.cell 1).request.duplicated =
        false := by
  refine ⟨_, _, rfl, rfl, sampleGet_wire _ _ (by omega), by decide +kernel,
    by decide +kernel, by decide +kernel⟩

theorem sampleRepeat_clear (pre : List Timed) (now : ℚ) (request : Message) (post : List Timed)
    (address : Address) (mid : ℤ)
    (hsplit : [((0 : ℚ), Event.receive (sampleGet .CON 500)), (1, .receive (sampleGet .CON 500))] =
      pre ++ (now, Event.receive request) :: post)
    (hwire : Wire request address mid) :
    ¬ Since step (Stored (key address (.int mid))) (OwnReply (key address (.int mid)))
        (State.new 1) pre ∧
      ¬ Since step (Stored (key address (.int mid)))
        (ForeignRequest address (key address (.int mid))) (State.new 1) pre := by
  have hmem : ∀ e ∈ pre ++ (now, Event.receive request) :: post,
      e.2 = .receive (sampleGet .CON 500) := by
    rw [← hsplit]
    simp
  have haddress : address = sampleClient := by
    have hrequest := Event.receive.inj (hmem (now, .receive request) (by simp))
    have hsource := hwire.source
    rw [hrequest] at hsource
    exact (Option.some.inj hsource).symm
  constructor
  · rintro ⟨before, e, after, hpre, ⟨rng, tid, he, _⟩, _⟩
    have := hmem e (by rw [hpre]; simp)
    rw [he] at this
    cases this
  · rintro ⟨before, e, after, hpre, ⟨earlier, other, he, hsource, hne, _⟩, _⟩
    have := hmem e (by rw [hpre]; simp)
    rw [he] at this
    rw [Event.receive.inj this] at hsource
    exact hne ((Option.some.inj hsource).symm.trans haddress.symm)

theorem duplicate_received_before_sample :
    Received [(0, .receive (sampleGet .CON 500))] sampleClient 500 := by
  refine duplicate_received_before 1
    [(0, .receive (sampleGet .CON 500)), (1, .receive (sampleGet .CON 500))]
    sampleRepeat_clear [(0, .receive (sampleGet .CON 500))] 1 (sampleGet .CON 500) []
    sampleClient 500 rfl (sampleGet_wire _ _ (by omega)) rfl ?_
  refine ⟨0, _, receiveRequest_stored 1 (sampleGet .CON 500) sampleClient 500 0 _
    (sampleGet_wire _ _ (by omega)) (by omega) (by decide +kernel), ?_⟩
  rw [update_cell_self]
  rfl

/-- A node whose next message id is 1 answers request 500 by a separate message, and the peer's
request 1 is taken for a duplicate. -/
theorem fresh_request_duplicated :
    ∃ pre : List Timed, pre = [(0, .receive (sampleGet .NON 500)), (1, .touch 0 answer),
        (1, .sendResponse [] 0)] ∧
      Wire (sampleGet .CON 1) sampleClient 1 ∧ (sampleGet .CON 1).duplicated = false ∧
      Marked 2 (sampleGet .CON 1) (run step (State.new 1) pre) ∧ ¬ Received pre sampleClient 1 := by
  refine ⟨_, rfl, sampleGet_wire _ _ (by omega), rfl, ?_, ?_⟩
  · refine ⟨0, _, receiveRequest_stored 2 (sampleGet .CON 1) sampleClient 1 0 _
      (sampleGet_wire _ _ (by omega)) (by omega) (by decide +kernel), ?_⟩
    rw [update_cell_self]
    rfl
  · rintro ⟨now, request, hmem, _, hmid⟩
    simp only [List.mem_cons, Prod.mk.injEq, reduceCtorEq, and_false, List.not_mem_nil,
      or_false] at hmem
    rw [Event.receive.inj hmem.2] at hmid
    exact absurd hmid (by decide)

end BubotCoap.Deduplication
