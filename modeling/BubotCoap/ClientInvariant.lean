import BubotCoap.ActionTriples
import BubotCoap.ClientSteps
import BubotCoap.OwnTransactions

set_option autoImplicit false

namespace BubotCoap.ClientInvariant
open PythonData Defines Utils Messages OrderedDict Transactions Resources MessageLayer
  MessageTables ActionTriples OwnTransactions FallibleState Rendering Client ClientLayers
  ClientSteps

section Waiters
open CallbackLayer

/-- The table of waiters: a waiter that is not done is found under its token, which is its own. -/
structure Slots (s : CallbackLayer.State) : Prop where
  table : ∀ token i, s.waitedAnswer.get? token = some i →
    ∃ w, s.waiters[i]? = some w ∧ w.request.token = token
  slot : ∀ (i : ℕ) w, s.waiters[i]? = some w → w.future = .pending →
    s.waitedAnswer.get? w.request.token = some i
  distinct : ∀ (i j : ℕ) w w', s.waiters[i]? = some w → s.waiters[j]? = some w' →
    w.request.token = w'.request.token → i = j

def SameAsked (s s' : CallbackLayer.State) : Prop :=
  ∀ (i : ℕ) w', s'.waiters[i]? = some w' → ∃ w, s.waiters[i]? = some w ∧ w.request = w'.request

theorem slots_new : Slots CallbackLayer.State.new := by
  refine ⟨?_, ?_, ?_⟩
  · intro token i h
    cases h
  · intro i w h
    cases h
  · intro i j w w' h
    cases h

theorem sameAsked_refl (s : CallbackLayer.State) : SameAsked s s := fun _ w h => ⟨w, h, rfl⟩

theorem sameAsked_update (s : CallbackLayer.State) (i : ℕ) (f : Waiter → Waiter)
    (hf : ∀ w, (f w).request = w.request) : SameAsked s (s.update i f) := by
  intro j w' hw'
  rw [getElem?_update, Option.map_eq_some_iff] at hw'
  obtain ⟨w, hw, rfl⟩ := hw'
  refine ⟨w, hw, ?_⟩
  split
  · exact (hf w).symm
  · rfl

theorem slots_update (s : CallbackLayer.State) (i : ℕ) (f : Waiter → Waiter) (h : Slots s)
    (hf : ∀ w, (f w).request = w.request) (hpending : ∀ w, (f w).future = .pending →
      w.future = .pending) : Slots (s.update i f) := by
  have hback := sameAsked_update s i f hf
  refine ⟨?_, ?_, ?_⟩
  · intro token j hj
    obtain ⟨w, hw, htoken⟩ := h.table token j hj
    refine ⟨if i = j then f w else w, ?_, ?_⟩
    · rw [getElem?_update, hw]
      rfl
    · split
      · rw [hf]
        exact htoken
      · exact htoken
  · intro j w' hw' hfuture
    rw [getElem?_update, Option.map_eq_some_iff] at hw'
    obtain ⟨w, hw, rfl⟩ := hw'
    split_ifs at hfuture ⊢ with hi
    · rw [hf]
      exact h.slot j w hw (hpending w hfuture)
    · exact h.slot j w hw hfuture
  · intro j k w w' hj hk htoken
    obtain ⟨v, hv, hv'⟩ := hback j w hj
    obtain ⟨u, hu, hu'⟩ := hback k w' hk
    exact h.distinct j k v u hv hu (by rw [hv', hu', htoken])

variable (P : Platform)

theorem setResult_effect (m : Message) (s : CallbackLayer.State) :
    (setResult P m s).2 = s ∨ ∃ i w, s.waitedAnswer.get? m.token = some i ∧
      s.waiters[i]? = some w ∧
      (w.request.multicast = true ∧
          (setResult P m s).2 = s.update i (fun w => { w with result := w.result ++ [printed m] }) ∨
        w.request.multicast = false ∧ w.future = .pending ∧
          (setResult P m s).2 = s.update i fun w => { w with future := .result (printed m) }) := by
  unfold setResult
  rw [Action.bind_apply, Action.ofExcept_apply]
  cases linePrint P m with
  | error e => exact Or.inl rfl
  | ok line =>
    dsimp only
    rw [Action.bind_get]
    cases hget : s.waitedAnswer.get? m.token with
    | none => exact Or.inl rfl
    | some i =>
      dsimp only
      cases hw : s.waiters[i]? with
      | none =>
        left
        unfold setFuture
        simp only [hw]
      | some w =>
        cases hmulticast : w.request.multicast with
        | true =>
          refine Or.inr ⟨i, w, rfl, hw, Or.inl ⟨hmulticast, ?_⟩⟩
          rw [setFuture_multicast i _ s w hw hmulticast]
        | false =>
          by_cases hpending : w.future = .pending
          · refine Or.inr ⟨i, w, rfl, hw, Or.inr ⟨hmulticast, hpending, ?_⟩⟩
            rw [setFuture_unicast i _ s w hw hmulticast hpending]
          · left
            unfold setFuture
            simp only [hw, hmulticast, Bool.false_eq_true, ↓reduceIte]

theorem setResult_waiter (s : CallbackLayer.State) (hslots : Slots s) (m : Message) (i : ℕ)
    (w : Waiter) (hw : s.waiters[i]? = some w) (hunicast : w.request.multicast = false) :
    (setResult P m s).2.waiters[i]? = some w ∨
      (setResult P m s).2.waiters[i]? = some { w with future := .result (printed m) } ∧
        m.token = w.request.token ∧ w.future = .pending := by
  rcases setResult_effect P m s with heq | ⟨j, w', hget, hw', ⟨hmulticast, heq⟩ |
    ⟨_, hpending, heq⟩⟩
  · rw [heq]
    exact Or.inl hw
  · rw [heq, getElem?_update, hw]
    left
    rw [Option.map_some, if_neg]
    rintro rfl
    rw [hw] at hw'
    cases hw'
    rw [hunicast] at hmulticast
    cases hmulticast
  · rw [heq, getElem?_update, hw, Option.map_some]
    by_cases hij : j = i
    · subst hij
      rw [hw] at hw'
      cases hw'
      rw [if_pos rfl]
      obtain ⟨v, hv, htoken⟩ := hslots.table _ _ hget
      rw [hw] at hv
      cases hv
      exact Or.inr ⟨rfl, htoken.symm, hpending⟩
    · rw [if_neg hij]
      exact Or.inl rfl

theorem setResult_slots (m : Message) (s : CallbackLayer.State) (h : Slots s) :
    Slots (setResult P m s).2 ∧ SameAsked s (setResult P m s).2 := by
  rcases setResult_effect P m s with heq | ⟨i, w, _, _, ⟨_, heq⟩ | ⟨_, _, heq⟩⟩
  · rw [heq]
    exact ⟨h, sameAsked_refl s⟩
  · rw [heq]
    exact ⟨slots_update s i _ h (fun _ => rfl) fun _ h => h, sameAsked_update s i _ fun _ => rfl⟩
  · rw [heq]
    refine ⟨slots_update s i _ h (fun _ => rfl) fun _ h => ?_, sameAsked_update s i _ fun _ => rfl⟩
    cases h

theorem interrupt_slots (i : ℕ) (e : Interrupt) (atOnce overrides : Bool)
    (s : CallbackLayer.State) (h : Slots s) :
    Slots (interrupt i e atOnce overrides s) ∧ SameAsked s (interrupt i e atOnce overrides s) := by
  have hrequest := fun w => interrupt_request w e atOnce overrides
  refine ⟨slots_update s i _ h hrequest fun w hw => ?_, sameAsked_update s i _ hrequest⟩
  rcases interrupt_future w e atOnce overrides with hsame | ⟨hpending, _⟩
  · rwa [← hsame]
  · exact hpending

theorem wakeUp_slots (i : ℕ) (s : CallbackLayer.State) (h : Slots s) :
    Slots (wakeUp i s) ∧ SameAsked s (wakeUp i s) := by
  rcases wakeUp_cases i s with heq | ⟨_, e, _, _, heq⟩ | ⟨w, outcome, hw, hdone, _, _, heq⟩
  · rw [heq]
    exact ⟨h, sameAsked_refl s⟩
  · rw [heq]
    refine ⟨slots_update s i _ h (fun _ => rfl) fun _ h => ?_, sameAsked_update s i _ fun _ => rfl⟩
    cases h
  · rw [heq]
    have hupdated := slots_update s i (fun w => { w with outcome := some outcome }) h
      (fun _ => rfl) fun _ h => h
    have hsame := sameAsked_update s i (fun w => { w with outcome := some outcome }) fun _ => rfl
    refine ⟨⟨?_, ?_, hupdated.distinct⟩, hsame⟩
    · intro token j hj
      change (s.waitedAnswer.erase w.key).get? token = some j at hj
      rw [Dict.get?_erase] at hj
      split at hj
      · cases hj
      · exact hupdated.table token j hj
    · intro j w' hw' hpending
      change (s.waitedAnswer.erase w.key).get? w'.request.token = some j
      have hslot := hupdated.slot j w' hw' hpending
      change s.waitedAnswer.get? w'.request.token = some j at hslot
      by_cases hkey : w'.request.token = w.key
      · -- the woken waiter itself would have to be pending
        exfalso
        obtain ⟨v, hv, hv'⟩ := hsame j w' hw'
        have hij := h.distinct i j w v hw hv (by rw [hv', hkey]; rfl)
        subst hij
        rw [hw] at hv
        cases hv
        change (s.update i _).waiters[i]? = some w' at hw'
        rw [getElem?_update, hw] at hw'
        cases hw'
        dsimp only at hpending
        rw [if_pos rfl] at hpending
        exact hdone hpending
      · rw [Dict.get?_erase_of_ne _ hkey]
        exact hslot

theorem cancelWaited_slots (e : Interrupt) (s : CallbackLayer.State) (h : Slots s) :
    Slots (cancelWaited e s) ∧ SameAsked s (cancelWaited e s) := by
  obtain ⟨htable, hwaiters⟩ := cancelWaited_eq e s
  have hrequest : ∀ w : Waiter, (w.fail e).request = w.request := by
    intro w
    unfold Waiter.fail
    split <;> rfl
  have hsame : SameAsked s (cancelWaited e s) := by
    intro i w' hw'
    rw [hwaiters i, Option.map_eq_some_iff] at hw'
    obtain ⟨w, hw, rfl⟩ := hw'
    refine ⟨w, hw, ?_⟩
    split
    · exact (hrequest w).symm
    · rfl
  refine ⟨⟨?_, ?_, ?_⟩, hsame⟩
  · intro token i hi
    rw [htable] at hi
    cases hi
  · intro i w' hw' hpending
    exfalso
    rw [hwaiters i, Option.map_eq_some_iff] at hw'
    obtain ⟨w, hw, rfl⟩ := hw'
    split_ifs at hpending with hmem
    · unfold Waiter.fail at hpending
      split_ifs at hpending with hnone
      exact hnone hpending
    · have hslot := h.slot i w hw hpending
      exact hmem (List.mem_map.mpr ⟨_, (Dict.mem_entries_iff _ _ _).mpr hslot, rfl⟩)
  · intro i j w w' hi hj htoken
    obtain ⟨v, hv, hv'⟩ := hsame i w hi
    obtain ⟨u, hu, hu'⟩ := hsame j w' hj
    exact h.distinct i j v u hv hu (by rw [hv', hu', htoken])

theorem wait_waiters (request : Message) (s : CallbackLayer.State) (i : ℕ) (w' : Waiter)
    (hw' : (wait request s).waiters[i]? = some w') :
    s.waiters[i]? = some w' ∨ i = s.waiters.length ∧ w' = Waiter.new request := by
  change (s.waiters ++ [Waiter.new request])[i]? = some w' at hw'
  rw [List.getElem?_append] at hw'
  split_ifs at hw' with hlt
  · exact Or.inl hw'
  · rw [List.getElem?_singleton] at hw'
    split_ifs at hw' with hi
    cases hw'
    exact Or.inr ⟨by omega, rfl⟩

theorem wait_slots (request : Message) (s : CallbackLayer.State) (h : Slots s)
    (hnew : ∀ (i : ℕ) w, s.waiters[i]? = some w → w.request.token ≠ request.token) :
    Slots (wait request s) := by
  have hget : ∀ token, token ≠ request.token →
      (wait request s).waitedAnswer.get? token = s.waitedAnswer.get? token :=
    fun token hne => Dict.get?_insert_of_ne _ _ hne
  have hself : (wait request s).waitedAnswer.get? request.token = some s.waiters.length :=
    Dict.get?_insert_self _ _ _
  refine ⟨?_, ?_, ?_⟩
  · intro token i hi
    by_cases htoken : token = request.token
    · subst htoken
      rw [hself] at hi
      cases hi
      exact ⟨Waiter.new request, List.getElem?_concat_length, rfl⟩
    · rw [hget token htoken] at hi
      obtain ⟨w, hw, hwtoken⟩ := h.table token i hi
      refine ⟨w, ?_, hwtoken⟩
      change (s.waiters ++ [Waiter.new request])[i]? = some w
      rw [List.getElem?_append_left (List.getElem?_eq_some_iff.mp hw).1]
      exact hw
  · intro i w hw hpending
    rcases wait_waiters request s i w hw with hw | ⟨rfl, rfl⟩
    · rw [hget _ (hnew i w hw)]
      exact h.slot i w hw hpending
    · exact hself
  · intro i j w w' hi hj htoken
    rcases wait_waiters request s i w hi with hw | ⟨rfl, rfl⟩
    · rcases wait_waiters request s j w' hj with hw' | ⟨rfl, rfl⟩
      · exact h.distinct i j w w' hw hw' htoken
      · exact absurd htoken (hnew i w hw)
    · rcases wait_waiters request s j w' hj with hw' | ⟨rfl, rfl⟩
      · exact absurd htoken.symm (hnew j w' hw')
      · rfl

/-- How a step may change a waiter: `answer` are the results it may get. -/
structure Evolves (answer : Message → Prop) (w w' : Waiter) : Prop where
  request : w'.request = w.request
  future : w'.future = w.future ∨ w.future = .pending ∧
    ∀ response, w'.future = .result response → answer response
  outcome : ∀ response, w'.outcome = some (.returned response) →
    w.outcome = some (.returned response) ∨ w.future = .result response

theorem evolves_refl (answer : Message → Prop) (w : Waiter) : Evolves answer w w :=
  ⟨rfl, Or.inl rfl, fun _ h => Or.inl h⟩

theorem interrupt_evolves (j : ℕ) (e : Interrupt) (atOnce overrides : Bool)
    (s : CallbackLayer.State) (i : ℕ) (w' : Waiter)
    (hw' : (interrupt j e atOnce overrides s).waiters[i]? = some w') :
    ∃ w, s.waiters[i]? = some w ∧ ∀ answer, Evolves answer w w' := by
  unfold interrupt at hw'
  rw [getElem?_update, Option.map_eq_some_iff] at hw'
  obtain ⟨w, hw, rfl⟩ := hw'
  refine ⟨w, hw, fun answer => ?_⟩
  split_ifs
  · have houtcome := interrupt_outcome w e atOnce overrides
    refine ⟨interrupt_request w e atOnce overrides, ?_, fun _ h => Or.inl (houtcome ▸ h)⟩
    rcases interrupt_future w e atOnce overrides with hsame | ⟨hpending, hcancelled⟩
    · exact Or.inl hsame
    · refine Or.inr ⟨hpending, fun response h => ?_⟩
      rw [hcancelled] at h
      cases h
  · exact evolves_refl answer w

theorem wakeUp_evolves (j : ℕ) (s : CallbackLayer.State) (i : ℕ)
    (w' : Waiter) (hw' : (wakeUp j s).waiters[i]? = some w') :
    ∃ w, s.waiters[i]? = some w ∧ ∀ answer, Evolves answer w w' := by
  rcases wakeUp_cases j s with heq | ⟨v, e, hv, hpending, heq⟩ |
    ⟨v, outcome, hv, _, _, hfinish, heq⟩
  · rw [heq] at hw'
    exact ⟨w', hw', fun answer => evolves_refl answer w'⟩
  · rw [heq, getElem?_update, Option.map_eq_some_iff] at hw'
    obtain ⟨w, hw, rfl⟩ := hw'
    refine ⟨w, hw, fun answer => ?_⟩
    split_ifs with hij
    · subst hij
      rw [hv] at hw
      cases hw
      refine ⟨rfl, Or.inr ⟨hpending, fun response h => ?_⟩, fun _ h => Or.inl h⟩
      cases h
    · exact evolves_refl answer w
  · rw [heq] at hw'
    change (s.update j fun w => { w with outcome := some outcome }).waiters[i]? = some w' at hw'
    rw [getElem?_update, Option.map_eq_some_iff] at hw'
    obtain ⟨w, hw, rfl⟩ := hw'
    refine ⟨w, hw, fun answer => ?_⟩
    split_ifs with hij
    · subst hij
      rw [hv] at hw
      cases hw
      refine ⟨rfl, Or.inl rfl, fun response h => Or.inr ?_⟩
      cases h
      exact future_of_finish v response hfinish
    · exact evolves_refl answer w

theorem cancelWaited_evolves (e : Interrupt) (s : CallbackLayer.State)
    (i : ℕ) (w' : Waiter) (hw' : (cancelWaited e s).waiters[i]? = some w') :
    ∃ w, s.waiters[i]? = some w ∧ ∀ answer, Evolves answer w w' := by
  rw [(cancelWaited_eq e s).2 i, Option.map_eq_some_iff] at hw'
  obtain ⟨w, hw, rfl⟩ := hw'
  refine ⟨w, hw, fun answer => ?_⟩
  split_ifs
  · unfold Waiter.fail
    split_ifs with hpending
    · refine ⟨rfl, Or.inr ⟨hpending, fun response h => ?_⟩, fun _ h => Or.inl h⟩
      cases h
    · exact evolves_refl answer w
  · exact evolves_refl answer w

theorem setResult_evolves (m : Message) (s : CallbackLayer.State) (hslots : Slots s) (i : ℕ)
    (w' : Waiter) (hw' : (setResult P m s).2.waiters[i]? = some w')
    (hunicast : w'.request.multicast = false) :
    ∃ w, s.waiters[i]? = some w ∧
      Evolves (fun response => response = printed m ∧ m.token = w.request.token) w w' := by
  obtain ⟨w, hw, hrequest⟩ := (setResult_slots P m s hslots).2 i w' hw'
  refine ⟨w, hw, ?_⟩
  rcases setResult_waiter P s hslots m i w hw (hrequest ▸ hunicast) with hsame |
    ⟨hresult, htoken, hpending⟩
  · rw [hw'] at hsame
    cases hsame
    exact evolves_refl _ _
  · rw [hw'] at hresult
    cases hresult
    refine ⟨rfl, Or.inr ⟨hpending, fun response h => ?_⟩, fun _ h => Or.inl h⟩
    cases h
    exact ⟨rfl, htoken⟩

end Waiters

section Layers
variable {ω : Type} (requests : List Message) (c : CallbackLayer.State)

/-- The requests of the waiters `c` among the requests of the node, each where a response finds
it. -/
structure Kept (served own : List ℕ) (n : Node ω) : Prop where
  holds : Holds requests served own n.server.message
  observes : Observes served n.server.observe
  callback : n.callback = c
  stored : ∀ (i : ℕ) w, c.waiters[i]? = some w → w.request.multicast = false →
    Stored n.server.message w.request
  asked : ∀ (i : ℕ) w, c.waiters[i]? = some w → ∃ q ∈ requests, Kin q w.request

def Ended (n : Node ω) : Prop := ∃ served own, Kept requests c served own n

/-- At the transaction of a request, with a response of which `R` is known. -/
structure Sits (q : Message) (stored : Prop) (R : Option Message → Prop) (tid : ℕ)
    (served own : List ℕ) (n : Node ω) : Prop where
  kept : Kept requests c served own n
  mem : tid ∈ own
  kin : Kin q (n.transaction tid).request
  stored : stored → Stored n.server.message q
  response : R (n.transaction tid).response

def Working (q : Message) (stored : Prop) (R : Option Message → Prop) (tid : ℕ) (n : Node ω) :
    Prop :=
  ∃ served own, Sits requests c q stored R tid served own n

variable {requests c}

theorem Kept.leaves {served own : List ℕ} {n n' : Node ω} (h : Kept requests c served own n)
    (message : Leaves n.server.message n'.server.message)
    (observe : n'.server.observe = n.server.observe) (callback : n'.callback = n.callback) :
    Kept requests c served own n' := by
  refine ⟨h.holds.leaves _ message, ?_, callback.trans h.callback, ?_, h.asked⟩
  · rw [observe]
    exact h.observes
  · intro i w hw hunicast
    exact (h.stored i w hw hunicast).leaves _ _ _ message

theorem Ended.leaves {n n' : Node ω} (h : Ended requests c n)
    (message : Leaves n.server.message n'.server.message)
    (observe : n'.server.observe = n.server.observe) (callback : n'.callback = n.callback) :
    Ended requests c n' := by
  obtain ⟨served, own, hkept⟩ := h
  exact ⟨served, own, hkept.leaves message observe callback⟩

theorem Ended.callback {n : Node ω} (h : Ended requests c n) : n.callback = c := by
  obtain ⟨_, _, hkept⟩ := h
  exact hkept.callback

theorem Ended.mono {n : Node ω} (h : Ended requests c n) (requests' : List Message)
    (hsub : requests ⊆ requests') : Ended requests' c n := by
  obtain ⟨served, own, hkept⟩ := h
  refine ⟨served, own, hkept.holds.mono requests' hsub, hkept.observes, hkept.callback,
    hkept.stored, fun i w hw => ?_⟩
  obtain ⟨q, hq, hkin⟩ := hkept.asked i w hw
  exact ⟨q, hsub hq, hkin⟩

theorem Ended.answered {n : Node ω} (h : Ended requests c n) (c' : CallbackLayer.State)
    (hsame : SameAsked c c') : Ended requests c' { n with callback := c' } := by
  obtain ⟨served, own, hkept⟩ := h
  refine ⟨served, own, hkept.holds, hkept.observes, rfl, fun i w hw hunicast => ?_,
    fun i w hw => ?_⟩
  · obtain ⟨v, hv, heq⟩ := hsame i w hw
    rw [← heq] at hunicast ⊢
    exact hkept.stored i v hv hunicast
  · obtain ⟨v, hv, heq⟩ := hsame i w hw
    obtain ⟨q, hq, hkin⟩ := hkept.asked i v hv
    exact ⟨q, hq, heq ▸ hkin⟩

section Working
variable {q : Message} {stored : Prop} {R : Option Message → Prop} {tid : ℕ} {n n' : Node ω}

theorem Working.ended (h : Working requests c q stored R tid n) : Ended requests c n := by
  obtain ⟨served, own, hsits⟩ := h
  exact ⟨served, own, hsits.kept⟩

theorem Working.kin (h : Working requests c q stored R tid n) :
    Kin q (n.transaction tid).request := by
  obtain ⟨_, _, hsits⟩ := h
  exact hsits.kin

theorem Working.response (h : Working requests c q stored R tid n) :
    R (n.transaction tid).response := by
  obtain ⟨_, _, hsits⟩ := h
  exact hsits.response

theorem Working.leaves {R' : Option Message → Prop} (h : Working requests c q stored R tid n)
    (message : Leaves n.server.message n'.server.message)
    (observe : n'.server.observe = n.server.observe) (callback : n'.callback = n.callback)
    (hR : R (n.transaction tid).response → R' (n'.transaction tid).response) :
    Working requests c q stored R' tid n' := by
  obtain ⟨served, own, hsits⟩ := h
  exact ⟨served, own, hsits.kept.leaves message observe callback, hsits.mem,
    hsits.kin.trans _ _ _ (message.kin tid), fun hst => (hsits.stored hst).leaves _ _ _ message,
    hR hsits.response⟩

theorem Working.setTransaction {R' : Option Message → Prop}
    (h : Working requests c q stored R tid n) (t : Transaction)
    (ht : Kin (n.transaction tid).request t.request)
    (hR : R (n.transaction tid).response → R' t.response)
    (message : n'.server.message = n.server.message.update tid fun _ => t)
    (observe : n'.server.observe = n.server.observe) (callback : n'.callback = n.callback) :
    Working requests c q stored R' tid n' := by
  refine h.leaves ?_ observe callback ?_
  · rw [message]
    exact leaves_update _ tid _ ht
  · have hcell : n'.transaction tid = t := by
      unfold Node.transaction Server.State.transaction
      rw [message, update_cell_self]
    rw [hcell]
    exact hR

end Working

section Actions
variable {P : Platform} {address : Address} {q : Message} {stored : Prop}
  {R : Option Message → Prop} {tid : ℕ}

/-- The action stays at the transaction, and keeps the invariant where it raises. -/
abbrev Stays {α : Type} (requests : List Message) (c : CallbackLayer.State) (q : Message)
    (stored : Prop) (R : Option Message → Prop) (tid : ℕ) (x : Action Failure (Node ω) α) : Prop :=
  Triple (Working requests c q stored R tid) x (fun _ => Working requests c q stored R tid)
    (Ended requests c)

theorem stays_getTransaction (i : ℕ) :
    Triple (Working requests c q stored R tid)
      (getTransaction i : Action Failure (Node ω) Transaction)
      (fun t n => t = n.transaction i ∧ Working requests c q stored R tid n)
      (Ended requests c) := by
  refine ⟨?_, ?_⟩
  · intro n hn t n' hr
    cases hr
    exact ⟨rfl, hn⟩
  · intro n _ e n' hr
    cases hr

theorem stays_sendDatagram (message : Message) :
    Stays requests c q stored R tid
      (sendDatagram P address message : Action Failure (Node ω) Message) := by
  refine triple_bind _ _ (triple_ofExcept _ fun _ h => h.ended) fun sent => ?_
  have hmodify : Stays requests c q stored R tid
      (Action.modify fun n => { n with sent := n.sent ++ [sent] } :
        Action Failure (Node ω) Unit) :=
    triple_modify _ fun n hn => hn.leaves (leaves_refl _) rfl rfl id
  exact triple_bind _ _ hmodify fun _ => triple_pure _ fun _ h => h

theorem stays_updateTransaction (f : Transaction → Transaction)
    (hf : ∀ t, Kin q t.request → Kin t.request (f t).request)
    (hR : ∀ t, R t.response → R (f t).response) :
    Stays requests c q stored R tid
      (updateTransaction tid f : Action Failure (Node ω) Unit) :=
  triple_modify _ fun n hn =>
    hn.setTransaction (f (n.transaction tid)) (hf _ hn.kin) (hR _) rfl rfl rfl

theorem stays_onMessage {α : Type} (x : Action PyErr MessageLayer.State α)
    (hx : ∀ m, Leaves m (x m).2 ∧ (R (m.heap.cell tid).response →
      R ((x m).2.heap.cell tid).response)) :
    Stays requests c q stored R tid (onMessage x : Action Failure (Node ω) α) := by
  have hstep : ∀ n : Node ω, Working requests c q stored R tid n →
      Working requests c q stored R tid { n with server := { n.server with
        message := (x n.server.message).2 } } :=
    fun n hn => hn.leaves (hx _).1 rfl rfl (hx _).2
  refine triple_zoom _ _ _ _ fun n hn => ⟨?_, ?_⟩
  · rintro _ rfl a m hr
    have hafter := hstep n hn
    rw [hr] at hafter
    exact hafter
  · rintro _ rfl e m hr
    have hafter := (hstep n hn).ended
    rw [hr] at hafter
    exact hafter

theorem sendMessage_kin (message sent : Message)
    (h : RetransmitLoop.Loop.sendMessage P ⟨address, .udp⟩ message = .ok sent) :
    Kin message sent := by
  unfold RetransmitLoop.Loop.sendMessage at h
  obtain ⟨line, _, h⟩ := (bind_eq_ok _ _ _).mp h
  obtain ⟨bytes, _, h⟩ := (bind_eq_ok _ _ _).mp h
  cases h
  exact ⟨rfl, rfl, rfl, rfl⟩

theorem sendDatagram_kin (message sent : Message) (n n' : Node ω)
    (h : sendDatagram P address message n = (.ok sent, n')) : Kin message sent := by
  unfold sendDatagram at h
  rw [Action.bind_apply, Action.ofExcept_apply] at h
  cases hmessage : RetransmitLoop.Loop.sendMessage P ⟨address, .udp⟩ message with
  | error e =>
    rw [hmessage] at h
    cases h
  | ok sent' =>
    rw [hmessage] at h
    cases h
    exact sendMessage_kin message sent hmessage

theorem stays_sendRequestOf :
    Stays requests c q stored R tid
      (sendRequestOf P address tid : Action Failure (Node ω) Unit) := by
  refine triple_bind _ _
    (stays_updateTransaction _ (fun _ _ => ⟨rfl, rfl, rfl, rfl⟩) fun _ h => h) fun _ => ?_
  refine triple_bind _ _ (stays_getTransaction tid) fun t => ?_
  have hsent : Triple (fun n : Node ω => t = n.transaction tid ∧
      Working requests c q stored R tid n) (sendDatagram P address t.request)
      (fun request n => Kin q request ∧ Working requests c q stored R tid n)
      (Ended requests c) := by
    refine ⟨?_, ?_⟩
    · intro n hn request n' hr
      refine ⟨?_, (stays_sendDatagram t.request).returns n hn.2 request n' hr⟩
      have hkin := hn.2.kin
      rw [← hn.1] at hkin
      exact hkin.trans _ _ _ (sendDatagram_kin t.request request n n' hr)
    · exact fun n hn e n' hr => (stays_sendDatagram t.request).raises n hn.2 e n' hr
  refine triple_bind _ _ hsent fun request => ?_
  refine triple_given _ (fun n hn => hn.1) fun hkin => ?_
  have hset : Stays requests c q stored R tid
      (updateTransaction tid fun t => { t with request := request } :
        Action Failure (Node ω) Unit) :=
    stays_updateTransaction _ (fun t ht => (ht.symm _ _).trans _ _ _ hkin) fun _ h => h
  exact hset.conseq (fun _ h => h.2) (fun _ _ h => h) fun _ h => h

theorem enters_sendRequest (now : ℚ) (rng : Bytes) (request : Message) (hfresh : Fresh requests)
    (hq : q ∈ requests) (hkin : Kin q request) :
    Triple (Ended requests c)
      (onMessage (MessagePairing.sendRequest now rng request) : Action Failure (Node ω) ℕ)
      (Working requests c q (q.multicast = false) fun _ => True) (Ended requests c) := by
  have hstep : ∀ n : Node ω, Ended requests c n → ∃ served own,
      Kept requests c served own { n with server := { n.server with
        message := (MessagePairing.sendRequest now rng request n.server.message).2 } } ∧
      ∀ tid, (MessagePairing.sendRequest now rng request n.server.message).1 = .ok tid →
        tid ∈ own ∧ Kin q ((MessagePairing.sendRequest now rng request
            n.server.message).2.heap.cell tid).request ∧
          (q.multicast = false →
            Stored (MessagePairing.sendRequest now rng request n.server.message).2 q) := by
    rintro n ⟨served, own, hkept⟩
    obtain ⟨own', _, hholds, hstored, hok⟩ := sendRequest_holds now rng request n.server.message
      hkept.holds hfresh q hq hkin
    refine ⟨served, own', ⟨hholds, hkept.observes, hkept.callback, ?_, hkept.asked⟩, hok⟩
    intro i w hw hunicast
    obtain ⟨q', hq', hkin'⟩ := hkept.asked i w hw
    exact hstored w.request q' hq' hkin' (hkept.stored i w hw hunicast)
  refine triple_zoom _ _ _ _ fun n hn => ⟨?_, ?_⟩
  · rintro _ rfl tid m hr
    obtain ⟨served, own, hkept, hok⟩ := hstep n hn
    rw [hr] at hkept hok
    obtain ⟨hmem, hkin', hstored⟩ := hok tid rfl
    exact ⟨served, own, hkept, hmem, hkin', hstored, trivial⟩
  · rintro _ rfl e m hr
    obtain ⟨served, own, hkept, _⟩ := hstep n hn
    rw [hr] at hkept
    exact ⟨served, own, hkept⟩

end Actions

end Layers

end BubotCoap.ClientInvariant
