import BubotCoap.ObserveRuns

set_option autoImplicit false

namespace BubotCoap.Cancellations
open PythonData Defines Utils Messages OrderedDict Transactions FallibleState ObserveLayer Runs
  ObserveRuns
open OptionAccess (observe_registered observe_integer)

/-- The operations of a node that is observed. -/
def ServerSide : Event → Prop
  | .sendRequest _ _ | .receiveResponse _ | .sendEmpty _ => False
  | _ => True

def Registers (k : Key) : Event → Prop
  | .receiveRequest _ _ request =>
    request.observe = some (.int 0) ∧ sourceKey request = some k
  | _ => False

/-- A request that deregisters, a reset, a response that is an error or is not of an observable
resource, and the removal of a subscriber. -/
def Removes (k : Key) : Event → Prop
  | .receiveRequest _ _ request =>
    request.observe = some (.int 1) ∧ sourceKey request = some k
  | .receiveEmpty empty t => empty.type = some .RST ∧ sourceKey t.request = some k
  | .sendResponse _ _ counter t => sourceKey t.request = some k ∧
    ∃ response code, t.response = some response ∧ response.code = some code ∧
      (Codes.errorLowerBound ≤ code ∨ code = Codes.content ∧ counter = none)
  | .removeSubscriber message _ => destinationKey message = some k
  | _ => False

/-- The last registration or removal of the key is a removal. -/
def Cancelled (k : Key) (es : List Event) : Prop :=
  ∃ pre e post, es = pre ++ e :: post ∧ Removes k e ∧ ∀ d ∈ post, ¬ Registers k d

/-- What the transactions of the operations are to the keys they are called for. -/
def Keyed (Q : Key → ℕ → Prop) (tid : ℕ) (request : Message) : Prop :=
  ∀ k, sourceKey request = some k → Q k tid

def Consistent (Q : Key → ℕ → Prop) : Event → Prop
  | .receiveRequest _ tid request => Keyed Q tid request
  | .sendResponse _ tid _ t => Keyed Q tid t.request
  | _ => True

/-- Every relation has a transaction, and one that belongs to its key. -/
def Owned (Q : Key → ℕ → Prop) (s : Relations) : Prop :=
  ∀ k item, s.get? k = some item → ∃ tid, item.transaction = some tid ∧ Q k tid

section
variable (Q : Key → ℕ → Prop)

theorem owned_insert (s : Relations) (k : Key) (item : ObserveItem) (tid : ℕ)
    (htid : item.transaction = some tid) (hkey : Q k tid) (h : Owned Q s) :
    Owned Q (s.insert k item) := by
  intro k' item' hitem
  by_cases hk : k' = k
  · rw [hk, Dict.get?_insert_self, Option.some.injEq] at hitem
    exact ⟨tid, by rw [← hitem, htid], by rwa [hk]⟩
  · rw [Dict.get?_insert_of_ne s item hk] at hitem
    exact h k' item' hitem

theorem owned_erase (s : Relations) (k : Key) (h : Owned Q s) : Owned Q (s.erase k) := by
  intro k' item hitem
  by_cases hk : k' = k
  · rw [hk, Dict.get?_erase_self] at hitem
    cases hitem
  · rw [Dict.get?_erase_of_ne s hk] at hitem
    exact h k' item hitem

theorem owned_apply (e : Event) (s : Relations) (hserver : ServerSide e)
    (hkeyed : Consistent Q e) (h : Owned Q s) : Owned Q (apply s e) := by
  rcases apply_cases e s with hkept | ⟨k, _, herase⟩ | ⟨k, item, hkey, hwritten, hinsert⟩
  · intro k item hitem
    obtain ⟨item', hitem', heq⟩ := get?_kept (apply s e) s k (hkept k).symm item hitem
    simp only [kept, Prod.mk.injEq] at heq
    obtain ⟨tid, htid, hk⟩ := h k item' hitem'
    exact ⟨tid, heq.2.2.2.symm.trans htid, hk⟩
  · rw [herase]
    exact owned_erase Q s k h
  · rw [hinsert]
    cases hwritten with
    | observe now request hobserve => exact hserver.elim
    | register now tid request hobserve =>
      exact owned_insert Q s k _ tid rfl (hkeyed k hkey) h
    | accept now tid counter t item hitem =>
      exact owned_insert Q s k _ tid rfl (hkeyed k hkey) h

theorem owned_run (es : List Event) (hserver : ∀ e ∈ es, ServerSide e)
    (hkeyed : ∀ e ∈ es, Consistent Q e) : Owned Q (run apply Dict.empty es) := by
  refine run_induction apply (fun _ s => Owned Q s) Dict.empty es ?_ ?_
  · intro k item hitem
    cases hitem
  · intro pre e post hes h
    have hmem : e ∈ es := by rw [hes]; simp
    exact owned_apply Q e _ (hserver e hmem) (hkeyed e hmem) h

theorem removed (k : Key) (e : Event) (s : Relations) (h : Removes k e) (howned : Owned Q s) :
    (apply s e).get? k = none := by
  have hsource : ∀ m : Message, sourceKey m = some k →
      ∃ address, m.source = some address ∧ relationKey m address = k := fun m hm =>
    Option.map_eq_some_iff.mp hm
  cases e with
  | sendRequest now request => exact h.elim
  | receiveResponse t => exact h.elim
  | sendEmpty message => exact h.elim
  | receiveRequest now tid request =>
    obtain ⟨hobserve, hkey⟩ := h
    obtain ⟨address, haddress, rfl⟩ := hsource request hkey
    unfold apply ObserveLayer.receiveRequest
    dsimp only
    rw [hobserve, haddress, if_neg (by simp), if_pos rfl]
    exact Dict.get?_erase_self s _
  | receiveEmpty empty t =>
    obtain ⟨htype, hkey⟩ := h
    obtain ⟨address, haddress, rfl⟩ := hsource t.request hkey
    unfold apply ObserveLayer.receiveEmpty
    dsimp only
    rw [if_pos htype, haddress]
    exact Dict.get?_erase_self s _
  | sendResponse now tid counter t =>
    obtain ⟨hkey, response, code, hresponse, hcode, hremoves⟩ := h
    obtain ⟨address, haddress, rfl⟩ := hsource t.request hkey
    unfold apply ObserveLayer.sendResponse
    dsimp only
    rw [haddress]
    dsimp only
    cases hitem : s.get? (relationKey t.request address) with
    | none => exact hitem
    | some item =>
      dsimp only
      rw [hresponse]
      dsimp only
      rw [hcode]
      dsimp only
      rcases hremoves with herror | ⟨hcontent, hcounter⟩
      · have hne : code ≠ Codes.content := by
          rintro rfl
          exact absurd herror (by decide)
        rw [if_neg (by simpa using hne), if_pos herror]
        exact Dict.get?_erase_self s _
      · rw [if_pos (by rw [hcontent]), hcounter]
        exact Dict.get?_erase_self s _
  | notify resource heap => exact h.elim
  | removeSubscriber message heap =>
    obtain ⟨address, haddress, rfl⟩ := Option.map_eq_some_iff.mp
      (show message.destination.map (relationKey message) = some k from h)
    unfold apply ObserveLayer.removeSubscriber
    dsimp only
    rw [haddress]
    dsimp only
    cases hitem : s.get? (relationKey message address) with
    | none => exact hitem
    | some item =>
      obtain ⟨tid, htid, _⟩ := howned _ item hitem
      dsimp only
      rw [htid]
      exact Dict.get?_erase_self s _

end

theorem absent_apply (k : Key) (e : Event) (s : Relations) (hserver : ServerSide e)
    (hregisters : ¬ Registers k e) (h : s.get? k = none) : (apply s e).get? k = none := by
  rcases apply_cases e s with hkept | ⟨k', _, herase⟩ | ⟨k', item, hkey, hwritten, hinsert⟩
  · have hk := hkept k
    rw [h] at hk
    exact Option.map_eq_none_iff.mp hk
  · rw [herase, Dict.get?_erase, h, ite_self]
  · have hne : k ≠ k' := by
      rintro rfl
      cases hwritten with
      | observe now request hobserve => exact hserver
      | register now tid request hobserve => exact hregisters ⟨hobserve, hkey⟩
      | accept now tid counter t item hitem =>
        rw [h] at hitem
        cases hitem
    rw [hinsert, Dict.get?_insert_of_ne s item hne, h]

theorem absent_run (k : Key) (es : List Event) (s : Relations) (hserver : ∀ e ∈ es, ServerSide e)
    (hregisters : ∀ e ∈ es, ¬ Registers k e) (h : s.get? k = none) :
    (run apply s es).get? k = none := by
  induction es generalizing s with
  | nil => exact h
  | cons e es ih =>
    rw [run_cons]
    exact ih (apply s e) (fun d hd => hserver d (List.mem_cons_of_mem e hd))
      (fun d hd => hregisters d (List.mem_cons_of_mem e hd))
      (absent_apply k e s (hserver e List.mem_cons_self) (hregisters e List.mem_cons_self) h)

theorem consistent_true (e : Event) : Consistent (fun _ _ => True) e := by
  cases e with
  | receiveRequest now tid request => exact fun _ _ => trivial
  | sendResponse now tid counter t => exact fun _ _ => trivial
  | sendRequest now request => trivial
  | receiveResponse t => trivial
  | sendEmpty message => trivial
  | receiveEmpty empty t => trivial
  | notify resource heap => trivial
  | removeSubscriber message heap => trivial

theorem absent_of_cancelled (k : Key) (es : List Event) (hserver : ∀ e ∈ es, ServerSide e)
    (h : Cancelled k es) : (run apply Dict.empty es).get? k = none := by
  obtain ⟨pre, e, post, rfl, hremoves, hregisters⟩ := h
  have howned := owned_run (fun _ _ => True) pre (fun d hd => hserver d (by simp [hd]))
    (fun d _ => consistent_true d)
  rw [run_append, run_cons]
  exact absent_run k post _ (fun d hd => hserver d (by simp [hd])) hregisters
    (removed _ k e _ hremoves howned)

/-- In every run of a node that is observed, a key whose last registration or removal is a removal
has no relation, and what is notified are transactions of the relations of other keys; if each
transaction always has a request of the same key, none whose request has the removed key.
Relations come and go only by the operations of their own keys. -/
theorem cancelled_stay_cancelled (es : List Event) (hserver : ∀ e ∈ es, ServerSide e) :
    (∀ k, Cancelled k es → (run apply Dict.empty es).contains k = false ∧
      ∀ resource heap ret,
        (ObserveLayer.notify resource (run apply Dict.empty es, heap)).1 = .ok ret →
        ∀ tid ∈ ret, (∃ k', k' ≠ k ∧ On resource (run apply Dict.empty es, heap) k' tid) ∧
          ∀ owner : ℕ → Key, (∀ e ∈ es, Consistent (fun k i => owner i = k) e) →
            Keyed (fun k i => owner i = k) tid (heap.cell tid).request →
            sourceKey (heap.cell tid).request ≠ some k) ∧
    ∀ pre e post, es = pre ++ e :: post → ∀ k, e.key ≠ some k →
      (apply (run apply Dict.empty pre) e).contains k = (run apply Dict.empty pre).contains k := by
  refine ⟨?_, fun pre e post _ k hkey => contains_apply e _ k hkey⟩
  intro k hcancelled
  have habsent := absent_of_cancelled k es hserver hcancelled
  refine ⟨by rw [Dict.contains, habsent]; rfl, ?_⟩
  intro resource heap ret hret tid htid
  obtain ⟨k', item, hitem, htransaction, hresource⟩ :=
    (notify_mem resource _ heap ret hret tid).mp htid
  have hk : k' ≠ k := by
    rintro rfl
    rw [habsent] at hitem
    cases hitem
  refine ⟨⟨k', hk, item, hitem, htransaction, hresource⟩, ?_⟩
  intro owner hkeyed hheap hkey
  obtain ⟨tid', htid', howner⟩ := owned_run (fun k i => owner i = k) es hserver hkeyed k' item hitem
  rw [htransaction, Option.some.injEq] at htid'
  exact hk (by rw [← howner, ← htid', hheap k hkey])

def sampleRequest (observe : ℕ) : Message :=
  { Message.new .request with
    source := some (['h'], 1)
    token := some [1]
    type := some .CON
    options := ⟨[OptionAccess.intOption OptionRegistry.observe observe observe_registered
      observe_integer], List.pairwise_singleton _ _⟩ }

def sampleTransaction (observe : ℕ) : Transaction :=
  { Transaction.new (sampleRequest observe) 0 with
    resource := some 0
    response := some { Message.new .response with code := some Codes.content } }

def sampleRun : List Event :=
  [.receiveRequest 0 0 (sampleRequest 0), .sendResponse 1 0 (some 1) (sampleTransaction 0),
    .receiveRequest 2 1 (sampleRequest 1)]

theorem cancelled_stay_cancelled_sample :
    (∀ k, Cancelled k sampleRun → (run apply Dict.empty sampleRun).contains k = false ∧
      ∀ resource heap ret,
        (ObserveLayer.notify resource (run apply Dict.empty sampleRun, heap)).1 = .ok ret →
        ∀ tid ∈ ret, (∃ k', k' ≠ k ∧ On resource (run apply Dict.empty sampleRun, heap) k' tid) ∧
          ∀ owner : ℕ → Key, (∀ e ∈ sampleRun, Consistent (fun k i => owner i = k) e) →
            Keyed (fun k i => owner i = k) tid (heap.cell tid).request →
            sourceKey (heap.cell tid).request ≠ some k) ∧
    ∀ pre e post, sampleRun = pre ++ e :: post → ∀ k, e.key ≠ some k →
      (apply (run apply Dict.empty pre) e).contains k = (run apply Dict.empty pre).contains k :=
  cancelled_stay_cancelled sampleRun (by
    intro e he
    simp only [sampleRun, List.mem_cons, List.not_mem_nil, or_false] at he
    rcases he with rfl | rfl | rfl
    · trivial
    · trivial
    · trivial)

end BubotCoap.Cancellations
