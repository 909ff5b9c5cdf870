import BubotCoap.Cancellations

set_option autoImplicit false

namespace BubotCoap.AcceptedRelations
open PythonData Defines Utils Messages OptionAccess OrderedDict Transactions FallibleState
  ObserveLayer Runs ObserveRuns

/-- The node's own observation, which replaces whatever stands under its key. -/
def Observes (k : Key) : Event → Bool
  | .sendRequest _ request =>
    decide (request.observe = some (.int 0) ∧ destinationKey request = some k)
  | _ => false

/-- A content response for an observable resource. -/
def Accepts (k : Key) : Event → Bool
  | .sendResponse _ _ counter t =>
    decide (sourceKey t.request = some k ∧ t.response.bind Message.code = some Codes.content ∧
      counter.isSome = true)
  | _ => false

/-- The table, and the keys whose relation has been accepted since it was made. -/
structure Node where
  relations : Relations
  accepted : Key → Bool

def Node.new : Node := ⟨Dict.empty, fun _ => false⟩

def Node.step (node : Node) (e : Event) : Node where
  relations := apply node.relations e
  accepted k := !Observes k e &&
    (node.relations.contains k && Accepts k e ||
      node.accepted k && (apply node.relations e).contains k)

/-- What is asked of a notification: it is made, and whatever it returns belongs to relations that
have been accepted and are marked so. -/
structure OnlyAccepted (resource : ℕ) (heap : Heap) (node : Node) : Prop where
  returns : ∃ ret, (ObserveLayer.notify resource (node.relations, heap)).1 = .ok ret
  accepted : ∀ ret, (ObserveLayer.notify resource (node.relations, heap)).1 = .ok ret →
    ∀ tid ∈ ret, (∃ k, On resource (node.relations, heap) k tid) ∧
      ∀ k item, node.relations.get? k = some item → item.transaction = some tid →
        node.accepted k = true ∧ item.allowed = true

/-- No relation lacks a transaction, and none of those on the resource lacks a counter, is still to
be accepted or has no response yet. -/
structure Settled (resource : ℕ) (heap : Heap) (node : Node) : Prop where
  observed : ∀ k item, node.relations.get? k = some item → item.transaction ≠ none
  answered : ∀ k item tid, node.relations.get? k = some item → item.transaction = some tid →
    (heap.cell tid).resource = some resource →
      item.nonCounter ≠ none ∧ node.accepted k = true ∧ (heap.cell tid).response ≠ none

/-- An accepted relation is in the table and marked. -/
def Marked (node : Node) : Prop :=
  ∀ k, node.accepted k = true → ∃ item, node.relations.get? k = some item ∧ item.allowed = true

theorem accepts_apply (s : Relations) (k : Key) (e : Event) (haccepts : Accepts k e = true)
    (hcontains : s.contains k = true) :
    ∃ item, (apply s e).get? k = some item ∧ item.allowed = true := by
  cases e with
  | sendResponse now tid counter t =>
    simp only [Accepts, decide_eq_true_eq] at haccepts
    obtain ⟨hkey, hcode, hcounter⟩ := haccepts
    obtain ⟨address, haddress, rfl⟩ := Option.map_eq_some_iff.mp
      (show t.request.source.map (relationKey t.request) = some k from hkey)
    obtain ⟨response, hresponse, hcontent⟩ := Option.bind_eq_some_iff.mp hcode
    obtain ⟨count, hcount⟩ := Option.isSome_iff_exists.mp hcounter
    obtain ⟨item, hitem⟩ := Option.isSome_iff_exists.mp hcontains
    unfold apply ObserveLayer.sendResponse
    dsimp only
    rw [haddress]
    dsimp only
    rw [hitem]
    dsimp only
    rw [hresponse]
    dsimp only
    rw [if_pos hcontent, hcount]
    dsimp only
    rw [setObserve_eq]
    exact ⟨_, Dict.get?_insert_self s _ _, rfl⟩
  | sendRequest now request => cases haccepts
  | receiveResponse t => cases haccepts
  | sendEmpty message => cases haccepts
  | receiveRequest now tid request => cases haccepts
  | receiveEmpty empty t => cases haccepts
  | notify resource heap => cases haccepts
  | removeSubscriber message heap => cases haccepts

/-- A relation that is marked stays so as long as there is one under its key: a renewal and a
response mark it again, and the node's own observation is made marked. -/
theorem allowed_apply (s : Relations) (k : Key) (e : Event) (item item' : ObserveItem)
    (hitem : s.get? k = some item) (hallowed : item.allowed = true)
    (hitem' : (apply s e).get? k = some item') : item'.allowed = true := by
  rcases apply_cases e s with hkept | ⟨k', _, herase⟩ | ⟨k', inserted, _, hwritten, hinsert⟩
  · obtain ⟨item'', hitem'', heq⟩ := get?_kept s (apply s e) k (hkept k) item hitem
    rw [hitem'', Option.some.injEq] at hitem'
    simp only [kept, Prod.mk.injEq] at heq
    rw [← hitem', heq.2.2.1, hallowed]
  · rw [herase, Dict.get?_erase] at hitem'
    split_ifs at hitem'
    rw [hitem, Option.some.injEq] at hitem'
    rwa [← hitem']
  · rw [hinsert] at hitem'
    by_cases hk : k = k'
    · subst hk
      rw [Dict.get?_insert_self, Option.some.injEq] at hitem'
      rw [← hitem']
      cases hwritten with
      | observe now request hobserve => rfl
      | register now tid request hobserve =>
        simp only [Dict.contains, hitem, Option.isSome_some]
      | accept now tid counter t item hitem => rfl
    · rw [Dict.get?_insert_of_ne s inserted hk, hitem, Option.some.injEq] at hitem'
      rwa [← hitem']

theorem marked_step (node : Node) (e : Event) (h : Marked node) : Marked (node.step e) := by
  intro k haccepted
  simp only [Node.step, Bool.and_eq_true, Bool.or_eq_true] at haccepted
  obtain ⟨_, ⟨hcontains, haccepts⟩ | ⟨hbefore, hcontains⟩⟩ := haccepted
  · exact accepts_apply node.relations k e haccepts hcontains
  · obtain ⟨item, hitem, hallowed⟩ := h k hbefore
    obtain ⟨item', hitem'⟩ := Option.isSome_iff_exists.mp hcontains
    exact ⟨item', hitem', allowed_apply node.relations k e item item' hitem hallowed hitem'⟩

theorem marked_run (es : List Event) : Marked (run Node.step Node.new es) := by
  refine run_induction Node.step (fun _ node => Marked node) Node.new es ?_ ?_
  · intro k haccepted
    cases haccepted
  · intro pre e post _ h
    exact marked_step _ e h

section Notification
variable (resource : ℕ) (heap : Heap) (node : Node)

theorem onlyAccepted_of_settled (hmarked : Marked node) (h : Settled resource heap node) :
    OnlyAccepted resource heap node := by
  refine ⟨(notify_ok_iff resource node.relations heap).mpr ?_, ?_⟩
  · intro k item hitem
    obtain ⟨tid, htid⟩ := Option.ne_none_iff_exists'.mp (h.observed k item hitem)
    refine ⟨tid, htid, fun hresource => ?_⟩
    obtain ⟨hcounter, _, hresponse⟩ := h.answered k item tid hitem htid hresource
    exact ⟨Option.isSome_iff_ne_none.mpr hcounter, Option.isSome_iff_ne_none.mpr hresponse⟩
  · intro ret hret tid htid
    have hon := (notify_mem resource node.relations heap ret hret tid).mp htid
    refine ⟨hon, ?_⟩
    intro k item hitem htransaction
    obtain ⟨_, _, _, _, hresource⟩ := hon
    obtain ⟨_, haccepted, _⟩ := h.answered k item tid hitem htransaction hresource
    obtain ⟨item', hitem', hallowed⟩ := hmarked k haccepted
    rw [hitem, Option.some.injEq] at hitem'
    exact ⟨haccepted, by rw [hitem', hallowed]⟩

theorem settled_of_onlyAccepted (h : OnlyAccepted resource heap node) :
    Settled resource heap node := by
  have hready := (notify_ok_iff resource node.relations heap).mp h.returns
  refine ⟨?_, ?_⟩
  · intro k item hitem hnone
    obtain ⟨tid, htid, _⟩ := hready k item hitem
    rw [hnone] at htid
    cases htid
  · intro k item tid hitem htid hresource
    obtain ⟨tid', htid', hon⟩ := hready k item hitem
    rw [htid, Option.some.injEq] at htid'
    obtain ⟨hcounter, hresponse⟩ := hon (by rw [← htid', hresource])
    obtain ⟨ret, hret⟩ := h.returns
    have hmem : tid ∈ ret := (notify_mem resource node.relations heap ret hret tid).mpr
      ⟨k, item, hitem, htid, hresource⟩
    obtain ⟨haccepted, _⟩ := (h.accepted ret hret tid hmem).2 k item hitem htid
    refine ⟨Option.isSome_iff_ne_none.mp hcounter, haccepted, ?_⟩
    rw [htid']
    exact Option.isSome_iff_ne_none.mp hresponse

end Notification

/-- In every run, each notification is made and reaches accepted relations only, exactly if at
each of them the table is settled. -/
theorem onlyAccepted_iff_settled (es : List Event) :
    (∀ pre resource heap post, es = pre ++ .notify resource heap :: post →
      OnlyAccepted resource heap (run Node.step Node.new pre)) ↔
    ∀ pre resource heap post, es = pre ++ .notify resource heap :: post →
      Settled resource heap (run Node.step Node.new pre) := by
  constructor
  · intro h pre resource heap post hes
    exact settled_of_onlyAccepted resource heap _ (h pre resource heap post hes)
  · intro h pre resource heap post hes
    exact onlyAccepted_of_settled resource heap _ (marked_run pre) (h pre resource heap post hes)

def ownRequest : Message :=
  { Cancellations.sampleRequest 0 with
    source := none
    destination := some (['h'], 1) }

/-- A client has asked to observe the resource and its response is there, but has not been sent. -/
def pendingHeap : Heap := Heap.empty.set 0 (Cancellations.sampleTransaction 0)

/-- The node observes a peer, and cannot notify; a client is notified before it is accepted. -/
theorem not_onlyAccepted :
    (ObserveLayer.notify 0
      ((run Node.step Node.new [.sendRequest 0 ownRequest]).relations, Heap.empty)).1 =
        .error .attributeError ∧
    (ObserveLayer.notify 0 ((run Node.step Node.new
      [.receiveRequest 0 0 (Cancellations.sampleRequest 0)]).relations, pendingHeap)).1 =
        .ok [0] ∧
    ¬ OnlyAccepted 0 Heap.empty (run Node.step Node.new [.sendRequest 0 ownRequest]) ∧
    ¬ OnlyAccepted 0 pendingHeap
      (run Node.step Node.new [.receiveRequest 0 0 (Cancellations.sampleRequest 0)]) := by
  have hraises : (ObserveLayer.notify 0
      ((run Node.step Node.new [.sendRequest 0 ownRequest]).relations, Heap.empty)).1 =
        .error .attributeError := by decide +kernel
  have hreturns : (ObserveLayer.notify 0 ((run Node.step Node.new
      [.receiveRequest 0 0 (Cancellations.sampleRequest 0)]).relations, pendingHeap)).1 =
        .ok [0] := by decide +kernel
  refine ⟨hraises, hreturns, ?_, ?_⟩
  · intro h
    obtain ⟨ret, hret⟩ := h.returns
    rw [hraises] at hret
    cases hret
  · intro h
    obtain ⟨⟨k, item, hitem, htid, _⟩, haccepted⟩ :=
      h.accepted [0] hreturns 0 List.mem_cons_self
    obtain ⟨hk, _⟩ := haccepted k item hitem htid
    have hnot : (run Node.step Node.new
        [.receiveRequest 0 0 (Cancellations.sampleRequest 0)]).accepted k = false := by
      simp [run, Node.step, Node.new, Accepts]
    rw [hnot] at hk
    cases hk

end BubotCoap.AcceptedRelations
