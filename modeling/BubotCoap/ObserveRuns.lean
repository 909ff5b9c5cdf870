import BubotCoap.ObserveLayer
import BubotCoap.OptionAccess
import BubotCoap.Runs

set_option autoImplicit false

namespace BubotCoap.ObserveRuns
open PythonData Defines Utils Messages OrderedDict Transactions FallibleState ObserveLayer Runs

inductive Event where
  | sendRequest (now : ℚ) (request : Message)
  | receiveResponse (t : Transaction)
  | sendEmpty (message : Message)
  | receiveRequest (now : ℚ) (tid : ℕ) (request : Message)
  | receiveEmpty (empty : Message) (t : Transaction)
  | sendResponse (now : ℚ) (tid : ℕ) (counter : Option ℕ) (t : Transaction)
  | notify (resource : ℕ) (heap : Heap)
  | removeSubscriber (message : Message) (heap : Heap)

def apply (s : Relations) : Event → Relations
  | .sendRequest now request => (ObserveLayer.sendRequest now request s).2
  | .receiveResponse t => (ObserveLayer.receiveResponse (s, t)).2.1
  | .sendEmpty message => (ObserveLayer.sendEmpty message s).2
  | .receiveRequest now tid request => (ObserveLayer.receiveRequest now tid request s).2
  | .receiveEmpty empty t => (ObserveLayer.receiveEmpty empty (s, t)).2.1
  | .sendResponse now tid counter t => (ObserveLayer.sendResponse now tid counter (s, t)).2.1
  | .notify resource heap => (ObserveLayer.notify resource (s, heap)).2.1
  | .removeSubscriber message heap => (ObserveLayer.removeSubscriber message (s, heap)).2.1

def sourceKey (m : Message) : Option Key := m.source.map (relationKey m)

def destinationKey (m : Message) : Option Key := m.destination.map (relationKey m)

/-- The key of the exchange an operation belongs to. A notification belongs to none. -/
def Event.key : Event → Option Key
  | .sendRequest _ request => destinationKey request
  | .receiveResponse t => t.response.bind sourceKey
  | .sendEmpty message => destinationKey message
  | .receiveRequest _ _ request => sourceKey request
  | .receiveEmpty _ t => sourceKey t.request
  | .sendResponse _ _ _ t => sourceKey t.request
  | .notify _ _ => none
  | .removeSubscriber message _ => destinationKey message

section Notify
variable (resource : ℕ)

/-- What a notification leaves as it is in a relation. -/
def kept (item : ObserveItem) : ℚ × Bool × Bool × Option ℕ :=
  (item.timestamp, item.nonCounter.isSome, item.allowed, item.transaction)

/-- What a notification leaves as it is in the table and in the transactions. -/
structure Same (before after : Relations × Heap) : Prop where
  relations : ∀ k, (after.1.get? k).map kept = (before.1.get? k).map kept
  resource : ∀ tid, (after.2.cell tid).resource = (before.2.cell tid).resource
  response : ∀ tid, (after.2.cell tid).response.isSome = (before.2.cell tid).response.isSome
  request : ∀ tid, (after.2.cell tid).request = (before.2.cell tid).request

theorem Same.refl (state : Relations × Heap) : Same state state :=
  ⟨fun _ => rfl, fun _ => rfl, fun _ => rfl, fun _ => rfl⟩

theorem Same.trans (s t u : Relations × Heap) (hst : Same s t) (htu : Same t u) : Same s u :=
  ⟨fun k => (htu.relations k).trans (hst.relations k),
    fun tid => (htu.resource tid).trans (hst.resource tid),
    fun tid => (htu.response tid).trans (hst.response tid),
    fun tid => (htu.request tid).trans (hst.request tid)⟩

theorem map_insert (s : Relations) (k k' : Key) (item item' : ObserveItem)
    (hitem : s.get? k = some item) (hkept : kept item' = kept item) :
    ((s.insert k item').get? k').map kept = (s.get? k').map kept := by
  by_cases hk : k' = k
  · rw [hk, Dict.get?_insert_self, hitem, Option.map_some, Option.map_some, hkept]
  · rw [Dict.get?_insert_of_ne s item' hk]

theorem notificationType_counter (nonCounter : Option ℕ) (type type' : Option MsgType)
    (nonCounter' : Option ℕ) (h : notificationType nonCounter type = .ok (type', nonCounter')) :
    nonCounter'.isSome = nonCounter.isSome := by
  unfold notificationType at h
  split at h
  · cases h
  · split_ifs at h
    · cases h
      rfl
    · cases h
      rfl
    · cases h
      rfl

theorem notifyItem_same (k : Key) (item : ObserveItem) (s : Relations) (heap : Heap)
    (hitem : s.get? k = some item) :
    Same (s, heap) (notifyItem resource k item (s, heap)).2 := by
  unfold notifyItem
  dsimp only
  split
  · exact Same.refl _
  · next tid htid =>
    split
    · next hresource =>
      split
      · exact Same.refl _
      · next type nonCounter htype =>
        have hcounter := notificationType_counter _ _ _ _ htype
        have hkept : kept { item with nonCounter := nonCounter } = kept item := by
          simp [kept, hcounter]
        have htable := fun k' => map_insert s k k' item _ hitem hkept
        split
        · refine ⟨?_, fun _ => rfl, fun _ => rfl, fun _ => rfl⟩
          intro k'
          dsimp only
          split_ifs
          · exact htable k'
          · rfl
        · next response hresponse =>
          refine ⟨htable, ?_, ?_, ?_⟩
          · intro i
            by_cases hi : i = tid
            · rw [hi, Heap.set_cell_self, hresource]
            · rw [Heap.set_cell_of_ne heap tid i _ hi]
          · intro i
            by_cases hi : i = tid
            · rw [hi, Heap.set_cell_self, hresponse]
              rfl
            · rw [Heap.set_cell_of_ne heap tid i _ hi]
          · intro i
            by_cases hi : i = tid
            · rw [hi, Heap.set_cell_self]
            · rw [Heap.set_cell_of_ne heap tid i _ hi]
    · exact Same.refl _

theorem notifyKeys_same (ks : List Key) (state : Relations × Heap) :
    Same state (notifyKeys resource ks state).2 := by
  induction ks generalizing state with
  | nil => exact Same.refl state
  | cons k ks ih =>
    obtain ⟨s, heap⟩ := state
    unfold notifyKeys
    dsimp only
    cases hitem : s.get? k with
    | none => exact Same.refl _
    | some item =>
      have hfirst := notifyItem_same resource k item s heap hitem
      dsimp only
      rw [Action.bind_apply]
      generalize notifyItem resource k item (s, heap) = r at hfirst
      obtain ⟨result, state'⟩ := r
      cases result with
      | error e => exact hfirst
      | ok first =>
        have hrest := ih state'
        dsimp only
        rw [Action.bind_apply]
        generalize notifyKeys resource ks state' = r' at hrest
        obtain ⟨result', state''⟩ := r'
        cases result' with
        | error e => exact Same.trans _ _ _ hfirst hrest
        | ok rest => exact Same.trans _ _ _ hfirst hrest

/-- The relation has a transaction and, if that is on the resource, a counter and a response. -/
def Ready (heap : Heap) (item : ObserveItem) : Prop :=
  ∃ tid, item.transaction = some tid ∧ ((heap.cell tid).resource = some resource →
    item.nonCounter.isSome = true ∧ (heap.cell tid).response.isSome = true)

/-- The relation is in the table, and its transaction is on the resource. -/
def On (state : Relations × Heap) (k : Key) (tid : ℕ) : Prop :=
  ∃ item, state.1.get? k = some item ∧ item.transaction = some tid ∧
    (state.2.cell tid).resource = some resource

theorem get?_kept (s s' : Relations) (k : Key) (h : (s'.get? k).map kept = (s.get? k).map kept)
    (item : ObserveItem) (hitem : s.get? k = some item) :
    ∃ item', s'.get? k = some item' ∧ kept item' = kept item := by
  rw [hitem, Option.map_some] at h
  exact Option.map_eq_some_iff.mp h

theorem get?_same (state state' : Relations × Heap) (h : Same state state') (k : Key)
    (item : ObserveItem) (hitem : state.1.get? k = some item) :
    ∃ item', state'.1.get? k = some item' ∧ kept item' = kept item :=
  get?_kept state.1 state'.1 k (h.relations k) item hitem

theorem Same.symm (s t : Relations × Heap) (h : Same s t) : Same t s :=
  ⟨fun k => (h.relations k).symm, fun tid => (h.resource tid).symm,
    fun tid => (h.response tid).symm, fun tid => (h.request tid).symm⟩

theorem ready_same (state state' : Relations × Heap) (h : Same state state') (k : Key)
    (hready : ∃ item, state.1.get? k = some item ∧ Ready resource state.2 item) :
    ∃ item, state'.1.get? k = some item ∧ Ready resource state'.2 item := by
  obtain ⟨item, hitem, tid, htid, hon⟩ := hready
  obtain ⟨item', hitem', hkept⟩ := get?_same state state' h k item hitem
  simp only [kept, Prod.mk.injEq] at hkept
  obtain ⟨_, hcounter, _, htransaction⟩ := hkept
  refine ⟨item', hitem', tid, htransaction.trans htid, ?_⟩
  rw [h.resource, h.response, hcounter]
  exact hon

theorem on_same (state state' : Relations × Heap) (h : Same state state') (k : Key) (tid : ℕ)
    (hon : On resource state k tid) : On resource state' k tid := by
  obtain ⟨item, hitem, htid, hresource⟩ := hon
  obtain ⟨item', hitem', hkept⟩ := get?_same state state' h k item hitem
  simp only [kept, Prod.mk.injEq] at hkept
  obtain ⟨_, _, _, htransaction⟩ := hkept
  exact ⟨item', hitem', htransaction.trans htid, by rw [h.resource, hresource]⟩

theorem notificationType_ok_iff (nonCounter : Option ℕ) (type : Option MsgType) :
    (∃ r, notificationType nonCounter type = .ok r) ↔ nonCounter.isSome = true := by
  unfold notificationType
  cases nonCounter with
  | none => simp
  | some n =>
    refine iff_of_true ?_ rfl
    dsimp only
    split_ifs
    · exact ⟨_, rfl⟩
    · exact ⟨_, rfl⟩
    · exact ⟨_, rfl⟩

theorem notifyItem_ok_iff (k : Key) (item : ObserveItem) (s : Relations) (heap : Heap) :
    (∃ o, (notifyItem resource k item (s, heap)).1 = .ok o) ↔ Ready resource heap item := by
  unfold notifyItem Ready
  dsimp only
  cases htid : item.transaction with
  | none => simp
  | some tid =>
    dsimp only
    simp only [Option.some.injEq, exists_eq_left']
    by_cases hresource : (heap.cell tid).resource = some resource
    · have hcounter := notificationType_ok_iff item.nonCounter (heap.cell tid).request.type
      rw [if_pos hresource]
      simp only [hresource, forall_const]
      cases htype : notificationType item.nonCounter (heap.cell tid).request.type with
      | error e =>
        rw [htype] at hcounter
        simp only [reduceCtorEq, exists_false, false_iff] at hcounter
        simp [hcounter]
      | ok r =>
        rw [htype] at hcounter
        have hsome := hcounter.mp ⟨r, rfl⟩
        cases (heap.cell tid).response with
        | none => simp
        | some response => simp [hsome]
    · rw [if_neg hresource]
      simp [hresource]

theorem notifyItem_value (k : Key) (item : ObserveItem) (s : Relations) (heap : Heap)
    (o : Option ℕ) (h : (notifyItem resource k item (s, heap)).1 = .ok o) (tid : ℕ) :
    o = some tid ↔
      item.transaction = some tid ∧ (heap.cell tid).resource = some resource := by
  unfold notifyItem at h
  dsimp only at h
  cases hi : item.transaction with
  | none =>
    rw [hi] at h
    cases h
  | some i =>
    rw [hi] at h
    dsimp only at h
    by_cases hresource : (heap.cell i).resource = some resource
    · rw [if_pos hresource] at h
      split at h
      · cases h
      · split at h
        · cases h
        · cases h
          simp only [Option.some.injEq]
          constructor
          · rintro rfl
            exact ⟨rfl, hresource⟩
          · exact fun h => h.1
    · rw [if_neg hresource] at h
      cases h
      simp only [reduceCtorEq, Option.some.injEq, false_iff, not_and]
      rintro rfl
      exact hresource

theorem notifyKeys_ok_iff (ks : List Key) (state : Relations × Heap) :
    (∃ ret, (notifyKeys resource ks state).1 = .ok ret) ↔
      ∀ k ∈ ks, ∃ item, state.1.get? k = some item ∧ Ready resource state.2 item := by
  induction ks generalizing state with
  | nil => exact iff_of_true ⟨[], rfl⟩ fun k hk => absurd hk List.not_mem_nil
  | cons k ks ih =>
    obtain ⟨s, heap⟩ := state
    rw [List.forall_mem_cons]
    unfold notifyKeys
    dsimp only
    cases hitem : s.get? k with
    | none => simp
    | some item =>
      have hfirst := notifyItem_ok_iff resource k item s heap
      have hsame := notifyItem_same resource k item s heap hitem
      dsimp only
      rw [Action.bind_apply]
      simp only [Option.some.injEq, exists_eq_left', ← hfirst]
      generalize notifyItem resource k item (s, heap) = r at hsame
      obtain ⟨result, state'⟩ := r
      cases result with
      | error e => simp
      | ok first =>
        have hrest := ih state'
        have hready : (∀ k ∈ ks, ∃ item, state'.1.get? k = some item ∧
              Ready resource state'.2 item) ↔
            ∀ k ∈ ks, ∃ item, s.get? k = some item ∧ Ready resource heap item :=
          ⟨fun h k hk => ready_same resource _ _ hsame.symm k (h k hk),
            fun h k hk => ready_same resource _ _ hsame k (h k hk)⟩
        rw [hready] at hrest
        dsimp only
        rw [Action.bind_apply, ← hrest]
        generalize notifyKeys resource ks state' = r'
        obtain ⟨result', state''⟩ := r'
        cases result' with
        | error e => simp
        | ok rest => simp

theorem notifyKeys_mem (ks : List Key) (state : Relations × Heap) (ret : List ℕ)
    (h : (notifyKeys resource ks state).1 = .ok ret) (tid : ℕ) :
    tid ∈ ret ↔ ∃ k ∈ ks, On resource state k tid := by
  induction ks generalizing state ret with
  | nil =>
    cases h
    simp
  | cons k ks ih =>
    obtain ⟨s, heap⟩ := state
    unfold notifyKeys at h
    dsimp only at h
    cases hitem : s.get? k with
    | none =>
      rw [hitem] at h
      cases h
    | some item =>
      rw [hitem] at h
      have hvalue := notifyItem_value resource k item s heap
      have hsame := notifyItem_same resource k item s heap hitem
      dsimp only at h
      rw [Action.bind_apply] at h
      generalize notifyItem resource k item (s, heap) = r at h hvalue hsame
      obtain ⟨result, state'⟩ := r
      cases result with
      | error e => cases h
      | ok first =>
        dsimp only at h
        rw [Action.bind_apply] at h
        generalize hr : notifyKeys resource ks state' = r' at h
        obtain ⟨result', state''⟩ := r'
        cases result' with
        | error e => cases h
        | ok rest =>
          cases h
          have hrest := ih state' rest (by rw [hr])
          have hfirst : tid ∈ first.toList ↔ On resource (s, heap) k tid := by
            rw [Option.mem_toList, hvalue first rfl tid]
            unfold On
            simp [hitem]
          have hon : (∃ k ∈ ks, On resource state' k tid) ↔
              ∃ k ∈ ks, On resource (s, heap) k tid :=
            ⟨fun ⟨k, hk, h⟩ => ⟨k, hk, on_same resource _ _ hsame.symm k tid h⟩,
              fun ⟨k, hk, h⟩ => ⟨k, hk, on_same resource _ _ hsame k tid h⟩⟩
          rw [List.mem_append, hfirst, hrest, hon, List.exists_mem_cons_iff]

theorem mem_keys_iff (s : Relations) (k : Key) :
    k ∈ s.entries.map Prod.fst ↔ ∃ item, s.get? k = some item := by
  constructor
  · intro h
    obtain ⟨⟨k', item⟩, hmem, rfl⟩ := List.mem_map.mp h
    exact ⟨item, (s.mem_entries_iff k' item).mp hmem⟩
  · rintro ⟨item, h⟩
    exact List.mem_map.mpr ⟨(k, item), (s.mem_entries_iff k item).mpr h, rfl⟩

theorem notify_same (state : Relations × Heap) :
    Same state (notify resource state).2 :=
  notifyKeys_same resource _ state

theorem notify_ok_iff (s : Relations) (heap : Heap) :
    (∃ ret, (notify resource (s, heap)).1 = .ok ret) ↔
      ∀ k item, s.get? k = some item → Ready resource heap item := by
  unfold notify
  dsimp only
  rw [notifyKeys_ok_iff]
  constructor
  · intro h k item hitem
    obtain ⟨item', hitem', hready⟩ := h k ((mem_keys_iff s k).mpr ⟨item, hitem⟩)
    rw [hitem, Option.some.injEq] at hitem'
    rwa [hitem']
  · intro h k hk
    obtain ⟨item, hitem⟩ := (mem_keys_iff s k).mp hk
    exact ⟨item, hitem, h k item hitem⟩

theorem notify_mem (s : Relations) (heap : Heap) (ret : List ℕ)
    (h : (notify resource (s, heap)).1 = .ok ret) (tid : ℕ) :
    tid ∈ ret ↔ ∃ k, On resource (s, heap) k tid := by
  rw [notifyKeys_mem resource _ (s, heap) ret h]
  constructor
  · rintro ⟨k, _, hon⟩
    exact ⟨k, hon⟩
  · rintro ⟨k, item, hitem, hrest⟩
    exact ⟨k, (mem_keys_iff s k).mpr ⟨item, hitem⟩, item, hitem, hrest⟩

end Notify

/-- The relations that operations write under their key. -/
inductive Written (s : Relations) (k : Key) : Event → ObserveItem → Prop where
  | observe (now : ℚ) (request : Message) (hobserve : request.observe = some (.int 0)) :
    Written s k (.sendRequest now request) ⟨now, none, true, none⟩
  | register (now : ℚ) (tid : ℕ) (request : Message)
      (hobserve : request.observe = some (.int 0)) :
    Written s k (.receiveRequest now tid request) ⟨now, some 0, s.contains k, some tid⟩
  | accept (now : ℚ) (tid : ℕ) (counter : Option ℕ) (t : Transaction) (item : ObserveItem)
      (hitem : s.get? k = some item) :
    Written s k (.sendResponse now tid counter t)
      { item with allowed := true, transaction := some tid, timestamp := now }

theorem apply_cases (e : Event) (s : Relations) :
    (∀ k, ((apply s e).get? k).map kept = (s.get? k).map kept) ∨
    (∃ k, e.key = some k ∧ apply s e = s.erase k) ∨
    ∃ k item, e.key = some k ∧ Written s k e item ∧ apply s e = s.insert k item := by
  have hsource : ∀ (m : Message) (address : Address), m.source = some address →
      sourceKey m = some (relationKey m address) := by
    intro m address h
    rw [sourceKey, h, Option.map_some]
  have hdestination : ∀ (m : Message) (address : Address), m.destination = some address →
      destinationKey m = some (relationKey m address) := by
    intro m address h
    rw [destinationKey, h, Option.map_some]
  cases e with
  | sendRequest now request =>
    unfold apply ObserveLayer.sendRequest
    dsimp only
    split
    · next hobserve =>
      split
      · exact Or.inl fun _ => rfl
      · next address haddress =>
        exact Or.inr (Or.inr ⟨_, _, hdestination request address haddress,
          .observe now request hobserve, rfl⟩)
    · exact Or.inl fun _ => rfl
  | receiveResponse t =>
    unfold apply ObserveLayer.receiveResponse
    dsimp only
    split
    · exact Or.inl fun _ => rfl
    · split
      · exact Or.inl fun _ => rfl
      · split <;> exact Or.inl fun _ => rfl
  | sendEmpty message =>
    unfold apply ObserveLayer.sendEmpty
    dsimp only
    split
    · exact Or.inl fun _ => rfl
    · next address haddress =>
      split
      · exact Or.inr (Or.inl ⟨_, hdestination message address haddress, rfl⟩)
      · exact Or.inl fun _ => rfl
  | receiveRequest now tid request =>
    unfold apply ObserveLayer.receiveRequest
    dsimp only
    split
    · next hobserve =>
      split
      · exact Or.inl fun _ => rfl
      · next address haddress =>
        exact Or.inr (Or.inr ⟨_, _, hsource request address haddress,
          .register now tid request hobserve, rfl⟩)
    · split
      · split
        · exact Or.inl fun _ => rfl
        · next address haddress =>
          exact Or.inr (Or.inl ⟨_, hsource request address haddress, rfl⟩)
      · exact Or.inl fun _ => rfl
  | receiveEmpty empty t =>
    unfold apply ObserveLayer.receiveEmpty
    dsimp only
    split
    · split
      · exact Or.inl fun _ => rfl
      · next address haddress =>
        exact Or.inr (Or.inl ⟨_, hsource t.request address haddress, rfl⟩)
    · exact Or.inl fun _ => rfl
  | sendResponse now tid counter t =>
    unfold apply ObserveLayer.sendResponse
    dsimp only
    split
    · exact Or.inl fun _ => rfl
    · next address haddress =>
      have hkey := hsource t.request address haddress
      split
      · exact Or.inl fun _ => rfl
      · next item hitem =>
        split
        · exact Or.inl fun _ => rfl
        · split
          · split
            · exact Or.inr (Or.inl ⟨_, hkey, rfl⟩)
            · split
              · exact Or.inl fun _ => rfl
              · exact Or.inr (Or.inr ⟨_, _, hkey, .accept now tid _ t item hitem, rfl⟩)
          · split
            · exact Or.inl fun _ => rfl
            · split
              · exact Or.inr (Or.inl ⟨_, hkey, rfl⟩)
              · exact Or.inl fun _ => rfl
  | notify resource heap => exact Or.inl (notify_same resource (s, heap)).relations
  | removeSubscriber message heap =>
    unfold apply ObserveLayer.removeSubscriber
    dsimp only
    split
    · exact Or.inl fun _ => rfl
    · next address haddress =>
      split
      · exact Or.inl fun _ => rfl
      · split
        · exact Or.inl fun _ => rfl
        · exact Or.inr (Or.inl ⟨_, hdestination message address haddress, rfl⟩)

theorem kept_apply (e : Event) (s : Relations) (k : Key) (h : e.key ≠ some k) :
    ((apply s e).get? k).map kept = (s.get? k).map kept := by
  have hne : ∀ k', e.key = some k' → k ≠ k' := by
    rintro k' hkey rfl
    exact h hkey
  rcases apply_cases e s with hkept | ⟨k', hkey, herase⟩ | ⟨k', item, hkey, _, hinsert⟩
  · exact hkept k
  · rw [herase, Dict.get?_erase_of_ne s (hne k' hkey)]
  · rw [hinsert, Dict.get?_insert_of_ne s item (hne k' hkey)]

theorem contains_of_kept (s s' : Relations) (k : Key)
    (h : (s'.get? k).map kept = (s.get? k).map kept) : s'.contains k = s.contains k := by
  have hsome := congrArg Option.isSome h
  rwa [Option.isSome_map, Option.isSome_map] at hsome

theorem contains_apply (e : Event) (s : Relations) (k : Key) (h : e.key ≠ some k) :
    (apply s e).contains k = s.contains k :=
  contains_of_kept s (apply s e) k (kept_apply e s k h)

end BubotCoap.ObserveRuns
