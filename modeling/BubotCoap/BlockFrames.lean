import BubotCoap.BlockLayer
import BubotCoap.OptionAccess

set_option autoImplicit false

namespace BubotCoap.BlockFrames
open PythonData Defines Utils Messages OptionAccess OrderedDict Transactions BlockLayer

section
variable (s : State) (k k' : Key) (item : BlockItem) (h : k ≠ k')
include h

theorem under_insert_block1Sent :
    ({ s with block1Sent := s.block1Sent.insert k' item } : State).under k = s.under k := by
  simp [State.under, Dict.get?_insert_of_ne _ _ h]

theorem under_insert_block2Sent :
    ({ s with block2Sent := s.block2Sent.insert k' item } : State).under k = s.under k := by
  simp [State.under, Dict.get?_insert_of_ne _ _ h]

theorem under_erase_block2Sent :
    ({ s with block2Sent := s.block2Sent.erase k' } : State).under k = s.under k := by
  simp [State.under, Dict.get?_erase_of_ne _ h]

theorem under_insert_block1Receive :
    ({ s with block1Receive := s.block1Receive.insert k' item } : State).under k =
      s.under k := by
  simp [State.under, Dict.get?_insert_of_ne _ _ h]

theorem under_erase_block1Receive :
    ({ s with block1Receive := s.block1Receive.erase k' } : State).under k = s.under k := by
  simp [State.under, Dict.get?_erase_of_ne _ h]

theorem under_insert_block2Receive :
    ({ s with block2Receive := s.block2Receive.insert k' item } : State).under k =
      s.under k := by
  simp [State.under, Dict.get?_insert_of_ne _ _ h]

theorem under_erase_block2Receive :
    ({ s with block2Receive := s.block2Receive.erase k' } : State).under k = s.under k := by
  simp [State.under, Dict.get?_erase_of_ne _ h]

end

theorem under_incomplete (rng : Bytes) (s : State) (t : Transaction) (k : Key) :
    (incomplete rng (s, t)).2.1.under k = s.under k := by
  unfold incomplete
  dsimp only
  split <;> rfl

theorem under_error (rng : Bytes) (code : ℕ) (s : State) (t : Transaction) (k : Key) :
    (error rng code (s, t)).2.1.under k = s.under k := by
  unfold error
  dsimp only
  split <;> rfl

section
variable (rng : Bytes) (k k' : Key) (num m size : ℕ) (item : BlockItem) (s : State)
  (t : Transaction) (h : k ≠ k')
include h

theorem under_receiveBlock2Request :
    (receiveBlock2Request k' num m size (s, t)).2.1.under k = s.under k := by
  unfold receiveBlock2Request
  dsimp only
  split
  · exact under_insert_block2Receive s k k' _ h
  · exact under_insert_block2Receive s k k' _ h

theorem under_acceptBlock1 :
    (acceptBlock1 rng k' num m size item (s, t)).2.1.under k = s.under k := by
  unfold acceptBlock1
  dsimp only
  split
  · exact under_erase_block1Receive s k k' h
  · split
    · exact under_insert_block1Receive s k k' _ h
    · split
      · exact under_insert_block1Receive s k k' _ h
      · exact (under_insert_block1Receive _ k k' _ h).trans (under_insert_block1Receive s k k' _ h)

theorem under_receiveBlock1Request :
    (receiveBlock1Request rng k' num m size (s, t)).2.1.under k = s.under k := by
  unfold receiveBlock1Request
  dsimp only
  split
  · split
    · exact under_incomplete rng s t k
    · split
      · rfl
      · exact under_acceptBlock1 rng k k' num m size _ s t h
  · split
    · exact under_incomplete rng s t k
    · exact under_acceptBlock1 rng k k' num m size _ s t h

theorem under_nextBlock1 : (nextBlock1 k' item size (s, t)).2.1.under k = s.under k := by
  unfold nextBlock1
  dsimp only
  split
  · exact under_insert_block1Sent s k k' _ h
  · split
    · exact under_insert_block1Sent s k k' _ h
    · exact under_insert_block1Sent s k k' _ h

theorem under_receiveBlock1Response :
    (receiveBlock1Response k' item num size (s, t)).2.1.under k = s.under k := by
  unfold receiveBlock1Response
  dsimp only
  split
  · rfl
  · split
    · rfl
    · exact under_nextBlock1 k k' size item s _ h

end

theorem under_requestBlock2 (item : BlockItem) (s : State) (t : Transaction) (k : Key) :
    (requestBlock2 item (s, t)).2.1.under k = s.under k := by
  unfold requestBlock2
  dsimp only
  split <;> rfl

section
variable (rng : Bytes) (k k' : Key) (num m size : ℕ) (response : Message) (s : State)
  (t : Transaction) (h : k ≠ k')
include h

theorem under_receiveMoreBlock2 :
    (receiveMoreBlock2 rng k' num m size response (s, t)).2.1.under k = s.under k := by
  unfold receiveMoreBlock2
  dsimp only
  split
  · split
    · exact under_error rng _ s _ k
    · split
      · exact (under_error rng _ _ _ k).trans (under_insert_block2Sent s k k' _ h)
      · split
        · exact under_insert_block2Sent s k k' _ h
        · exact (under_requestBlock2 _ _ _ k).trans (under_insert_block2Sent s k k' _ h)
  · exact (under_requestBlock2 _ _ _ k).trans (under_insert_block2Sent s k k' _ h)

theorem under_receiveLastBlock2 :
    (receiveLastBlock2 rng k' response (s, t)).2.1.under k = s.under k := by
  unfold receiveLastBlock2
  dsimp only
  split
  · split
    · exact under_error rng _ s _ k
    · split
      · rfl
      · exact under_erase_block2Sent s k k' h
  · rfl

theorem under_receiveBlock2Response :
    (receiveBlock2Response rng k' response (s, t)).2.1.under k = s.under k := by
  unfold receiveBlock2Response
  dsimp only
  split
  · rfl
  · split
    · exact under_receiveMoreBlock2 rng k k' _ _ _ response s t h
    · exact under_receiveLastBlock2 rng k k' response s t h
  · rfl

end

def requestKey (t : Transaction) : Option Key :=
  t.request.source.map fun address => key address (tokenArg t.request.token)

def responseKey (t : Transaction) : Option Key :=
  t.response.bind fun response =>
    response.source.map fun address => key address (tokenArg response.token)

def destinationKey (request : Message) : Option Key :=
  request.destination.map fun address => key address (tokenArg request.token)

theorem under_receiveRequest (rng : Bytes) (s : State) (t : Transaction) (k : Key)
    (h : requestKey t ≠ some k) : (receiveRequest rng (s, t)).2.1.under k = s.under k := by
  unfold requestKey at h
  unfold receiveRequest
  dsimp only
  split
  · rfl
  · split
    · rfl
    · next address hsource =>
      rw [hsource] at h
      exact under_receiveBlock2Request k _ _ _ _ s t fun e => h (congrArg some e.symm)
  · split
    · rfl
    · rfl
    · split
      · rfl
      · next address hsource =>
        rw [hsource] at h
        exact under_receiveBlock1Request rng k _ _ _ _ s t fun e => h (congrArg some e.symm)

theorem under_receiveResponse (rng : Bytes) (s : State) (t : Transaction) (k : Key)
    (h : responseKey t ≠ some k) : (receiveResponse rng (s, t)).2.1.under k = s.under k := by
  unfold responseKey at h
  unfold receiveResponse
  dsimp only
  split
  · rfl
  · next response hresponse =>
    rw [hresponse] at h
    split
    · rfl
    · next address hsource =>
      have hne : k ≠ key address (tokenArg response.token) := by
        intro e
        apply h
        rw [Option.bind_some, hsource, Option.map_some, e]
      have hother := under_receiveBlock2Response rng k _ response s t hne
      split
      · exact hother
      · split
        · rfl
        · exact hother
        · exact under_receiveBlock1Response k _ _ _ _ s t hne

theorem under_sendResponse (s : State) (t : Transaction) (k : Key)
    (h : requestKey t ≠ some k) : (sendResponse (s, t)).2.1.under k = s.under k := by
  unfold requestKey at h
  unfold sendResponse
  dsimp only
  split
  · rfl
  · next address hsource =>
    rw [hsource] at h
    have hne : k ≠ key address (tokenArg t.request.token) := fun e => h (congrArg some e.symm)
    split
    · rfl
    · split
      · exact under_insert_block2Receive s k _ _ hne
      · split
        · exact under_insert_block2Receive s k _ _ hne
        · exact (under_insert_block2Receive _ k _ _ hne).trans
            (under_insert_block2Receive s k _ _ hne)

theorem under_firstBlock1 (num size : ℕ) (request : Message) (s : State) (k : Key)
    (h : destinationKey request ≠ some k) :
    (firstBlock1 num size request s).2.under k = s.under k := by
  unfold destinationKey at h
  unfold firstBlock1
  split
  · rfl
  · next address hdest =>
    rw [hdest] at h
    split
    · rfl
    · next payload hpayload =>
      dsimp only
      split
      · rfl
      · next r hr =>
        have htoken : r.token = request.token := by
          rw [addNew_ok _ _ _ _ hr]
          rfl
        have hne : k ≠ key address (tokenArg r.token) := by
          rw [htoken]
          exact fun e => h (congrArg some e.symm)
        split
        · exact under_insert_block1Sent s k _ _ hne
        · exact under_insert_block1Sent s k _ _ hne

theorem under_sendRequest (request : Message) (s : State) (k : Key)
    (h : destinationKey request ≠ some k) :
    (sendRequest request s).2.under k = s.under k := by
  unfold sendRequest
  split
  · rfl
  · exact under_firstBlock1 _ _ request s k h
  · split
    · exact under_firstBlock1 _ _ request s k h
    · split
      · rfl
      · rfl
      · unfold destinationKey at h
        split
        · rfl
        · next address hdest =>
          rw [hdest] at h
          exact under_insert_block2Sent s k _ _ fun e => h (congrArg some e.symm)

/-- The request keeps all but its payload and its block options. -/
structure Passes (t t' : Transaction) : Prop where
  request : ∃ options payload, t'.request = { t.request with options := options, payload := payload }
  options : ∀ n, n ≠ OptionRegistry.block1.number → n ≠ OptionRegistry.block2.number →
    ofNumber n t'.request.options = ofNumber n t.request.options
  resource : t'.resource = t.resource

theorem Passes.refl (t : Transaction) : Passes t t :=
  ⟨⟨_, _, rfl⟩, fun _ _ _ => rfl, rfl⟩

theorem passes_incomplete (rng : Bytes) (s : State) (t : Transaction) :
    Passes t (incomplete rng (s, t)).2.2 := by
  unfold incomplete
  dsimp only
  split <;> exact ⟨⟨_, _, rfl⟩, fun _ _ _ => rfl, rfl⟩

theorem passes_receiveBlock2Request (k : Key) (num m size : ℕ) (s : State) (t : Transaction) :
    Passes t (receiveBlock2Request k num m size (s, t)).2.2 := by
  have hdeleted : ∀ n, n ≠ OptionRegistry.block2.number →
      ofNumber n t.request.delBlock2.options = ofNumber n t.request.options :=
    fun n hn => ofNumber_delete_of_ne n _ _ hn
  unfold receiveBlock2Request
  dsimp only
  split
  · exact ⟨⟨_, _, rfl⟩, fun n _ hn => hdeleted n hn, rfl⟩
  · exact ⟨⟨_, _, rfl⟩, fun n _ hn => hdeleted n hn, rfl⟩

theorem passes_acceptBlock1 (rng : Bytes) (k : Key) (num m size : ℕ) (item : BlockItem) (s : State)
    (t : Transaction) : Passes t (acceptBlock1 rng k num m size item (s, t)).2.2 := by
  unfold acceptBlock1
  dsimp only
  split
  · exact ⟨⟨_, _, rfl⟩, fun n hn _ => ofNumber_delete_of_ne n _ _ hn, rfl⟩
  · split
    · exact ⟨⟨_, _, rfl⟩, fun _ _ _ => rfl, rfl⟩
    · split
      · exact ⟨⟨_, _, rfl⟩, fun _ _ _ => rfl, rfl⟩
      · exact ⟨⟨_, _, rfl⟩, fun _ _ _ => rfl, rfl⟩

theorem passes_receiveBlock1Request (rng : Bytes) (k : Key) (num m size : ℕ) (s : State)
    (t : Transaction) : Passes t (receiveBlock1Request rng k num m size (s, t)).2.2 := by
  unfold receiveBlock1Request
  dsimp only
  split
  · split
    · exact passes_incomplete rng s t
    · split
      · exact Passes.refl t
      · exact passes_acceptBlock1 rng k num m size _ s t
  · split
    · exact passes_incomplete rng s t
    · exact passes_acceptBlock1 rng k num m size _ s t

theorem passes_receiveRequest (rng : Bytes) (s : State) (t : Transaction) :
    Passes t (receiveRequest rng (s, t)).2.2 := by
  unfold receiveRequest
  dsimp only
  split
  · exact Passes.refl t
  · split
    · exact Passes.refl t
    · exact passes_receiveBlock2Request _ _ _ _ s t
  · split
    · exact Passes.refl t
    · exact Passes.refl t
    · split
      · exact Passes.refl t
      · exact passes_receiveBlock1Request rng _ _ _ _ s t

section Timestamps
variable (rng : Bytes) (k : Key) (s : State) (t : Transaction)

theorem timestamp_incomplete : (incomplete rng (s, t)).2.2.timestamp = t.timestamp := by
  unfold incomplete
  dsimp only
  split <;> rfl

theorem timestamp_error (code : ℕ) : (error rng code (s, t)).2.2.timestamp = t.timestamp := by
  unfold error
  dsimp only
  split <;> rfl

theorem timestamp_acceptBlock1 (num m size : ℕ) (item : BlockItem) :
    (acceptBlock1 rng k num m size item (s, t)).2.2.timestamp = t.timestamp := by
  unfold acceptBlock1
  dsimp only
  split
  · rfl
  · split
    · rfl
    · split <;> rfl

theorem timestamp_receiveRequest :
    (receiveRequest rng (s, t)).2.2.timestamp = t.timestamp := by
  unfold receiveRequest
  dsimp only
  split
  · rfl
  · split
    · rfl
    · unfold receiveBlock2Request
      dsimp only
      split <;> rfl
  · split
    · rfl
    · rfl
    · split
      · rfl
      · unfold receiveBlock1Request
        dsimp only
        split
        · split
          · exact timestamp_incomplete rng s t
          · split
            · rfl
            · exact timestamp_acceptBlock1 rng _ s t _ _ _ _
        · split
          · exact timestamp_incomplete rng s t
          · exact timestamp_acceptBlock1 rng _ s t _ _ _ _

theorem timestamp_requestBlock2 (item : BlockItem) :
    (requestBlock2 item (s, t)).2.2.timestamp = t.timestamp := by
  unfold requestBlock2
  dsimp only
  split <;> rfl

theorem timestamp_receiveBlock2Response (response : Message) :
    (receiveBlock2Response rng k response (s, t)).2.2.timestamp = t.timestamp := by
  unfold receiveBlock2Response
  dsimp only
  split
  · rfl
  · split
    · unfold receiveMoreBlock2
      dsimp only
      split
      · split
        · exact timestamp_error rng _ _ _
        · split
          · exact timestamp_error rng _ _ _
          · split
            · rfl
            · exact timestamp_requestBlock2 _ _ _
      · exact timestamp_requestBlock2 _ _ _
    · unfold receiveLastBlock2
      dsimp only
      split
      · split
        · exact timestamp_error rng _ _ _
        · split <;> rfl
      · rfl
  · rfl

theorem timestamp_receiveBlock1Response (item : BlockItem) (num size : ℕ) :
    (receiveBlock1Response k item num size (s, t)).2.2.timestamp = t.timestamp := by
  unfold receiveBlock1Response
  dsimp only
  split
  · rfl
  · split
    · rfl
    · unfold returned nextBlock1
      dsimp only
      split
      · rfl
      · split <;> rfl

theorem timestamp_receiveResponse :
    (receiveResponse rng (s, t)).2.2.timestamp = t.timestamp := by
  unfold receiveResponse
  dsimp only
  split
  · rfl
  · split
    · rfl
    · split
      · exact timestamp_receiveBlock2Response rng _ s t _
      · split
        · rfl
        · exact timestamp_receiveBlock2Response rng _ s t _
        · exact timestamp_receiveBlock1Response _ s t _ _ _

theorem timestamp_sendResponse : (sendResponse (s, t)).2.2.timestamp = t.timestamp := by
  unfold sendResponse
  dsimp only
  split
  · rfl
  · split
    · rfl
    · split
      · rfl
      · split <;> rfl

end Timestamps

inductive Operation where
  | receiveRequest (rng : Bytes) (t : Transaction)
  | receiveResponse (rng : Bytes) (t : Transaction)
  | sendResponse (t : Transaction)
  | sendRequest (request : Message)
  | purge (k : Key)

def Operation.apply (s : State) : Operation → State
  | .receiveRequest rng t => (BlockLayer.receiveRequest rng (s, t)).2.1
  | .receiveResponse rng t => (BlockLayer.receiveResponse rng (s, t)).2.1
  | .sendResponse t => (BlockLayer.sendResponse (s, t)).2.1
  | .sendRequest request => (BlockLayer.sendRequest request s).2
  | .purge k => BlockLayer.purge k s

def Operation.key : Operation → Option Key
  | .receiveRequest _ t => requestKey t
  | .receiveResponse _ t => responseKey t
  | .sendResponse t => requestKey t
  | .sendRequest request => destinationKey request
  | .purge k => some k

theorem under_apply (op : Operation) (s : State) (k : Key) (h : op.key ≠ some k) :
    (op.apply s).under k = s.under k := by
  cases op with
  | receiveRequest rng t => exact under_receiveRequest rng s t k h
  | receiveResponse rng t => exact under_receiveResponse rng s t k h
  | sendResponse t => exact under_sendResponse s t k h
  | sendRequest request => exact under_sendRequest request s k h
  | purge k' => exact under_erase_block2Receive s k k' fun e => h (congrArg some e.symm)

end BubotCoap.BlockFrames
