import BubotCoap.ClientRuns
import BubotCoap.BlockFrames

set_option autoImplicit false

namespace BubotCoap.ExchangeTables
open PythonData Defines Utils Messages OptionAccess OrderedDict Transactions FallibleState
open FallibleState.Action (Commutes commutes_bind commutes_modify commutes_ofExcept commutes_pure)

variable (p : Key → Bool)

section MessageLayer
open MessageLayer MessagePairing

/-- The entries of the four tables under the keys `p`. -/
def keepMessage (s : MessageLayer.State) : MessageLayer.State := { s with
  transactions := s.transactions.keep p
  transactionsToken := s.transactionsToken.keep p
  transactionsSent := s.transactionsSent.keep p
  transactionsSentToken := s.transactionsSentToken.keep p }

/-- The address of the group in which an empty message is looked for as well. -/
def group (ipv6 : Text → Bool) (address : Address) : Address :=
  (if ipv6 address.1 then allCoapNodesIpv6 else allCoapNodes, address.2)

variable (s : MessageLayer.State)

theorem answered_keep (request : Message) (address : Address)
    (htoken : p (keyToken request address) = true) :
    answered request address (keepMessage p s) = answered request address s := by
  have hget : (keepMessage p s).transactionsToken.get? (keyToken request address) =
      s.transactionsToken.get? (keyToken request address) :=
    Dict.get?_keep_of_true _ p _ htoken
  unfold answered
  rw [hget]
  rfl

theorem storeRequest_commutes (request : Message) (address : Address)
    (hmid : p (keyMid request address) = true) (htoken : p (keyToken request address) = true) :
    Commutes (keepMessage p) (storeRequest request address) s := by
  have hmids := fun tid => Dict.keep_insert s.transactions p _ tid hmid
  have htokens := fun tid => Dict.keep_insert s.transactionsToken p _ tid htoken
  unfold Commutes storeRequest
  rw [answered_keep p s request address htoken]
  split
  · simp only [keepMessage, hmids, State.update, Prod.map]
    rfl
  · simp only [keepMessage, hmids, htokens, Prod.map]
    rfl

theorem receiveRequest_commutes (now : ℚ) (request : Message) (address : Address)
    (hsource : request.source = some address) (hmid : p (keyMid request address) = true)
    (htoken : p (keyToken request address) = true) :
    Commutes (keepMessage p) (MessageLayer.receiveRequest now request) s := by
  have hduplicate : duplicateOf request address (keepMessage p s) =
      duplicateOf request address s := by
    simp only [duplicateOf, keepMessage, Dict.get?_keep_of_true _ p _ hmid,
      Dict.get?_keep_of_true _ p _ htoken]
  have hstore := storeRequest_commutes p s { request with timestamp := some now } address hmid htoken
  unfold Commutes at hstore ⊢
  unfold MessageLayer.receiveRequest
  split
  · next hnone => cases hsource.symm.trans hnone
  · next address' hsource' =>
    cases hsource.symm.trans hsource'
    dsimp only
    rw [hduplicate]
    split
    · rfl
    · rw [hstore]
      rfl

theorem receiveResponse_commutes (response : Message) (address destination : Address)
    (hsource : response.source = some address)
    (hdestination : response.destination = some destination)
    (hmid : p (key address (midArg response.mid)) = true)
    (htoken : p (key address (tokenArg response.token)) = true)
    (hown : p (key destination (tokenArg response.token)) = true) :
    Commutes (keepMessage p) (receiveResponse response) s := by
  have hmatch : matchResponse response address destination (keepMessage p s) =
      matchResponse response address destination s := by
    simp only [matchResponse, matchResponse.byToken, keepMessage,
      Dict.get?_keep_of_true _ p _ hmid, Dict.get?_keep_of_true _ p _ htoken,
      Dict.get?_keep_of_true _ p _ hown]
    rfl
  unfold Commutes receiveResponse
  rw [hsource, hdestination]
  dsimp only
  rw [hmatch]
  split <;> rfl

theorem receiveEmpty_commutes (ipv6 : Text → Bool) (message : Message) (address : Address)
    (hsource : message.source = some address)
    (hmid : p (key address (midArg message.mid)) = true)
    (htoken : p (key address (tokenArg message.token)) = true)
    (hmids : p (key (group ipv6 address) (midArg message.mid)) = true)
    (htokens : p (key (group ipv6 address) (tokenArg message.token)) = true) :
    Commutes (keepMessage p) (receiveEmpty ipv6 message) s := by
  have hmatch : matchEmpty ipv6 message address (keepMessage p s) =
      matchEmpty ipv6 message address s := by
    unfold group at hmids htokens
    simp only [matchEmpty, keepMessage, Dict.get?_keep_of_true _ p _ hmid,
      Dict.get?_keep_of_true _ p _ htoken, Dict.get?_keep_of_true _ p _ hmids,
      Dict.get?_keep_of_true _ p _ htokens]
  have hheap : (keepMessage p s).heap = s.heap := rfl
  unfold Commutes receiveEmpty
  rw [hsource]
  dsimp only
  rw [hmatch, hheap]
  split
  · rfl
  · next tid _ =>
    cases pairEmpty message.type (s.heap.cell tid) with
    | error e => rfl
    | ok t => rfl

/-- The message id and the token with which a request of the node is sent. -/
def sentIds (rng : Bytes) (request : Message) : List HashArg :=
  [.int (request.mid.getD s.currentMid), .bytes (request.token.getD rng)]

theorem storeSent_commutes (tid : ℕ) (request : Message) (address : Address)
    (hunicast : request.multicast = false)
    (hmid : p (key address (midArg request.mid)) = true)
    (htoken : p (key address (tokenArg request.token)) = true) :
    Commutes (keepMessage p) (storeSent tid request address) s := by
  unfold Commutes storeSent
  rw [hunicast, if_neg (by simp), if_neg (by simp)]
  simp only [keepMessage, Dict.keep_insert _ p _ _ hmid, Dict.keep_insert _ p _ _ htoken, Prod.map]
  rfl

theorem completeRequest_cases (rng : Bytes) (request : Message) :
    (∃ e, completeRequest rng request s = (.error e, (fetchMid s).2)) ∨
      ∃ request' u, completeRequest rng request s = (.ok request', u) ∧
        (u = s ∨ u = (fetchMid s).2) ∧ request'.multicast = request.multicast ∧
        [midArg request'.mid, tokenArg request'.token] = sentIds s rng request := by
  unfold completeRequest sentIds
  dsimp only
  cases hmid : request.mid with
  | some mid => exact Or.inr ⟨_, s, rfl, Or.inl rfl, rfl, rfl⟩
  | none =>
    dsimp only
    split
    · exact Or.inl ⟨_, rfl⟩
    · next request' hset =>
      rw [MessageLayer.setMid_eq _ _ _ hset]
      exact Or.inr ⟨_, _, rfl, Or.inr rfl, rfl, rfl⟩

theorem completeRequest_commutes (rng : Bytes) (request : Message) :
    Commutes (keepMessage p) (completeRequest rng request) s := by
  have hmid : (keepMessage p s).currentMid = s.currentMid := rfl
  have hfetch : (fetchMid (keepMessage p s)).2 = keepMessage p (fetchMid s).2 := rfl
  unfold Commutes completeRequest
  dsimp only
  rw [hmid, hfetch]
  split
  · rfl
  · split <;> rfl

theorem sendRequest_commutes (now : ℚ) (rng : Bytes) (request : Message) (address : Address)
    (hunicast : request.multicast = false) (hdestination : request.destination = some address)
    (h : ∀ id ∈ sentIds s rng request, p (key address id) = true) :
    Commutes (keepMessage p) (MessagePairing.sendRequest now rng request) s := by
  have hcomplete := completeRequest_commutes p s rng { request with timestamp := some now }
  unfold Commutes at hcomplete ⊢
  unfold MessagePairing.sendRequest
  split
  · rfl
  · split
    · rfl
    · next address' hdestination' =>
      cases hdestination.symm.trans hdestination'
      rw [hcomplete]
      rcases completeRequest_cases s rng { request with timestamp := some now } with
        ⟨e, he⟩ | ⟨request', u, hok, _, hsame, hids⟩
      · rw [he]
        rfl
      · rw [hok]
        have hid := fun id hid => h id (hids ▸ hid)
        simp only [List.forall_mem_cons] at hid
        obtain ⟨hmid, htoken, _⟩ := hid
        exact storeSent_commutes p
          { u with heap := (u.heap.alloc (Transaction.new request' now)).2 }
          (u.heap.alloc (Transaction.new request' now)).1 request' address (hsame.trans hunicast)
          hmid htoken

theorem setResponseMid_commutes (tid : ℕ) (response : Message)
    (h : ∀ address, response.destination = some address →
      p (key address (.int s.currentMid)) = true) :
    Commutes (keepMessage p) (setResponseMid tid response) s := by
  have hmid : (keepMessage p s).currentMid = s.currentMid := rfl
  unfold Commutes setResponseMid
  dsimp only
  rw [hmid]
  split
  · rfl
  · split
    · rfl
    · next response' hset =>
      have hsame := MessageLayer.setMid_eq _ _ _ hset
      split
      · rfl
      · next address hdestination =>
        have hkey : p (key address (midArg response'.mid)) = true := by
          rw [hsame]
          refine h address ?_
          rw [← hdestination, hsame]
        have hinsert := Dict.keep_insert s.transactions p _ tid hkey
        change (Except.ok (), { keepMessage p ((fetchMid s).2.update tid fun t =>
          { t with response := some response' }) with
            transactions := (s.transactions.keep p).insert (key address (midArg response'.mid)) tid }) = _
        rw [hinsert]
        rfl

theorem sendResponse_commutes (rng : Bytes) (tid : ℕ)
    (h : ∀ response address, (s.heap.cell tid).response = some response →
      response.destination = some address → p (key address (.int s.currentMid)) = true) :
    Commutes (keepMessage p) (MessageLayer.sendResponse rng tid) s := by
  have hheap : (keepMessage p s).heap = s.heap := rfl
  unfold Commutes MessageLayer.sendResponse
  rw [hheap]
  split
  · rfl
  · next response hresponse =>
    split
    · rfl
    · next response' completed htype =>
      obtain ⟨_, hdestination⟩ := setResponseType_mid _ _ _ _ _ htype
      have hset := setResponseMid_commutes p
        (s.update tid fun t => { t with response := some response', completed := completed }) tid
        response' fun address haddress => h response address hresponse (hdestination ▸ haddress)
      have hupdate : (keepMessage p s).update tid (fun t =>
          { t with response := some response', completed := completed }) = keepMessage p
            (s.update tid fun t => { t with response := some response', completed := completed }) :=
        rfl
      unfold Commutes at hset
      dsimp only
      rw [hupdate, hset]
      generalize setResponseMid tid response' _ = r
      obtain ⟨_ | _, u⟩ := r <;> rfl

theorem sendAckOfResponse_commutes (rng : Bytes) (tid : ℕ) (message : Message) :
    Commutes (keepMessage p) (Client.sendAckOfResponse rng tid message) s := by
  have hheap : (keepMessage p s).heap = s.heap := rfl
  unfold Commutes Client.sendAckOfResponse
  rw [Action.bind_get, Action.bind_get, hheap]
  cases (s.heap.cell tid).response with
  | none => rfl
  | some response =>
    refine commutes_bind _ _ _ s (commutes_modify _ _ s rfl) fun _ u => ?_
    refine commutes_bind _ _ _ u (commutes_ofExcept _ _ u) fun _ u => ?_
    refine commutes_bind _ _ _ u (commutes_ofExcept _ _ u) fun _ u => ?_
    exact commutes_bind _ _ _ u (commutes_ofExcept _ _ u) fun _ u => commutes_pure _ _ u

theorem sendRstOfResponse_commutes (rng : Bytes) (tid : ℕ) (message : Message) :
    Commutes (keepMessage p) (Client.sendRstOfResponse rng tid message) s := by
  have hheap : (keepMessage p s).heap = s.heap := rfl
  unfold Commutes Client.sendRstOfResponse
  rw [Action.bind_get, Action.bind_get, hheap]
  cases (s.heap.cell tid).response with
  | none => rfl
  | some response =>
    refine commutes_bind _ _ _ s (commutes_modify _ _ s rfl) fun _ u => ?_
    dsimp only
    split
    · refine commutes_bind _ _ _ u (commutes_pure _ _ u) fun _ u => ?_
      refine commutes_bind _ _ _ u (commutes_ofExcept _ _ u) fun _ u => ?_
      exact commutes_bind _ _ _ u (commutes_ofExcept _ _ u) fun _ u => commutes_pure _ _ u
    · refine commutes_bind _ fetchMid _ u rfl fun _ u => ?_
      refine commutes_bind _ _ _ u (commutes_ofExcept _ _ u) fun _ u => ?_
      refine commutes_bind _ _ _ u (commutes_ofExcept _ _ u) fun _ u => ?_
      exact commutes_bind _ _ _ u (commutes_ofExcept _ _ u) fun _ u => commutes_pure _ _ u

theorem sendEmpty_commutes (rng : Bytes) (message : Message) (address : Address)
    (hdestination : message.destination = some address)
    (hmid : p (key address (midArg message.mid)) = true)
    (htoken : p (key address (tokenArg message.token)) = true) :
    Commutes (keepMessage p) (Client.sendEmpty rng message) s := by
  have hmids : (keepMessage p s).transactions.get? (key address (midArg message.mid)) =
      s.transactions.get? (key address (midArg message.mid)) := Dict.get?_keep_of_true _ p _ hmid
  have htokens : (keepMessage p s).transactionsToken.get? (key address (tokenArg message.token)) =
      s.transactionsToken.get? (key address (tokenArg message.token)) :=
    Dict.get?_keep_of_true _ p _ htoken
  unfold Commutes Client.sendEmpty
  rw [hdestination]
  dsimp only
  rw [hmids, htokens]
  split
  · rfl
  · next tid _ =>
    split
    · exact sendAckOfResponse_commutes p s rng tid message
    · exact sendRstOfResponse_commutes p s rng tid message
    · rfl

section Frames
variable (k : Key)

/-- What the four tables hold under one key. -/
def underMessage (s : MessageLayer.State) : List (Option ℕ) :=
  [s.transactions.get? k, s.transactionsToken.get? k, s.transactionsSent.get? k,
    s.transactionsSentToken.get? k]

theorem under_receiveRequest (now : ℚ) (request : Message) (address : Address)
    (hsource : request.source = some address) (hmid : k ≠ keyMid request address)
    (htoken : k ≠ keyToken request address) :
    underMessage k (MessageLayer.receiveRequest now request s).2 = underMessage k s := by
  have hstore : ∀ stamped : Message, keyMid stamped address = keyMid request address →
      keyToken stamped address = keyToken request address →
      underMessage k (storeRequest stamped address s).2 = underMessage k s := by
    intro stamped hsame hsame'
    unfold storeRequest underMessage
    rw [hsame, hsame']
    split
    · simp [State.update, Dict.get?_insert_of_ne _ _ hmid]
    · simp [Dict.get?_insert_of_ne _ _ hmid, Dict.get?_insert_of_ne _ _ htoken]
  unfold MessageLayer.receiveRequest
  split
  · rfl
  · next address' hsource' =>
    cases hsource.symm.trans hsource'
    split
    · rfl
    · exact hstore { request with timestamp := some now } rfl rfl

theorem under_receiveResponse (response : Message) :
    underMessage k (receiveResponse response s).2 = underMessage k s := by
  unfold receiveResponse
  split
  · rfl
  · split
    · rfl
    · split <;> rfl

theorem under_receiveEmpty (ipv6 : Text → Bool) (message : Message) :
    underMessage k (receiveEmpty ipv6 message s).2 = underMessage k s := by
  unfold receiveEmpty
  split
  · rfl
  · split
    · rfl
    · split <;> rfl

theorem under_sendRequest (now : ℚ) (rng : Bytes) (request : Message) (address : Address)
    (hunicast : request.multicast = false) (hdestination : request.destination = some address)
    (h : ∀ id ∈ sentIds s rng request, k ≠ key address id) :
    underMessage k (MessagePairing.sendRequest now rng request s).2 = underMessage k s := by
  unfold MessagePairing.sendRequest
  split
  · rfl
  · split
    · rfl
    · next address' hdestination' =>
      cases hdestination.symm.trans hdestination'
      rcases completeRequest_cases s rng { request with timestamp := some now } with
        ⟨e, he⟩ | ⟨request', u, hok, htables, hsame, hids⟩
      · rw [he]
        rfl
      · rw [hok]
        have hid := fun id hid => h id (hids ▸ hid)
        simp only [List.forall_mem_cons] at hid
        obtain ⟨hmid, htoken, _⟩ := hid
        have hu : underMessage k u = underMessage k s := by
          rcases htables with rfl | rfl <;> rfl
        refine Eq.trans ?_ hu
        unfold storeSent underMessage
        simp [hsame.trans hunicast, Dict.get?_insert_of_ne _ _ hmid,
          Dict.get?_insert_of_ne _ _ htoken]

theorem under_sendResponse (rng : Bytes) (tid : ℕ)
    (h : ∀ response address, (s.heap.cell tid).response = some response →
      response.destination = some address → k ≠ key address (.int s.currentMid)) :
    underMessage k (MessageLayer.sendResponse rng tid s).2 = underMessage k s := by
  have htables : underMessage k (MessageLayer.sendResponse rng tid s).2 =
      ((MessageLayer.sendResponse rng tid s).2.transactions.get? k) ::
        (underMessage k s).tail := by
    refine MessageLayer.sendResponse_frame tid (fun s s' => underMessage k s' =
      s'.transactions.get? k :: (underMessage k s).tail) ?_ ?_ ?_ ?_ ?_ rng s
    · exact fun _ => rfl
    · intro s t u hst htu
      rw [htu, hst]
      rfl
    · exact fun _ => rfl
    · exact fun _ _ => rfl
    · exact fun _ _ => rfl
  rw [htables]
  rcases MessageLayer.sendResponse_transactions rng tid s with hsame | ⟨k', hown, hsame⟩
  · rw [hsame]
    rfl
  · have hne : k ≠ k' := by
      unfold ownKey at hown
      split at hown
      · cases hown
      · next response hresponse =>
        split at hown
        · next address _ hdestination =>
          cases hown
          exact h response address hresponse hdestination
        · cases hown
    rw [hsame, Dict.get?_insert_of_ne _ _ hne]
    rfl

theorem under_sendEmpty (rng : Bytes) (message : Message) :
    underMessage k (Client.sendEmpty rng message s).2 = underMessage k s := by
  obtain ⟨htransactions, htoken, hsent, hsentToken, _⟩ := ClientRuns.leaves_sendEmpty rng message s
  unfold underMessage
  rw [htransactions, htoken, hsent, hsentToken]

end Frames

end MessageLayer

section BlockLayer
open BlockLayer BlockFrames

/-- The entries of the four tables under the keys `p`. -/
def keepBlock (s : BlockLayer.State) : BlockLayer.State where
  block1Sent := s.block1Sent.keep p
  block2Sent := s.block2Sent.keep p
  block1Receive := s.block1Receive.keep p
  block2Receive := s.block2Receive.keep p

/-- The operation of the layer does the same to the transaction. -/
abbrev CommutesBlock {α : Type} (x : Action PyErr (BlockLayer.State × Transaction) α)
    (s : BlockLayer.State) (t : Transaction) : Prop :=
  Commutes (Prod.map (keepBlock p) id) x (s, t)

variable (rng : Bytes) (s : BlockLayer.State) (t : Transaction)

theorem incomplete_commutes : CommutesBlock p (incomplete rng) s t := by
  unfold CommutesBlock Commutes incomplete
  dsimp only [Prod.map, id]
  split <;> rfl

theorem returned_commutes (x : Action PyErr (BlockLayer.State × Transaction) Unit)
    (h : CommutesBlock p x s t) : CommutesBlock p (fun u => returned (x u)) s t := by
  unfold CommutesBlock Commutes at h ⊢
  dsimp only
  rw [h]
  rfl

section Keyed
variable (k : Key) (hk : p k = true)
include hk

theorem receiveBlock2Request_commutes (num m size : ℕ) :
    CommutesBlock p (receiveBlock2Request k num m size) s t := by
  unfold CommutesBlock Commutes receiveBlock2Request
  simp only [Prod.map, id, keepBlock, Dict.get?_keep_of_true _ p _ hk, Dict.keep_insert _ p _ _ hk]
  split <;> rfl

theorem acceptBlock1_commutes (num m size : ℕ) (item : BlockItem) :
    CommutesBlock p (acceptBlock1 rng k num m size item) s t := by
  unfold CommutesBlock Commutes acceptBlock1
  simp only [Prod.map, id, keepBlock, Dict.keep_insert _ p _ _ hk, Dict.keep_erase]
  split
  · rfl
  · split
    · rfl
    · split <;> rfl

theorem receiveBlock1Request_commutes (num m size : ℕ) :
    CommutesBlock p (receiveBlock1Request rng k num m size) s t := by
  have hget : (keepBlock p s).block1Receive.get? k = s.block1Receive.get? k :=
    Dict.get?_keep_of_true _ p _ hk
  unfold CommutesBlock Commutes receiveBlock1Request
  dsimp only [Prod.map_apply, id]
  rw [hget]
  split
  · split
    · exact incomplete_commutes p rng s t
    · split
      · rfl
      · exact acceptBlock1_commutes p rng s t k hk num m size _
  · split
    · exact incomplete_commutes p rng s t
    · exact acceptBlock1_commutes p rng s t k hk num m size _

theorem nextBlock1_commutes (item : BlockItem) (size : ℕ) :
    CommutesBlock p (nextBlock1 k item size) s t := by
  unfold CommutesBlock Commutes nextBlock1
  simp only [Prod.map, id, keepBlock, Dict.keep_insert _ p _ _ hk]
  split
  · rfl
  · split <;> rfl

theorem receiveBlock1Response_commutes (item : BlockItem) (num size : ℕ) :
    CommutesBlock p (receiveBlock1Response k item num size) s t := by
  unfold CommutesBlock Commutes receiveBlock1Response
  dsimp only [Prod.map_apply, id]
  split
  · rfl
  · split
    · rfl
    · exact returned_commutes p s _ _ (nextBlock1_commutes p s _ k hk item size)

theorem receiveMoreBlock2_commutes (num m size : ℕ) (response : Message) :
    CommutesBlock p (receiveMoreBlock2 rng k num m size response) s t := by
  unfold CommutesBlock Commutes receiveMoreBlock2 requestBlock2 error
  simp only [Prod.map, id, keepBlock, Dict.get?_keep_of_true _ p _ hk, Dict.keep_insert _ p _ _ hk]
  split
  · split
    · split <;> rfl
    · split
      · split <;> rfl
      · split
        · rfl
        · split <;> rfl
  · split <;> rfl

theorem receiveLastBlock2_commutes (response : Message) :
    CommutesBlock p (receiveLastBlock2 rng k response) s t := by
  unfold CommutesBlock Commutes receiveLastBlock2 error
  simp only [Prod.map, id, keepBlock, Dict.get?_keep_of_true _ p _ hk, Dict.keep_erase]
  split
  · split
    · split <;> rfl
    · split <;> rfl
  · rfl

theorem receiveBlock2Response_commutes (response : Message) :
    CommutesBlock p (receiveBlock2Response rng k response) s t := by
  unfold CommutesBlock Commutes receiveBlock2Response
  dsimp only [Prod.map_apply, id]
  split
  · rfl
  · split
    · exact receiveMoreBlock2_commutes p rng s t k hk _ _ _ response
    · exact receiveLastBlock2_commutes p rng s t k hk response
  · rfl

end Keyed

theorem receiveBlockRequest_commutes (h : ∀ k, requestKey t = some k → p k = true) :
    CommutesBlock p (BlockLayer.receiveRequest rng) s t := by
  unfold requestKey at h
  unfold CommutesBlock Commutes BlockLayer.receiveRequest
  dsimp only [Prod.map_apply, id]
  split
  · rfl
  · split
    · rfl
    · next address hsource =>
      exact receiveBlock2Request_commutes p s t _ (h _ (by rw [hsource]; rfl)) _ _ _
  · split
    · rfl
    · rfl
    · split
      · rfl
      · next address hsource =>
        exact receiveBlock1Request_commutes p rng s t _ (h _ (by rw [hsource]; rfl)) _ _ _

theorem receiveBlockResponse_commutes (h : ∀ k, responseKey t = some k → p k = true) :
    CommutesBlock p (BlockLayer.receiveResponse rng) s t := by
  unfold responseKey at h
  unfold CommutesBlock Commutes BlockLayer.receiveResponse
  dsimp only [Prod.map_apply, id]
  split
  · rfl
  · next response hresponse =>
    split
    · rfl
    · next address hsource =>
      have hk : p (key address (tokenArg response.token)) = true :=
        h _ (by rw [hresponse, Option.bind_some, hsource, Option.map_some])
      have hget : (keepBlock p s).block1Sent.get? (key address (tokenArg response.token)) =
          s.block1Sent.get? (key address (tokenArg response.token)) :=
        Dict.get?_keep_of_true _ p _ hk
      rw [hget]
      split
      · exact returned_commutes p s t _ (receiveBlock2Response_commutes p rng s t _ hk response)
      · split
        · rfl
        · exact returned_commutes p s t _ (receiveBlock2Response_commutes p rng s t _ hk response)
        · exact receiveBlock1Response_commutes p s t _ hk _ _ _

theorem sendBlockResponse_commutes (h : ∀ k, requestKey t = some k → p k = true) :
    CommutesBlock p BlockLayer.sendResponse s t := by
  unfold requestKey at h
  unfold CommutesBlock Commutes BlockLayer.sendResponse
  dsimp only [Prod.map_apply, id]
  split
  · rfl
  · next address hsource =>
    have hk : p (key address (tokenArg t.request.token)) = true := h _ (by rw [hsource]; rfl)
    have hitem : outgoingItem (keepBlock p s) (key address (tokenArg t.request.token)) t.response =
        outgoingItem s (key address (tokenArg t.request.token)) t.response := by
      simp only [outgoingItem, keepBlock, Dict.get?_keep_of_true _ p _ hk]
    rw [hitem]
    simp only [keepBlock, Dict.keep_insert _ p _ _ hk]
    split
    · rfl
    · split
      · rfl
      · split <;> rfl

theorem firstBlock1_commutes (num size : ℕ) (request : Message)
    (h : ∀ k, BlockFrames.destinationKey request = some k → p k = true) :
    Commutes (keepBlock p) (firstBlock1 num size request) s := by
  unfold BlockFrames.destinationKey at h
  unfold Commutes firstBlock1
  split
  · rfl
  · next address hdestination =>
    rw [hdestination] at h
    split
    · rfl
    · dsimp only
      split
      · rfl
      · next request' hset =>
        have htoken : request'.token = request.token := by
          rw [addNew_ok _ _ _ _ hset]
          rfl
        have hk : p (key address (tokenArg request'.token)) = true := by
          rw [htoken]
          exact h _ rfl
        simp only [keepBlock, Dict.keep_insert _ p _ _ hk]
        split <;> rfl

theorem sendBlockRequest_commutes (request : Message)
    (h : ∀ k, BlockFrames.destinationKey request = some k → p k = true) :
    Commutes (keepBlock p) (BlockLayer.sendRequest request) s := by
  have hfirst := fun num size => firstBlock1_commutes p s num size request h
  unfold Commutes at hfirst
  unfold Commutes BlockLayer.sendRequest
  split
  · rfl
  · exact hfirst _ _
  · split
    · exact hfirst _ _
    · split
      · rfl
      · rfl
      · split
        · rfl
        · next address hdestination =>
          unfold BlockFrames.destinationKey at h
          rw [hdestination] at h
          have hk : p (key address (tokenArg request.token)) = true := h _ rfl
          simp only [keepBlock, Dict.keep_insert _ p _ _ hk]
          rfl

end BlockLayer

section ObserveLayer
open ObserveLayer

variable (s : Relations) (t : Transaction) (k : Key)

theorem contains_keep (hk : p k = true) :
    (s.keep p).contains k = s.contains k := by
  unfold Dict.contains
  rw [Dict.get?_keep_of_true _ p k hk]

abbrev CommutesObserve {α : Type} (x : Action PyErr (Relations × Transaction) α) (s : Relations)
    (t : Transaction) : Prop :=
  Commutes (Prod.map (Dict.keep · p) id) x (s, t)

theorem observeSendRequest_commutes (now : ℚ) (request : Message)
    (h : ∀ address, request.destination = some address → p (relationKey request address) = true) :
    Commutes (Dict.keep · p) (ObserveLayer.sendRequest now request) s := by
  unfold Commutes ObserveLayer.sendRequest
  split
  · split
    · rfl
    · next address hdestination =>
      simp only [Dict.keep_insert _ p _ _ (h address hdestination)]
      rfl
  · rfl

theorem observeReceiveResponse_commutes
    (h : ∀ response address, t.response = some response → response.source = some address →
      p (relationKey response address) = true) :
    CommutesObserve p ObserveLayer.receiveResponse s t := by
  unfold CommutesObserve Commutes ObserveLayer.receiveResponse
  dsimp only [Prod.map_apply, id]
  split
  · rfl
  · next response hresponse =>
    split
    · rfl
    · next address hsource =>
      rw [contains_keep p s _ (h response address hresponse hsource)]
      split <;> rfl

theorem observeSendEmpty_commutes (message : Message) :
    Commutes (Dict.keep · p) (ObserveLayer.sendEmpty message) s := by
  unfold Commutes ObserveLayer.sendEmpty
  split
  · rfl
  · simp only [Dict.keep_erase]
    split <;> rfl

theorem observeReceiveRequest_commutes (now : ℚ) (tid : ℕ) (request : Message)
    (h : ∀ address, request.source = some address → p (relationKey request address) = true) :
    Commutes (Dict.keep · p) (ObserveLayer.receiveRequest now tid request) s := by
  unfold Commutes ObserveLayer.receiveRequest
  split
  · split
    · rfl
    · next address hsource =>
      have hk := h address hsource
      simp only [contains_keep p s _ hk, Dict.keep_insert _ p _ _ hk]
      rfl
  · split
    · split
      · rfl
      · simp only [Dict.keep_erase]
        rfl
    · rfl

theorem observeReceiveEmpty_commutes (empty : Message) :
    CommutesObserve p (ObserveLayer.receiveEmpty empty) s t := by
  unfold CommutesObserve Commutes ObserveLayer.receiveEmpty
  dsimp only [Prod.map_apply, id]
  split
  · split
    · rfl
    · simp only [Dict.keep_erase]
      rfl
  · rfl

theorem observeSendResponse_commutes (now : ℚ) (tid : ℕ) (counter : Option ℕ)
    (h : ∀ address, t.request.source = some address → p (relationKey t.request address) = true) :
    CommutesObserve p (ObserveLayer.sendResponse now tid counter) s t := by
  unfold CommutesObserve Commutes ObserveLayer.sendResponse
  dsimp only [Prod.map_apply, id]
  split
  · rfl
  · next address hsource =>
    have hk := h address hsource
    simp only [Dict.get?_keep_of_true _ p _ hk, Dict.keep_insert _ p _ _ hk, Dict.keep_erase]
    split
    · rfl
    · split
      · rfl
      · split
        · split
          · rfl
          · split <;> rfl
        · split
          · rfl
          · split <;> rfl

theorem removeSubscriber_commutes (message : Message) (heap : Heap)
    (h : ∀ address, message.destination = some address → p (relationKey message address) = true) :
    Commutes (Prod.map (Dict.keep · p) id) (ObserveLayer.removeSubscriber message) (s, heap) := by
  unfold Commutes ObserveLayer.removeSubscriber
  dsimp only [Prod.map_apply, id]
  split
  · rfl
  · next address hdestination =>
    have hk := h address hdestination
    simp only [Dict.get?_keep_of_true _ p _ hk, Dict.keep_erase]
    split
    · rfl
    · split <;> rfl

section Frames

theorem get?_observeSendRequest (now : ℚ) (request : Message)
    (h : ∀ address, request.destination = some address → k ≠ relationKey request address) :
    (ObserveLayer.sendRequest now request s).2.get? k = s.get? k := by
  unfold ObserveLayer.sendRequest
  split
  · split
    · rfl
    · next address hdestination => exact Dict.get?_insert_of_ne _ _ (h address hdestination)
  · rfl

theorem observeReceiveResponse_same :
    (ObserveLayer.receiveResponse (s, t)).2.1 = s := by
  unfold ObserveLayer.receiveResponse
  dsimp only
  split
  · rfl
  · split
    · rfl
    · split <;> rfl

theorem get?_observeSendEmpty (message : Message)
    (h : ∀ address, message.destination = some address → k ≠ relationKey message address) :
    (ObserveLayer.sendEmpty message s).2.get? k = s.get? k := by
  unfold ObserveLayer.sendEmpty
  split
  · rfl
  · next address hdestination =>
    split
    · exact Dict.get?_erase_of_ne _ (h address hdestination)
    · rfl

theorem get?_observeReceiveRequest (now : ℚ) (tid : ℕ) (request : Message)
    (h : ∀ address, request.source = some address → k ≠ relationKey request address) :
    (ObserveLayer.receiveRequest now tid request s).2.get? k = s.get? k := by
  unfold ObserveLayer.receiveRequest
  split
  · split
    · rfl
    · next address hsource => exact Dict.get?_insert_of_ne _ _ (h address hsource)
  · split
    · split
      · rfl
      · next address hsource => exact Dict.get?_erase_of_ne _ (h address hsource)
    · rfl

theorem get?_observeReceiveEmpty (empty : Message)
    (h : ∀ address, t.request.source = some address → k ≠ relationKey t.request address) :
    (ObserveLayer.receiveEmpty empty (s, t)).2.1.get? k = s.get? k := by
  unfold ObserveLayer.receiveEmpty
  dsimp only
  split
  · split
    · rfl
    · next address hsource => exact Dict.get?_erase_of_ne _ (h address hsource)
  · rfl

theorem get?_observeSendResponse (now : ℚ) (tid : ℕ) (counter : Option ℕ)
    (h : ∀ address, t.request.source = some address → k ≠ relationKey t.request address) :
    (ObserveLayer.sendResponse now tid counter (s, t)).2.1.get? k = s.get? k := by
  unfold ObserveLayer.sendResponse
  dsimp only
  split
  · rfl
  · next address hsource =>
    have hne := h address hsource
    split
    · rfl
    · split
      · rfl
      · split
        · split
          · exact Dict.get?_erase_of_ne _ hne
          · split
            · rfl
            · exact Dict.get?_insert_of_ne _ _ hne
        · split
          · rfl
          · split
            · exact Dict.get?_erase_of_ne _ hne
            · rfl

theorem get?_removeSubscriber (message : Message) (heap : Heap)
    (h : ∀ address, message.destination = some address → k ≠ relationKey message address) :
    (ObserveLayer.removeSubscriber message (s, heap)).2.1.get? k = s.get? k := by
  unfold ObserveLayer.removeSubscriber
  dsimp only
  split
  · rfl
  · next address hdestination =>
    split
    · rfl
    · split
      · rfl
      · exact Dict.get?_erase_of_ne _ (h address hdestination)

end Frames

end ObserveLayer

end BubotCoap.ExchangeTables
