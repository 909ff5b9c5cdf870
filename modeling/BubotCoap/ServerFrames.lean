import BubotCoap.Server

set_option autoImplicit false

namespace BubotCoap.ServerFrames
open PythonData Defines Messages Transactions Resources Server FallibleState

section MessageIds

variable (s : MessageLayer.State)

theorem receiveRequest_currentMid (now : ℚ) (request : Message) :
    (MessageLayer.receiveRequest now request s).2.currentMid = s.currentMid := by
  unfold MessageLayer.receiveRequest
  split
  · rfl
  · split
    · rfl
    · dsimp only
      unfold MessageLayer.storeRequest
      split <;> rfl

theorem datagramReceivedRequest_currentMid (now : ℚ) (request : Message) :
    (CoapUdpProtocol.datagramReceivedRequest now request s).2.currentMid = s.currentMid := by
  rw [← receiveRequest_currentMid s now request]
  unfold CoapUdpProtocol.datagramReceivedRequest
  rw [Action.bind_apply]
  generalize MessageLayer.receiveRequest now request s = r
  obtain ⟨result, s'⟩ := r
  cases result <;> rfl

theorem sendResponse_currentMid (rng : Bytes) (tid : ℕ) (h : s.currentMid ≤ 65535) :
    (MessageLayer.sendResponse rng tid s).2.currentMid ≤ 65535 := by
  refine MessageLayer.sendResponse_frame tid
    (fun s s' => s.currentMid ≤ 65535 → s'.currentMid ≤ 65535) ?_ ?_ ?_ ?_ ?_ rng s h
  · exact fun _ h => h
  · exact fun _ _ _ h h' hs => h' (h hs)
  · intro s _
    have hnext : (s.currentMid + 1) % 65535 < 65535 := Nat.mod_lt _ (by omega)
    exact hnext.le
  · exact fun _ _ h => h
  · exact fun _ _ h => h

theorem sendAckOfRequest_currentMid (tid : ℕ) (message : Message) :
    (MessageLayer.sendAckOfRequest tid message s).2.currentMid = s.currentMid := by
  unfold MessageLayer.sendAckOfRequest
  rw [Action.bind_ok _ (Action.modify_apply _ _),
    Action.bind_get]
  rw [Action.bind_apply, Action.ofExcept_apply]
  cases message.setMid _ with
  | error e => rfl
  | ok message =>
    dsimp only
    rw [Action.bind_apply, Action.ofExcept_apply]
    cases message.setCode (some Codes.empty) <;> rfl

end MessageIds

variable {ω : Type}

/-- The records of `s'` are those of `s` with entries of the current reception added. -/
structure Extends (s s' : Server.State ω) : Prop where
  received : s'.received = s.received
  calls : ∃ new : List Call, s'.calls = s.calls ++ new.map (Prod.mk s.received)
  sent : ∃ new : List Datagram, s'.sent = s.sent ++ new.map (Prod.mk s.received)
  mid : s.message.currentMid ≤ 65535 → s'.message.currentMid ≤ 65535

namespace Extends

theorem of_eq (s s' : Server.State ω) (received : s'.received = s.received)
    (calls : s'.calls = s.calls) (sent : s'.sent = s.sent)
    (mid : s.message.currentMid ≤ 65535 → s'.message.currentMid ≤ 65535) : Extends s s' where
  received := received
  calls := ⟨[], by rw [calls, List.map_nil, List.append_nil]⟩
  sent := ⟨[], by rw [sent, List.map_nil, List.append_nil]⟩
  mid := mid

theorem refl (s : Server.State ω) : Extends s s := of_eq s s rfl rfl rfl id

theorem trans (s t u : Server.State ω) (h : Extends s t) (h' : Extends t u) : Extends s u := by
  obtain ⟨calls, hcalls⟩ := h.calls
  obtain ⟨calls', hcalls'⟩ := h'.calls
  obtain ⟨sent, hsent⟩ := h.sent
  obtain ⟨sent', hsent'⟩ := h'.sent
  rw [h.received] at hcalls' hsent'
  refine ⟨h'.received.trans h.received, ⟨calls ++ calls', ?_⟩, ⟨sent ++ sent', ?_⟩, ?_⟩
  · rw [hcalls', hcalls, List.map_append, List.append_assoc]
  · rw [hsent', hsent, List.map_append, List.append_assoc]
  · exact fun hmid => h'.mid (h.mid hmid)

end Extends

section Actions
variable {α : Type} (tid : ℕ)

abbrev Adds (x : Action Stop (Server.State ω) α) : Prop := Action.Moves Extends x

theorem adds_bind {β : Type} (x : Action Stop (Server.State ω) α)
    (f : α → Action Stop (Server.State ω) β) (hx : Adds x) (hf : ∀ a, Adds (f a)) :
    Adds (x >>= f) :=
  Action.Moves.andThen Extends Extends.trans x f hx hf

theorem adds_pure (a : α) : Adds (pure a : Action Stop (Server.State ω) α) :=
  Action.Moves.done Extends Extends.refl a

theorem adds_raise (e : Stop) : Adds (Action.raise e : Action Stop (Server.State ω) α) :=
  Action.Moves.raise Extends Extends.refl e

theorem adds_get : Adds (Action.get : Action Stop (Server.State ω) _) :=
  Action.Moves.get Extends Extends.refl

theorem adds_getTransaction : Adds (getTransaction tid : Action Stop (Server.State ω) _) :=
  adds_bind _ _ adds_get fun _ => adds_pure _

theorem adds_onMessage (x : Action PyErr MessageLayer.State α)
    (h : ∀ s : MessageLayer.State, s.currentMid ≤ 65535 → (x s).2.currentMid ≤ 65535) :
    Adds (onMessage x : Action Stop (Server.State ω) α) :=
  fun s => Extends.of_eq _ _ rfl rfl rfl (h s.message)

theorem adds_onBlock (x : Action PyErr (BlockLayer.State × Transaction) α) :
    Adds (onBlock tid x : Action Stop (Server.State ω) α) :=
  fun _ => Extends.of_eq _ _ rfl rfl rfl id

theorem adds_onRelations (x : Action PyErr ObserveLayer.Relations α) :
    Adds (onRelations x : Action Stop (Server.State ω) α) :=
  fun _ => Extends.of_eq _ _ rfl rfl rfl id

theorem adds_onObserve (x : Action PyErr (ObserveLayer.Relations × Transaction) α) :
    Adds (onObserve tid x : Action Stop (Server.State ω) α) :=
  fun _ => Extends.of_eq _ _ rfl rfl rfl id

theorem adds_onHeap (x : Action PyErr (ObserveLayer.Relations × Heap) α) :
    Adds (onHeap x : Action Stop (Server.State ω) α) :=
  fun _ => Extends.of_eq _ _ rfl rfl rfl id

theorem adds_onScene (x : Action Stop (Scene ω) α) : Adds (onScene tid x) := by
  intro s
  refine ⟨rfl, ⟨_, rfl⟩, ⟨[], ?_⟩, id⟩
  rw [List.map_nil, List.append_nil]
  rfl

theorem adds_updateResource (rid : ℕ) (f : Resource → Resource) :
    Adds (Server.updateResource rid f : Action Stop (Server.State ω) Unit) :=
  fun _ => Extends.of_eq _ _ rfl rfl rfl id

theorem adds_sendDatagram (datagram : Datagram) :
    Adds (sendDatagram datagram : Action Stop (Server.State ω) Unit) := by
  intro s
  refine ⟨rfl, ⟨[], ?_⟩, ⟨[datagram], rfl⟩, id⟩
  rw [List.map_nil, List.append_nil]
  rfl

theorem adds_notify (rid : ℕ) : Adds (notify rid : Action Stop (Server.State ω) Unit) := by
  refine adds_bind _ _ (adds_onHeap _) ?_
  intro observers
  cases observers with
  | nil => exact adds_pure _
  | cons _ _ => exact adds_raise _

theorem adds_notifyMarked (resource : Option ℕ) :
    Adds (notifyMarked resource : Action Stop (Server.State ω) Unit) := by
  refine adds_bind _ _ adds_get ?_
  intro s
  cases resource with
  | none => exact adds_pure _
  | some rid =>
    dsimp only
    split
    · exact adds_bind _ _ (adds_notify rid) fun _ => adds_updateResource rid _
    · split
      · exact adds_bind _ _ (adds_notify rid) fun _ => adds_updateResource rid _
      · exact adds_pure _

theorem adds_logResponse (P : Rendering.Platform) :
    Adds (logResponse P tid : Action Stop (Server.State ω) Unit) := by
  intro s
  unfold logResponse
  split
  · exact Extends.refl s
  · exact Extends.of_eq _ _ rfl rfl rfl id

theorem adds_sendResponse (handlers : Handlers ω) (rng : Bytes) :
    Adds (Server.sendResponse handlers rng tid) :=
  adds_bind _ _ (adds_onMessage _ fun s => sendResponse_currentMid s rng tid)
    fun _ => adds_logResponse tid _

end Actions

variable (handlers : Handlers ω) (rng : Bytes) (now : ℚ) (tid : ℕ)

theorem adds_reply : Adds (reply handlers rng now tid) := by
  refine adds_bind _ _ (adds_getTransaction tid) fun t => ?_
  refine adds_bind _ _ (adds_notifyMarked _) fun _ => ?_
  refine adds_bind _ _ adds_get fun s => ?_
  refine adds_bind _ _ (adds_onObserve tid _) fun _ => ?_
  refine adds_bind _ _ (adds_onBlock tid _) fun _ => ?_
  refine adds_bind _ _ (adds_sendResponse tid handlers rng) fun _ => ?_
  refine adds_bind _ _ (adds_getTransaction tid) fun t => ?_
  cases t.response with
  | none => exact adds_pure _
  | some response => exact adds_sendDatagram _

theorem adds_answer : Adds (answer handlers rng now tid) := by
  refine adds_bind _ _ (adds_getTransaction tid) fun t => ?_
  refine adds_bind _ _ (adds_onRelations _) fun _ => ?_
  split
  · exact adds_bind _ _ (adds_onScene tid _) fun _ => adds_reply handlers rng now tid
  · exact adds_reply handlers rng now tid

theorem adds_process : Adds (process handlers rng now tid) := by
  refine adds_bind _ _ (adds_onBlock tid _) fun _ => ?_
  refine adds_bind _ _ (adds_getTransaction tid) fun t => ?_
  split
  · refine adds_bind _ _ (adds_sendResponse tid handlers rng) fun _ => ?_
    refine adds_bind _ _ (adds_getTransaction tid) fun t => ?_
    cases t.response with
    | none => exact adds_raise _
    | some response => exact adds_sendDatagram _
  · exact adds_answer handlers rng now tid

theorem adds_receiveRequest : Adds (Server.receiveRequest handlers rng now tid) := by
  intro s
  have hprocess := adds_process handlers rng now tid s
  unfold Server.receiveRequest
  split
  · exact Extends.refl s
  · generalize process handlers rng now tid s = r at hprocess
    obtain ⟨result, s'⟩ := r
    rcases result with (_ | _ | _) | _
    · exact hprocess
    · exact hprocess
    · exact hprocess.trans _ _ _ (Extends.of_eq _ _ rfl rfl rfl id)
    · exact hprocess

theorem adds_sendAck : Adds (sendAck tid : Action Stop (Server.State ω) Unit) := by
  intro s
  unfold sendAck
  split
  · exact Extends.refl s
  · dsimp only
    split
    · have hack : Adds (do
          let ack ← onMessage
            (MessageLayer.sendAckOfRequest tid { Message.new .message with type := some .ACK })
          if ack.type ≠ none ∧ ack.mid ≠ none then sendDatagram ⟨ack, false⟩ :
          Action Stop (Server.State ω) Unit) := by
        refine adds_bind _ _ (adds_onMessage _ ?_) fun ack => ?_
        · intro m hm
          rw [sendAckOfRequest_currentMid]
          exact hm
        · split
          · exact adds_sendDatagram _
          · exact adds_pure _
      exact hack s
    · exact Extends.refl s

theorem adds_datagramReceivedRequest (request : Message) :
    Adds (datagramReceivedRequest handlers rng now request) := by
  intro s
  unfold datagramReceivedRequest
  split
  · exact Extends.refl s
  · refine adds_bind _ _ (adds_onMessage _ ?_) (fun next => ?_) s
    · intro m hm
      rw [datagramReceivedRequest_currentMid]
      exact hm
    · cases next with
      | resend response => exact adds_sendDatagram _
      | nothing => exact adds_pure _
      | sendAck tid => exact adds_sendAck tid
      | receiveRequest tid => exact adds_receiveRequest handlers rng now tid

end BubotCoap.ServerFrames
