import BubotCoap.Server

set_option autoImplicit false

namespace BubotCoap.ServerMoves
open PythonData Messages Transactions Resources Server FallibleState

variable {ω : Type}

section Reception
variable (now : ℚ) (request : Message) (s : Server.State ω) (tid : ℕ) (m : MessageLayer.State)

theorem onMessage_received
    (hr : MessageLayer.receiveRequest now request s.message = (.ok tid, m)) :
    onMessage (CoapUdpProtocol.datagramReceivedRequest now request) s =
      (.ok (CoapUdpProtocol.dispatch tid m), { s with message := m }) := by
  refine Action.zoom_ok _ _ _ _ s _ _ ?_
  unfold CoapUdpProtocol.datagramReceivedRequest
  rw [Action.bind_ok _ hr]
  rfl

theorem onMessage_refused (e : PythonData.PyErr)
    (hr : MessageLayer.receiveRequest now request s.message = (.error e, m)) :
    onMessage (CoapUdpProtocol.datagramReceivedRequest now request) s =
      (.error (.raised e), { s with message := m }) := by
  refine Action.zoom_error _ _ _ _ s _ _ ?_
  unfold CoapUdpProtocol.datagramReceivedRequest
  rw [Action.bind_error _ hr]

theorem dispatch_cases :
    (∃ response, (m.heap.cell tid).response = some response ∧
      CoapUdpProtocol.dispatch tid m = .resend response) ∨
    CoapUdpProtocol.dispatch tid m = .nothing ∨ CoapUdpProtocol.dispatch tid m = .sendAck tid ∨
      CoapUdpProtocol.dispatch tid m = .receiveRequest tid := by
  unfold CoapUdpProtocol.dispatch
  dsimp only
  split_ifs
  · cases hresponse : (m.heap.cell tid).response with
    | none => exact Or.inr (Or.inl rfl)
    | some response => exact Or.inl ⟨response, rfl, rfl⟩
  · exact Or.inr (Or.inr (Or.inl rfl))
  · exact Or.inr (Or.inr (Or.inr rfl))

end Reception

/-- What the handling of the request of one transaction is made of. -/
structure Steps (R : Server.State ω → Server.State ω → Prop) (handlers : Handlers ω) (rng : Bytes)
    (now : ℚ) (tid : ℕ) : Prop where
  refl : ∀ s, R s s
  trans : ∀ s t u, R s t → R t u → R s u
  receiveBlock : Action.Moves R (onBlock tid (BlockLayer.receiveRequest rng))
  register : ∀ s, R s
    (onRelations (ObserveLayer.receiveRequest now tid (s.transaction tid).request) s).2
  execute : Action.Moves R (onScene tid (RequestLayer.receiveRequest handlers rng))
  notify : ∀ rid, Action.Moves R (onHeap (ObserveLayer.notify rid))
  mark : ∀ rid f, Action.Moves R (updateResource rid f)
  observe : ∀ counter, Action.Moves R (onObserve tid (ObserveLayer.sendResponse now tid counter))
  sendBlock : Action.Moves R (onBlock tid BlockLayer.sendResponse)
  respond : Action.Moves R (onMessage (MessageLayer.sendResponse rng tid))
  log : ∀ s response, (s.transaction tid).response = some response → R s (s.setTransaction tid
    { s.transaction tid with response := some (Rendering.printed response) })
  send : ∀ s response anyPort, (s.transaction tid).response = some response →
    R s (sendDatagram ⟨response, anyPort⟩ s).2
  lock : ∀ s, R s { s with held := tid :: s.held }

section
variable {R : Server.State ω → Server.State ω → Prop} {handlers : Handlers ω} {rng : Bytes}
  {now : ℚ} {tid : ℕ} (h : Steps R handlers rng now tid)
include h

theorem moves_bind {α β : Type} (x : Action Stop (Server.State ω) α)
    (f : α → Action Stop (Server.State ω) β) (hx : Action.Moves R x)
    (hf : ∀ a, Action.Moves R (f a)) : Action.Moves R (x >>= f) :=
  Action.Moves.andThen R h.trans x f hx hf

omit h in
theorem moves_getTransaction {β : Type} (i : ℕ)
    (f : Transaction → Action Stop (Server.State ω) β)
    (hf : ∀ s, R s (f (s.transaction i) s).2) : Action.Moves R (getTransaction i >>= f) :=
  fun s => hf s

theorem moves_pure {α : Type} (a : α) :
    Action.Moves R (pure a : Action Stop (Server.State ω) α) :=
  Action.Moves.done R h.refl a

theorem moves_raise {α : Type} (e : Stop) :
    Action.Moves R (Action.raise e : Action Stop (Server.State ω) α) :=
  Action.Moves.raise R h.refl e

theorem moves_notifyMarked (resource : Option ℕ) :
    Action.Moves R (notifyMarked resource : Action Stop (Server.State ω) Unit) := by
  have hnotify : ∀ rid, Action.Moves R (Server.notify rid : Action Stop (Server.State ω) Unit) := by
    intro rid
    refine moves_bind h _ _ (h.notify rid) fun observers => ?_
    cases observers with
    | nil => exact moves_pure h ()
    | cons _ _ => exact moves_raise h _
  refine moves_bind h _ _ (Action.Moves.get R h.refl) fun s => ?_
  cases resource with
  | none => exact moves_pure h ()
  | some rid =>
    dsimp only
    split
    · exact moves_bind h _ _ (hnotify rid) fun _ => h.mark rid _
    · split
      · exact moves_bind h _ _ (hnotify rid) fun _ => h.mark rid _
      · exact moves_pure h ()

theorem moves_sendResponse : Action.Moves R (Server.sendResponse handlers rng tid) := by
  refine moves_bind h _ _ h.respond fun _ s => ?_
  unfold logResponse
  split
  · exact h.refl s
  · next response hresponse => exact h.log s response hresponse

theorem moves_reply : Action.Moves R (reply handlers rng now tid) := by
  refine moves_getTransaction tid _ fun s => ?_
  refine moves_bind h _ _ (moves_notifyMarked h _) (fun _ => ?_) s
  refine moves_bind h _ _ (Action.Moves.get R h.refl) fun s => ?_
  refine moves_bind h _ _ (h.observe _) fun _ => ?_
  refine moves_bind h _ _ h.sendBlock fun _ => ?_
  refine moves_bind h _ _ (moves_sendResponse h) fun _ => ?_
  refine moves_getTransaction tid _ fun s => ?_
  cases hresponse : (s.transaction tid).response with
  | none => exact h.refl s
  | some response => exact h.send s response _ hresponse

theorem moves_answer : Action.Moves R (answer handlers rng now tid) := by
  refine moves_getTransaction tid _ fun s => ?_
  have hrest : Action.Moves R (do
      if (s.transaction tid).resource = none then
        onScene tid (RequestLayer.receiveRequest handlers rng)
      reply handlers rng now tid : Action Stop (Server.State ω) Unit) := by
    split
    · exact moves_bind h _ _ h.execute fun _ => moves_reply h
    · exact moves_reply h
  have hregister := h.register s
  rw [Action.bind_apply]
  generalize onRelations (ObserveLayer.receiveRequest now tid (s.transaction tid).request) s = r
    at hregister
  obtain ⟨result, s'⟩ := r
  cases result with
  | error e => exact hregister
  | ok _ => exact h.trans _ _ _ hregister (hrest s')

theorem moves_process : Action.Moves R (process handlers rng now tid) := by
  refine moves_bind h _ _ h.receiveBlock fun _ => ?_
  refine moves_getTransaction tid _ fun s => ?_
  split
  · refine moves_bind h _ _ (moves_sendResponse h) (fun _ => ?_) s
    refine moves_getTransaction tid _ fun s => ?_
    cases hresponse : (s.transaction tid).response with
    | none => exact h.refl s
    | some response => exact h.send s response _ hresponse
  · exact moves_answer h s

theorem moves_receiveRequest : Action.Moves R (Server.receiveRequest handlers rng now tid) := by
  intro s
  have hprocess := moves_process h s
  unfold Server.receiveRequest
  split
  · exact h.refl s
  · generalize process handlers rng now tid s = r at hprocess
    obtain ⟨result, s'⟩ := r
    rcases result with (_ | _ | _) | _
    · exact hprocess
    · exact hprocess
    · exact h.trans _ _ _ hprocess (h.lock s')
    · exact hprocess

end

end BubotCoap.ServerMoves
