import BubotCoap.LayerMoves

set_option autoImplicit false

namespace BubotCoap.HandlerCalls
open PythonData Defines Messages Resources ResourceLayer LayerMoves Transactions FallibleState

variable {ω : Type} (Allowed : Call → Prop)

/-- Further calls have been made, all of them allowed. -/
def Calls (s s' : Scene ω) : Prop :=
  ∃ calls, s'.calls = s.calls ++ calls ∧ ∀ c ∈ calls, Allowed c

namespace Calls

theorem of_eq (s s' : Scene ω) (h : s'.calls = s.calls) : Calls Allowed s s' :=
  ⟨[], by rw [h, List.append_nil], fun _ hc => absurd hc List.not_mem_nil⟩

theorem refl (s : Scene ω) : Calls Allowed s s := of_eq Allowed s s rfl

theorem trans (s s' s'' : Scene ω) (h : Calls Allowed s s') (h' : Calls Allowed s' s'') :
    Calls Allowed s s'' := by
  obtain ⟨calls, hcalls, hall⟩ := h
  obtain ⟨calls', hcalls', hall'⟩ := h'
  refine ⟨calls ++ calls', by rw [hcalls', hcalls, List.append_assoc], fun c hc => ?_⟩
  rcases List.mem_append.mp hc with hc | hc
  · exact hall c hc
  · exact hall' c hc

theorem called (s s' : Scene ω) (c : Call) (h : s'.calls = s.calls ++ [c]) (hc : Allowed c) :
    Calls Allowed s s' := by
  refine ⟨[c], h, fun d hd => ?_⟩
  rw [List.mem_singleton.mp hd]
  exact hc

end Calls

abbrev Makes {α : Type} (x : Action Stop (Scene ω) α) : Prop := Action.Moves (Calls Allowed) x

theorem makes_bind {α β : Type} (x : Action Stop (Scene ω) α)
    (f : α → Action Stop (Scene ω) β) (hx : Makes Allowed x) (hf : ∀ a, Makes Allowed (f a)) :
    Makes Allowed (x >>= f) :=
  Action.Moves.andThen (Calls Allowed) (Calls.trans Allowed) x f hx hf

theorem makes_get : Makes Allowed (Action.get : Action Stop (Scene ω) _) :=
  Action.Moves.get _ (Calls.refl Allowed)

theorem makes_setCode (code : ℕ) :
    Makes Allowed (setCode code : Action Stop (Scene ω) Unit) := by
  intro s
  unfold setCode
  cases s.transaction.response with
  | none => exact Calls.refl Allowed s
  | some response => exact Calls.of_eq Allowed _ _ rfl

theorem makes_acceptChild (lp : Text) (rid : ℕ) (response : Message) :
    Makes Allowed (acceptChild lp rid response : Action Stop (Scene ω) Unit) :=
  fun s => Calls.of_eq Allowed s _ rfl

section
variable (handlers : Handlers ω) (rid : ℕ)

theorem makes_invoke (handler : Handler) (withResponse : Bool)
    (h : ∀ request, Allowed ⟨handler, rid, request⟩) :
    Makes Allowed (invoke handlers handler rid withResponse) := by
  intro s
  refine Calls.called Allowed s _ ⟨handler, rid, s.transaction.request⟩ ?_ (h _)
  unfold invoke
  dsimp only
  split <;> rfl

theorem makes_invokeSync (handler : Handler)
    (h : handlers.isAsync handler rid = false → ∀ request, Allowed ⟨handler, rid, request⟩) :
    Makes Allowed (invokeSync handlers handler rid) := by
  intro s
  unfold invokeSync
  split_ifs with hasync
  · exact Calls.refl Allowed s
  · refine Calls.called Allowed s _ ⟨handler, rid, s.transaction.request⟩ ?_
      (h (Bool.eq_false_iff.mpr hasync) _)
    dsimp only
    split <;> rfl

theorem makes_addResource (lp : Text)
    (hcallback : ∀ n request, Allowed ⟨.callback n, rid, request⟩)
    (h : handlers.isAsync .post rid = false → ∀ request, Allowed ⟨.post, rid, request⟩) :
    Makes Allowed (addResource handlers rid lp) :=
  makes_bind Allowed _ _ (makes_invokeSync Allowed handlers rid .post h) fun ret =>
    moves_settle (Calls Allowed) (Calls.refl Allowed) handlers rid (Calls.trans Allowed)
      (makes_setCode Allowed)
      (fun n => makes_invoke Allowed handlers rid (.callback n) true (hcallback n)) _
      (makes_acceptChild Allowed lp) ret

end

end BubotCoap.HandlerCalls
