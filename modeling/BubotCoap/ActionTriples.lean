import BubotCoap.FallibleState

set_option autoImplicit false

namespace BubotCoap.ActionTriples
open FallibleState

variable {ε ε' σ τ α β : Type}

structure Triple (P : σ → Prop) (x : Action ε σ α) (Q : α → σ → Prop) (E : σ → Prop) : Prop where
  returns : ∀ s, P s → ∀ a s', x s = (.ok a, s') → Q a s'
  raises : ∀ s, P s → ∀ e s', x s = (.error e, s') → E s'

section Rules
variable {P P' : σ → Prop} {Q Q' : α → σ → Prop} {R : β → σ → Prop} {E E' : σ → Prop}

theorem triple_pure (a : α) (h : ∀ s, P s → Q a s) : Triple P (pure a : Action ε σ α) Q E := by
  refine ⟨?_, ?_⟩
  · intro s hs b s' hb
    cases hb
    exact h s hs
  · intro s _ e s' he
    cases he

theorem triple_raise (e : ε) (h : ∀ s, P s → E s) :
    Triple P (Action.raise e : Action ε σ α) Q E := by
  refine ⟨?_, ?_⟩
  · intro s _ b s' hb
    cases hb
  · intro s hs e' s' he
    cases he
    exact h s hs

theorem triple_ofExcept (x : Except ε α) (h : ∀ s, P s → E s) :
    Triple P (Action.ofExcept x) (fun _ => P) E := by
  refine ⟨?_, ?_⟩
  · intro s hs a s' hr
    cases hr
    exact hs
  · intro s hs e s' hr
    cases hr
    exact h s hs

theorem triple_modify {Q : Unit → σ → Prop} (f : σ → σ) (h : ∀ s, P s → Q () (f s)) :
    Triple P (Action.modify f : Action ε σ Unit) Q E := by
  refine ⟨?_, ?_⟩
  · intro s hs b s' hb
    cases hb
    exact h s hs
  · intro s _ e s' he
    cases he

theorem triple_get : Triple P (Action.get : Action ε σ σ) (fun a s => a = s ∧ P s) E := by
  refine ⟨?_, ?_⟩
  · intro s hs b s' hb
    cases hb
    exact ⟨rfl, hs⟩
  · intro s _ e s' he
    cases he

theorem triple_bind (x : Action ε σ α) (f : α → Action ε σ β) (hx : Triple P x Q E)
    (hf : ∀ a, Triple (Q a) (f a) R E) : Triple P (x >>= f) R E := by
  refine ⟨?_, ?_⟩
  · intro s hs b s' hb
    rw [Action.bind_apply] at hb
    generalize hr : x s = r at hb
    obtain ⟨result, u⟩ := r
    cases result with
    | error e => cases hb
    | ok a => exact (hf a).returns u (hx.returns s hs a u hr) b s' hb
  · intro s hs e s' he
    rw [Action.bind_apply] at he
    generalize hr : x s = r at he
    obtain ⟨result, u⟩ := r
    cases result with
    | error e =>
      cases he
      exact hx.raises s hs _ _ hr
    | ok a => exact (hf a).raises u (hx.returns s hs a u hr) e s' he

theorem Triple.conseq {x : Action ε σ α} (h : Triple P x Q E) (hP : ∀ s, P' s → P s)
    (hQ : ∀ a s, Q a s → Q' a s) (hE : ∀ s, E s → E' s) : Triple P' x Q' E' where
  returns := fun s hs a s' hr => hQ a s' (h.returns s (hP s hs) a s' hr)
  raises := fun s hs e s' hr => hE s' (h.raises s (hP s hs) e s' hr)

theorem triple_given {F : Prop} (x : Action ε σ α) (hF : ∀ s, P s → F)
    (h : F → Triple P x Q E) : Triple P x Q E where
  returns := fun s hs => (h (hF s hs)).returns s hs
  raises := fun s hs => (h (hF s hs)).raises s hs

/-- What holds in the end, however the action ends. -/
theorem Triple.ends {R : σ → Prop} {x : Action ε σ α} (h : Triple P x Q E) (s : σ) (hs : P s)
    (hQ : ∀ a s', Q a s' → R s') (hE : ∀ s', E s' → R s') : R (x s).2 := by
  generalize hr : x s = r
  obtain ⟨result, s'⟩ := r
  cases result with
  | ok a => exact hQ a s' (h.returns s hs a s' hr)
  | error e => exact hE s' (h.raises s hs e s' hr)

/-- An action on a part of the state, of which a triple is known for the part as it is. -/
theorem triple_zoom (view : σ → τ) (put : τ → σ → σ) (f : ε → ε') (x : Action ε τ α)
    (h : ∀ s, P s → Triple (fun t => t = view s) x (fun a t => Q a (put t s))
      (fun t => E (put t s))) : Triple P (Action.zoom view put f x) Q E := by
  have hzoom : ∀ s, Action.zoom view put f x s = ((x (view s)).1.mapError f, put (x (view s)).2 s) :=
    fun s => rfl
  refine ⟨?_, ?_⟩
  · intro s hs a s' hr
    rw [hzoom] at hr
    have hpart := (h s hs).returns (view s) rfl
    generalize x (view s) = r at hr hpart
    obtain ⟨result, t⟩ := r
    cases result with
    | error e => cases hr
    | ok b =>
      cases hr
      exact hpart _ _ rfl
  · intro s hs e s' hr
    rw [hzoom] at hr
    have hpart := (h s hs).raises (view s) rfl
    generalize x (view s) = r at hr hpart
    obtain ⟨result, t⟩ := r
    cases result with
    | error e =>
      cases hr
      exact hpart _ _ rfl
    | ok b => cases hr

/-- An action on a part of the state on which what is known does not depend. -/
theorem triple_zoom_frame (view : σ → τ) (put : τ → σ → σ) (f : ε → ε') (x : Action ε τ α)
    (h : ∀ t s, P s → P (put t s)) (hE : ∀ s, P s → E s) :
    Triple P (Action.zoom view put f x) (fun _ => P) E := by
  refine triple_zoom view put f x fun s hs => ⟨?_, ?_⟩
  · exact fun _ _ _ t _ => h t s hs
  · exact fun _ _ _ t _ => hE _ (h t s hs)

end Rules

/-- The action keeps `P` if it returns. -/
def Maintains (P : σ → Prop) (x : Action ε σ α) : Prop := Triple P x (fun _ => P) fun _ => True

section Maintains
variable {P : σ → Prop}

theorem maintains_bind (x : Action ε σ α) (f : α → Action ε σ β) (hx : Maintains P x)
    (hf : ∀ a, Maintains P (f a)) : Maintains P (x >>= f) :=
  triple_bind x f hx hf

theorem maintains_modify (f : σ → σ) (h : ∀ s, P s → P (f s)) :
    Maintains P (Action.modify f : Action ε σ Unit) :=
  triple_modify f h

theorem maintains_raise (e : ε) : Maintains P (Action.raise e : Action ε σ α) :=
  triple_raise e fun _ _ => trivial

/-- An action that is a function of the state and returns. -/
theorem maintains_of_ok (x : Action ε σ α) (h : ∀ s a s', P s → x s = (.ok a, s') → P s') :
    Maintains P x :=
  ⟨fun s hs a s' hr => h s a s' hs hr, fun _ _ _ _ _ => trivial⟩

end Maintains

end BubotCoap.ActionTriples
