import BubotCoap.FallibleState

set_option autoImplicit false

namespace BubotCoap.ActionErasure
open FallibleState

variable {ε σ τ α β : Type} (view : σ → τ)

def Follows (x : Action ε σ α) (y : Action ε τ α) : Prop :=
  ∀ s, y (view s) = ((x s).1, view (x s).2)

theorem follows_pure (a : α) : Follows view (pure a : Action ε σ α) (pure a) := fun _ => rfl

theorem follows_raise (e : ε) : Follows view (Action.raise e : Action ε σ α) (Action.raise e) :=
  fun _ => rfl

theorem follows_modify (f : σ → σ) (g : τ → τ) (h : ∀ s, g (view s) = view (f s)) :
    Follows view (Action.modify f : Action ε σ Unit) (Action.modify g) := by
  intro s
  rw [Action.modify_apply, Action.modify_apply, h]

theorem follows_bind (x : Action ε σ α) (y : Action ε τ α) (f : α → Action ε σ β)
    (g : α → Action ε τ β) (h : Follows view x y) (hrest : ∀ a, Follows view (f a) (g a)) :
    Follows view (x >>= f) (y >>= g) := by
  intro s
  rw [Action.bind_apply, Action.bind_apply, h s]
  generalize x s = r
  obtain ⟨result, s'⟩ := r
  cases result with
  | ok a => exact hrest a s'
  | error e => rfl

theorem follows_get (f : σ → Action ε σ β) (g : τ → Action ε τ β)
    (h : ∀ s, Follows view (f s) (g (view s))) :
    Follows view (Action.get >>= f) (Action.get >>= g) := by
  intro s
  rw [Action.bind_get, Action.bind_get]
  exact h s s

theorem follows_ite (p : Prop) [Decidable p] (x x' : Action ε σ α) (y y' : Action ε τ α)
    (h : Follows view x y) (h' : Follows view x' y') :
    Follows view (if p then x else x') (if p then y else y') := by
  split
  · exact h
  · exact h'

end BubotCoap.ActionErasure
