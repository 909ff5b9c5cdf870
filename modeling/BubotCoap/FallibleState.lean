set_option autoImplicit false

namespace BubotCoap.FallibleState

def Action (ε σ α : Type) : Type := σ → Except ε α × σ

variable {ε ε' σ τ α β : Type}

namespace Action

def done (a : α) : Action ε σ α := fun s => (.ok a, s)

def andThen (x : Action ε σ α) (f : α → Action ε σ β) : Action ε σ β := fun s =>
  match x s with
  | (.ok a, s') => f a s'
  | (.error e, s') => (.error e, s')

instance : Monad (Action ε σ) where
  pure := done
  bind := andThen

def get : Action ε σ σ := fun s => (.ok s, s)

def modify (f : σ → σ) : Action ε σ Unit := fun s => (.ok (), f s)

def raise (e : ε) : Action ε σ α := fun s => (.error e, s)

def ofExcept (x : Except ε α) : Action ε σ α := fun s => (x, s)

/-- An action on a part of the state, its errors among those of the whole. -/
def zoom (view : σ → τ) (put : τ → σ → σ) (f : ε → ε') (x : Action ε τ α) : Action ε' σ α :=
  fun s => ((x (view s)).1.mapError f, put (x (view s)).2 s)

@[simp] theorem pure_apply (a : α) (s : σ) : (pure a : Action ε σ α) s = (.ok a, s) := rfl

@[simp] theorem get_apply (s : σ) : (get : Action ε σ σ) s = (.ok s, s) := rfl

@[simp] theorem modify_apply (f : σ → σ) (s : σ) :
    (modify f : Action ε σ Unit) s = (.ok (), f s) := rfl

@[simp] theorem raise_apply (e : ε) (s : σ) : (raise e : Action ε σ α) s = (.error e, s) := rfl

@[simp] theorem ofExcept_apply (x : Except ε α) (s : σ) : ofExcept x s = (x, s) := rfl

theorem bind_apply (x : Action ε σ α) (f : α → Action ε σ β) (s : σ) :
    (x >>= f) s =
      match x s with
      | (.ok a, s') => f a s'
      | (.error e, s') => (.error e, s') := rfl

theorem bind_get (f : σ → Action ε σ β) (s : σ) : (get >>= f) s = f s s := rfl

theorem bind_ok {x : Action ε σ α} {s s' : σ} {a : α} (f : α → Action ε σ β)
    (h : x s = (.ok a, s')) : (x >>= f) s = f a s' := by
  rw [bind_apply, h]

theorem bind_error {x : Action ε σ α} {s s' : σ} {e : ε} (f : α → Action ε σ β)
    (h : x s = (.error e, s')) : (x >>= f) s = (.error e, s') := by
  rw [bind_apply, h]

theorem zoom_ok (view : σ → τ) (put : τ → σ → σ) (f : ε → ε') (x : Action ε τ α) (s : σ) (a : α)
    (t : τ) (h : x (view s) = (.ok a, t)) : zoom view put f x s = (.ok a, put t s) := by
  unfold zoom
  rw [h]
  rfl

theorem zoom_error (view : σ → τ) (put : τ → σ → σ) (f : ε → ε') (x : Action ε τ α) (s : σ) (e : ε)
    (t : τ) (h : x (view s) = (.error e, t)) : zoom view put f x s = (.error (f e), put t s) := by
  unfold zoom
  rw [h]
  rfl

/-- Whether it returns or raises, the action leaves a state that is in the relation `R` to the one
it found. -/
def Moves (R : σ → σ → Prop) (x : Action ε σ α) : Prop := ∀ s, R s (x s).2

section Moves
variable (R : σ → σ → Prop)

theorem Moves.done (refl : ∀ s, R s s) (a : α) : Moves R (Action.done a : Action ε σ α) :=
  fun s => refl s

theorem Moves.raise (refl : ∀ s, R s s) (e : ε) : Moves R (Action.raise e : Action ε σ α) :=
  fun s => refl s

theorem Moves.get (refl : ∀ s, R s s) : Moves R (Action.get : Action ε σ σ) :=
  fun s => refl s

theorem Moves.andThen (trans : ∀ s t u, R s t → R t u → R s u) (x : Action ε σ α)
    (f : α → Action ε σ β) (hx : Moves R x) (hf : ∀ a, Moves R (f a)) : Moves R (x >>= f) := by
  intro s
  have hs := hx s
  rw [bind_apply]
  generalize hr : x s = r at hs
  obtain ⟨result, s'⟩ := r
  cases result with
  | error e => exact hs
  | ok a => exact trans s s' _ hs (hf a s')

end Moves

/-- The action does in the state `f s` what it does in `s`, and leaves the image of what it leaves
there. -/
def Commutes (f : σ → σ) (x : σ → α × σ) (s : σ) : Prop := x (f s) = Prod.map id f (x s)

section Commutes
variable (f : σ → σ)

theorem commutes_bind (x : Action ε σ α) (g : α → Action ε σ β) (s : σ) (hx : Commutes f x s)
    (hg : ∀ a s', Commutes f (g a) s') : Commutes f (x >>= g) s := by
  unfold Commutes at *
  rw [bind_apply, bind_apply, hx]
  generalize x s = r
  obtain ⟨result, s'⟩ := r
  cases result with
  | error e => rfl
  | ok a => exact hg a s'

theorem commutes_modify (g : σ → σ) (s : σ) (h : g (f s) = f (g s)) :
    Commutes f (modify g : Action ε σ Unit) s := by
  unfold Commutes
  rw [modify_apply, h]
  rfl

theorem commutes_ofExcept (x : Except ε α) (s : σ) : Commutes f (ofExcept x : Action ε σ α) s := rfl

theorem commutes_pure (a : α) (s : σ) : Commutes f (pure a : Action ε σ α) s := rfl

theorem commutes_zoom (g : τ → τ) (view : σ → τ) (put : τ → σ → σ) (map : ε → ε')
    (x : Action ε τ α) (s : σ) (hview : view (f s) = g (view s))
    (hput : ∀ t, put (g t) (f s) = f (put t s)) (hx : Commutes g x (view s)) :
    Commutes f (zoom view put map x) s := by
  unfold Commutes at hx ⊢
  unfold zoom
  rw [hview, hx]
  exact Prod.ext rfl (hput _)

end Commutes

end Action

end BubotCoap.FallibleState
