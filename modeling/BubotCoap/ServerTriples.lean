import BubotCoap.ActionTriples
import BubotCoap.Server

set_option autoImplicit false

namespace BubotCoap.ServerTriples
open PythonData Transactions Resources Server ActionTriples FallibleState

variable {ω : Type} {P E : Server.State ω → Prop}

theorem triple_getTransaction (tid : ℕ) :
    Triple P (getTransaction tid : Action Stop (Server.State ω) Transaction)
      (fun t s => t = s.transaction tid ∧ P s) E := by
  refine triple_bind _ _ triple_get fun s => ?_
  refine triple_pure _ fun s' hs' => ?_
  obtain ⟨rfl, hs'⟩ := hs'
  exact ⟨rfl, hs'⟩

theorem triple_notifyMarked (resource : Option ℕ)
    (hnotify : ∀ rid, Triple (fun s : Server.State ω => P s ∧ (s.app.resources rid).marked = true)
      (Server.notify rid) (fun _ => P) E)
    (hupdate : ∀ rid f, Triple P (Server.updateResource rid f) (fun _ => P) E) :
    Triple P (notifyMarked resource) (fun _ => P) E := by
  refine triple_bind _ _ triple_get fun s => ?_
  cases resource with
  | none => exact triple_pure () fun _ h => h.2
  | some rid =>
    have hmarked : (s.app.resources rid).marked = true →
        Triple (fun s' => s = s' ∧ P s') (Server.notify rid) (fun _ => P) E := by
      intro hmarked
      refine (hnotify rid).conseq ?_ (fun _ _ h => h) fun _ h => h
      rintro _ ⟨rfl, hs⟩
      exact ⟨hs, hmarked⟩
    dsimp only
    split
    · next hchanged =>
      refine triple_bind _ _ (hmarked ?_) fun _ => hupdate rid _
      unfold Resource.marked
      rw [hchanged, Bool.true_or]
    · split
      · next hdeleted =>
        refine triple_bind _ _ (hmarked ?_) fun _ => hupdate rid _
        unfold Resource.marked
        rw [hdeleted, Bool.or_true]
      · exact triple_pure () fun _ h => h.2

theorem triple_logResponse (platform : Rendering.Platform) (tid : ℕ)
    {Q : Unit → Server.State ω → Prop} (hsilent : ∀ s, P s → Q () s)
    (hprinted : ∀ s response, P s → (s.transaction tid).response = some response →
      Q () (s.setTransaction tid
        { s.transaction tid with response := some (Rendering.printed response) }) ∧
      E (s.setTransaction tid
        { s.transaction tid with response := some (Rendering.printed response) })) :
    Triple P (logResponse platform tid) Q E := by
  have hends : ∀ s, P s → Q () (logResponse platform tid s).2 ∧
      ((s.transaction tid).response ≠ none → E (logResponse platform tid s).2) := by
    intro s hs
    unfold logResponse
    cases hresponse : (s.transaction tid).response with
    | none => exact ⟨hsilent s hs, fun h => absurd rfl h⟩
    | some response =>
      obtain ⟨hreturns, hraises⟩ := hprinted s response hs hresponse
      exact ⟨hreturns, fun _ => hraises⟩
  refine ⟨?_, ?_⟩
  · intro s hs a s' hr
    have hend := (hends s hs).1
    rw [hr] at hend
    exact hend
  · intro s hs e s' hr
    have hend := (hends s hs).2
    rw [hr] at hend
    refine hend fun hnone => ?_
    unfold logResponse at hr
    rw [hnone] at hr
    cases hr

/-- What a reception that raises leaves behind does not depend on the lock's being released. -/
theorem triple_receiveRequest {Q : Unit → Server.State ω → Prop} (handlers : Handlers ω)
    (rng : Bytes) (now : ℚ) (tid : ℕ) (h : Triple P (process handlers rng now tid) Q E)
    (hheld : ∀ s, P s → E s) (hlock : ∀ s held, E s → E { s with held := held }) :
    Triple P (Server.receiveRequest handlers rng now tid) Q E := by
  refine ⟨?_, ?_⟩
  · intro s hs a s' hr
    unfold Server.receiveRequest at hr
    split at hr
    · cases hr
    · generalize hp : process handlers rng now tid s = r at hr
      obtain ⟨(_ | _ | _) | _, u⟩ := r
      · cases hr
      · cases hr
      · cases hr
      · cases hr
        exact h.returns s hs _ _ hp
  · intro s hs e s' hr
    unfold Server.receiveRequest at hr
    split at hr
    · cases hr
      exact hheld s hs
    · generalize hp : process handlers rng now tid s = r at hr
      obtain ⟨(_ | _ | _) | _, u⟩ := r
      · cases hr
        exact h.raises s hs _ _ hp
      · cases hr
        exact h.raises s hs _ _ hp
      · cases hr
        exact hlock u _ (h.raises s hs _ u hp)
      · cases hr

end BubotCoap.ServerTriples
