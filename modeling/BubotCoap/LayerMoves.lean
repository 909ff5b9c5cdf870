import BubotCoap.ResourceLayer

set_option autoImplicit false

namespace BubotCoap.LayerMoves
open PythonData Defines Messages Resources ResourceLayer FallibleState

variable {ω : Type} (R : Scene ω → Scene ω → Prop) (refl : ∀ s, R s s)
include refl

theorem moves_reject
    (hcode : ∀ code, Action.Moves R (setCode code : Action Stop (Scene ω) Unit))
    (error : Option PyErr) : Action.Moves R (reject error : Action Stop (Scene ω) Unit) := by
  cases error with
  | none => exact hcode _
  | some e => exact Action.Moves.raise R refl _

variable (handlers : Handlers ω) (rid : ℕ)

theorem moves_handleSeparate (callback : ℕ) (withResponse : Bool)
    (hinvoke : Action.Moves R (invoke handlers (.callback callback) rid withResponse)) :
    Action.Moves R (handleSeparate handlers rid callback withResponse) := by
  intro s
  unfold handleSeparate
  split_ifs
  · exact hinvoke s
  · exact refl s

theorem moves_settle (trans : ∀ s t u, R s t → R t u → R s u)
    (hcode : ∀ code, Action.Moves R (setCode code : Action Stop (Scene ω) Unit))
    (hinvoke : ∀ callback, Action.Moves R (invoke handlers (.callback callback) rid true))
    (accept : ℕ → Message → Action Stop (Scene ω) Unit)
    (haccept : ∀ rid' response, Action.Moves R (accept rid' response)) (ret : Outcome) :
    Action.Moves R (settle handlers rid accept ret) := by
  unfold settle
  split
  · exact haccept _ _
  · next callback =>
    refine Action.Moves.andThen R trans _ _
      (moves_handleSeparate R refl handlers rid callback true (hinvoke callback)) fun ret => ?_
    split
    · exact haccept _ _
    · exact hcode _
    · exact Action.Moves.raise R refl _
    · exact moves_reject R refl hcode _
    · exact hcode _
  · exact hcode _

end BubotCoap.LayerMoves
