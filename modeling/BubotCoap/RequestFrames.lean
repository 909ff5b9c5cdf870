import BubotCoap.LayerMoves
import BubotCoap.RequestLayer

set_option autoImplicit false

namespace BubotCoap.RequestFrames
open PythonData Defines Messages Transactions Resources ResourceLayer RequestLayer LayerMoves
  FallibleState

variable {ω : Type}

/-- The transaction of `s'` is that of `s` but for its resource and its response. -/
def Keeps (s s' : Scene ω) : Prop :=
  ∃ resource response,
    s'.transaction = { s.transaction with resource := resource, response := response }

namespace Keeps

theorem refl (s : Scene ω) : Keeps s s := ⟨_, _, rfl⟩

theorem trans (s t u : Scene ω) (h : Keeps s t) (h' : Keeps t u) : Keeps s u := by
  obtain ⟨resource, response, ht⟩ := h
  obtain ⟨resource', response', hu⟩ := h'
  exact ⟨resource', response', by rw [hu, ht]⟩

end Keeps

section Actions
variable {α β : Type}

abbrev KeepsRequest (x : Action Stop (Scene ω) α) : Prop := Action.Moves Keeps x

theorem keeps_bind (x : Action Stop (Scene ω) α) (f : α → Action Stop (Scene ω) β)
    (hx : KeepsRequest x) (hf : ∀ a, KeepsRequest (f a)) : KeepsRequest (x >>= f) :=
  Action.Moves.andThen Keeps Keeps.trans x f hx hf

theorem keeps_raise (e : Stop) : KeepsRequest (Action.raise e : Action Stop (Scene ω) α) :=
  Action.Moves.raise Keeps Keeps.refl e

theorem keeps_get : KeepsRequest (Action.get : Action Stop (Scene ω) _) :=
  Action.Moves.get Keeps Keeps.refl

theorem keeps_update (f : Scene ω → Scene ω) (h : ∀ s, (f s).transaction = s.transaction) :
    KeepsRequest (Action.modify f) :=
  fun s => ⟨s.transaction.resource, s.transaction.response, h s⟩

theorem keeps_setResource (rid : ℕ) :
    KeepsRequest (Action.modify fun s : Scene ω => s.setResource rid) :=
  fun _ => ⟨_, _, rfl⟩

theorem keeps_setResponse (response : Scene ω → Option Message) :
    KeepsRequest (Action.modify fun s : Scene ω => s.setResponse (response s)) :=
  fun _ => ⟨_, _, rfl⟩

end Actions

theorem keeps_setCode (code : ℕ) : KeepsRequest (setCode code : Action Stop (Scene ω) Unit) := by
  intro s
  unfold setCode
  split
  · exact Keeps.refl s
  · exact ⟨_, _, rfl⟩

variable (handlers : Handlers ω) (rng : Bytes)

theorem keeps_invoke (handler : Handler) (rid : ℕ) (withResponse : Bool) :
    KeepsRequest (invoke handlers handler rid withResponse) := by
  intro s
  unfold invoke
  dsimp only
  split
  · exact ⟨_, _, rfl⟩
  · exact ⟨_, _, rfl⟩

theorem keeps_invokeSync (handler : Handler) (rid : ℕ) :
    KeepsRequest (invokeSync handlers handler rid) := by
  intro s
  unfold invokeSync
  split
  · exact Keeps.refl s
  · dsimp only
    split
    · exact ⟨_, _, rfl⟩
    · exact ⟨_, _, rfl⟩

theorem keeps_handleSeparate (rid callback : ℕ) (withResponse : Bool) :
    KeepsRequest (handleSeparate handlers rid callback withResponse) :=
  moves_handleSeparate Keeps Keeps.refl handlers rid callback withResponse
    (keeps_invoke handlers _ rid withResponse)

theorem keeps_settle (rid : ℕ) (accept : ℕ → Message → Action Stop (Scene ω) Unit)
    (haccept : ∀ rid response, KeepsRequest (accept rid response)) (ret : Outcome) :
    KeepsRequest (settle handlers rid accept ret) :=
  moves_settle Keeps Keeps.refl handlers rid Keeps.trans keeps_setCode
    (fun _ => keeps_invoke handlers _ rid true) accept haccept ret

theorem keeps_accept (code rid : ℕ) (response : Message) :
    KeepsRequest (accept code rid response : Action Stop (Scene ω) Unit) :=
  fun _ => ⟨_, _, rfl⟩

theorem keeps_acceptChanged (code rid : ℕ) (response : Message) :
    KeepsRequest (acceptChanged code rid response : Action Stop (Scene ω) Unit) :=
  keeps_bind _ _ (keeps_update _ fun _ => rfl) fun _ => keeps_accept code rid response

theorem keeps_getResource (rid : ℕ) : KeepsRequest (getResource handlers rid) := by
  refine keeps_bind _ _ (keeps_invoke handlers _ rid true) fun ret => ?_
  split
  · exact fun _ => ⟨_, _, rfl⟩
  · exact keeps_settle handlers rid _ (keeps_accept _) _

theorem keeps_editResource (rid : ℕ) : KeepsRequest (editResource handlers rid) := by
  refine keeps_bind _ _ (keeps_setResource rid) fun _ => ?_
  refine keeps_bind _ _ keeps_get fun s => ?_
  split
  · exact keeps_setCode _
  · exact keeps_bind _ _ (keeps_invoke handlers _ rid true)
      fun ret => keeps_settle handlers rid _ (keeps_acceptChanged _) ret

theorem keeps_acceptChild (lp : Text) (rid : ℕ) (response : Message) :
    KeepsRequest (acceptChild lp rid response : Action Stop (Scene ω) Unit) :=
  keeps_bind _ _ (keeps_update _ fun _ => rfl) fun _ =>
    keeps_bind _ _ (keeps_update _ fun _ => rfl) fun _ => keeps_accept _ rid response

theorem keeps_createResource (path : Text) : KeepsRequest (createResource handlers path) := by
  refine keeps_bind _ _ keeps_get fun s => ?_
  split
  · exact keeps_raise _
  · split
    · split
      · exact keeps_raise _
      · exact keeps_editResource handlers _
    · split
      · exact keeps_raise _
      · split
        · exact keeps_bind _ _ (keeps_invokeSync handlers _ _)
            fun ret => keeps_settle handlers _ _ (keeps_acceptChild path) ret
        · exact keeps_setCode _

theorem keeps_acceptPut (rid : ℕ) : KeepsRequest (acceptPut rid : Action Stop (Scene ω) Unit) := by
  intro s
  unfold acceptPut
  split
  · exact Keeps.refl s
  · split
    · exact Keeps.refl s
    · exact ⟨_, _, rfl⟩

theorem keeps_notCallable :
    KeepsRequest (settlePut.notCallable : Action Stop (Scene ω) Unit) := by
  intro s
  unfold settlePut.notCallable
  split
  · exact Keeps.refl s
  · exact Keeps.refl s

theorem keeps_settlePut (rid : ℕ) (ret : Outcome) :
    KeepsRequest (settlePut handlers rid ret) := by
  cases ret with
  | resource rid' => exact keeps_acceptPut rid'
  | resourceLater rid' callback =>
    refine keeps_bind _ _ (keeps_handleSeparate handlers rid callback false) fun ret => ?_
    split
    · exact keeps_acceptPut _
    · exact keeps_raise _
    · exact keeps_setCode _
  | pair rid' response => exact keeps_notCallable
  | flag delete response => exact keeps_notCallable
  | misfit shape =>
    cases shape with
    | two => exact keeps_notCallable
    | _ => exact keeps_setCode _
  | _ => exact keeps_setCode _

theorem keeps_updateResource (rid : ℕ) : KeepsRequest (updateResource handlers rid) := by
  refine keeps_bind _ _ keeps_get fun s => ?_
  split
  · exact keeps_setCode _
  · refine keeps_bind _ _ (keeps_invoke handlers _ rid false) fun ret => ?_
    split
    · exact keeps_bind _ _ (keeps_invoke handlers _ rid true)
        fun ret => keeps_settle handlers rid _ (keeps_acceptChanged _) ret
    · exact keeps_settlePut handlers rid _

theorem keeps_acceptDelete (path : Text) (delete : Bool) (response : Message) :
    KeepsRequest (acceptDelete path delete response : Action Stop (Scene ω) Unit) := by
  intro s
  unfold acceptDelete
  split
  · exact Keeps.refl s
  · exact ⟨_, _, rfl⟩

theorem keeps_deleteResource (rid : ℕ) (path : Text) :
    KeepsRequest (deleteResource handlers rid path) := by
  refine keeps_bind _ _ (keeps_invoke handlers _ rid true) fun ret => ?_
  split
  · exact keeps_acceptDelete path _ _
  · refine keeps_bind _ _ (keeps_handleSeparate handlers rid _ true) fun ret => ?_
    split
    · exact keeps_acceptDelete path _ _
    · exact keeps_setCode _
    · exact moves_reject Keeps Keeps.refl keeps_setCode _
    · exact keeps_setCode _
  · exact keeps_setCode _

theorem keeps_initResponse : KeepsRequest (initResponse rng : Action Stop (Scene ω) Unit) := by
  intro s
  unfold initResponse
  split
  · exact Keeps.refl s
  · exact ⟨_, _, rfl⟩

theorem keeps_setSource : KeepsRequest (setSource : Action Stop (Scene ω) Unit) :=
  keeps_setResponse _

theorem keeps_discover :
    KeepsRequest (Discovery.discover : Action Stop (Scene ω) Unit) := by
  intro s
  unfold Discovery.discover
  split
  · exact Keeps.refl s
  · dsimp only
    split
    · exact ⟨_, _, rfl⟩
    · split
      · exact ⟨_, _, rfl⟩
      · exact ⟨_, _, rfl⟩

theorem keeps_handleGet : KeepsRequest (handleGet handlers rng) := by
  refine keeps_bind _ _ keeps_get fun s => ?_
  refine keeps_bind _ _ (keeps_initResponse rng) fun _ => ?_
  split
  · exact keeps_discover
  · split
    · exact keeps_setCode _
    · split
      · exact keeps_setCode _
      · exact keeps_bind _ _ (keeps_setResource _) fun _ => keeps_getResource handlers _

theorem keeps_handlePut : KeepsRequest (handlePut handlers rng) := by
  refine keeps_bind _ _ keeps_get fun s => ?_
  refine keeps_bind _ _ (keeps_initResponse rng) fun _ => ?_
  refine keeps_bind _ _ keeps_setSource fun _ => ?_
  split
  · exact keeps_setCode _
  · exact keeps_bind _ _ (keeps_setResource _) fun _ => keeps_updateResource handlers _

theorem keeps_handlePost : KeepsRequest (handlePost handlers rng) := by
  refine keeps_bind _ _ keeps_get fun s => ?_
  refine keeps_bind _ _ (keeps_initResponse rng) fun _ => ?_
  exact keeps_bind _ _ keeps_setSource fun _ => keeps_createResource handlers _

theorem keeps_handleDelete : KeepsRequest (handleDelete handlers rng) := by
  refine keeps_bind _ _ keeps_get fun s => ?_
  refine keeps_bind _ _ (keeps_initResponse rng) fun _ => ?_
  refine keeps_bind _ _ keeps_setSource fun _ => ?_
  split
  · exact keeps_setCode _
  · exact keeps_bind _ _ (keeps_setResource _) fun _ => keeps_deleteResource handlers _ _

theorem keeps_receiveRequest : KeepsRequest (RequestLayer.receiveRequest handlers rng) := by
  refine keeps_bind _ _ keeps_get fun s => ?_
  dsimp only
  split
  · exact keeps_handleGet handlers rng
  · split
    · exact keeps_handlePost handlers rng
    · split
      · exact keeps_handlePut handlers rng
      · split
        · exact keeps_handleDelete handlers rng
        · exact keeps_setResponse _

end BubotCoap.RequestFrames
