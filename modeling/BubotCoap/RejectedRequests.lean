import BubotCoap.ActionErasure
import BubotCoap.Execution

set_option autoImplicit false

namespace BubotCoap.RejectedRequests
open PythonData Defines Messages OrderedDict Resources ResourceLayer RequestLayer Transactions
  FallibleState ActionErasure

variable {ω : Type}

/-- The application's own state, and the application as the last handler left it. -/
abbrev Recorded (ω : Type) : Type := ω × Application ω

def forget (app : Application (Recorded ω)) : Application ω :=
  ⟨app.resources, app.root, app.world.1⟩

def record (app : Application ω) : Application (Recorded ω) :=
  ⟨app.resources, app.root, (app.world, app)⟩

def recordRendered (r : Rendered ω) : Rendered (Recorded ω) := ⟨r.outcome, r.edit, record r.app⟩

def recording (handlers : Handlers ω) : Handlers (Recorded ω) where
  platform := handlers.platform
  isAsync := handlers.isAsync
  render handler rid request response app :=
    recordRendered (handlers.render handler rid request response (forget app))

/-- The scene without the record. -/
def seen (s : Scene (Recorded ω)) : Scene ω := ⟨forget s.app, s.calls, s.transaction⟩

@[simp] theorem forget_resources (app : Application (Recorded ω)) :
    (forget app).resources = app.resources := rfl

@[simp] theorem forget_root (app : Application (Recorded ω)) : (forget app).root = app.root := rfl

@[simp] theorem seen_app (s : Scene (Recorded ω)) : (seen s).app = forget s.app := rfl

@[simp] theorem seen_transaction (s : Scene (Recorded ω)) :
    (seen s).transaction = s.transaction := rfl

def watched (s : Scene ω) : Scene (Recorded ω) := ⟨record s.app, s.calls, s.transaction⟩

/-- The application as the handlers left it. -/
def left (s : Scene (Recorded ω)) : Application ω := s.app.world.2

/-- A code of class 4 or 5. -/
def isError (code : ℕ) : Bool := code / 32 = 4 || code / 32 = 5

def Rejected (response : Option Message) : Prop :=
  (response.bind Message.code).any isError = true

/-- The same paths, and the same marks and counters of all resources. -/
structure Same (app app' : Application ω) : Prop where
  paths : ∀ path, app'.root.contains path = app.root.contains path
  changed : ∀ rid, (app'.resources rid).changed = (app.resources rid).changed
  deleted : ∀ rid, (app'.resources rid).deleted = (app.resources rid).deleted
  observeCount : ∀ rid, (app'.resources rid).observeCount = (app.resources rid).observeCount

/-- The application as the last handler of the request left it. -/
def handled (handlers : Handlers ω) (rng : Bytes) (s : Scene ω) : Application ω :=
  left (receiveRequest (recording handlers) rng (watched s)).2

/-- If the response is an error in the end, the application is as the handlers left it. -/
def NoEffect (handlers : Handlers ω) (rng : Bytes) (s : Scene ω) : Prop :=
  Rejected (receiveRequest handlers rng s).2.transaction.response →
    Same (handled handlers rng s) (receiveRequest handlers rng s).2.app

/-- What a request is about to do to the application, with the response that a handler gave. -/
inductive Change where
  | announce (code rid : ℕ) (response : Message)
  | register (path : Text) (rid : ℕ) (response : Message)
  | remove (path : Text) (response : Message)

def perform : Change → Action Stop (Scene ω) Unit
  | .announce code rid response => acceptChanged code rid response
  | .register path rid response => acceptChild path rid response
  | .remove path response => acceptDelete path true response

def offered (change : ℕ → Message → Change) : Outcome → Option Change
  | .pair rid (some response) => some (change rid response)
  | _ => none

def removed (path : Text) : Outcome → Option Change
  | .flag true response => some (.remove path response)
  | _ => none

section
variable (handlers : Handlers ω) (rng : Bytes)

/-- What a handler comes back with, at once or through a callback. -/
def separate (rid : ℕ) (ret : Outcome) : Action Stop (Scene ω) Outcome :=
  match ret with
  | .later callback => handleSeparate handlers rid callback true
  | ret => pure ret

/-- A handler is run, and what it comes back with is a change or none. -/
def consultHandler (handler : Handler) (rid : ℕ) (offer : Outcome → Option Change) :
    Action Stop (Scene ω) (Option Change) := do
  let ret ← invoke handlers handler rid true
  let ret ← separate handlers rid ret
  pure (offer ret)

def consultEdit (rid : ℕ) : Action Stop (Scene ω) (Option Change) := do
  Action.modify (Scene.setResource rid)
  let s ← Action.get
  if mismatch s.transaction.request (s.app.resources rid).etag then pure none
  else consultHandler handlers .post rid (offered (.announce Codes.created))

def consultAdd (parent : ℕ) (lp : Text) : Action Stop (Scene ω) (Option Change) := do
  let ret ← invokeSync handlers .post parent
  let ret ← separate handlers parent ret
  pure (offered (.register lp) ret)

def consultPost (path : Text) : Action Stop (Scene ω) (Option Change) := do
  let s ← Action.get
  match withPrefix s.app.root path with
  | .error _ => pure none
  | .ok t =>
    if t.contains path then
      match s.app.root.get? path with
      | none => pure none
      | some rid => consultEdit handlers rid
    else
      match (longest t).bind s.app.root.get? with
      | none => pure none
      | some parent =>
        if (s.app.resources parent).allowChildren then consultAdd handlers parent path
        else pure none

/-- The response to `render_PUT` is no error where it changes something, so that only its stand-in
counts. -/
def consultPut (rid : ℕ) : Action Stop (Scene ω) (Option Change) := do
  let s ← Action.get
  if mismatch s.transaction.request (s.app.resources rid).etag ∨
      ifNoneMatch s.transaction.request then pure none
  else do
    match ← invoke handlers .put rid false with
    | .notImplemented =>
      consultHandler handlers .putAdvanced rid (offered (.announce Codes.changed))
    | _ => pure none

def begun (next : Action Stop (Scene ω) (Option Change)) :
    Action Stop (Scene ω) (Option Change) := do
  initResponse rng
  setSource
  next

def consultRegistered (registered : Option ℕ) (next : ℕ → Action Stop (Scene ω) (Option Change)) :
    Action Stop (Scene ω) (Option Change) :=
  match registered with
  | none => pure none
  | some rid => do
    Action.modify (Scene.setResource rid)
    next rid

def consult : Action Stop (Scene ω) (Option Change) := do
  let s ← Action.get
  let path := requestPath s.transaction.request
  let method := s.transaction.request.code
  if method = some Codes.post then begun rng (consultPost handlers path)
  else if method = some Codes.put then
    begun rng (consultRegistered (s.app.root.get? path) (consultPut handlers))
  else
    begun rng (consultRegistered (s.app.root.get? path) fun rid =>
      consultHandler handlers .delete rid (removed path))

end

/-- The change does nothing to the application, or its response is no error. -/
def Harmless (app : Application ω) : Change → Prop
  | .announce code _ response => ¬ Rejected (some (withDefault code response))
  | .register path rid response => Rejected (some (withDefault Codes.created response)) →
      app.root.contains path = true ∧ (app.resources rid).changed = true
  | .remove path response => Rejected (some (withDefault Codes.deleted response)) →
      app.root.contains path = false

/-- The application is as the handlers left it. -/
def Noted (s : Scene (Recorded ω)) : Prop := forget s.app = left s

/-- The application stays as the handlers leave it, or the response is no error in the end. -/
def Spares (y : Action Stop (Scene (Recorded ω)) Unit) : Prop :=
  ∀ s, Noted s → Noted (y s).2 ∨ ¬ Rejected (y s).2.transaction.response

/-- The handlers of `y` are run by `x`, and then `y` does nothing but the change that `x` found. -/
def Concludes (x : Action Stop (Scene (Recorded ω)) (Option Change))
    (y : Action Stop (Scene (Recorded ω)) Unit) : Prop :=
  ∀ s, Noted s →
    (∃ change s', x s = (.ok (some change), s') ∧ Noted s' ∧ y s = perform change s') ∨
      (∀ change, (x s).1 ≠ .ok (some change)) ∧
        (Noted (y s).2 ∨ ¬ Rejected (y s).2.transaction.response)

section Rules
variable {α : Type}

abbrev Notes (x : Action Stop (Scene (Recorded ω)) α) : Prop :=
  Action.Moves (fun s s' => Noted s → Noted s') x

theorem spares_bind (x : Action Stop (Scene (Recorded ω)) α)
    (f : α → Action Stop (Scene (Recorded ω)) Unit) (hx : Notes x) (hf : ∀ a, Spares (f a)) :
    Spares (x >>= f) := by
  intro s hs
  have hnoted := hx s hs
  rw [Action.bind_apply]
  generalize x s = r at hnoted
  obtain ⟨result, s'⟩ := r
  cases result with
  | ok a => exact hf a s' hnoted
  | error e => exact Or.inl hnoted

theorem spares_of_app (y : Action Stop (Scene (Recorded ω)) Unit)
    (h : ∀ s, (y s).2.app = s.app) : Spares y := by
  intro s hs
  refine Or.inl ?_
  unfold Noted left
  rw [h s]
  exact hs

theorem concludes_none (y : Action Stop (Scene (Recorded ω)) Unit) (h : Spares y) :
    Concludes (pure none) y := by
  intro s hs
  refine Or.inr ⟨?_, h s hs⟩
  intro change hchange
  cases hchange

theorem concludes_perform (change : Change) :
    Concludes (pure (some change)) (perform change : Action Stop (Scene (Recorded ω)) Unit) :=
  fun s hs => Or.inl ⟨change, s, rfl, hs, rfl⟩

theorem concludes_bind (x : Action Stop (Scene (Recorded ω)) α)
    (f : α → Action Stop (Scene (Recorded ω)) (Option Change))
    (g : α → Action Stop (Scene (Recorded ω)) Unit) (hx : Notes x)
    (h : ∀ a, Concludes (f a) (g a)) : Concludes (x >>= f) (x >>= g) := by
  intro s hs
  have hnoted := hx s hs
  rw [Action.bind_apply, Action.bind_apply]
  generalize x s = r at hnoted
  obtain ⟨result, s'⟩ := r
  cases result with
  | ok a => exact h a s' hnoted
  | error e =>
    refine Or.inr ⟨?_, Or.inl hnoted⟩
    intro change hchange
    cases hchange

theorem spares_setCode (code : ℕ) :
    Spares (setCode code : Action Stop (Scene (Recorded ω)) Unit) := by
  refine spares_of_app _ fun s => ?_
  unfold setCode
  split
  · rfl
  · rfl

theorem spares_raise (e : Stop) :
    Spares (Action.raise e : Action Stop (Scene (Recorded ω)) Unit) :=
  spares_of_app _ fun _ => rfl

theorem notes_get : Notes (Action.get : Action Stop (Scene (Recorded ω)) _) :=
  Action.Moves.get _ fun _ h => h

theorem notes_setResource (rid : ℕ) :
    Notes (Action.modify (Scene.setResource rid) : Action Stop (Scene (Recorded ω)) Unit) :=
  fun _ h => h

end Rules

section Layer
variable (handlers : Handlers ω) (rng : Bytes)

theorem notes_invoke (handler : Handler) (rid : ℕ) (withResponse : Bool) :
    Notes (invoke (recording handlers) handler rid withResponse) := by
  have happ : ∀ (request : Message) (given : Option Message) (app : Application (Recorded ω)),
      ∃ app', (awaited (recording handlers) handler rid request given app).app = record app' := by
    intro request given app
    refine ⟨(handlers.render handler rid request given (forget app)).app, ?_⟩
    unfold awaited
    dsimp only
    split
    · rfl
    · split <;> rfl
  intro s _
  unfold invoke
  dsimp only
  obtain ⟨app, happ⟩ := happ s.transaction.request
    (if withResponse then s.transaction.response else none) s.app
  rw [happ]
  split <;> rfl

theorem notes_invokeSync (handler : Handler) (rid : ℕ) :
    Notes (invokeSync (recording handlers) handler rid) := by
  intro s hs
  unfold invokeSync
  split
  · exact hs
  · dsimp only
    split <;> rfl

theorem notes_handleSeparate (rid callback : ℕ) (withResponse : Bool) :
    Notes (handleSeparate (recording handlers) rid callback withResponse) := by
  intro s hs
  unfold handleSeparate
  split
  · exact notes_invoke handlers (.callback callback) rid withResponse s hs
  · exact hs

theorem spares_reject (error : Option PyErr) :
    Spares (reject error : Action Stop (Scene (Recorded ω)) Unit) := by
  cases error with
  | none => exact spares_setCode _
  | some e => exact spares_raise _

theorem concludes_settle (rid : ℕ) (change : ℕ → Message → Change) (ret : Outcome) :
    Concludes (do
        let ret ← separate (recording handlers) rid ret
        pure (offered change ret))
      (settle (recording handlers) rid (fun rid' response => perform (change rid' response))
        ret) := by
  cases ret with
  | pair rid' response =>
    cases response with
    | none => exact concludes_none _ (spares_setCode _)
    | some response => exact concludes_perform _
  | later callback =>
    refine concludes_bind _ _ _ (notes_handleSeparate handlers rid callback true) fun ret => ?_
    cases ret with
    | pair rid' response =>
      cases response with
      | none => exact concludes_none _ (spares_setCode _)
      | some response => exact concludes_perform _
    | later callback => exact concludes_none _ (spares_raise _)
    | misfit shape => exact concludes_none _ (spares_reject _)
    | _ => exact concludes_none _ (spares_setCode _)
  | _ => exact concludes_none _ (spares_setCode _)

theorem concludes_editResource (rid : ℕ) :
    Concludes (consultEdit (recording handlers) rid) (editResource (recording handlers) rid) := by
  refine concludes_bind _ _ _ (notes_setResource rid) fun _ =>
    concludes_bind _ _ _ notes_get fun s => ?_
  split
  · exact concludes_none _ (spares_setCode _)
  · exact concludes_bind _ _ _ (notes_invoke handlers .post rid true) fun ret =>
      concludes_settle handlers rid (.announce Codes.created) ret

theorem concludes_createResource (path : Text) :
    Concludes (consultPost (recording handlers) path)
      (createResource (recording handlers) path) := by
  refine concludes_bind _ _ _ notes_get fun s => ?_
  cases withPrefix s.app.root path with
  | error e => exact concludes_none _ (spares_raise _)
  | ok t =>
    dsimp only
    by_cases hmem : path ∈ t
    · rw [if_pos (List.contains_iff_mem.mpr hmem), if_pos hmem]
      cases s.app.root.get? path with
      | none => exact concludes_none _ (spares_raise _)
      | some rid => exact concludes_editResource handlers rid
    · rw [if_neg (fun h => hmem (List.contains_iff_mem.mp h)), if_neg hmem]
      cases (longest t).bind s.app.root.get? with
      | none => exact concludes_none _ (spares_raise _)
      | some parent =>
        dsimp only
        split
        · exact concludes_bind _ _ _ (notes_invokeSync handlers .post parent) fun ret =>
            concludes_settle handlers parent (.register path) ret
        · exact concludes_none _ (spares_setCode _)

/-- What a resource that comes back from `render_PUT` brings about is no error. -/
theorem spares_acceptPut (rid : ℕ) :
    Spares (acceptPut rid : Action Stop (Scene (Recorded ω)) Unit) := by
  intro s hs
  unfold acceptPut
  cases s.transaction.response with
  | none => exact Or.inl hs
  | some given =>
    dsimp only
    cases hput : putResponse (s.app.resources rid) given with
    | error e => exact Or.inl hs
    | ok response =>
      refine Or.inr ?_
      change ¬ (response.code).any isError = true
      rw [Execution.putResponse_code (s.app.resources rid) given response hput]
      decide

theorem spares_settlePut (rid : ℕ) (ret : Outcome) :
    Spares (settlePut (recording handlers) rid ret) := by
  have hcall : Spares (settlePut.notCallable : Action Stop (Scene (Recorded ω)) Unit) := by
    refine spares_of_app _ fun s => ?_
    unfold settlePut.notCallable
    split
    · rfl
    · rfl
  cases ret with
  | resource rid' => exact spares_acceptPut rid'
  | resourceLater rid' callback =>
    refine spares_bind _ _ (notes_handleSeparate handlers rid callback false) fun ret => ?_
    cases ret with
    | resource rid' => exact spares_acceptPut rid'
    | notImplemented => exact spares_raise _
    | _ => exact spares_setCode _
  | pair rid' response => exact hcall
  | flag delete response => exact hcall
  | misfit shape =>
    cases shape with
    | two => exact hcall
    | _ => exact spares_setCode _
  | _ => exact spares_setCode _

theorem concludes_updateResource (rid : ℕ) :
    Concludes (consultPut (recording handlers) rid) (updateResource (recording handlers) rid) := by
  refine concludes_bind _ _ _ notes_get fun s => ?_
  split
  · exact concludes_none _ (spares_setCode _)
  · refine concludes_bind _ _ _ (notes_invoke handlers .put rid false) fun ret => ?_
    cases ret with
    | notImplemented =>
      exact concludes_bind _ _ _ (notes_invoke handlers .putAdvanced rid true) fun ret =>
        concludes_settle handlers rid (.announce Codes.changed) ret
    | _ => exact concludes_none _ (spares_settlePut handlers rid _)

theorem spares_kept (path : Text) (response : Message) :
    Spares (acceptDelete path false response : Action Stop (Scene (Recorded ω)) Unit) := by
  refine spares_of_app _ fun s => ?_
  unfold acceptDelete
  rw [if_neg (by simp)]
  rfl

theorem concludes_deleteResource (rid : ℕ) (path : Text) :
    Concludes (consultHandler (recording handlers) .delete rid (removed path))
      (deleteResource (recording handlers) rid path) := by
  refine concludes_bind _ _ _ (notes_invoke handlers .delete rid true) fun ret => ?_
  cases ret with
  | flag delete response =>
    cases delete with
    | false => exact concludes_none _ (spares_kept path response)
    | true => exact concludes_perform (.remove path response)
  | later callback =>
    refine concludes_bind _ _ _ (notes_handleSeparate handlers rid callback true) fun ret => ?_
    cases ret with
    | flag delete response =>
      cases delete with
      | false => exact concludes_none _ (spares_kept path response)
      | true => exact concludes_perform (.remove path response)
    | notImplemented => exact concludes_none _ (spares_setCode _)
    | misfit shape => exact concludes_none _ (spares_reject _)
    | _ => exact concludes_none _ (spares_setCode _)
  | _ => exact concludes_none _ (spares_setCode _)

theorem notes_initResponse :
    Notes (initResponse rng : Action Stop (Scene (Recorded ω)) Unit) := by
  intro s hs
  unfold initResponse
  split
  · exact hs
  · exact hs

theorem notes_setSource : Notes (setSource : Action Stop (Scene (Recorded ω)) Unit) :=
  fun _ hs => hs

/-- A request that may change something. -/
def Changing (request : Message) : Prop :=
  request.code = some Codes.post ∨ request.code = some Codes.put ∨ request.code = some Codes.delete

theorem concludes_begun (x : Action Stop (Scene (Recorded ω)) (Option Change))
    (y : Action Stop (Scene (Recorded ω)) Unit) (h : Concludes x y) :
    Concludes (begun rng x) (do initResponse rng; setSource; y) :=
  concludes_bind _ _ _ (notes_initResponse rng) fun _ =>
    concludes_bind _ _ _ notes_setSource fun _ => h

theorem concludes_receiveRequest (s : Scene (Recorded ω)) (hs : Noted s)
    (h : Changing s.transaction.request) :
    (∃ change s', consult (recording handlers) rng s = (.ok (some change), s') ∧ Noted s' ∧
        receiveRequest (recording handlers) rng s = perform change s') ∨
      (∀ change, (consult (recording handlers) rng s).1 ≠ .ok (some change)) ∧
        (Noted (receiveRequest (recording handlers) rng s).2 ∨
          ¬ Rejected (receiveRequest (recording handlers) rng s).2.transaction.response) := by
  unfold consult receiveRequest
  rw [Action.bind_get, Action.bind_get]
  rcases h with hcode | hcode | hcode
  · rw [hcode, if_pos rfl, if_neg (by decide), if_pos rfl]
    exact concludes_begun rng _ _ (concludes_createResource handlers _) s hs
  · rw [hcode, if_neg (by decide), if_pos rfl, if_neg (by decide), if_neg (by decide), if_pos rfl]
    refine concludes_begun rng _ _ ?_ s hs
    cases s.app.root.get? (requestPath s.transaction.request) with
    | none => exact concludes_none _ (spares_setCode _)
    | some rid =>
      exact concludes_bind _ _ _ (notes_setResource rid) fun _ =>
        concludes_updateResource handlers rid
  · rw [hcode, if_neg (by decide), if_neg (by decide), if_neg (by decide), if_neg (by decide),
      if_neg (by decide), if_pos rfl]
    refine concludes_begun rng _ _ ?_ s hs
    cases s.app.root.get? (requestPath s.transaction.request) with
    | none => exact concludes_none _ (spares_setCode _)
    | some rid =>
      exact concludes_bind _ _ _ (notes_setResource rid) fun _ =>
        concludes_deleteResource handlers rid _

end Layer

theorem same_refl (app : Application ω) : Same app app :=
  ⟨fun _ => rfl, fun _ => rfl, fun _ => rfl, fun _ => rfl⟩

section Changes
variable (app : Application ω)

/-- A counter that is advanced is another one, also where it wraps. -/
theorem announce_iff (code rid : ℕ) (response : Message) :
    (Rejected (some (withDefault code response)) →
        Same app (app.update rid Resource.announce)) ↔
      Harmless app (.announce code rid response) := by
  constructor
  · intro h hrejected
    have hcount := (h hrejected).observeCount rid
    change (if rid = rid then (app.resources rid).announce else app.resources rid).observeCount =
      (app.resources rid).observeCount at hcount
    rw [if_pos rfl] at hcount
    change ((app.resources rid).observeCount + 1) % 65000 = _ at hcount
    omega
  · intro h hrejected
    exact absurd hrejected h

def registered (path : Text) (rid : ℕ) : Application ω :=
  { app.update rid fun r => { r with path := some path, changed := true } with
    root := app.root.insert path rid }

theorem register_iff (path : Text) (rid : ℕ) (response : Message) :
    (Rejected (some (withDefault Codes.created response)) → Same app (registered app path rid)) ↔
      Harmless app (.register path rid response) := by
  have hresource : ∀ i, (registered app path rid).resources i =
      if i = rid then { app.resources i with path := some path, changed := true }
      else app.resources i := fun _ => rfl
  constructor
  · intro h hrejected
    have hsame := h hrejected
    have hpath := hsame.paths path
    have hchanged := hsame.changed rid
    change (app.root.insert path rid).contains path = _ at hpath
    rw [Dict.contains_insert, decide_eq_true rfl, Bool.true_or] at hpath
    rw [hresource, if_pos rfl] at hchanged
    exact ⟨hpath.symm, hchanged.symm⟩
  · intro h hrejected
    obtain ⟨hpath, hchanged⟩ := h hrejected
    refine ⟨?_, ?_, ?_, ?_⟩
    · intro path'
      change (app.root.insert path rid).contains path' = _
      rw [Dict.contains_insert]
      by_cases heq : path' = path
      · rw [heq, hpath, Bool.or_true]
      · rw [decide_eq_false heq, Bool.false_or]
    · intro i
      rw [hresource]
      split
      · next heq => rw [heq, hchanged]
      · rfl
    · intro i
      rw [hresource]
      split <;> rfl
    · intro i
      rw [hresource]
      split <;> rfl

theorem remove_iff (path : Text) (response : Message) :
    (Rejected (some (withDefault Codes.deleted response)) →
        Same app { app with root := app.root.erase path }) ↔
      Harmless app (.remove path response) := by
  refine forall_congr' fun _ => ?_
  constructor
  · intro hsame
    have hpath := hsame.paths path
    change (app.root.erase path).contains path = _ at hpath
    rw [Dict.contains_erase, decide_eq_true rfl, Bool.not_true, Bool.false_and] at hpath
    exact hpath.symm
  · intro hpath
    refine ⟨?_, fun _ => rfl, fun _ => rfl, fun _ => rfl⟩
    intro path'
    change (app.root.erase path).contains path' = _
    rw [Dict.contains_erase]
    by_cases heq : path' = path
    · rw [heq, hpath, Bool.and_false]
    · rw [decide_eq_false heq, Bool.not_false, Bool.true_and]

end Changes

/-- Once the handlers have run, a rejected request leaves all as it is exactly if the change is
harmless. -/
theorem perform_iff (change : Change) (s : Scene (Recorded ω)) (hs : Noted s) :
    (Rejected (perform change s).2.transaction.response →
        Same (left (perform change s).2) (forget (perform change s).2.app)) ↔
      Harmless (forget s.app) change := by
  cases change with
  | announce code rid response =>
    have hleft : left (perform (.announce code rid response) s).2 = forget s.app := hs.symm
    rw [hleft]
    exact announce_iff (forget s.app) code rid response
  | register path rid response =>
    have hleft : left (perform (.register path rid response) s).2 = forget s.app := hs.symm
    rw [hleft]
    exact register_iff (forget s.app) path rid response
  | remove path response =>
    by_cases hmissing : s.app.root.get? path = none
    · have hperform : (perform (.remove path response) s).2 = s := by
        change (acceptDelete path true response s).2 = s
        unfold acceptDelete
        rw [if_pos ⟨rfl, hmissing⟩]
      have hcontains : s.app.root.contains path = false := by
        unfold Dict.contains
        rw [hmissing]
        rfl
      rw [hperform, ← hs]
      exact iff_of_true (fun _ => same_refl _) fun _ => hcontains
    · have hperform : (perform (.remove path response) s).2 =
          ({ s with app := { s.app with root := s.app.root.erase path } } :
            Scene (Recorded ω)).setResponse (some (withDefault Codes.deleted response)) := by
        change (acceptDelete path true response s).2 = _
        unfold acceptDelete
        rw [if_neg fun h => hmissing h.2]
        rfl
      have hleft : left s = forget s.app := hs.symm
      rw [hperform]
      change (_ → Same (left s) _) ↔ _
      rw [hleft]
      exact remove_iff (forget s.app) path response

section Recording
variable (handlers : Handlers ω) (rng : Bytes)

/-- The run with the record is the run without it. -/
abbrev Seen {α : Type} (x : Action Stop (Scene (Recorded ω)) α) (y : Action Stop (Scene ω) α) :
    Prop :=
  Follows seen x y

theorem awaited_recording (handler : Handler) (rid : ℕ) (request : Message)
    (given : Option Message) (app : Application (Recorded ω)) :
    awaited (recording handlers) handler rid request given app =
      recordRendered (awaited handlers handler rid request given (forget app)) := by
  have hrender : (recording handlers).render handler rid request given app =
      recordRendered (handlers.render handler rid request given (forget app)) := rfl
  have hasync : (recording handlers).isAsync handler rid = handlers.isAsync handler rid := rfl
  unfold awaited
  rw [hrender, hasync]
  generalize handlers.render handler rid request given (forget app) = r
  obtain ⟨outcome, edit, app'⟩ := r
  dsimp only
  split
  · rfl
  · cases outcome <;> rfl

theorem follows_invoke (handler : Handler) (rid : ℕ) (withResponse : Bool) :
    Seen (invoke (recording handlers) handler rid withResponse)
      (invoke handlers handler rid withResponse) := by
  intro s
  unfold invoke
  dsimp only
  rw [awaited_recording, seen_transaction, seen_app]
  generalize awaited handlers handler rid s.transaction.request
    (if withResponse then s.transaction.response else none) (forget s.app) = r
  obtain ⟨outcome, edit, app⟩ := r
  cases outcome <;> rfl

theorem follows_invokeSync (handler : Handler) (rid : ℕ) :
    Seen (invokeSync (recording handlers) handler rid) (invokeSync handlers handler rid) := by
  intro s
  have hrender : (recording handlers).render handler rid s.transaction.request
      s.transaction.response s.app = recordRendered (handlers.render handler rid
        s.transaction.request s.transaction.response (forget s.app)) := rfl
  have hasync : (recording handlers).isAsync handler rid = handlers.isAsync handler rid := rfl
  unfold invokeSync
  dsimp only
  rw [hrender, hasync, seen_transaction, seen_app]
  generalize handlers.render handler rid s.transaction.request s.transaction.response
    (forget s.app) = r
  obtain ⟨outcome, edit, app⟩ := r
  split
  · rfl
  · cases outcome <;> rfl

theorem follows_setCode (code : ℕ) : Seen (ω := ω) (setCode code) (setCode code) := by
  intro s
  unfold setCode
  rw [seen_transaction]
  cases s.transaction.response <;> rfl

theorem follows_setResource (rid : ℕ) :
    Seen (ω := ω) (Action.modify (Scene.setResource rid)) (Action.modify (Scene.setResource rid)) :=
  follows_modify seen _ _ fun _ => rfl

theorem follows_handleSeparate (rid callback : ℕ) (withResponse : Bool) :
    Seen (handleSeparate (recording handlers) rid callback withResponse)
      (handleSeparate handlers rid callback withResponse) := by
  intro s
  unfold handleSeparate
  rw [seen_transaction]
  split
  · exact follows_invoke handlers (.callback callback) rid withResponse s
  · rfl

theorem follows_separate (rid : ℕ) (ret : Outcome) :
    Seen (separate (recording handlers) rid ret) (separate handlers rid ret) := by
  cases ret with
  | later callback => exact follows_handleSeparate handlers rid callback true
  | _ => exact follows_pure seen _

theorem follows_consultHandler (handler : Handler) (rid : ℕ) (offer : Outcome → Option Change) :
    Seen (consultHandler (recording handlers) handler rid offer)
      (consultHandler handlers handler rid offer) :=
  follows_bind seen _ _ _ _ (follows_invoke handlers handler rid true) fun ret =>
    follows_bind seen _ _ _ _ (follows_separate handlers rid ret) fun _ => follows_pure seen _

theorem follows_consultPost (path : Text) :
    Seen (consultPost (recording handlers) path) (consultPost handlers path) := by
  refine follows_get seen _ _ fun s => ?_
  rw [seen_app, forget_root, forget_resources]
  cases withPrefix s.app.root path with
  | error e => exact follows_pure seen _
  | ok t =>
    refine follows_ite seen _ _ _ _ _ ?_ ?_
    · cases s.app.root.get? path with
      | none => exact follows_pure seen _
      | some rid =>
        refine follows_bind seen _ _ _ _ (follows_setResource rid) fun _ =>
          follows_get seen _ _ fun s => ?_
        exact follows_ite seen _ _ _ _ _ (follows_pure seen _)
          (follows_consultHandler handlers .post rid _)
    · cases (longest t).bind s.app.root.get? with
      | none => exact follows_pure seen _
      | some parent =>
        refine follows_ite seen _ _ _ _ _ ?_ (follows_pure seen _)
        exact follows_bind seen _ _ _ _ (follows_invokeSync handlers .post parent) fun ret =>
          follows_bind seen _ _ _ _ (follows_separate handlers parent ret) fun _ =>
            follows_pure seen _

theorem follows_consultPut (rid : ℕ) :
    Seen (consultPut (recording handlers) rid) (consultPut handlers rid) := by
  refine follows_get seen _ _ fun s => ?_
  refine follows_ite seen _ _ _ _ _ (follows_pure seen _) ?_
  refine follows_bind seen _ _ _ _ (follows_invoke handlers .put rid false) fun ret => ?_
  cases ret with
  | notImplemented => exact follows_consultHandler handlers .putAdvanced rid _
  | _ => exact follows_pure seen _

theorem follows_initResponse : Seen (ω := ω) (initResponse rng) (initResponse rng) := by
  intro s
  unfold initResponse
  rw [seen_transaction]
  cases Message.initFromRequest rng s.transaction.request <;> rfl

theorem follows_setSource : Seen (ω := ω) setSource setSource :=
  follows_modify seen _ _ fun _ => rfl

theorem follows_begun (x : Action Stop (Scene (Recorded ω)) (Option Change))
    (y : Action Stop (Scene ω) (Option Change)) (h : Seen x y) :
    Seen (begun rng x) (begun rng y) :=
  follows_bind seen _ _ _ _ (follows_initResponse rng) fun _ =>
    follows_bind seen _ _ _ _ follows_setSource fun _ => h

theorem follows_registered (registered : Option ℕ)
    (f : ℕ → Action Stop (Scene (Recorded ω)) (Option Change))
    (g : ℕ → Action Stop (Scene ω) (Option Change)) (h : ∀ rid, Seen (f rid) (g rid)) :
    Seen (consultRegistered registered f) (consultRegistered registered g) := by
  cases registered with
  | none => exact follows_pure seen _
  | some rid => exact follows_bind seen _ _ _ _ (follows_setResource rid) fun _ => h rid

theorem follows_consult :
    Seen (consult (recording handlers) rng) (consult handlers rng) := by
  refine follows_get seen _ _ fun s => ?_
  refine follows_ite seen _ _ _ _ _ (follows_begun rng _ _ (follows_consultPost handlers _)) ?_
  refine follows_ite seen _ _ _ _ _ (follows_begun rng _ _ ?_) (follows_begun rng _ _ ?_)
  · exact follows_registered _ _ _ fun rid => follows_consultPut handlers rid
  · exact follows_registered _ _ _ fun rid => follows_consultHandler handlers .delete rid _

theorem follows_perform (change : Change) :
    Seen (ω := ω) (perform change) (perform change) := by
  cases change with
  | announce code rid response => exact fun _ => rfl
  | register path rid response => exact fun _ => rfl
  | remove path response =>
    intro s
    change acceptDelete path true response (seen s) =
      ((acceptDelete path true response s).1, seen (acceptDelete path true response s).2)
    unfold acceptDelete
    rw [seen_app, forget_root]
    split
    · rfl
    · rfl

theorem follows_reject (error : Option PyErr) : Seen (ω := ω) (reject error) (reject error) := by
  cases error with
  | none => exact follows_setCode _
  | some e => exact follows_raise seen _

theorem follows_settle (rid : ℕ) (change : ℕ → Message → Change) (ret : Outcome) :
    Seen (settle (recording handlers) rid (fun rid' response => perform (change rid' response)) ret)
      (settle handlers rid (fun rid' response => perform (change rid' response)) ret) := by
  cases ret with
  | pair rid' response =>
    cases response with
    | none => exact follows_setCode _
    | some response => exact follows_perform _
  | later callback =>
    refine follows_bind seen _ _ _ _ (follows_handleSeparate handlers rid callback true)
      fun ret => ?_
    cases ret with
    | pair rid' response =>
      cases response with
      | none => exact follows_setCode _
      | some response => exact follows_perform _
    | later callback => exact follows_raise seen _
    | misfit shape => exact follows_reject _
    | _ => exact follows_setCode _
  | _ => exact follows_setCode _

theorem follows_createResource (path : Text) :
    Seen (createResource (recording handlers) path) (createResource handlers path) := by
  refine follows_get seen _ _ fun s => ?_
  rw [seen_app, forget_root, forget_resources]
  cases withPrefix s.app.root path with
  | error e => exact follows_raise seen _
  | ok t =>
    refine follows_ite seen _ _ _ _ _ ?_ ?_
    · cases s.app.root.get? path with
      | none => exact follows_raise seen _
      | some rid =>
        refine follows_bind seen _ _ _ _ (follows_setResource rid) fun _ =>
          follows_get seen _ _ fun s => ?_
        refine follows_ite seen _ _ _ _ _ (follows_setCode _) ?_
        exact follows_bind seen _ _ _ _ (follows_invoke handlers .post rid true) fun ret =>
          follows_settle handlers rid (.announce Codes.created) ret
    · cases (longest t).bind s.app.root.get? with
      | none => exact follows_raise seen _
      | some parent =>
        refine follows_ite seen _ _ _ _ _ ?_ (follows_setCode _)
        exact follows_bind seen _ _ _ _ (follows_invokeSync handlers .post parent) fun ret =>
          follows_settle handlers parent (.register path) ret

theorem follows_acceptPut (rid : ℕ) : Seen (ω := ω) (acceptPut rid) (acceptPut rid) := by
  intro s
  unfold acceptPut
  rw [seen_transaction, seen_app, forget_resources]
  cases s.transaction.response with
  | none => rfl
  | some response =>
    dsimp only
    cases putResponse (s.app.resources rid) response <;> rfl

theorem follows_settlePut (rid : ℕ) (ret : Outcome) :
    Seen (settlePut (recording handlers) rid ret) (settlePut handlers rid ret) := by
  have hcall : Seen (ω := ω) settlePut.notCallable settlePut.notCallable := by
    intro s
    unfold settlePut.notCallable
    rw [seen_transaction]
    split
    · rfl
    · rfl
  cases ret with
  | resource rid' => exact follows_acceptPut rid'
  | resourceLater rid' callback =>
    refine follows_bind seen _ _ _ _ (follows_handleSeparate handlers rid callback false)
      fun ret => ?_
    cases ret with
    | resource rid' => exact follows_acceptPut rid'
    | notImplemented => exact follows_raise seen _
    | _ => exact follows_setCode _
  | pair rid' response => exact hcall
  | flag delete response => exact hcall
  | misfit shape =>
    cases shape with
    | two => exact hcall
    | _ => exact follows_setCode _
  | _ => exact follows_setCode _

theorem follows_updateResource (rid : ℕ) :
    Seen (updateResource (recording handlers) rid) (updateResource handlers rid) := by
  refine follows_get seen _ _ fun s => ?_
  refine follows_ite seen _ _ _ _ _ (follows_setCode _) ?_
  refine follows_bind seen _ _ _ _ (follows_invoke handlers .put rid false) fun ret => ?_
  cases ret with
  | notImplemented =>
    exact follows_bind seen _ _ _ _ (follows_invoke handlers .putAdvanced rid true) fun ret =>
      follows_settle handlers rid (.announce Codes.changed) ret
  | _ => exact follows_settlePut handlers rid _

theorem follows_acceptDelete (path : Text) (delete : Bool) (response : Message) :
    Seen (ω := ω) (acceptDelete path delete response) (acceptDelete path delete response) := by
  cases delete with
  | true => exact follows_perform (.remove path response)
  | false => exact fun _ => rfl

theorem follows_deleteResource (rid : ℕ) (path : Text) :
    Seen (deleteResource (recording handlers) rid path) (deleteResource handlers rid path) := by
  refine follows_bind seen _ _ _ _ (follows_invoke handlers .delete rid true) fun ret => ?_
  cases ret with
  | flag delete response => exact follows_acceptDelete path delete response
  | later callback =>
    refine follows_bind seen _ _ _ _ (follows_handleSeparate handlers rid callback true)
      fun ret => ?_
    cases ret with
    | flag delete response => exact follows_acceptDelete path delete response
    | notImplemented => exact follows_setCode _
    | misfit shape => exact follows_reject _
    | _ => exact follows_setCode _
  | _ => exact follows_setCode _

theorem receiveRequest_recording (s : Scene (Recorded ω)) (h : Changing s.transaction.request) :
    receiveRequest handlers rng (seen s) =
      ((receiveRequest (recording handlers) rng s).1,
        seen (receiveRequest (recording handlers) rng s).2) := by
  have hbegin : ∀ (x : Action Stop (Scene (Recorded ω)) Unit) (y : Action Stop (Scene ω) Unit),
      Seen x y → Seen (do initResponse rng; setSource; x) (do initResponse rng; setSource; y) :=
    fun x y hxy => follows_bind seen _ _ _ _ (follows_initResponse rng) fun _ =>
      follows_bind seen _ _ _ _ follows_setSource fun _ => hxy
  unfold receiveRequest
  rw [Action.bind_get, Action.bind_get, seen_transaction]
  rcases h with hcode | hcode | hcode
  · rw [hcode, if_neg (by decide), if_pos rfl, if_neg (by decide), if_pos rfl]
    exact hbegin _ _ (follows_createResource handlers _) s
  · rw [hcode, if_neg (by decide), if_neg (by decide), if_pos rfl, if_neg (by decide),
      if_neg (by decide), if_pos rfl]
    refine hbegin _ _ ?_ s
    rw [seen_app, forget_root, seen_transaction]
    cases s.app.root.get? (requestPath s.transaction.request) with
    | none => exact follows_setCode _
    | some rid =>
      exact follows_bind seen _ _ _ _ (follows_setResource rid) fun _ =>
        follows_updateResource handlers rid
  · rw [hcode, if_neg (by decide), if_neg (by decide), if_neg (by decide), if_pos rfl,
      if_neg (by decide), if_neg (by decide), if_neg (by decide), if_pos rfl]
    refine hbegin _ _ ?_ s
    rw [seen_app, forget_root, seen_transaction]
    cases s.app.root.get? (requestPath s.transaction.request) with
    | none => exact follows_setCode _
    | some rid =>
      exact follows_bind seen _ _ _ _ (follows_setResource rid) fun _ =>
        follows_deleteResource handlers rid _

end Recording

/-- The layer itself changes nothing when the response is an error, exactly if the change that the
handlers ask for is harmless. -/
theorem noEffect_iff (handlers : Handlers ω) (rng : Bytes) (s : Scene ω)
    (h : Changing s.transaction.request) :
    NoEffect handlers rng s ↔ ∀ change s', consult handlers rng s = (.ok (some change), s') →
      Harmless s'.app change := by
  have hfollows := follows_consult handlers rng (watched s)
  have hrun := receiveRequest_recording handlers rng (watched s) h
  have hseen : seen (watched s) = s := rfl
  rw [hseen] at hfollows hrun
  unfold NoEffect handled
  rw [hrun]
  change (Rejected (receiveRequest (recording handlers) rng (watched s)).2.transaction.response →
    Same (left (receiveRequest (recording handlers) rng (watched s)).2)
      (forget (receiveRequest (recording handlers) rng (watched s)).2.app)) ↔ _
  rcases concludes_receiveRequest handlers rng (watched s) rfl h with
    ⟨change, s', hconsult, hnoted, hperform⟩ | ⟨hnone, hend⟩
  · rw [hperform, perform_iff change s' hnoted, hfollows, hconsult]
    constructor
    · intro hharmless change' s'' heq
      cases heq
      exact hharmless
    · intro hall
      exact hall change _ rfl
  · refine iff_of_true ?_ ?_
    · intro hrejected
      rcases hend with hnoted | hno
      · rw [hnoted]
        exact same_refl _
      · exact absurd hrejected hno
    · intro change s' heq
      rw [hfollows] at heq
      exact absurd (Prod.mk.inj heq).1 (hnone change)

instance (response : Option Message) : Decidable (Rejected response) :=
  inferInstanceAs (Decidable (_ = true))

instance (app : Application ω) (change : Change) : Decidable (Harmless app change) :=
  match change with
  | .announce code _ response =>
    inferInstanceAs (Decidable (¬ Rejected (some (withDefault code response))))
  | .register path rid response =>
    inferInstanceAs (Decidable (Rejected (some (withDefault Codes.created response)) →
      app.root.contains path = true ∧ (app.resources rid).changed = true))
  | .remove path response =>
    inferInstanceAs (Decidable (Rejected (some (withDefault Codes.deleted response)) →
      app.root.contains path = false))

/-- Every method comes back with its resource and with the response, to which it gives the code. -/
def sampleHandlers (code : ℕ) : Handlers Unit where
  platform := Rendering.plainPlatform
  isAsync _ _ := true
  render _ rid _ response app :=
    ⟨.pair rid (response.map fun r => { r with code := some code }), id, app⟩

def samplePost : Scene Unit where
  app := ⟨fun _ => Resource.new true true true, Dict.empty.insert ['/'] 0, ()⟩
  calls := []
  transaction := Transaction.new
    { Message.new .request with
      code := some Codes.post
      token := some [1]
      destination := some (['s'], 2)
      source := some (['c'], 1) } 0

theorem noEffect_changed : NoEffect (sampleHandlers Codes.changed) [] samplePost := by
  refine (noEffect_iff (sampleHandlers Codes.changed) [] samplePost (Or.inl rfl)).mpr ?_
  intro change s' heq
  have hharmless : ((consult (sampleHandlers Codes.changed) [] samplePost).1.map
      (Option.map fun change => decide (Harmless
        (consult (sampleHandlers Codes.changed) [] samplePost).2.app change))).toOption =
          some (some true) := by
    decide +kernel
  rw [heq] at hharmless
  exact of_decide_eq_true (Option.some.inj (Option.some.inj hharmless))

/-- A handler that refuses the request with 4.00 has its resource announced as changed. -/
theorem not_noEffect_refused :
    ¬ ∀ (ω : Type) (handlers : Handlers ω) (rng : Bytes) (s : Scene ω),
      Changing s.transaction.request → NoEffect handlers rng s := by
  intro h
  have hsame := h Unit (sampleHandlers Codes.badRequest) [] samplePost (Or.inl rfl)
    (by decide +kernel)
  exact absurd (hsame.changed 0) (by decide +kernel)

end BubotCoap.RejectedRequests
