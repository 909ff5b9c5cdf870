import BubotCoap.NearestAncestor

set_option autoImplicit false

namespace BubotCoap.ChildCreation
open PythonData Defines Messages OrderedDict Resources ResourceLayer Transactions FallibleState
  HandlerCalls NearestAncestor

variable {ω : Type} (handlers : Handlers ω) (path : Text) (parent rid : ℕ) (response : Message)
  (app : Application ω)

/-- The nearest ancestor of an unregistered path, which allows children, and what its `render_POST`
comes back with: a resource and a response, with the application as it leaves it. -/
structure Below (s : Scene ω) : Prop where
  unregistered : s.app.root.get? path = none
  nearest : ∃ q, Longest s.app.root (Ancestor path) q ∧ s.app.root.get? q = some parent
  allows : (s.app.resources parent).allowChildren = true
  returns : ∃ edit, handlers.render .post parent s.transaction.request s.transaction.response s.app =
    ⟨.pair rid (some response), edit, app⟩
  success : ∀ code, response.code = some code → 64 ≤ code ∧ code < 96

/-- The state the request leaves: the returned resource is registered under the path, all other
paths are as the handler leaves them, and the response is the one returned. -/
structure Creates (result : Except Stop Unit × Scene ω) : Prop where
  returns : result.1 = .ok ()
  registered : result.2.app.root.get? path = some rid
  located : (result.2.app.resources rid).path = some path
  changed : (result.2.app.resources rid).changed = true
  others : ∀ k, k ≠ path → result.2.app.root.get? k = app.root.get? k
  reply : result.2.transaction.response = some (withDefault Codes.created response)

/-- What a `render_POST` that is no coroutine comes back with, at once or by its callback. -/
def Offers (s : Scene ω) (other : ℕ) (answer : Message) (left : Application ω) : Prop :=
  let first := handlers.render .post other s.transaction.request s.transaction.response s.app
  first.outcome = .pair rid (some answer) ∧ first.app = left ∨
    ∃ callback, first.outcome = .later callback ∧ s.transaction.request.acknowledged = true ∧
      let second := awaited handlers (.callback callback) other s.transaction.request
        (s.transaction.response.map first.edit) first.app
      second.outcome = .pair rid (some answer) ∧ second.app = left

/-- A resource that is asked about a new path: it allows children, its `render_POST` is no coroutine
and comes back with what the nearest ancestor's would. -/
structure Replaces (s : Scene ω) (other : ℕ) : Prop where
  allows : (s.app.resources other).allowChildren = true
  sync : handlers.isAsync .post other = false
  offers : ∃ answer left, Offers handlers rid s other answer left ∧
    withDefault Codes.created answer = withDefault Codes.created response ∧
    ∀ k, k ≠ path → left.root.get? k = app.root.get? k

/-- The longest registered path that begins the new one, as a text, belongs to such a resource,
which is not the nearest ancestor. -/
def Strays (s : Scene ω) : Prop :=
  ∃ q other, Longest s.app.root (fun k => k ≠ [] ∧ k <+: path) q ∧ s.app.root.get? q = some other ∧
    other ≠ parent ∧ Replaces handlers path rid response app s other

section
variable {path rid response app}
  (hsuccess : ∀ code, response.code = some code → 64 ≤ code ∧ code < 96)

theorem creates_acceptChild_iff (rid' : ℕ) (answer : Message) (s : Scene ω) :
    Creates path rid response app (acceptChild path rid' answer s) ↔
      rid' = rid ∧ withDefault Codes.created answer = withDefault Codes.created response ∧
        ∀ k, k ≠ path → s.app.root.get? k = app.root.get? k := by
  constructor
  · intro h
    refine ⟨?_, Option.some.inj h.reply, fun k hk => ?_⟩
    · exact Option.some.inj ((s.app.root.get?_insert_self path rid').symm.trans h.registered)
    · exact (s.app.root.get?_insert_of_ne rid' hk).symm.trans (h.others k hk)
  · rintro ⟨rfl, hreply, hothers⟩
    refine ⟨rfl, s.app.root.get?_insert_self path rid', ?_, ?_, fun k hk => ?_, ?_⟩
    · exact congrArg Resource.path (if_pos rfl)
    · exact congrArg Resource.changed (if_pos rfl)
    · exact (s.app.root.get?_insert_of_ne rid' hk).trans (hothers k hk)
    · exact congrArg some hreply

theorem not_creates_error (e : Stop) (s : Scene ω) :
    ¬ Creates path rid response app (.error e, s) := by
  intro h
  cases h.returns

include hsuccess

theorem not_creates_setCode (code : ℕ) (hcode : 96 ≤ code) (s : Scene ω) :
    ¬ Creates path rid response app (setCode code s) := by
  intro h
  have hreply := h.reply
  unfold setCode at hreply
  cases hresponse : s.transaction.response with
  | none =>
    rw [hresponse] at hreply
    dsimp only at hreply
    rw [hresponse] at hreply
    cases hreply
  | some given =>
    rw [hresponse] at hreply
    have hcodes : some code = some (response.code.getD Codes.created) :=
      congrArg Message.code (Option.some.inj hreply)
    cases hown : response.code with
    | none =>
      rw [hown] at hcodes
      cases hcodes
      exact absurd hcode (by decide)
    | some own =>
      rw [hown, Option.getD_some] at hcodes
      have hsame := Option.some.inj hcodes
      have := hsuccess own hown
      omega

theorem not_creates_reject (e : Option PyErr) (s : Scene ω) :
    ¬ Creates path rid response app (reject e s) := by
  cases e with
  | none => exact not_creates_setCode hsuccess _ (by decide) s
  | some e => exact not_creates_error _ s

/-- The callback of a separate response. -/
theorem creates_later_iff (other callback : ℕ) (s : Scene ω) :
    Creates path rid response app
      (settle handlers other (acceptChild path) (.later callback) s) ↔
      s.transaction.request.acknowledged = true ∧ ∃ answer,
        (awaited handlers (.callback callback) other s.transaction.request s.transaction.response
          s.app).outcome = .pair rid (some answer) ∧
        withDefault Codes.created answer = withDefault Codes.created response ∧
        ∀ k, k ≠ path → (awaited handlers (.callback callback) other s.transaction.request
          s.transaction.response s.app).app.root.get? k = app.root.get? k := by
  unfold settle
  dsimp only
  by_cases hack : s.transaction.request.acknowledged = true
  · have hcalled : handleSeparate handlers other callback true s =
        invoke handlers (.callback callback) other true s := by
      unfold handleSeparate
      rw [if_pos hack]
    rw [and_iff_right hack, Action.bind_apply, hcalled]
    unfold invoke
    simp only [↓reduceIte]
    generalize awaited handlers (.callback callback) other s.transaction.request
      s.transaction.response s.app = r
    obtain ⟨outcome, edit, left⟩ := r
    cases outcome with
    | pair rid' answer =>
      cases answer with
      | none => exact iff_of_false (not_creates_setCode hsuccess _ (by decide) _) (by simp)
      | some answer =>
        refine (creates_acceptChild_iff rid' answer _).trans ⟨?_, ?_⟩
        · rintro ⟨rfl, hsame, hothers⟩
          exact ⟨answer, rfl, hsame, hothers⟩
        · rintro ⟨answer', heq, hsame, hothers⟩
          cases heq
          exact ⟨rfl, hsame, hothers⟩
    | notImplemented => exact iff_of_false (not_creates_setCode hsuccess _ (by decide) _) (by simp)
    | raised e => exact iff_of_false (not_creates_error _ _) (by simp)
    | resource rid' => exact iff_of_false (not_creates_setCode hsuccess _ (by decide) _) (by simp)
    | resourceLater rid' callback' =>
      exact iff_of_false (not_creates_setCode hsuccess _ (by decide) _) (by simp)
    | flag delete answer =>
      exact iff_of_false (not_creates_setCode hsuccess _ (by decide) _) (by simp)
    | later callback' => exact iff_of_false (not_creates_error _ _) (by simp)
    | misfit shape => exact iff_of_false (not_creates_reject hsuccess _ _) (by simp)
    | other => exact iff_of_false (not_creates_setCode hsuccess _ (by decide) _) (by simp)
  · refine iff_of_false ?_ (fun h => hack h.1)
    have hstopped : handleSeparate handlers other callback true s = (.error .deadlocked, s) := by
      unfold handleSeparate
      rw [if_neg hack]
    rw [Action.bind_error _ hstopped]
    exact not_creates_error _ s

theorem creates_handTo_iff (other : ℕ) (s : Scene ω) :
    Creates path rid response app (handTo handlers path other s) ↔
      Replaces handlers path rid response app s other := by
  unfold handTo
  rw [Action.bind_get]
  split_ifs with hallows
  · cases hsync : handlers.isAsync .post other with
    | true =>
      refine iff_of_false ?_ fun h => ?_
      · have hskipped : invokeSync handlers .post other s = (.ok .other, s) := by
          unfold invokeSync
          rw [if_pos hsync]
        unfold addResource
        rw [Action.bind_ok _ hskipped]
        exact not_creates_setCode hsuccess _ (by decide) s
      · rw [h.sync] at hsync
        cases hsync
    | false =>
      have hreplaces : Replaces handlers path rid response app s other ↔ ∃ answer left,
          Offers handlers rid s other answer left ∧
          withDefault Codes.created answer = withDefault Codes.created response ∧
          ∀ k, k ≠ path → left.root.get? k = app.root.get? k :=
        ⟨fun h => h.offers, fun h => ⟨hallows, hsync, h⟩⟩
      rw [hreplaces]
      unfold addResource Offers
      rw [Action.bind_apply]
      unfold invokeSync
      simp only [hsync, Bool.false_eq_true, ↓reduceIte]
      generalize handlers.render .post other s.transaction.request s.transaction.response s.app = r
      obtain ⟨outcome, edit, left⟩ := r
      cases outcome with
      | pair rid' answer =>
        cases answer with
        | none => exact iff_of_false (not_creates_setCode hsuccess _ (by decide) _) (by simp)
        | some answer =>
          refine (creates_acceptChild_iff rid' answer _).trans ⟨?_, ?_⟩
          · rintro ⟨rfl, hsame, hothers⟩
            exact ⟨answer, left, Or.inl ⟨rfl, rfl⟩, hsame, hothers⟩
          · rintro ⟨answer', left', ⟨heq, rfl⟩ | ⟨_, heq, _⟩, hsame, hothers⟩
            · cases heq
              exact ⟨rfl, hsame, hothers⟩
            · cases heq
      | notImplemented =>
        exact iff_of_false (not_creates_setCode hsuccess _ (by decide) _) (by simp)
      | raised e => exact iff_of_false (not_creates_error _ _) (by simp)
      | resource rid' => exact iff_of_false (not_creates_setCode hsuccess _ (by decide) _) (by simp)
      | resourceLater rid' callback =>
        exact iff_of_false (not_creates_setCode hsuccess _ (by decide) _) (by simp)
      | flag delete answer =>
        exact iff_of_false (not_creates_setCode hsuccess _ (by decide) _) (by simp)
      | later callback =>
        refine (creates_later_iff handlers hsuccess other callback _).trans ⟨?_, ?_⟩
        · rintro ⟨hack, answer, houtcome, hsame, hothers⟩
          exact ⟨answer, _, Or.inr ⟨callback, rfl, hack, houtcome, rfl⟩, hsame, hothers⟩
        · rintro ⟨answer, left', ⟨heq, _⟩ | ⟨callback', heq, hack, houtcome, rfl⟩, hsame, hothers⟩
          · cases heq
          · cases heq
            exact ⟨hack, answer, houtcome, hsame, hothers⟩
      | misfit shape => exact iff_of_false (not_creates_setCode hsuccess _ (by decide) _) (by simp)
      | other => exact iff_of_false (not_creates_setCode hsuccess _ (by decide) _) (by simp)
  · exact iff_of_false (not_creates_setCode hsuccess _ (by decide) s) fun h => hallows h.allows

end

/-- Below a parent whose `render_POST` is a coroutine a child is created exactly if another resource
is asked in its place and comes back with the same. -/
theorem creates_iff (hasync : handlers.isAsync .post parent = true) (s : Scene ω)
    (h : Below handlers path parent rid response app s) :
    Creates path rid response app (createResource handlers path s) ↔
      Strays handlers path parent rid response app s := by
  rcases createResource_cases s.app.root path h.unregistered with
    ⟨q, other, hq, hother, heq⟩ | ⟨hnone, heq⟩
  · rw [heq ω handlers s rfl, creates_handTo_iff handlers h.success other s]
    constructor
    · intro hreplaces
      refine ⟨q, other, hq, hother, ?_, hreplaces⟩
      rintro rfl
      rw [hreplaces.sync] at hasync
      cases hasync
    · rintro ⟨q', other', hq', hother', _, hreplaces⟩
      cases Longest.unique _ _ path q q' (fun k hk => hk.2) hq hq'
      cases Option.some.inj (hother.symm.trans hother')
      exact hreplaces
  · rw [heq ω handlers s rfl]
    refine iff_of_false (not_creates_error _ s) ?_
    rintro ⟨q, _, hq, _⟩
    exact hq.fits.1 (hnone q hq.registered hq.fits.2)

/-- A nearest ancestor that is asked itself creates the child exactly if its handler is no
coroutine. -/
theorem creates_nearest_iff (s : Scene ω) (h : Below handlers path parent rid response app s)
    (hhands : HandsTo s.app.root path parent) :
    Creates path rid response app (createResource handlers path s) ↔
      handlers.isAsync .post parent = false := by
  rw [hhands.handed ω handlers s rfl, creates_handTo_iff handlers h.success parent s]
  refine ⟨Replaces.sync, fun hsync => ⟨h.allows, hsync, response, app, Or.inl ?_, rfl, ?_⟩⟩
  · obtain ⟨edit, hrender⟩ := h.returns
    exact ⟨congrArg Rendered.outcome hrender, congrArg Rendered.app hrender⟩
  · exact fun _ _ => rfl

def sampleHandlers : Handlers Unit where
  platform := Rendering.plainPlatform
  isAsync _ _ := true
  render _ _ _ response app := ⟨.pair 1 response, id, app⟩

def sampleApp : Application Unit :=
  ⟨fun _ => Resource.new true true true, Dict.empty.insert ['/'] 0, ()⟩

def sampleScene : Scene Unit where
  app := sampleApp
  calls := []
  transaction :=
    { Transaction.new (Message.new .request) 0 with response := some (Message.new .response) }

theorem below_sample :
    Below sampleHandlers "/new".toList 0 1 (Message.new .response) sampleApp sampleScene where
  unregistered := by decide
  nearest := by
    refine ⟨['/'], ⟨by decide, Or.inl rfl, fun k hk _ => ?_⟩, rfl⟩
    have hmem : k ∈ sampleApp.root.keys := (sampleApp.root.mem_keys_iff k).mpr hk
    rw [List.mem_singleton.mp hmem]
  allows := rfl
  returns := ⟨id, rfl⟩
  success code h := by cases h

/-- The path is not registered afterwards, and the reply is 4.05. -/
theorem not_created_new :
    Below sampleHandlers "/new".toList 0 1 (Message.new .response) sampleApp sampleScene ∧
      ¬ Creates "/new".toList 1 (Message.new .response) sampleApp
        (createResource sampleHandlers "/new".toList sampleScene) ∧
      (createResource sampleHandlers "/new".toList sampleScene).2.app.root.get? "/new".toList =
        none ∧
      ((createResource sampleHandlers "/new".toList sampleScene).2.transaction.response.bind
        Message.code) = some Codes.methodNotAllowed := by
  have hnone : (createResource sampleHandlers "/new".toList sampleScene).2.app.root.get?
      "/new".toList = none := by decide +kernel
  refine ⟨below_sample, fun h => ?_, hnone, by decide +kernel⟩
  have hsome := h.registered
  rw [hnone] at hsome
  cases hsome

/-- `/a` is asked about `/ab`, and comes back with what the root would have. -/
def mixedHandlers : Handlers Unit :=
  { sampleHandlers with isAsync := fun _ rid => decide (rid = 0) }

def mixedScene : Scene Unit :=
  { sampleScene with app := { sampleApp with root := sampleApp.root.insert "/a".toList 2 } }

theorem strays_mixed : Strays mixedHandlers "/ab".toList 0 1 (Message.new .response)
    mixedScene.app mixedScene := by
  refine ⟨"/a".toList, 2, ⟨by decide, by decide, ?_⟩, by decide, by decide, rfl, by decide,
    Message.new .response, mixedScene.app, Or.inl ⟨by decide, rfl⟩, rfl, fun _ _ => rfl⟩
  intro k hk _
  have hmem : k ∈ mixedScene.app.root.keys := (mixedScene.app.root.mem_keys_iff k).mpr hk
  rcases List.mem_cons.mp hmem with rfl | hmem
  · decide
  · rw [List.mem_singleton.mp hmem]

theorem below_mixed : Below mixedHandlers "/ab".toList 0 1 (Message.new .response)
    mixedScene.app mixedScene where
  unregistered := by decide
  nearest := by
    refine ⟨['/'], ⟨by decide, Or.inl rfl, fun k hk hfits => ?_⟩, by decide⟩
    have hmem : k ∈ mixedScene.app.root.keys := (mixedScene.app.root.mem_keys_iff k).mpr hk
    rcases List.mem_cons.mp hmem with rfl | hmem
    · exact le_rfl
    · rw [List.mem_singleton.mp hmem] at hfits
      exact absurd hfits (by decide)
  allows := rfl
  returns := ⟨id, rfl⟩
  success code h := by cases h

theorem creates_mixed : Creates "/ab".toList 1 (Message.new .response) mixedScene.app
    (createResource mixedHandlers "/ab".toList mixedScene) :=
  (creates_iff mixedHandlers "/ab".toList 0 1 (Message.new .response) mixedScene.app (by decide)
    mixedScene below_mixed).mpr strays_mixed

end BubotCoap.ChildCreation
