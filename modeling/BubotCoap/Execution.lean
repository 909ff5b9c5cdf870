import BubotCoap.BlockSteps
import BubotCoap.RequestLayer

set_option autoImplicit false

namespace BubotCoap.Execution
open PythonData Defines Utils Messages OrderedDict Resources ResourceLayer RequestLayer
  Transactions BlockSteps FallibleState

inductive Method where
  | get
  | post
  | put
  | delete
  deriving DecidableEq, Repr

namespace Method

def code : Method → ℕ
  | get => Codes.get
  | post => Codes.post
  | put => Codes.put
  | delete => Codes.delete

def handler : Method → Handler
  | get => .get
  | post => .post
  | put => .put
  | delete => .delete

end Method

/-- What an execution leaves: the application, the handlers run, the resource that answers and its
response. -/
structure Result (ω : Type) where
  app : Application ω
  calls : List Call
  resource : ℕ
  response : Option Message

variable {ω : Type} (handlers : Handlers ω)

/-- The response a handler has left as it was passed, with an error code. -/
def refused (code : ℕ) (response : Message) : Message := { response with code := some code }

section Methods
variable (rid : ℕ) (request given : Message) (calls : List Call)

def resultGet (r : Rendered ω) : Option (Result ω) :=
  match r.outcome with
  | .pair rid' response =>
    some ⟨r.app, calls, rid', response.map (withDefault Codes.content)⟩
  | .raised _ => none
  | .later _ => none
  | _ => some ⟨r.app, calls, rid, some (refused Codes.methodNotAllowed (r.edit given))⟩

/-- A POST or an advanced PUT handler answers with the resource it has changed and a response. -/
def resultChange (code : ℕ) (r : Rendered ω) : Option (Result ω) :=
  match r.outcome with
  | .pair rid' (some response) =>
    some ⟨r.app.update rid' Resource.announce, calls, rid', some (withDefault code response)⟩
  | .raised _ => none
  | .later _ => none
  | _ => some ⟨r.app, calls, rid, some (refused Codes.methodNotAllowed (r.edit given))⟩

/-- A DELETE handler answers with whether the path is to be removed, and a response. -/
def resultDelete (path : Text) (r : Rendered ω) : Option (Result ω) :=
  match r.outcome with
  | .flag true response =>
    if r.app.root.get? path = none then none
    else some ⟨{ r.app with root := r.app.root.erase path }, calls, rid,
      some (withDefault Codes.deleted response)⟩
  | .flag false response => some ⟨r.app, calls, rid, some (withDefault Codes.deleted response)⟩
  | .raised _ => none
  | .later _ => none
  | _ => some ⟨r.app, calls, rid, some (refused Codes.methodNotAllowed (r.edit given))⟩

def resultPut (r : Rendered ω) : Option (Result ω) :=
  match r.outcome with
  | .resource rid' =>
    match putResponse (r.app.resources rid') given with
    | .ok response => some ⟨r.app.update rid' Resource.announce, calls, rid', some response⟩
    | .error _ => none
  | .later _ => some ⟨r.app, calls, rid, some (refused Codes.internalServerError given)⟩
  | .other => some ⟨r.app, calls, rid, some (refused Codes.internalServerError given)⟩
  | .misfit .two => none
  | .misfit _ => some ⟨r.app, calls, rid, some (refused Codes.internalServerError given)⟩
  | _ => none

end Methods

/-- The execution of a request by the handlers of the resource at its path, which get the response
`given`. There is none if a handler raises an exception or defers its answer. -/
def execute (method : Method) (rid : ℕ) (request given : Message) (app : Application ω) :
    Option (Result ω) :=
  let run (handler : Handler) (response : Option Message) (app : Application ω) :=
    awaited handlers handler rid request response app
  let call (handler : Handler) : Call := ⟨handler, rid, request⟩
  match method with
  | .get => resultGet rid given [call .get] (run .get (some given) app)
  | .post => resultChange rid given [call .post] Codes.created (run .post (some given) app)
  | .delete =>
    resultDelete rid given [call .delete] (requestPath request) (run .delete (some given) app)
  | .put =>
    let r := run .put none app
    match r.outcome with
    | .notImplemented =>
      resultChange rid given [call .put, call .putAdvanced] Codes.changed
        (run .putAdvanced (some given) r.app)
    | _ => resultPut rid given [call .put] r

/-- The method's handler of the resource is run once, with the request. Of PUT there are two
handlers, of which the second is run if the first is not implemented. -/
def OnceEach (method : Method) (rid : ℕ) (request : Message) (calls : List Call) : Prop :=
  calls = [⟨method.handler, rid, request⟩] ∨
    method = .put ∧ calls = [⟨.put, rid, request⟩, ⟨.putAdvanced, rid, request⟩]

theorem resultGet_calls (rid : ℕ) (given : Message) (calls : List Call) (r : Rendered ω)
    (x : Result ω) (h : resultGet rid given calls r = some x) : x.calls = calls := by
  unfold resultGet at h
  split at h <;> cases h <;> rfl

theorem resultChange_calls (rid : ℕ) (given : Message) (calls : List Call) (code : ℕ)
    (r : Rendered ω) (x : Result ω) (h : resultChange rid given calls code r = some x) :
    x.calls = calls := by
  unfold resultChange at h
  split at h <;> cases h <;> rfl

theorem resultChange_withCalls (rid : ℕ) (given : Message) (calls calls' : List Call) (code : ℕ)
    (r : Rendered ω) (x : Result ω) (h : resultChange rid given calls code r = some x) :
    resultChange rid given calls' code r = some { x with calls := calls' } := by
  unfold resultChange at h ⊢
  split at h <;> cases h <;> rfl

theorem resultDelete_calls (rid : ℕ) (given : Message) (calls : List Call) (path : Text)
    (r : Rendered ω) (x : Result ω) (h : resultDelete rid given calls path r = some x) :
    x.calls = calls := by
  unfold resultDelete at h
  split at h
  · split at h <;> cases h
    rfl
  all_goals cases h <;> rfl

theorem resultPut_calls (rid : ℕ) (given : Message) (calls : List Call) (r : Rendered ω)
    (x : Result ω) (h : resultPut rid given calls r = some x) : x.calls = calls := by
  unfold resultPut at h
  split at h
  · split at h <;> cases h
    rfl
  all_goals cases h <;> rfl

theorem execute_once (method : Method) (rid : ℕ) (request given : Message) (app : Application ω)
    (x : Result ω) (h : execute handlers method rid request given app = some x) :
    OnceEach method rid request x.calls := by
  cases method with
  | get => exact Or.inl (resultGet_calls _ _ _ _ _ h)
  | post => exact Or.inl (resultChange_calls _ _ _ _ _ _ h)
  | delete => exact Or.inl (resultDelete_calls _ _ _ _ _ _ h)
  | put =>
    unfold execute at h
    dsimp only at h
    split at h
    · exact Or.inr ⟨rfl, resultChange_calls _ _ _ _ _ _ h⟩
    · exact Or.inl (resultPut_calls _ _ _ _ _ h)

theorem putResponse_code (resource : Resource) (given response : Message)
    (h : putResponse resource given = .ok response) : response.code = some Codes.changed := by
  have hetag : ∀ (m m' : Message) (e : Option Bytes), addEtag m e = .ok m' → m'.code = m.code := by
    intro m m' e h
    cases e with
    | none => rw [← Except.ok.inj h]
    | some e => rw [OptionAccess.addNew_ok _ _ _ _ h]
  unfold putResponse at h
  obtain ⟨m₁, _, h⟩ := (bind_eq_ok _ _ _).mp h
  obtain ⟨m₂, h₂, h⟩ := (bind_eq_ok _ _ _).mp h
  have hcode : response.code = m₂.code := by
    unfold setMaxAge at h
    split at h
    · rw [← Except.ok.inj h]
    · rw [OptionAccess.addNew_ok _ _ _ _ h]
      rfl
  rw [hcode, hetag _ _ _ h₂]

theorem execute_code (method : Method) (rid : ℕ) (request given : Message) (app : Application ω)
    (x : Result ω) (h : execute handlers method rid request given app = some x)
    (response : Message) (hresponse : x.response = some response) : response.code ≠ none := by
  have hchange : ∀ calls code r, resultChange rid given calls code r = some x →
      response.code ≠ none := by
    intro calls code r h
    unfold resultChange at h
    split at h <;> cases h <;> cases hresponse <;> simp [withDefault, refused]
  have hput : ∀ calls r, resultPut rid given calls r = some x → response.code ≠ none := by
    intro calls r h
    unfold resultPut at h
    split at h
    · split at h
      · next m hm =>
        cases h
        cases hresponse
        rw [putResponse_code _ _ _ hm]
        simp
      · cases h
    all_goals cases h <;> cases hresponse <;> simp [refused]
  cases method with
  | get =>
    change resultGet rid given _ _ = some x at h
    unfold resultGet at h
    split at h
    · next rid' answer _ =>
      cases h
      cases answer <;> cases hresponse
      simp [withDefault]
    all_goals cases h <;> cases hresponse <;> simp [refused]
  | post => exact hchange _ _ _ h
  | delete =>
    change resultDelete rid given _ _ _ = some x at h
    unfold resultDelete at h
    split at h
    · split at h <;> cases h
      cases hresponse
      simp [withDefault]
    all_goals cases h <;> cases hresponse <;> simp [withDefault, refused]
  | put =>
    unfold execute at h
    dsimp only at h
    split at h
    · exact hchange _ _ _ h
    · exact hput _ _ h

/-! The preconditions of POST and PUT. -/

theorem editResource_turned (rid : ℕ) (s : Scene ω)
    (h : mismatch s.transaction.request (s.app.resources rid).etag = true) :
    editResource handlers rid s = setCode Codes.preconditionFailed (s.setResource rid) := by
  change (if mismatch s.transaction.request (s.app.resources rid).etag = true then _ else _ :
    Action Stop (Scene ω) Unit) (s.setResource rid) = _
  rw [if_pos h]

theorem editResource_passed (rid : ℕ) (s : Scene ω)
    (h : ¬ mismatch s.transaction.request (s.app.resources rid).etag = true) :
    editResource handlers rid s = (invoke handlers .post rid true >>=
      settle handlers rid (acceptChanged Codes.created)) (s.setResource rid) := by
  change (if mismatch s.transaction.request (s.app.resources rid).etag = true then _ else _ :
    Action Stop (Scene ω) Unit) (s.setResource rid) = _
  rw [if_neg h]

theorem updateResource_turned (rid : ℕ) (s : Scene ω)
    (h : mismatch s.transaction.request (s.app.resources rid).etag = true ∨
      ifNoneMatch s.transaction.request = true) :
    updateResource handlers rid s = setCode Codes.preconditionFailed s := by
  unfold updateResource
  rw [Action.bind_get, if_pos h]

section Scenes
variable (s : Scene ω)

def afterCall (handler : Handler) (rid : ℕ) (withResponse : Bool) (r : Rendered ω) : Scene ω :=
  { s.setResponse (if withResponse then s.transaction.response.map r.edit
      else s.transaction.response) with
    app := r.app
    calls := s.calls ++ [⟨handler, rid, s.transaction.request⟩] }

theorem invoke_ok (handler : Handler) (rid : ℕ) (withResponse : Bool) (r : Rendered ω)
    (hr : awaited handlers handler rid s.transaction.request
      (if withResponse then s.transaction.response else none) s.app = r)
    (hraised : ∀ e, r.outcome ≠ .raised e) :
    invoke handlers handler rid withResponse s =
      (.ok r.outcome, afterCall s handler rid withResponse r) := by
  unfold invoke
  dsimp only
  rw [hr]
  cases h : r.outcome with
  | raised e => exact absurd h (hraised e)
  | _ => rfl

theorem setCode_apply (code : ℕ) (response : Message) (h : s.transaction.response = some response) :
    setCode code s = (.ok (), s.setResponse (some (refused code response))) := by
  unfold setCode
  rw [h]
  rfl

end Scenes

/-- The end of a scene that began as `s`, when its request has been executed. -/
def finish (s : Scene ω) (x : Result ω) : Scene ω where
  app := x.app
  calls := s.calls ++ x.calls
  transaction := { s.transaction with resource := some x.resource, response := x.response }

structure Begun (s : Scene ω) (rid : ℕ) (given : Message) : Prop where
  response : s.transaction.response = some given
  resource : s.transaction.resource = some rid

section Layer
variable (s : Scene ω) (rid : ℕ) (given : Message) (x : Result ω)

/-- The resource stays the one addressed unless the handler returns another. -/
theorem finish_afterCall (hs : Begun s rid given) (handler : Handler) (withResponse : Bool)
    (r : Rendered ω) (app : Application ω) (response : Option Message) :
    { (afterCall s handler rid withResponse r).setResponse response with app := app } = finish s
      ⟨app, [⟨handler, rid, s.transaction.request⟩], rid, response⟩ := by
  unfold finish
  rw [← hs.resource]
  rfl

theorem setCode_afterCall (hs : Begun s rid given) (code : ℕ) (handler : Handler)
    (r : Rendered ω) :
    setCode code (afterCall s handler rid true r) = (.ok (), finish s
      ⟨r.app, [⟨handler, rid, s.transaction.request⟩], rid,
        some (refused code (r.edit given))⟩) := by
  have hedited : (afterCall s handler rid true r).transaction.response = some (r.edit given) := by
    change s.transaction.response.map r.edit = _
    rw [hs.response]
    rfl
  rw [setCode_apply _ _ _ hedited]
  exact Prod.ext rfl (finish_afterCall s rid given hs handler true r r.app
    (some (refused code (r.edit given))))

theorem getResource_eq (hs : Begun s rid given)
    (h : execute handlers .get rid s.transaction.request given s.app = some x) :
    getResource handlers rid s = (.ok (), finish s x) := by
  change resultGet rid given _ (awaited handlers .get rid _ (some given) s.app) = some x at h
  generalize hr : awaited handlers .get rid s.transaction.request (some given) s.app = r at h
  have hinvoke := invoke_ok handlers s .get rid true r (by rw [← hr, hs.response]; rfl)
  obtain ⟨outcome, edit, app⟩ := r
  unfold getResource
  cases outcome with
  | raised e => cases h
  | later n => cases h
  | pair rid' response =>
    rw [Action.bind_ok _ (hinvoke (by simp))]
    cases response <;> cases h <;> rfl
  | _ =>
    rw [Action.bind_ok _ (hinvoke (by simp))]
    cases h
    exact setCode_afterCall s rid given hs _ _ _

theorem settle_change (hs : Begun s rid given) (handler : Handler) (code : ℕ)
    (h : resultChange rid given [⟨handler, rid, s.transaction.request⟩] code
      (awaited handlers handler rid s.transaction.request (some given) s.app) = some x) :
    (invoke handlers handler rid true >>= settle handlers rid (acceptChanged code)) s =
      (.ok (), finish s x) := by
  generalize hr : awaited handlers handler rid s.transaction.request (some given) s.app = r at h
  have hinvoke := invoke_ok handlers s handler rid true r (by rw [← hr, hs.response]; rfl)
  obtain ⟨outcome, edit, app⟩ := r
  cases outcome with
  | raised e => cases h
  | later n => cases h
  | pair rid' response =>
    rw [Action.bind_ok _ (hinvoke (by simp))]
    cases response with
    | some response =>
      cases h
      rfl
    | none =>
      cases h
      exact setCode_afterCall s rid given hs _ _ _
  | _ =>
    rw [Action.bind_ok _ (hinvoke (by simp))]
    cases h
    exact setCode_afterCall s rid given hs _ _ _

theorem editResource_eq (hresponse : s.transaction.response = some given)
    (hmatch : mismatch s.transaction.request (s.app.resources rid).etag = false)
    (h : execute handlers .post rid s.transaction.request given s.app = some x) :
    editResource handlers rid s = (.ok (), finish s x) := by
  have hbegun : Begun (s.setResource rid) rid given := ⟨hresponse, rfl⟩
  rw [editResource_passed handlers rid s (by rw [hmatch]; exact Bool.false_ne_true)]
  exact settle_change handlers (s.setResource rid) rid given x hbegun .post Codes.created h

theorem updateResource_eq (hs : Begun s rid given)
    (hmatch : mismatch s.transaction.request (s.app.resources rid).etag = false)
    (hnone : ifNoneMatch s.transaction.request = false)
    (h : execute handlers .put rid s.transaction.request given s.app = some x) :
    updateResource handlers rid s = (.ok (), finish s x) := by
  unfold execute at h
  dsimp only at h
  generalize hr : awaited handlers .put rid s.transaction.request none s.app = r at h
  have hinvoke := invoke_ok handlers s .put rid false r hr
  unfold updateResource
  change (if mismatch s.transaction.request (s.app.resources rid).etag = true ∨
    ifNoneMatch s.transaction.request = true then _ else _ :
    Action Stop (Scene ω) Unit) s = _
  rw [hmatch, hnone, if_neg (by simp)]
  obtain ⟨outcome, edit, app⟩ := r
  have hrefused : ∀ outcome, setCode Codes.internalServerError
      (afterCall s .put rid false ⟨outcome, edit, app⟩) = (.ok (), finish s
        ⟨app, [⟨.put, rid, s.transaction.request⟩], rid,
          some (refused Codes.internalServerError given)⟩) := by
    intro outcome
    rw [setCode_apply (afterCall s .put rid false ⟨outcome, edit, app⟩) _ given hs.response]
    exact Prod.ext rfl (finish_afterCall s rid given hs .put false _ app
      (some (refused Codes.internalServerError given)))
  cases outcome with
  | notImplemented =>
    rw [Action.bind_ok _ (hinvoke (by simp))]
    have hcalls := resultChange_calls _ _ _ _ _ _ h
    have hbegun : Begun (afterCall s .put rid false ⟨.notImplemented, edit, app⟩) rid given :=
      ⟨hs.response, hs.resource⟩
    refine (settle_change handlers _ rid given
      { x with calls := [⟨.putAdvanced, rid, s.transaction.request⟩] } hbegun .putAdvanced
      Codes.changed ?_).trans ?_
    · exact resultChange_withCalls rid given _ _ _ _ _ h
    · unfold finish
      rw [hcalls]
      change (_, Scene.mk _ ((s.calls ++ [_]) ++ [_]) _) = _
      rw [List.append_assoc]
      rfl
  | resource rid' =>
    rw [Action.bind_ok _ (hinvoke (by simp))]
    change acceptPut rid' _ = _
    unfold resultPut at h
    dsimp only at h
    unfold acceptPut
    split at h
    · next response hput =>
      cases h
      have hgiven : (afterCall s .put rid false ⟨.resource rid', edit, app⟩).transaction.response =
          some given := hs.response
      rw [hgiven]
      dsimp only
      have happ : (afterCall s .put rid false ⟨.resource rid', edit, app⟩).app = app := rfl
      rw [happ, hput]
      rfl
    · cases h
  | later n =>
    rw [Action.bind_ok _ (hinvoke (by simp))]
    cases h
    exact hrefused _
  | other =>
    rw [Action.bind_ok _ (hinvoke (by simp))]
    cases h
    exact hrefused _
  | misfit shape =>
    rw [Action.bind_ok _ (hinvoke (by simp))]
    cases shape with
    | two => cases h
    | _ =>
      cases h
      exact hrefused _
  | _ => cases h

theorem deleteResource_eq (hs : Begun s rid given)
    (h : execute handlers .delete rid s.transaction.request given s.app = some x) :
    deleteResource handlers rid (requestPath s.transaction.request) s = (.ok (), finish s x) := by
  change resultDelete rid given _ _ (awaited handlers .delete rid _ (some given) s.app) = some x
    at h
  generalize hr : awaited handlers .delete rid s.transaction.request (some given) s.app = r at h
  have hinvoke := invoke_ok handlers s .delete rid true r (by rw [← hr, hs.response]; rfl)
  obtain ⟨outcome, edit, app⟩ := r
  unfold deleteResource
  cases outcome with
  | raised e => cases h
  | later n => cases h
  | flag delete response =>
    rw [Action.bind_ok _ (hinvoke (by simp))]
    change acceptDelete _ delete response _ = _
    unfold acceptDelete
    cases delete with
    | false =>
      cases h
      rw [if_neg (by simp)]
      exact Prod.ext rfl (finish_afterCall s rid given hs .delete true
        ⟨.flag false response, edit, app⟩ app (some (withDefault Codes.deleted response)))
    | true =>
      unfold resultDelete at h
      dsimp only at h
      split at h
      · cases h
      · next hpath =>
        cases h
        rw [if_neg fun hc => hpath hc.2]
        exact Prod.ext rfl (finish_afterCall s rid given hs .delete true
          ⟨.flag true response, edit, app⟩
          { app with root := app.root.erase (requestPath s.transaction.request) }
          (some (withDefault Codes.deleted response)))
  | _ =>
    rw [Action.bind_ok _ (hinvoke (by simp))]
    cases h
    exact setCode_afterCall s rid given hs _ _ _

end Layer

theorem mem_withPrefix (root : Dict Text ℕ) (path : Text) (rid : ℕ)
    (h : root.get? path = some rid) : ∃ t, withPrefix root path = .ok t ∧ path ∈ t := by
  have hmem : path ∈ (root.entries.map Prod.fst).filter fun k => k.isPrefixOf path := by
    rw [List.mem_filter]
    exact ⟨List.mem_map.mpr ⟨(path, rid), (root.mem_entries_iff path rid).mpr h, rfl⟩, by simp⟩
  exact ⟨_, if_pos (List.ne_nil_of_mem hmem), hmem⟩

theorem createResource_registered (s : Scene ω) (path : Text) (rid : ℕ)
    (h : s.app.root.get? path = some rid) :
    createResource handlers path s = editResource handlers rid s := by
  obtain ⟨t, ht, hmem⟩ := mem_withPrefix s.app.root path rid h
  unfold createResource
  rw [Action.bind_get, ht]
  dsimp only
  rw [if_pos hmem, h]

/-- A request for a registered resource that no precondition turns away. -/
structure Addressed (app : Application ω) (method : Method) (rid : ℕ) (request : Message) :
    Prop where
  code : request.code = some method.code
  registered : app.root.get? (requestPath request) = some rid
  notRoot : method = .get → requestPath request ≠ ['/']
  matching : method = .post ∨ method = .put →
    mismatch request (app.resources rid).etag = false
  noneMatching : method = .put → ifNoneMatch request = false

theorem receiveRequest_eq (rng : Bytes) (s : Scene ω) (method : Method) (rid : ℕ) (token : Bytes)
    (x : Result ω) (hrequest : Addressed s.app method rid s.transaction.request)
    (hmulticast : s.transaction.request.multicast = false)
    (hdestination : s.transaction.request.destination ≠ none)
    (htoken : s.transaction.request.token = some token) (hlength : token.length ≤ 256)
    (h : execute handlers method rid s.transaction.request (replyTo s.transaction.request token)
      s.app = some x) :
    receiveRequest handlers rng s = (.ok (), finish s x) := by
  have hinit : initResponse rng s =
      (.ok (), s.setResponse (some (replyTo s.transaction.request token))) := by
    unfold initResponse
    rw [initFromRequest_eq rng _ token hmulticast hdestination htoken hlength]
  have hsource : setSource (s.setResponse (some (replyTo s.transaction.request token))) =
      (.ok (), s.setResponse (some (replyTo s.transaction.request token))) := rfl
  have hbegun : Begun ((s.setResponse (some (replyTo s.transaction.request token))).setResource rid)
      rid (replyTo s.transaction.request token) := ⟨rfl, rfl⟩
  unfold receiveRequest
  rw [Action.bind_get, hrequest.code]
  cases method with
  | get =>
    rw [if_pos (by rfl)]
    unfold handleGet
    rw [Action.bind_get, Action.bind_ok _ hinit,
      hrequest.registered]
    have hdefined : ¬ (requestPath s.transaction.request = discoveryUrl ∧
        s.app.root.contains discoveryUrl = false) := by
      rintro ⟨hpath, hcontains⟩
      rw [← hpath, Dict.contains, hrequest.registered] at hcontains
      cases hcontains
    rw [if_neg hdefined]
    dsimp only
    rw [if_neg (hrequest.notRoot rfl)]
    exact getResource_eq handlers _ rid _ x hbegun h
  | post =>
    rw [if_neg (by decide), if_pos (by rfl)]
    unfold handlePost
    rw [Action.bind_get, Action.bind_ok _ hinit,
      Action.bind_ok _ hsource]
    rw [createResource_registered handlers
      (s.setResponse (some (replyTo s.transaction.request token))) _ rid hrequest.registered]
    exact editResource_eq handlers (s.setResponse (some (replyTo s.transaction.request token)))
      rid _ x rfl (hrequest.matching (Or.inl rfl)) h
  | put =>
    rw [if_neg (by decide), if_neg (by decide), if_pos (by rfl)]
    unfold handlePut
    rw [Action.bind_get, Action.bind_ok _ hinit,
      Action.bind_ok _ hsource, hrequest.registered]
    exact updateResource_eq handlers _ rid _ x hbegun (hrequest.matching (Or.inr rfl))
      (hrequest.noneMatching rfl) h
  | delete =>
    rw [if_neg (by decide), if_neg (by decide), if_neg (by decide), if_pos (by rfl)]
    unfold handleDelete
    rw [Action.bind_get, Action.bind_ok _ hinit,
      Action.bind_ok _ hsource, hrequest.registered]
    exact deleteResource_eq handlers _ rid _ x hbegun h

end BubotCoap.Execution
