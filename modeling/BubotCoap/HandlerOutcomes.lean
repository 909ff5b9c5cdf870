import BubotCoap.Execution

set_option autoImplicit false

namespace BubotCoap.HandlerOutcomes
open PythonData Defines Options Messages OrderedDict Resources ResourceLayer Transactions FallibleState
  Execution

variable {ω : Type} (handlers : Handlers ω) (rid : ℕ)

def operate (path : Text) : Method → Action Stop (Scene ω) Unit
  | .get => getResource handlers rid
  | .post => editResource handlers rid
  | .put => updateResource handlers rid
  | .delete => deleteResource handlers rid path

/-- The operation returns, with a response whose code is set. -/
def Good (r : Except Stop Unit × Scene ω) : Prop :=
  r.1 = .ok () ∧ ∃ response, r.2.transaction.response = some response ∧ response.code ≠ none

/-- A handler of the resource is run, and the state it leaves. -/
def rendered (handler : Handler) (withResponse : Bool) (s : Scene ω) : Rendered ω :=
  awaited handlers handler rid s.transaction.request
    (if withResponse then s.transaction.response else none) s.app

def after (handler : Handler) (withResponse : Bool) (s : Scene ω) : Scene ω :=
  afterCall s handler rid withResponse (rendered handlers rid handler withResponse s)

/-- Results of a callback that can be looked at as a pair with a resource in front, and unpacked. -/
def asPair : Outcome → Bool
  | .raised _ => false
  | .later _ => false
  | .misfit shape => (errorAsPair shape).isNone
  | _ => true

/-- The same with a flag in front; a path that is to be removed has to be there. -/
def asFlag (path : Text) (root : Dict Text ℕ) : Outcome → Bool
  | .raised _ => false
  | .flag true _ => root.contains path
  | .misfit shape => (errorAsFlag shape).isNone
  | _ => true

def asResource : Outcome → Bool
  | .raised _ => false
  | .notImplemented => false
  | _ => true

/-- A callback is run only after an acknowledgement has been sent. -/
def Deferred (callback : ℕ) (withResponse : Bool) (accepts : Rendered ω → Bool) (s : Scene ω) :
    Prop :=
  s.transaction.request.acknowledged = true ∧
    accepts (rendered handlers rid (.callback callback) withResponse s) = true

/-- The outcomes of GET, POST and advanced PUT handlers that yield a reply. -/
def Settles (s : Scene ω) : Outcome → Prop
  | .raised _ => False
  | .later callback => Deferred handlers rid callback true (fun r => asPair r.outcome) s
  | _ => True

def SettlesDelete (path : Text) (s : Scene ω) : Outcome → Prop
  | .raised _ => False
  | .flag true _ => s.app.root.contains path = true
  | .later callback =>
    Deferred handlers rid callback true (fun r => asFlag path r.app.root r.outcome) s
  | _ => True

def SettlesPut (s : Scene ω) : Outcome → Prop
  | .raised _ => False
  | .notImplemented =>
    Settles handlers rid (after handlers rid .putAdvanced true s)
      (rendered handlers rid .putAdvanced true s).outcome
  | .resourceLater _ callback =>
    Deferred handlers rid callback false (fun r => asResource r.outcome) s
  | .pair _ _ => False
  | .flag _ _ => False
  | .misfit .two => False
  | _ => True

/-- A precondition of the request turns it away before a handler is called. -/
def TurnedAway (s : Scene ω) : Method → Prop
  | .get => False
  | .post => mismatch s.transaction.request (s.app.resources rid).etag = true
  | .put => mismatch s.transaction.request (s.app.resources rid).etag = true ∨
      ifNoneMatch s.transaction.request = true
  | .delete => False

/-- What the method's handler of the resource comes back with yields a reply. -/
def Yields (path : Text) (s : Scene ω) : Method → Prop
  | .get => Settles handlers rid (after handlers rid .get true s)
      (rendered handlers rid .get true s).outcome
  | .post => Settles handlers rid (after handlers rid .post true s)
      (rendered handlers rid .post true s).outcome
  | .put => SettlesPut handlers rid (after handlers rid .put false s)
      (rendered handlers rid .put false s).outcome
  | .delete => SettlesDelete handlers rid path (after handlers rid .delete true s)
      (rendered handlers rid .delete true s).outcome

/-- The handler of the method is not implemented; of PUT, neither of the two. -/
def Unimplemented (s : Scene ω) : Method → Prop
  | .put => (rendered handlers rid .put false s).outcome = .notImplemented ∧
      (rendered handlers rid .putAdvanced true (after handlers rid .put false s)).outcome =
        .notImplemented
  | method => (rendered handlers rid method.handler true s).outcome = .notImplemented

structure Answered (path : Text) (method : Method) (s : Scene ω) : Prop where
  good : Good (operate handlers rid path method s)
  unimplemented : ¬ TurnedAway rid s method → Unimplemented handlers rid s method →
    (operate handlers rid path method s).2.transaction.response.bind Message.code =
      some Codes.methodNotAllowed

/-! The rules for an operation's steps. -/

theorem good_setCode (code : ℕ) (s : Scene ω) (h : s.transaction.response ≠ none) :
    Good (setCode code s) := by
  obtain ⟨response, hresponse⟩ := Option.ne_none_iff_exists'.mp h
  rw [setCode_apply s code response hresponse]
  exact ⟨rfl, _, rfl, Option.some_ne_none code⟩

theorem not_good_raise (e : Stop) (s : Scene ω) : ¬ Good (Action.raise e s) := by
  intro h
  cases h.1

theorem good_accept (code rid : ℕ) (response : Message) (s : Scene ω) :
    Good (accept code rid response s) :=
  ⟨rfl, _, rfl, Option.some_ne_none _⟩

theorem good_acceptChanged (code rid : ℕ) (response : Message) (s : Scene ω) :
    Good (acceptChanged code rid response s) :=
  ⟨rfl, _, rfl, Option.some_ne_none _⟩

theorem after_response (handler : Handler) (withResponse : Bool) (s : Scene ω)
    (h : s.transaction.response ≠ none) :
    (after handlers rid handler withResponse s).transaction.response ≠ none := by
  unfold after afterCall
  cases withResponse with
  | false => exact h
  | true =>
    change s.transaction.response.map _ ≠ none
    rwa [ne_eq, Option.map_eq_none_iff]

theorem invoke_raised (handler : Handler) (withResponse : Bool) (s : Scene ω) (e : PyErr)
    (r : Rendered ω) (hr : awaited handlers handler rid s.transaction.request
      (if withResponse then s.transaction.response else none) s.app = r)
    (h : r.outcome = .raised e) :
    (invoke handlers handler rid withResponse s).1 = .error (.raised e) := by
  unfold invoke
  dsimp only
  rw [hr, h]

theorem good_invoke (handler : Handler) (withResponse : Bool)
    (f : Outcome → Action Stop (Scene ω) Unit) (s : Scene ω) :
    Good ((invoke handlers handler rid withResponse >>= f) s) ↔
      (∀ e, (rendered handlers rid handler withResponse s).outcome ≠ .raised e) ∧
        Good (f (rendered handlers rid handler withResponse s).outcome
          (after handlers rid handler withResponse s)) := by
  by_cases hraised : ∃ e, (rendered handlers rid handler withResponse s).outcome = .raised e
  · obtain ⟨e, he⟩ := hraised
    refine iff_of_false ?_ fun h => h.1 e he
    have herror := invoke_raised handlers rid handler withResponse s e _ rfl he
    rw [Action.bind_apply]
    generalize invoke handlers handler rid withResponse s = r at herror
    obtain ⟨result, s'⟩ := r
    cases herror
    intro h
    cases h.1
  · have hnot : ∀ e, (rendered handlers rid handler withResponse s).outcome ≠ .raised e :=
      fun e he => hraised ⟨e, he⟩
    rw [Action.bind_ok f (invoke_ok handlers s handler rid withResponse _ rfl hnot)]
    exact (and_iff_right hnot).symm

theorem good_handleSeparate (callback : ℕ) (withResponse : Bool)
    (f : Outcome → Action Stop (Scene ω) Unit) (s : Scene ω) :
    Good ((handleSeparate handlers rid callback withResponse >>= f) s) ↔
      s.transaction.request.acknowledged = true ∧
        (∀ e, (rendered handlers rid (.callback callback) withResponse s).outcome ≠ .raised e) ∧
          Good (f (rendered handlers rid (.callback callback) withResponse s).outcome
            (after handlers rid (.callback callback) withResponse s)) := by
  rw [← good_invoke handlers rid (.callback callback) withResponse f s]
  by_cases hack : s.transaction.request.acknowledged = true
  · have hrun : handleSeparate handlers rid callback withResponse s =
        invoke handlers (.callback callback) rid withResponse s := if_pos hack
    rw [Action.bind_apply, Action.bind_apply, hrun]
    exact (and_iff_right hack).symm
  · have hrun : handleSeparate handlers rid callback withResponse s = (.error .deadlocked, s) :=
      if_neg hack
    rw [Action.bind_error f hrun]
    refine iff_of_false (fun h => ?_) fun h => hack h.1
    cases h.1

/-- What a rejected tuple raises, it raises instead of a reply. -/
theorem good_reject (error : Option PyErr) (s : Scene ω) (h : s.transaction.response ≠ none) :
    Good (reject error s) ↔ error.isNone = true := by
  cases error with
  | none => exact iff_of_true (good_setCode _ s h) rfl
  | some e => exact iff_of_false (not_good_raise _ s) (by simp)

theorem good_settle (take : ℕ → Message → Action Stop (Scene ω) Unit)
    (htake : ∀ rid' response s, Good (take rid' response s)) (ret : Outcome) (s : Scene ω)
    (hraised : ∀ e, ret ≠ .raised e) (h : s.transaction.response ≠ none) :
    Good (settle handlers rid take ret s) ↔ Settles handlers rid s ret := by
  cases ret with
  | raised e => exact absurd rfl (hraised e)
  | later callback =>
    have hafter := after_response handlers rid (.callback callback) true s h
    unfold settle
    dsimp only
    rw [good_handleSeparate]
    refine and_congr_right fun _ => ?_
    change _ ↔ asPair (rendered handlers rid (.callback callback) true s).outcome = true
    generalize (rendered handlers rid (.callback callback) true s).outcome = outcome
    cases outcome with
    | raised e => exact iff_of_false (fun h => h.1 e rfl) Bool.false_ne_true
    | pair rid' response =>
      cases response with
      | none => exact iff_of_true ⟨fun _ => Outcome.noConfusion, good_setCode _ _ hafter⟩ rfl
      | some response => exact iff_of_true ⟨fun _ => Outcome.noConfusion, htake _ _ _⟩ rfl
    | later callback' => exact iff_of_false (fun h => not_good_raise _ _ h.2) Bool.false_ne_true
    | misfit shape => exact (and_iff_right fun _ => Outcome.noConfusion).trans (good_reject _ _ hafter)
    | _ => exact iff_of_true ⟨fun _ => Outcome.noConfusion, good_setCode _ _ hafter⟩ rfl
  | pair rid' response =>
    cases response with
    | none => exact iff_of_true (good_setCode _ s h) trivial
    | some response => exact iff_of_true (htake _ _ s) trivial
  | _ => exact iff_of_true (good_setCode _ s h) trivial

theorem good_invoke_settle (handler : Handler) (take : ℕ → Message → Action Stop (Scene ω) Unit)
    (htake : ∀ rid' response s, Good (take rid' response s)) (s : Scene ω)
    (h : s.transaction.response ≠ none) :
    Good ((invoke handlers handler rid true >>= settle handlers rid take) s) ↔
      Settles handlers rid (after handlers rid handler true s)
        (rendered handlers rid handler true s).outcome := by
  rw [good_invoke]
  cases houtcome : (rendered handlers rid handler true s).outcome with
  | raised e => exact iff_of_false (fun h => h.1 e rfl) id
  | _ =>
    have hnot : ∀ e, (rendered handlers rid handler true s).outcome ≠ .raised e := by
      intro e he
      rw [houtcome] at he
      cases he
    rw [← houtcome, and_iff_right hnot]
    exact good_settle handlers rid take htake _ _ hnot (after_response handlers rid handler true s h)

theorem addOption_repeatable (m : Message) (o : CoapOption) (h : o.item.repeatable = true) :
    ∃ m', m.addOption o = .ok m' := by
  unfold Message.addOption OptionList.add
  rw [dif_pos (Or.inl h)]
  exact ⟨_, rfl⟩

theorem addEtag_ok (m : Message) (etag : Option Bytes) : ∃ m', addEtag m etag = .ok m' := by
  cases etag with
  | none => exact ⟨m, rfl⟩
  | some e =>
    obtain ⟨o, hmake, hrepeatable⟩ : ∃ o : CoapOption,
        CoapOption.make OptionRegistry.etag.number (.bytes e) = .ok o ∧
          o.item.repeatable = true := ⟨⟨OptionRegistry.etag, .bytes e, rfl, rfl⟩, rfl, rfl⟩
    unfold addEtag Message.addNew
    dsimp only
    rw [hmake, ok_bind]
    exact addOption_repeatable m o hrepeatable

theorem putResponse_ok (resource : Resource) (given : Message) :
    ∃ response, putResponse resource given = .ok response := by
  obtain ⟨m₁, h₁⟩ := addEtag_ok given resource.etag
  obtain ⟨m₂, h₂⟩ := addEtag_ok { m₁ with code := some Codes.changed, payload := none }
    resource.etag
  unfold putResponse
  rw [h₁, ok_bind, h₂, ok_bind]
  unfold setMaxAge
  cases resource.maxAge with
  | none => exact ⟨m₂, rfl⟩
  | some age => exact ⟨_, OptionAccess.addNew_delete m₂ OptionRegistry.maxAge age rfl rfl⟩

theorem good_acceptPut (s : Scene ω) (h : s.transaction.response ≠ none) :
    Good (acceptPut rid s) := by
  obtain ⟨given, hgiven⟩ := Option.ne_none_iff_exists'.mp h
  obtain ⟨response, hresponse⟩ := putResponse_ok (s.app.resources rid) given
  have hrun : acceptPut rid s = (.ok (),
      ((s.update rid Resource.announce).setResource rid).setResponse (some response)) := by
    unfold acceptPut
    rw [hgiven]
    dsimp only
    rw [hresponse]
  rw [hrun]
  refine ⟨rfl, response, rfl, ?_⟩
  rw [putResponse_code (s.app.resources rid) given response hresponse]
  exact Option.some_ne_none _

theorem not_good_notCallable (s : Scene ω) : ¬ Good (settlePut.notCallable s) := by
  intro h
  unfold settlePut.notCallable at h
  split_ifs at h
  · cases h.1
  · cases h.1

theorem good_settlePut (ret : Outcome) (s : Scene ω) (hraised : ∀ e, ret ≠ .raised e)
    (himplemented : ret ≠ .notImplemented) (h : s.transaction.response ≠ none) :
    Good (settlePut handlers rid ret s) ↔ SettlesPut handlers rid s ret := by
  cases ret with
  | raised e => exact absurd rfl (hraised e)
  | notImplemented => exact absurd rfl himplemented
  | resource rid' => exact iff_of_true (good_acceptPut rid' s h) trivial
  | resourceLater rid' callback =>
    have hafter := after_response handlers rid (.callback callback) false s h
    unfold settlePut
    dsimp only
    rw [good_handleSeparate]
    refine and_congr_right fun _ => ?_
    change _ ↔ asResource (rendered handlers rid (.callback callback) false s).outcome = true
    generalize (rendered handlers rid (.callback callback) false s).outcome = outcome
    cases outcome with
    | raised e => exact iff_of_false (fun h => h.1 e rfl) Bool.false_ne_true
    | resource rid' => exact iff_of_true ⟨fun _ => Outcome.noConfusion, good_acceptPut rid' _ hafter⟩ rfl
    | notImplemented => exact iff_of_false (fun h => not_good_raise _ _ h.2) Bool.false_ne_true
    | _ => exact iff_of_true ⟨fun _ => Outcome.noConfusion, good_setCode _ _ hafter⟩ rfl
  | pair rid' response => exact iff_of_false (not_good_notCallable s) id
  | flag delete response => exact iff_of_false (not_good_notCallable s) id
  | misfit shape =>
    cases shape with
    | two => exact iff_of_false (not_good_notCallable s) id
    | _ => exact iff_of_true (good_setCode _ s h) trivial
  | _ => exact iff_of_true (good_setCode _ s h) trivial

theorem good_acceptDelete (path : Text) (delete : Bool) (response : Message) (s : Scene ω) :
    Good (acceptDelete path delete response s) ↔
      (delete = true → s.app.root.contains path = true) := by
  have hcontains : s.app.root.contains path = true ↔ s.app.root.get? path ≠ none := by
    unfold Dict.contains
    rw [Option.isSome_iff_ne_none]
  rw [hcontains]
  unfold acceptDelete
  by_cases h : delete = true ∧ s.app.root.get? path = none
  · rw [if_pos h]
    refine iff_of_false (fun hgood => ?_) fun hkept => hkept h.1 h.2
    cases hgood.1
  · rw [if_neg h]
    exact iff_of_true ⟨rfl, _, rfl, Option.some_ne_none _⟩ fun hdelete hgone => h ⟨hdelete, hgone⟩

/-! The four operations. -/

section
variable (s : Scene ω) (h : s.transaction.response ≠ none)
include h

theorem good_getResource
    (hnone : ∀ rid', (rendered handlers rid .get true s).outcome ≠ .pair rid' none) :
    Good (getResource handlers rid s) ↔ Yields handlers rid [] s .get := by
  have hsettle := good_invoke_settle handlers rid .get (accept Codes.content)
    (good_accept Codes.content) s h
  unfold Yields
  dsimp only
  rw [← hsettle, good_invoke]
  unfold getResource
  rw [good_invoke]
  refine and_congr_right fun _ => ?_
  cases houtcome : (rendered handlers rid .get true s).outcome with
  | pair rid' response =>
    cases response with
    | none => exact absurd houtcome (hnone rid')
    | some response => exact Iff.rfl
  | _ => exact Iff.rfl

theorem good_editResource
    (hmatch : ¬ mismatch s.transaction.request (s.app.resources rid).etag = true) :
    Good (editResource handlers rid s) ↔ Yields handlers rid [] s .post := by
  rw [editResource_passed handlers rid s hmatch]
  exact good_invoke_settle handlers rid .post _ (good_acceptChanged Codes.created)
    (s.setResource rid) h

theorem good_updateResource
    (hmatch : ¬ (mismatch s.transaction.request (s.app.resources rid).etag = true ∨
      ifNoneMatch s.transaction.request = true)) :
    Good (updateResource handlers rid s) ↔ Yields handlers rid [] s .put := by
  have hafter := after_response handlers rid .put false s h
  unfold updateResource
  rw [Action.bind_get, if_neg hmatch, good_invoke]
  unfold Yields
  dsimp only
  cases houtcome : (rendered handlers rid .put false s).outcome with
  | raised e => exact iff_of_false (fun h => h.1 e rfl) id
  | notImplemented =>
    refine (and_iff_right fun _ => Outcome.noConfusion).trans ?_
    exact good_invoke_settle handlers rid .putAdvanced _ (good_acceptChanged Codes.changed) _ hafter
  | _ =>
    refine (and_iff_right fun _ => Outcome.noConfusion).trans ?_
    exact good_settlePut handlers rid _ _ (fun _ => Outcome.noConfusion) Outcome.noConfusion hafter

theorem good_deleteResource (path : Text) :
    Good (deleteResource handlers rid path s) ↔ Yields handlers rid path s .delete := by
  have hafter := after_response handlers rid .delete true s h
  unfold deleteResource
  rw [good_invoke]
  unfold Yields
  dsimp only
  cases houtcome : (rendered handlers rid .delete true s).outcome with
  | raised e => exact iff_of_false (fun h => h.1 e rfl) id
  | flag delete response =>
    refine (and_iff_right fun _ => Outcome.noConfusion).trans ((good_acceptDelete path delete response _).trans ?_)
    cases delete with
    | false => exact iff_of_true (fun h => absurd h Bool.false_ne_true) trivial
    | true => exact ⟨fun hkept => hkept rfl, fun hkept _ => hkept⟩
  | later callback =>
    have hcallback := after_response handlers rid (.callback callback) true _ hafter
    refine (and_iff_right fun _ => Outcome.noConfusion).trans ?_
    dsimp only
    rw [good_handleSeparate]
    refine and_congr_right fun _ => ?_
    change _ ↔ asFlag path (after handlers rid (.callback callback) true
      (after handlers rid .delete true s)).app.root (rendered handlers rid (.callback callback) true
        (after handlers rid .delete true s)).outcome = true
    generalize (rendered handlers rid (.callback callback) true
      (after handlers rid .delete true s)).outcome = outcome
    cases outcome with
    | raised e => exact iff_of_false (fun h => h.1 e rfl) Bool.false_ne_true
    | flag delete response =>
      refine (and_iff_right fun _ => Outcome.noConfusion).trans ((good_acceptDelete path delete response _).trans ?_)
      cases delete with
      | false => exact iff_of_true (fun h => absurd h Bool.false_ne_true) rfl
      | true => exact ⟨fun hkept => hkept rfl, fun hkept _ => hkept⟩
    | misfit shape => exact (and_iff_right fun _ => Outcome.noConfusion).trans (good_reject _ _ hcallback)
    | _ => exact iff_of_true ⟨fun _ => Outcome.noConfusion, good_setCode _ _ hcallback⟩ rfl
  | _ => exact iff_of_true ⟨fun _ => Outcome.noConfusion, good_setCode _ _ hafter⟩ trivial

theorem good_operate (path : Text) (method : Method)
    (hnone : method = .get →
      ∀ rid', (rendered handlers rid .get true s).outcome ≠ .pair rid' none) :
    Good (operate handlers rid path method s) ↔
      TurnedAway rid s method ∨ Yields handlers rid path s method := by
  cases method with
  | get => exact (good_getResource handlers rid s h (hnone rfl)).trans (or_iff_right id).symm
  | post =>
    by_cases hmatch : mismatch s.transaction.request (s.app.resources rid).etag = true
    · refine iff_of_true ?_ (Or.inl hmatch)
      change Good (editResource handlers rid s)
      rw [editResource_turned handlers rid s hmatch]
      exact good_setCode _ _ h
    · exact (good_editResource handlers rid s h hmatch).trans (or_iff_right hmatch).symm
  | put =>
    by_cases hmatch : mismatch s.transaction.request (s.app.resources rid).etag = true ∨
        ifNoneMatch s.transaction.request = true
    · refine iff_of_true ?_ (Or.inl hmatch)
      change Good (updateResource handlers rid s)
      rw [updateResource_turned handlers rid s hmatch]
      exact good_setCode _ s h
    · exact (good_updateResource handlers rid s h hmatch).trans (or_iff_right hmatch).symm
  | delete => exact (good_deleteResource handlers rid s h path).trans (or_iff_right id).symm

theorem code_setCode (code : ℕ) :
    (setCode code s).2.transaction.response.bind Message.code = some code := by
  obtain ⟨response, hresponse⟩ := Option.ne_none_iff_exists'.mp h
  rw [setCode_apply s code response hresponse]
  rfl

omit h in
theorem invoke_notImplemented (handler : Handler) (withResponse : Bool)
    (himplemented : (rendered handlers rid handler withResponse s).outcome = .notImplemented)
    (f : Outcome → Action Stop (Scene ω) Unit) :
    (invoke handlers handler rid withResponse >>= f) s =
      f .notImplemented (after handlers rid handler withResponse s) := by
  have hnot : ∀ e, (rendered handlers rid handler withResponse s).outcome ≠ .raised e := by
    intro e he
    rw [himplemented] at he
    cases he
  rw [Action.bind_ok f (invoke_ok handlers s handler rid withResponse _ rfl hnot)]
  exact congrArg (fun outcome => f outcome _) himplemented

theorem operate_unimplemented (path : Text) (method : Method)
    (hpassed : ¬ TurnedAway rid s method) (himplemented : Unimplemented handlers rid s method) :
    (operate handlers rid path method s).2.transaction.response.bind Message.code =
      some Codes.methodNotAllowed := by
  have hafter := after_response handlers rid method.handler
  cases method with
  | get =>
    change (getResource handlers rid s).2.transaction.response.bind Message.code = _
    unfold getResource
    rw [invoke_notImplemented handlers rid s .get true himplemented]
    exact code_setCode _ (hafter true s h) _
  | post =>
    change (editResource handlers rid s).2.transaction.response.bind Message.code = _
    rw [editResource_passed handlers rid s hpassed,
      invoke_notImplemented handlers rid (s.setResource rid) .post true himplemented]
    exact code_setCode _ (hafter true (s.setResource rid) h) _
  | put =>
    have hmatch : ¬ (mismatch s.transaction.request (s.app.resources rid).etag = true ∨
      ifNoneMatch s.transaction.request = true) := hpassed
    change (updateResource handlers rid s).2.transaction.response.bind Message.code = _
    unfold updateResource
    rw [Action.bind_get, if_neg hmatch,
      invoke_notImplemented handlers rid s .put false himplemented.1]
    dsimp only
    rw [invoke_notImplemented handlers rid _ .putAdvanced true himplemented.2]
    exact code_setCode _ (after_response handlers rid .putAdvanced true _ (hafter false s h)) _
  | delete =>
    change (deleteResource handlers rid path s).2.transaction.response.bind Message.code = _
    unfold deleteResource
    rw [invoke_notImplemented handlers rid s .delete true himplemented]
    exact code_setCode _ (hafter true s h) _

/-- There is a reply just if a precondition turns the request away or the handler's outcome is one
that yields a reply. -/
theorem answered_iff_yields (path : Text) (method : Method)
    (hnone : method = .get →
      ∀ rid', (rendered handlers rid .get true s).outcome ≠ .pair rid' none) :
    Answered handlers rid path method s ↔
      TurnedAway rid s method ∨ Yields handlers rid path s method := by
  rw [← good_operate handlers rid s h path method hnone]
  exact ⟨fun hanswered => hanswered.good, fun hgood =>
    ⟨hgood, operate_unimplemented handlers rid s h path method⟩⟩

end

/-- The methods of the base class: `render_PUT` lacks its argument `response` in the call, and there
is no `render_PUT_advanced`. -/
def baseOutcome : Handler → Outcome
  | .put => .raised .typeError
  | .putAdvanced => .raised .typeError
  | .callback _ => .raised .typeError
  | _ => .notImplemented

def baseHandlers : Handlers Unit where
  platform := Rendering.plainPlatform
  isAsync _ _ := false
  render handler _ _ _ app := ⟨baseOutcome handler, id, app⟩

/-- Every handler defers its answer. -/
def deferringHandlers : Handlers Unit where
  platform := Rendering.plainPlatform
  isAsync _ _ := true
  render _ _ _ _ app := ⟨.later 0, id, app⟩

def samplePlain : Scene Unit where
  app := ⟨fun _ => Resource.new true true true, Dict.empty.insert "/a".toList 0, ()⟩
  calls := []
  transaction :=
    { Transaction.new (Message.new .request) 0 with response := some (Message.new .response) }

theorem answered_base : Answered baseHandlers 0 "/a".toList .get samplePlain := by
  refine (answered_iff_yields baseHandlers 0 samplePlain (Option.some_ne_none _) "/a".toList .get
    fun _ rid' h => ?_).mpr (Or.inr trivial)
  have houtcome : (rendered baseHandlers 0 .get true samplePlain).outcome = .notImplemented := rfl
  rw [houtcome] at h
  cases h

/-- A PUT to a resource that overrides nothing, and a GET whose handler defers the answer. -/
theorem not_answered :
    ¬ Answered baseHandlers 0 "/a".toList .put samplePlain ∧
      ¬ Answered deferringHandlers 0 "/a".toList .get samplePlain :=
  ⟨fun h => absurd h.good.1 (by decide +kernel), fun h => absurd h.good.1 (by decide +kernel)⟩

end BubotCoap.HandlerOutcomes
