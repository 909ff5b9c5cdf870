import BubotCoap.ActionTriples
import BubotCoap.MessageLayer
import BubotCoap.OptionAccess
import BubotCoap.RequestLayer

set_option autoImplicit false

namespace BubotCoap.FreshResponses
open PythonData Defines Messages Transactions Resources ResourceLayer RequestLayer ActionTriples
  FallibleState

variable {ω : Type} (handlers : Handlers ω) (rng : Bytes) (token : Option Bytes)

def Blank (m : Message) : Prop := m.type = none ∧ m.token = token

structure Returned (outcome : Outcome) : Prop where
  pair : ∀ rid m, outcome = .pair rid (some m) → Blank token m
  flag : ∀ delete m, outcome = .flag delete m → Blank token m

theorem returned_raised (e : PyErr) : Returned token (.raised e) := by
  refine ⟨?_, ?_⟩
  · intro rid m h
    cases h
  · intro delete m h
    cases h

theorem returned_other : Returned token .other := by
  refine ⟨?_, ?_⟩
  · intro rid m h
    cases h
  · intro delete m h
    cases h

/-- Handlers leave the type and the token of a response as they are, and a response of their own
has no type and the request's token. -/
structure Plain : Prop where
  edit : ∀ handler rid request response app m, Blank request.token m →
    Blank request.token ((handlers.render handler rid request response app).edit m)
  returned : ∀ handler rid request response app,
    (∀ m, response = some m → Blank request.token m) →
    Returned request.token (handlers.render handler rid request response app).outcome

structure Prepared (s : Scene ω) : Prop where
  request : s.transaction.request.token = token
  response : ∀ m, s.transaction.response = some m → Blank token m

abbrev Prepares {α : Type} (x : Action Stop (Scene ω) α) : Prop := Maintains (Prepared token) x

section Steps
variable {token}

theorem Prepared.setResponse (s : Scene ω) (response : Option Message) (h : Prepared token s)
    (hresponse : ∀ m, response = some m → Blank token m) : Prepared token (s.setResponse response) :=
  ⟨h.request, hresponse⟩

end Steps

theorem prepares_setCode (code : ℕ) : Prepares token (setCode code : Action Stop (Scene ω) Unit) := by
  refine maintains_of_ok _ fun s a s' hs hr => ?_
  unfold setCode at hr
  split at hr
  · cases hr
  · next response hresponse =>
    cases hr
    refine hs.setResponse s _ fun m hm => ?_
    cases hm
    exact hs.response response hresponse

variable (plain : Plain handlers)
include plain

theorem invoke_returned (handler : Handler) (rid : ℕ) (withResponse : Bool) :
    Triple (Prepared token) (invoke handlers handler rid withResponse)
      (fun outcome s => Returned token outcome ∧ Prepared token s) fun _ => True := by
  refine ⟨fun s hs outcome s' hr => ?_, fun _ _ _ _ _ => trivial⟩
  have hgiven : ∀ m, (if withResponse then s.transaction.response else none) = some m →
      Blank s.transaction.request.token m := by
    intro m hm
    rw [hs.request]
    split at hm
    · exact hs.response m hm
    · cases hm
  have hreturned := plain.returned handler rid s.transaction.request _ s.app hgiven
  have hedit := plain.edit handler rid s.transaction.request
    (if withResponse then s.transaction.response else none) s.app
  rw [hs.request] at hreturned hedit
  have hawaited : ∀ r : Rendered ω, r = awaited handlers handler rid s.transaction.request
      (if withResponse then s.transaction.response else none) s.app →
      Returned token r.outcome ∧ ∀ m, Blank token m → Blank token (r.edit m) := by
    intro r hr
    unfold awaited at hr
    dsimp only at hr
    split at hr
    · rw [hr]
      exact ⟨hreturned, hedit⟩
    · split at hr
      · rw [hr]
        exact ⟨hreturned, hedit⟩
      · rw [hr]
        exact ⟨hreturned, hedit⟩
      · rw [hr]
        exact ⟨returned_raised token _, hedit⟩
  unfold invoke at hr
  dsimp only at hr
  generalize hrendered : awaited handlers handler rid s.transaction.request
    (if withResponse then s.transaction.response else none) s.app = r at hr
  obtain ⟨hout, hedited⟩ := hawaited r hrendered.symm
  split at hr
  · cases hr
  · cases hr
    refine ⟨hout, ⟨hs.request, fun m hm => ?_⟩⟩
    change (if withResponse then s.transaction.response.map r.edit
      else s.transaction.response) = some m at hm
    split at hm
    · obtain ⟨m', hm', rfl⟩ := Option.map_eq_some_iff.mp hm
      exact hedited m' (hs.response m' hm')
    · exact hs.response m hm

theorem invokeSync_returned (handler : Handler) (rid : ℕ) :
    Triple (Prepared token) (invokeSync handlers handler rid)
      (fun outcome s => Returned token outcome ∧ Prepared token s) fun _ => True := by
  refine ⟨fun s hs outcome s' hr => ?_, fun _ _ _ _ _ => trivial⟩
  have hreturned := plain.returned handler rid s.transaction.request s.transaction.response s.app
    (fun m hm => by rw [hs.request]; exact hs.response m hm)
  have hedit := plain.edit handler rid s.transaction.request s.transaction.response s.app
  rw [hs.request] at hreturned hedit
  unfold invokeSync at hr
  split at hr
  · cases hr
    exact ⟨returned_other token, hs⟩
  · dsimp only at hr
    generalize handlers.render handler rid s.transaction.request s.transaction.response s.app = r
      at hr hreturned hedit
    split at hr
    · cases hr
    · cases hr
      refine ⟨hreturned, ⟨hs.request, fun m hm => ?_⟩⟩
      change s.transaction.response.map r.edit = some m at hm
      obtain ⟨m', hm', rfl⟩ := Option.map_eq_some_iff.mp hm
      exact hedit m' (hs.response m' hm')

theorem handleSeparate_returned (rid callback : ℕ) (withResponse : Bool) :
    Triple (Prepared token) (handleSeparate handlers rid callback withResponse)
      (fun outcome s => Returned token outcome ∧ Prepared token s) fun _ => True := by
  refine ⟨fun s hs outcome s' hr => ?_, fun _ _ _ _ _ => trivial⟩
  unfold handleSeparate at hr
  split at hr
  · exact (invoke_returned handlers token plain _ rid withResponse).returns s hs outcome s' hr
  · cases hr

omit plain in
theorem prepares_reject (error : Option PyErr) :
    Prepares token (reject error : Action Stop (Scene ω) Unit) := by
  cases error with
  | none => exact prepares_setCode token _
  | some e => exact maintains_raise _

theorem prepares_settle (rid : ℕ) (accept : ℕ → Message → Action Stop (Scene ω) Unit)
    (haccept : ∀ rid response, Blank token response → Prepares token (accept rid response))
    (ret : Outcome) :
    Triple (fun s => Returned token ret ∧ Prepared token s) (settle handlers rid accept ret)
      (fun _ => Prepared token) fun _ => True := by
  have hset : ∀ code, Triple (fun s : Scene ω => Returned token ret ∧ Prepared token s)
      (setCode code) (fun _ => Prepared token) fun _ => True :=
    fun code => (prepares_setCode token code).conseq (fun _ h => h.2) (fun _ _ h => h) fun _ h => h
  cases ret with
  | pair rid' response =>
    cases response with
    | none => exact hset _
    | some response =>
      refine ⟨fun s hs => ?_, fun _ _ _ _ _ => trivial⟩
      exact (haccept rid' response (hs.1.pair rid' response rfl)).returns s hs.2
  | later callback =>
    unfold settle
    refine triple_bind _ _ ((handleSeparate_returned handlers token plain rid callback true).conseq
      (fun _ h => h.2) (fun _ _ h => h) fun _ h => h) fun outcome => ?_
    refine ⟨fun s hs a s' hr => ?_, fun _ _ _ _ _ => trivial⟩
    split at hr
    · next rid' response => exact (haccept rid' response (hs.1.pair _ _ rfl)).returns s hs.2 a s' hr
    · exact (prepares_setCode token _).returns s hs.2 a s' hr
    · cases hr
    · exact (prepares_reject token _).returns s hs.2 a s' hr
    · exact (prepares_setCode token _).returns s hs.2 a s' hr
  | _ => exact hset _

omit plain in
theorem prepares_accept (code rid : ℕ) (response : Message) (h : Blank token response) :
    Prepares token (accept code rid response : Action Stop (Scene ω) Unit) := by
  refine maintains_modify _ fun s hs => ⟨hs.request, fun m hm => ?_⟩
  cases hm
  exact h

omit plain in
theorem prepares_update (f : Scene ω → Scene ω) (h : ∀ s, (f s).transaction.request.token =
      s.transaction.request.token ∧ (f s).transaction.response = s.transaction.response) :
    Prepares token (Action.modify f) := by
  refine maintains_modify f fun s hs => ⟨(h s).1.trans hs.request, fun m hm => ?_⟩
  rw [(h s).2] at hm
  exact hs.response m hm

omit plain in
theorem prepares_acceptChanged (code rid : ℕ) (response : Message) (h : Blank token response) :
    Prepares token (acceptChanged code rid response : Action Stop (Scene ω) Unit) :=
  maintains_bind _ _ (prepares_update token _ fun _ => ⟨rfl, rfl⟩)
    fun _ => prepares_accept token code rid response h

theorem prepares_getResource (rid : ℕ) : Prepares token (getResource handlers rid) := by
  refine triple_bind _ _ (invoke_returned handlers token plain .get rid true) fun ret => ?_
  have hsettle := prepares_settle handlers token plain rid _ (prepares_accept token Codes.content) ret
  cases ret with
  | pair rid' response =>
    cases response with
    | none =>
      refine triple_modify _ fun s hs => ⟨hs.2.request, fun m hm => ?_⟩
      cases hm
    | some response => exact hsettle
  | _ => exact hsettle

theorem prepares_editResource (rid : ℕ) : Prepares token (editResource handlers rid) := by
  refine maintains_bind _ _ (prepares_update token _ fun _ => ⟨rfl, rfl⟩) fun _ => ?_
  refine triple_bind _ _ triple_get fun s => ?_
  refine Triple.conseq (P := Prepared token) ?_ (fun _ h => h.2) (fun _ _ h => h) fun _ h => h
  split
  · exact prepares_setCode token _
  · exact triple_bind _ _ (invoke_returned handlers token plain .post rid true)
      fun ret => prepares_settle handlers token plain rid _ (prepares_acceptChanged token _) ret

omit plain in
theorem prepares_acceptChild (lp : Text) (rid : ℕ) (response : Message) (h : Blank token response) :
    Prepares token (acceptChild lp rid response : Action Stop (Scene ω) Unit) :=
  maintains_bind _ _ (prepares_update token _ fun _ => ⟨rfl, rfl⟩) fun _ =>
    maintains_bind _ _ (prepares_update token _ fun _ => ⟨rfl, rfl⟩) fun _ =>
      prepares_accept token _ rid response h

theorem prepares_createResource (path : Text) :
    Prepares token (createResource handlers path) := by
  refine triple_bind _ _ triple_get fun s => ?_
  refine Triple.conseq (P := Prepared token) ?_ (fun _ h => h.2) (fun _ _ h => h) fun _ h => h
  split
  · exact maintains_raise _
  · split
    · split
      · exact maintains_raise _
      · exact prepares_editResource handlers token plain _
    · split
      · exact maintains_raise _
      · split
        · exact triple_bind _ _ (invokeSync_returned handlers token plain .post _)
            fun ret => prepares_settle handlers token plain _ _ (prepares_acceptChild token path) ret
        · exact prepares_setCode token _

omit plain in
theorem putResponse_blank (resource : Resource) (response response' : Message)
    (h : putResponse resource response = .ok response') (hblank : Blank token response) :
    Blank token response' := by
  have hetag : ∀ (m m' : Message) (e : Option Bytes), addEtag m e = .ok m' → Blank token m →
      Blank token m' := by
    intro m m' e he hm
    cases e with
    | none =>
      rw [← Except.ok.inj he]
      exact hm
    | some e =>
      rw [OptionAccess.addNew_ok _ _ _ _ he]
      exact hm
  unfold putResponse at h
  obtain ⟨m₁, h₁, h⟩ := (bind_eq_ok _ _ _).mp h
  obtain ⟨m₂, h₂, h⟩ := (bind_eq_ok _ _ _).mp h
  have hm₁ := hetag _ _ _ h₁ hblank
  have hm₂ : Blank token m₂ := hetag _ _ _ h₂ hm₁
  unfold setMaxAge at h
  split at h
  · rw [← Except.ok.inj h]
    exact hm₂
  · rw [OptionAccess.addNew_ok _ _ _ _ h]
    exact hm₂

omit plain in
theorem prepares_acceptPut (rid : ℕ) :
    Prepares token (acceptPut rid : Action Stop (Scene ω) Unit) := by
  refine maintains_of_ok _ fun s a s' hs hr => ?_
  unfold acceptPut at hr
  split at hr
  · cases hr
  · next response hresponse =>
    split at hr
    · cases hr
    · next response' hput =>
      cases hr
      refine ⟨hs.request, fun m hm => ?_⟩
      cases hm
      exact putResponse_blank token _ _ _ hput (hs.response response hresponse)

theorem prepares_settlePut (rid : ℕ) (ret : Outcome) :
    Prepares token (settlePut handlers rid ret) := by
  have hnotCallable : Prepares token (settlePut.notCallable : Action Stop (Scene ω) Unit) := by
    refine maintains_of_ok _ fun s a s' _ hr => ?_
    unfold settlePut.notCallable at hr
    split at hr <;> cases hr
  cases ret with
  | resource rid' => exact prepares_acceptPut token rid'
  | resourceLater rid' callback =>
    refine triple_bind _ _ (handleSeparate_returned handlers token plain rid callback false)
      fun outcome => ?_
    refine Triple.conseq (P := Prepared token) ?_ (fun _ h => h.2) (fun _ _ h => h) fun _ h => h
    split
    · exact prepares_acceptPut token _
    · exact maintains_raise _
    · exact prepares_setCode token _
  | pair rid' response => exact hnotCallable
  | flag delete response => exact hnotCallable
  | misfit shape =>
    cases shape with
    | two => exact hnotCallable
    | _ => exact prepares_setCode token _
  | _ => exact prepares_setCode token _

theorem prepares_updateResource (rid : ℕ) : Prepares token (updateResource handlers rid) := by
  refine triple_bind _ _ triple_get fun s => ?_
  refine Triple.conseq (P := Prepared token) ?_ (fun _ h => h.2) (fun _ _ h => h) fun _ h => h
  split
  · exact prepares_setCode token _
  · refine triple_bind _ _ (invoke_returned handlers token plain .put rid false) fun ret => ?_
    refine Triple.conseq (P := Prepared token) ?_ (fun _ h => h.2) (fun _ _ h => h) fun _ h => h
    split
    · exact triple_bind _ _ (invoke_returned handlers token plain .putAdvanced rid true)
        fun ret => prepares_settle handlers token plain rid _ (prepares_acceptChanged token _) ret
    · exact prepares_settlePut handlers token plain rid _

omit plain in
theorem prepares_acceptDelete (path : Text) (delete : Bool) (response : Message)
    (h : Blank token response) :
    Prepares token (acceptDelete path delete response : Action Stop (Scene ω) Unit) := by
  refine maintains_of_ok _ fun s a s' hs hr => ?_
  unfold acceptDelete at hr
  split at hr
  · cases hr
  · cases hr
    refine ⟨hs.request, fun m hm => ?_⟩
    cases hm
    exact h

theorem prepares_deleteResource (rid : ℕ) (path : Text) :
    Prepares token (deleteResource handlers rid path) := by
  have hset : ∀ code outcome, Triple
      (fun s : Scene ω => Returned token outcome ∧ Prepared token s) (setCode code)
      (fun _ => Prepared token) fun _ => True :=
    fun code _ => (prepares_setCode token code).conseq (fun _ h => h.2) (fun _ _ h => h) fun _ h => h
  have hdelete : ∀ delete response, Triple
      (fun s : Scene ω => Returned token (.flag delete response) ∧ Prepared token s)
      (acceptDelete path delete response) (fun _ => Prepared token) fun _ => True := by
    intro delete response
    refine ⟨fun s hs => ?_, fun _ _ _ _ _ => trivial⟩
    exact (prepares_acceptDelete token path delete response (hs.1.flag _ _ rfl)).returns s hs.2
  refine triple_bind _ _ (invoke_returned handlers token plain .delete rid true) fun ret => ?_
  cases ret with
  | flag delete response => exact hdelete delete response
  | later callback =>
    refine triple_bind _ _ ((handleSeparate_returned handlers token plain rid callback true).conseq
      (fun _ h => h.2) (fun _ _ h => h) fun _ h => h) fun outcome => ?_
    cases outcome with
    | flag delete response => exact hdelete delete response
    | notImplemented => exact hset _ _
    | misfit shape =>
      exact (prepares_reject token (errorAsFlag shape)).conseq (fun _ h => h.2) (fun _ _ h => h)
        fun _ h => h
    | _ => exact hset _ _
  | _ => exact hset _ _

omit plain in
theorem prepares_discover :
    Prepares token (Discovery.discover : Action Stop (Scene ω) Unit) := by
  refine maintains_of_ok _ fun s a s' hs hr => ?_
  unfold Discovery.discover at hr
  split at hr
  · cases hr
  · next response hresponse =>
    dsimp only at hr
    split at hr
    · cases hr
    · split at hr
      · cases hr
      · next response' hadded =>
        cases hr
        refine ⟨hs.request, fun m hm => ?_⟩
        cases hm
        rw [OptionAccess.addNew_ok _ _ _ _ hadded]
        exact hs.response response hresponse

omit plain in
theorem initFromRequest_blank (rng : Bytes) (request response : Message)
    (htoken : request.token ≠ none) (h : Message.initFromRequest rng request = .ok response) :
    response.type = none ∧ response.token = request.token := by
  obtain ⟨token, hsome⟩ := Option.ne_none_iff_exists'.mp htoken
  unfold Message.initFromRequest at h
  obtain ⟨source, _, h⟩ := (bind_eq_ok _ _ _).mp h
  rw [MessageLayer.setToken_eq _ _ _ _ h, hsome]
  exact ⟨rfl, rfl⟩

omit plain in
/-- Whatever response there was before, the new one has the request's token. -/
theorem initResponse_prepared (htoken : token ≠ none) :
    Triple (fun s : Scene ω => s.transaction.request.token = token) (initResponse rng)
      (fun _ => Prepared token) fun _ => True := by
  refine ⟨fun s hs a s' hr => ?_, fun _ _ _ _ _ => trivial⟩
  unfold initResponse at hr
  split at hr
  · cases hr
  · next response hinit =>
    cases hr
    refine ⟨hs, fun m hm => ?_⟩
    cases hm
    subst hs
    exact initFromRequest_blank rng s.transaction.request response htoken hinit

omit plain in
theorem prepares_setSource : Prepares token (setSource : Action Stop (Scene ω) Unit) := by
  refine maintains_modify _ fun s hs => ⟨hs.request, fun m hm => ?_⟩
  obtain ⟨m', hm', rfl⟩ := Option.map_eq_some_iff.mp hm
  exact hs.response m' hm'

section Methods
variable (htoken : token ≠ none)
include htoken

omit plain in
theorem handle_prepared (f : Scene ω → Action Stop (Scene ω) Unit)
    (hf : ∀ s, Prepares token (f s)) :
    Triple (fun s : Scene ω => s.transaction.request.token = token)
      (Action.get >>= fun s => initResponse rng >>= fun _ => f s)
      (fun _ => Prepared token) fun _ => True := by
  refine triple_bind _ _ triple_get fun s => ?_
  exact triple_bind _ _ ((initResponse_prepared rng token htoken).conseq (fun _ h => h.2)
    (fun _ _ h => h) fun _ h => h) fun _ => hf s

include plain

theorem handleGet_prepared : Triple (fun s : Scene ω => s.transaction.request.token = token)
    (handleGet handlers rng) (fun _ => Prepared token) fun _ => True := by
  refine handle_prepared rng token htoken _ fun s => ?_
  split
  · exact prepares_discover token
  · split
    · exact prepares_setCode token _
    · split
      · exact prepares_setCode token _
      · exact maintains_bind _ _ (prepares_update token _ fun _ => ⟨rfl, rfl⟩)
          fun _ => prepares_getResource handlers token plain _

theorem handlePut_prepared : Triple (fun s : Scene ω => s.transaction.request.token = token)
    (handlePut handlers rng) (fun _ => Prepared token) fun _ => True := by
  refine handle_prepared rng token htoken _ fun s => ?_
  refine maintains_bind _ _ (prepares_setSource token) fun _ => ?_
  split
  · exact prepares_setCode token _
  · exact maintains_bind _ _ (prepares_update token _ fun _ => ⟨rfl, rfl⟩)
      fun _ => prepares_updateResource handlers token plain _

theorem handlePost_prepared : Triple (fun s : Scene ω => s.transaction.request.token = token)
    (handlePost handlers rng) (fun _ => Prepared token) fun _ => True := by
  refine handle_prepared rng token htoken _ fun s => ?_
  exact maintains_bind _ _ (prepares_setSource token)
    fun _ => prepares_createResource handlers token plain _

theorem handleDelete_prepared : Triple (fun s : Scene ω => s.transaction.request.token = token)
    (handleDelete handlers rng) (fun _ => Prepared token) fun _ => True := by
  refine handle_prepared rng token htoken _ fun s => ?_
  refine maintains_bind _ _ (prepares_setSource token) fun _ => ?_
  split
  · exact prepares_setCode token _
  · exact maintains_bind _ _ (prepares_update token _ fun _ => ⟨rfl, rfl⟩)
      fun _ => prepares_deleteResource handlers token plain _ _

theorem receiveRequest_prepared : Triple (fun s : Scene ω => s.transaction.request.token = token)
    (RequestLayer.receiveRequest handlers rng) (fun _ => Prepared token) fun _ => True := by
  refine triple_bind _ _ triple_get fun s => ?_
  have hmethod : ∀ x : Action Stop (Scene ω) Unit,
      Triple (fun s : Scene ω => s.transaction.request.token = token) x (fun _ => Prepared token)
        (fun _ => True) →
      Triple (fun s' => s = s' ∧ s'.transaction.request.token = token) x (fun _ => Prepared token)
        fun _ => True :=
    fun x hx => hx.conseq (fun _ h => h.2) (fun _ _ h => h) fun _ h => h
  dsimp only
  split
  · exact hmethod _ (handleGet_prepared handlers rng token plain htoken)
  · split
    · exact hmethod _ (handlePost_prepared handlers rng token plain htoken)
    · split
      · exact hmethod _ (handlePut_prepared handlers rng token plain htoken)
      · split
        · exact hmethod _ (handleDelete_prepared handlers rng token plain htoken)
        · exact hmethod _ (triple_modify _ fun s hs => ⟨hs, fun m hm => by cases hm⟩)

end Methods

end BubotCoap.FreshResponses
