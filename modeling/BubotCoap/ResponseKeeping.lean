import BubotCoap.ActionTriples
import BubotCoap.MessageLayer
import BubotCoap.OptionAccess
import BubotCoap.RequestLayer

set_option autoImplicit false

namespace BubotCoap.ResponseKeeping
open PythonData Defines Messages Transactions Resources ResourceLayer RequestLayer ActionTriples
  FallibleState

variable {ω : Type}

/-- A code that the setter of a message accepts, or none. -/
def Coded (m : Message) : Prop := m.code = none ∨ ∃ c ∈ Codes.list, m.code = some c

theorem Coded.printed (m : Message) (h : Coded m) : Coded (Rendering.printed m) := by
  rcases h with hnone | ⟨c, hc, hcode⟩
  · refine Or.inr ⟨Codes.empty, by decide, ?_⟩
    unfold Rendering.printed
    rw [hnone, Option.getD_none]
  · rw [Rendering.printed_coded m (by rw [hcode]; exact Option.some_ne_none c)]
    exact Or.inr ⟨c, hc, hcode⟩

/-- The same destination, token and message id; a new code is a registered one. -/
structure Restated (m m' : Message) : Prop where
  destination : m'.destination = m.destination
  token : m'.token = m.token
  mid : m'.mid = m.mid
  code : m'.code = m.code ∨ ∃ c ∈ Codes.list, m'.code = some c

theorem Restated.refl (m : Message) : Restated m m := ⟨rfl, rfl, rfl, Or.inl rfl⟩

theorem Restated.trans (m m' m'' : Message) (h : Restated m m') (h' : Restated m' m'') :
    Restated m m'' := by
  refine ⟨h'.destination.trans h.destination, h'.token.trans h.token, h'.mid.trans h.mid, ?_⟩
  rcases h'.code with hsame | hcode
  · rw [hsame]
    exact h.code
  · exact Or.inr hcode

theorem restated_code (m : Message) (c : ℕ) (hc : c ∈ Codes.list) :
    Restated m { m with code := some c } :=
  ⟨rfl, rfl, rfl, Or.inr ⟨c, hc, rfl⟩⟩

theorem restated_withDefault (m : Message) (c : ℕ) (hc : c ∈ Codes.list) :
    Restated m (withDefault c m) := by
  refine ⟨rfl, rfl, rfl, ?_⟩
  cases hcode : m.code with
  | none =>
    refine Or.inr ⟨c, hc, ?_⟩
    change some (m.code.getD c) = some c
    rw [hcode, Option.getD_none]
  | some own =>
    left
    change some (m.code.getD c) = some own
    rw [hcode, Option.getD_some]

theorem restated_addNew (m m' : Message) (item : OptionItem) (v : Value)
    (h : m.addNew item v = .ok m') : Restated m m' := by
  rw [OptionAccess.addNew_ok m m' item v h]
  exact ⟨rfl, rfl, rfl, Or.inl rfl⟩

theorem restated_putResponse (resource : Resource) (response response' : Message)
    (h : putResponse resource response = .ok response') : Restated response response' := by
  have hetag : ∀ (m m' : Message) (e : Option Bytes), addEtag m e = .ok m' → Restated m m' := by
    intro m m' e he
    cases e with
    | none =>
      rw [← Except.ok.inj he]
      exact Restated.refl m
    | some e => exact restated_addNew m m' _ _ he
  unfold putResponse at h
  obtain ⟨m₁, h₁, h⟩ := (bind_eq_ok _ _ _).mp h
  obtain ⟨m₂, h₂, h⟩ := (bind_eq_ok _ _ _).mp h
  have hchanged : Restated m₁ { m₁ with code := some Codes.changed, payload := none } :=
    ⟨rfl, rfl, rfl, Or.inr ⟨_, by decide, rfl⟩⟩
  have hput : Restated response m₂ :=
    (hetag _ _ _ h₁).trans _ _ _ (hchanged.trans _ _ _ (hetag _ _ _ h₂))
  unfold setMaxAge at h
  split at h
  · rw [← Except.ok.inj h]
    exact hput
  · have haged := restated_addNew _ _ _ _ h
    exact hput.trans _ _ _ ⟨haged.destination, haged.token, haged.mid, haged.code⟩

/-- A response that has just been made for the request. -/
structure Replies (request m : Message) : Prop where
  destination : m.destination = request.source
  token : m.token = request.token
  mid : m.mid = none
  code : Coded m

theorem initFromRequest_replies (rng : Bytes) (request response : Message)
    (htoken : request.token ≠ none) (h : Message.initFromRequest rng request = .ok response) :
    Replies request response := by
  obtain ⟨token, hsome⟩ := Option.ne_none_iff_exists'.mp htoken
  unfold Message.initFromRequest at h
  obtain ⟨source, _, h⟩ := (bind_eq_ok _ _ _).mp h
  rw [MessageLayer.setToken_eq _ _ _ _ h, hsome]
  exact ⟨rfl, hsome.symm, rfl, Or.inl rfl⟩

/-- What a handler may come back with: the response it was given, or one of its own. -/
def Comes (request : Message) (response : Option Message) (m : Message) : Prop :=
  (∃ given, response = some given ∧ Restated given m) ∨ Replies request m

/-- Handlers leave destination, token and message id of responses as they are, and set registered
codes. -/
structure Faithful (handlers : Handlers ω) : Prop where
  edit : ∀ handler rid request response app m,
    Restated m ((handlers.render handler rid request response app).edit m)
  pair : ∀ handler rid request response app rid' m,
    (handlers.render handler rid request response app).outcome = .pair rid' (some m) →
      Comes request response m
  flag : ∀ handler rid request response app delete m,
    (handlers.render handler rid request response app).outcome = .flag delete m →
      Comes request response m

/-- What is known of the responses to the request: it is known of every new one, and depends on
nothing that is set later. -/
structure Lasting (request : Message) (Fine : Message → Prop) : Prop where
  replies : ∀ m, Replies request m → Fine m
  restated : ∀ m m', Restated m m' → Fine m → Fine m'

structure Prepared (request : Message) (Fine : Message → Prop) (s : Scene ω) : Prop where
  request : s.transaction.request = request
  response : ∀ m, s.transaction.response = some m → Fine m

structure Given (Fine : Message → Prop) (outcome : Outcome) : Prop where
  pair : ∀ rid m, outcome = .pair rid (some m) → Fine m
  flag : ∀ delete m, outcome = .flag delete m → Fine m

theorem given_raised (Fine : Message → Prop) (e : PyErr) : Given Fine (.raised e) := by
  refine ⟨?_, ?_⟩
  · intro rid m h
    cases h
  · intro delete m h
    cases h

theorem given_other (Fine : Message → Prop) : Given Fine .other := by
  refine ⟨?_, ?_⟩
  · intro rid m h
    cases h
  · intro delete m h
    cases h

variable (request : Message) (Fine : Message → Prop)

abbrev Keeps {α : Type} (x : Action Stop (Scene ω) α) : Prop :=
  Triple (Prepared request Fine) x (fun _ => Prepared request Fine) (Prepared request Fine)

/-- The action returns what is fine. -/
abbrev Gives (x : Action Stop (Scene ω) Outcome) : Prop :=
  Triple (Prepared request Fine) x (fun outcome s => Given Fine outcome ∧ Prepared request Fine s)
    (Prepared request Fine)

section Scenes
variable {request Fine}

theorem Prepared.setResponse (s : Scene ω) (response : Option Message)
    (h : Prepared request Fine s) (hresponse : ∀ m, response = some m → Fine m) :
    Prepared request Fine (s.setResponse response) :=
  ⟨h.request, hresponse⟩

theorem keeps_update (f : Scene ω → Scene ω)
    (h : ∀ s, (f s).transaction.request = s.transaction.request ∧
      (f s).transaction.response = s.transaction.response) :
    Keeps request Fine (Action.modify f) := by
  refine triple_modify f fun s hs => ⟨(h s).1.trans hs.request, fun m hm => ?_⟩
  rw [(h s).2] at hm
  exact hs.response m hm

theorem keeps_of_moves {α : Type} (x : Action Stop (Scene ω) α)
    (h : ∀ s, Prepared request Fine s → Prepared request Fine (x s).2) : Keeps request Fine x := by
  refine ⟨fun s hs a s' hr => ?_, fun s hs e s' hr => ?_⟩
  · have hafter := h s hs
    rw [hr] at hafter
    exact hafter
  · have hafter := h s hs
    rw [hr] at hafter
    exact hafter

theorem prepared_rendered (s : Scene ω) (hs : Prepared request Fine s) (edit : Message → Message)
    (hedit : ∀ m, Fine m → Fine (edit m)) (app : Application ω) (calls : List Call)
    (withResponse : Bool) :
    Prepared request Fine
      { (s.setResponse (if withResponse then s.transaction.response.map edit
          else s.transaction.response)) with app := app, calls := calls } := by
  refine ⟨hs.request, fun m hm => ?_⟩
  change (if withResponse then s.transaction.response.map edit
    else s.transaction.response) = some m at hm
  split at hm
  · obtain ⟨m', hm', rfl⟩ := Option.map_eq_some_iff.mp hm
    exact hedit m' (hs.response m' hm')
  · exact hs.response m hm

theorem keeps_get_bind {α : Type} (f : Scene ω → Action Stop (Scene ω) α)
    (hf : ∀ s, Keeps request Fine (f s)) : Keeps request Fine (Action.get >>= f) :=
  triple_bind _ _ triple_get fun s =>
    (hf s).conseq (fun _ h => h.2) (fun _ _ h => h) fun _ h => h

theorem keeps_gives_bind (x : Action Stop (Scene ω) Outcome)
    (f : Outcome → Action Stop (Scene ω) Unit) (hx : Gives request Fine x)
    (hf : ∀ outcome, Given Fine outcome → Keeps request Fine (f outcome)) :
    Keeps request Fine (x >>= f) :=
  triple_bind _ _ hx fun outcome => triple_given _ (fun _ hs => hs.1) fun hgiven =>
    (hf outcome hgiven).conseq (fun _ h => h.2) (fun _ _ h => h) fun _ h => h

end Scenes

variable {request Fine}

theorem keeps_raise {α : Type} (e : Stop) :
    Keeps request Fine (Action.raise e : Action Stop (Scene ω) α) :=
  triple_raise e fun _ h => h

variable (lasting : Lasting request Fine)
include lasting

theorem keeps_setCode (code : ℕ) (hcode : code ∈ Codes.list) :
    Keeps request Fine (setCode code : Action Stop (Scene ω) Unit) := by
  refine keeps_of_moves _ fun s hs => ?_
  unfold setCode
  split
  · exact hs
  · next response hresponse =>
    refine hs.setResponse s _ fun m hm => ?_
    cases hm
    exact lasting.restated response _ (restated_code response code hcode)
      (hs.response response hresponse)

section Handlers
variable {handlers : Handlers ω} (faithful : Faithful handlers)
include faithful

theorem rendered_given (handler : Handler) (rid : ℕ) (response : Option Message)
    (app : Application ω) (hresponse : ∀ m, response = some m → Fine m) :
    Given Fine (handlers.render handler rid request response app).outcome ∧
      ∀ m, Fine m → Fine ((handlers.render handler rid request response app).edit m) := by
  have hcomes : ∀ m, Comes request response m → Fine m := by
    rintro m (⟨given, hgiven, hrestated⟩ | hreplies)
    · exact lasting.restated given m hrestated (hresponse given hgiven)
    · exact lasting.replies m hreplies
  refine ⟨⟨fun rid' m h => ?_, fun delete m h => ?_⟩, fun m hm => ?_⟩
  · exact hcomes m (faithful.pair _ _ _ _ _ _ _ h)
  · exact hcomes m (faithful.flag _ _ _ _ _ _ _ h)
  · exact lasting.restated m _ (faithful.edit _ _ _ _ _ m) hm

theorem awaited_given (handler : Handler) (rid : ℕ) (response : Option Message)
    (app : Application ω) (hresponse : ∀ m, response = some m → Fine m) :
    Given Fine (awaited handlers handler rid request response app).outcome ∧
      ∀ m, Fine m → Fine ((awaited handlers handler rid request response app).edit m) := by
  obtain ⟨hgiven, hedit⟩ := rendered_given lasting faithful handler rid response app hresponse
  unfold awaited
  dsimp only
  split
  · exact ⟨hgiven, hedit⟩
  · split
    · exact ⟨hgiven, hedit⟩
    · exact ⟨hgiven, hedit⟩
    · exact ⟨given_raised Fine _, hedit⟩

theorem gives_invoke (handler : Handler) (rid : ℕ) (withResponse : Bool) :
    Gives request Fine (invoke handlers handler rid withResponse) := by
  have hawaited : ∀ s : Scene ω, Prepared request Fine s → ∀ r, awaited handlers handler rid
      s.transaction.request (if withResponse then s.transaction.response else none) s.app = r →
      Given Fine r.outcome ∧ ∀ m, Fine m → Fine (r.edit m) := by
    rintro s hs r rfl
    rw [hs.request]
    refine awaited_given lasting faithful handler rid _ s.app fun m hm => ?_
    split at hm
    · exact hs.response m hm
    · cases hm
  refine ⟨fun s hs outcome s' hr => ?_, fun s hs e s' hr => ?_⟩
  · unfold invoke at hr
    dsimp only at hr
    generalize hrendered : awaited handlers handler rid s.transaction.request
      (if withResponse then s.transaction.response else none) s.app = r at hr
    obtain ⟨hout, hedit⟩ := hawaited s hs r hrendered
    split at hr
    · cases hr
    · cases hr
      exact ⟨hout, prepared_rendered s hs r.edit hedit _ _ withResponse⟩
  · unfold invoke at hr
    dsimp only at hr
    generalize hrendered : awaited handlers handler rid s.transaction.request
      (if withResponse then s.transaction.response else none) s.app = r at hr
    obtain ⟨_, hedit⟩ := hawaited s hs r hrendered
    split at hr
    · cases hr
      exact prepared_rendered s hs r.edit hedit _ _ withResponse
    · cases hr

theorem gives_invokeSync (handler : Handler) (rid : ℕ) :
    Gives request Fine (invokeSync handlers handler rid) := by
  have hrendered : ∀ s : Scene ω, Prepared request Fine s → ∀ r, handlers.render handler rid
      s.transaction.request s.transaction.response s.app = r →
      Given Fine r.outcome ∧ ∀ m, Fine m → Fine (r.edit m) := by
    rintro s hs r rfl
    rw [hs.request]
    exact rendered_given lasting faithful handler rid _ s.app hs.response
  refine ⟨fun s hs outcome s' hr => ?_, fun s hs e s' hr => ?_⟩
  · unfold invokeSync at hr
    split at hr
    · cases hr
      exact ⟨given_other Fine, hs⟩
    · dsimp only at hr
      generalize hrender : handlers.render handler rid s.transaction.request s.transaction.response
        s.app = r at hr
      obtain ⟨hout, hedit⟩ := hrendered s hs r hrender
      split at hr
      · cases hr
      · cases hr
        exact ⟨hout, prepared_rendered s hs r.edit hedit _ _ true⟩
  · unfold invokeSync at hr
    split at hr
    · cases hr
    · dsimp only at hr
      generalize hrender : handlers.render handler rid s.transaction.request s.transaction.response
        s.app = r at hr
      obtain ⟨_, hedit⟩ := hrendered s hs r hrender
      split at hr
      · cases hr
        exact prepared_rendered s hs r.edit hedit _ _ true
      · cases hr

theorem gives_handleSeparate (rid callback : ℕ) (withResponse : Bool) :
    Gives request Fine (handleSeparate handlers rid callback withResponse) := by
  have hinvoke := gives_invoke lasting faithful (.callback callback) rid withResponse
  refine ⟨fun s hs outcome s' hr => ?_, fun s hs e s' hr => ?_⟩
  · unfold handleSeparate at hr
    split at hr
    · exact hinvoke.returns s hs outcome s' hr
    · cases hr
  · unfold handleSeparate at hr
    split at hr
    · exact hinvoke.raises s hs e s' hr
    · cases hr
      exact hs

end Handlers

theorem keeps_reject (error : Option PyErr) :
    Keeps request Fine (reject error : Action Stop (Scene ω) Unit) := by
  cases error with
  | none => exact keeps_setCode lasting _ (by decide)
  | some e => exact keeps_raise _

theorem keeps_accept (code : ℕ) (hcode : code ∈ Codes.list) (rid : ℕ) (response : Message)
    (h : Fine response) :
    Keeps request Fine (accept code rid response : Action Stop (Scene ω) Unit) := by
  refine triple_modify _ fun s hs => ⟨hs.request, fun m hm => ?_⟩
  cases hm
  exact lasting.restated response _ (restated_withDefault response code hcode) h

theorem keeps_acceptChanged (code : ℕ) (hcode : code ∈ Codes.list) (rid : ℕ) (response : Message)
    (h : Fine response) :
    Keeps request Fine (acceptChanged code rid response : Action Stop (Scene ω) Unit) :=
  triple_bind _ _ (keeps_update _ fun _ => ⟨rfl, rfl⟩)
    fun _ => keeps_accept lasting code hcode rid response h

theorem keeps_acceptChild (lp : Text) (rid : ℕ) (response : Message) (h : Fine response) :
    Keeps request Fine (acceptChild lp rid response : Action Stop (Scene ω) Unit) :=
  triple_bind _ _ (keeps_update _ fun _ => ⟨rfl, rfl⟩) fun _ =>
    triple_bind _ _ (keeps_update _ fun _ => ⟨rfl, rfl⟩) fun _ =>
      keeps_accept lasting _ (by decide) rid response h

theorem keeps_acceptPut (rid : ℕ) :
    Keeps request Fine (acceptPut rid : Action Stop (Scene ω) Unit) := by
  refine keeps_of_moves _ fun s hs => ?_
  unfold acceptPut
  split
  · exact hs
  · next response hresponse =>
    split
    · exact hs
    · next response' hput =>
      refine ⟨hs.request, fun m hm => ?_⟩
      cases hm
      exact lasting.restated response _ (restated_putResponse _ _ _ hput)
        (hs.response response hresponse)

theorem keeps_acceptDelete (path : Text) (delete : Bool) (response : Message) (h : Fine response) :
    Keeps request Fine (acceptDelete path delete response : Action Stop (Scene ω) Unit) := by
  refine keeps_of_moves _ fun s hs => ?_
  unfold acceptDelete
  split
  · exact hs
  · refine ⟨hs.request, fun m hm => ?_⟩
    cases hm
    exact lasting.restated response _ (restated_withDefault response _ (by decide)) h

theorem keeps_discover : Keeps request Fine (Discovery.discover : Action Stop (Scene ω) Unit) := by
  refine keeps_of_moves _ fun s hs => ?_
  unfold Discovery.discover
  split
  · exact hs
  · next response hresponse =>
    have hcoded : Restated response { response with code := some Codes.content } :=
      restated_code response _ (by decide)
    have hfine : ∀ m, Restated { response with code := some Codes.content } m → Fine m :=
      fun m hm => lasting.restated response m (hcoded.trans _ _ _ hm)
        (hs.response response hresponse)
    dsimp only
    split
    · refine hs.setResponse s _ fun m hm => ?_
      cases hm
      exact hfine _ (Restated.refl _)
    · split
      · refine hs.setResponse s _ fun m hm => ?_
        cases hm
        exact hfine _ ⟨rfl, rfl, rfl, Or.inl rfl⟩
      · next response' hadded =>
        refine hs.setResponse s _ fun m hm => ?_
        cases hm
        have hadded := restated_addNew _ _ _ _ hadded
        exact hfine _ ⟨hadded.destination, hadded.token, hadded.mid, hadded.code⟩

theorem keeps_setSource : Keeps request Fine (setSource : Action Stop (Scene ω) Unit) := by
  refine triple_modify _ fun s hs => ⟨hs.request, fun m hm => ?_⟩
  obtain ⟨m', hm', rfl⟩ := Option.map_eq_some_iff.mp hm
  exact lasting.restated m' _ ⟨rfl, rfl, rfl, Or.inl rfl⟩ (hs.response m' hm')

theorem keeps_initResponse (rng : Bytes) (htoken : request.token ≠ none) :
    Keeps request Fine (initResponse rng : Action Stop (Scene ω) Unit) := by
  refine keeps_of_moves _ fun s hs => ?_
  unfold initResponse
  split
  · exact hs
  · next response hinit =>
    refine hs.setResponse s _ fun m hm => ?_
    cases hm
    rw [hs.request] at hinit
    exact lasting.replies _ (initFromRequest_replies rng request _ htoken hinit)

section Methods
variable {handlers : Handlers ω} (faithful : Faithful handlers)
include faithful

theorem keeps_settle (rid : ℕ) (accept : ℕ → Message → Action Stop (Scene ω) Unit)
    (haccept : ∀ rid response, Fine response → Keeps request Fine (accept rid response))
    (ret : Outcome) (hret : Given Fine ret) :
    Keeps request Fine (settle handlers rid accept ret) := by
  have hset : ∀ code ∈ Codes.list, Keeps request Fine (setCode code : Action Stop (Scene ω) Unit) :=
    fun code hcode => keeps_setCode lasting code hcode
  cases ret with
  | pair rid' response =>
    cases response with
    | none => exact hset _ (by decide)
    | some response => exact haccept rid' response (hret.pair rid' response rfl)
  | later callback =>
    unfold settle
    refine keeps_gives_bind _ _ (gives_handleSeparate lasting faithful rid callback true)
      fun outcome hgiven => ?_
    cases outcome with
    | pair rid' response =>
      cases response with
      | none => exact hset _ (by decide)
      | some response => exact haccept rid' response (hgiven.pair rid' response rfl)
    | later callback => exact keeps_raise _
    | misfit shape => exact keeps_reject lasting _
    | _ => exact hset _ (by decide)
  | _ => exact hset _ (by decide)

theorem keeps_getResource (rid : ℕ) : Keeps request Fine (getResource handlers rid) := by
  refine keeps_gives_bind _ _ (gives_invoke lasting faithful .get rid true) fun ret hgiven => ?_
  have hsettle := keeps_settle lasting faithful rid _
    (fun rid response => keeps_accept lasting Codes.content (by decide) rid response) ret hgiven
  cases ret with
  | pair rid' response =>
    cases response with
    | none =>
      refine triple_modify _ fun s hs => ⟨hs.request, fun m hm => ?_⟩
      cases hm
    | some response => exact hsettle
  | _ => exact hsettle

theorem keeps_editResource (rid : ℕ) : Keeps request Fine (editResource handlers rid) := by
  refine triple_bind _ _ (keeps_update _ fun _ => ⟨rfl, rfl⟩) fun _ => ?_
  refine keeps_get_bind _ fun s => ?_
  split
  · exact keeps_setCode lasting _ (by decide)
  · exact keeps_gives_bind _ _ (gives_invoke lasting faithful .post rid true) fun ret hgiven =>
      keeps_settle lasting faithful rid _
        (fun rid response => keeps_acceptChanged lasting _ (by decide) rid response) ret hgiven

theorem keeps_createResource (path : Text) :
    Keeps request Fine (createResource handlers path) := by
  refine keeps_get_bind _ fun s => ?_
  split
  · exact keeps_raise _
  · split
    · split
      · exact keeps_raise _
      · exact keeps_editResource lasting faithful _
    · split
      · exact keeps_raise _
      · split
        · exact keeps_gives_bind _ _ (gives_invokeSync lasting faithful .post _) fun ret hgiven =>
            keeps_settle lasting faithful _ _
              (fun rid response => keeps_acceptChild lasting path rid response) ret hgiven
        · exact keeps_setCode lasting _ (by decide)

theorem keeps_settlePut (rid : ℕ) (ret : Outcome) :
    Keeps request Fine (settlePut handlers rid ret) := by
  have hnotCallable : Keeps request Fine (settlePut.notCallable : Action Stop (Scene ω) Unit) := by
    refine keeps_of_moves _ fun s hs => ?_
    unfold settlePut.notCallable
    split <;> exact hs
  have hset : Keeps request Fine (setCode Codes.internalServerError : Action Stop (Scene ω) Unit) :=
    keeps_setCode lasting _ (by decide)
  cases ret with
  | resource rid' => exact keeps_acceptPut lasting rid'
  | resourceLater rid' callback =>
    refine keeps_gives_bind _ _ (gives_handleSeparate lasting faithful rid callback false)
      fun outcome _ => ?_
    cases outcome with
    | resource rid' => exact keeps_acceptPut lasting rid'
    | notImplemented => exact keeps_raise _
    | _ => exact hset
  | pair rid' response => exact hnotCallable
  | flag delete response => exact hnotCallable
  | misfit shape =>
    cases shape with
    | two => exact hnotCallable
    | _ => exact hset
  | _ => exact hset

theorem keeps_updateResource (rid : ℕ) : Keeps request Fine (updateResource handlers rid) := by
  refine keeps_get_bind _ fun s => ?_
  split
  · exact keeps_setCode lasting _ (by decide)
  · refine keeps_gives_bind _ _ (gives_invoke lasting faithful .put rid false) fun ret _ => ?_
    have hsettle := keeps_settlePut lasting faithful rid ret
    cases ret with
    | notImplemented =>
      exact keeps_gives_bind _ _ (gives_invoke lasting faithful .putAdvanced rid true)
        fun ret hgiven => keeps_settle lasting faithful rid _
          (fun rid response => keeps_acceptChanged lasting _ (by decide) rid response) ret hgiven
    | _ => exact hsettle

theorem keeps_deleteResource (rid : ℕ) (path : Text) :
    Keeps request Fine (deleteResource handlers rid path) := by
  have hset : ∀ code ∈ Codes.list, Keeps request Fine (setCode code : Action Stop (Scene ω) Unit) :=
    fun code hcode => keeps_setCode lasting code hcode
  refine keeps_gives_bind _ _ (gives_invoke lasting faithful .delete rid true) fun ret hgiven => ?_
  cases ret with
  | flag delete response =>
    exact keeps_acceptDelete lasting path delete response (hgiven.flag delete response rfl)
  | later callback =>
    refine keeps_gives_bind _ _ (gives_handleSeparate lasting faithful rid callback true)
      fun outcome hgiven => ?_
    cases outcome with
    | flag delete response =>
      exact keeps_acceptDelete lasting path delete response (hgiven.flag delete response rfl)
    | notImplemented => exact hset _ (by decide)
    | misfit shape => exact keeps_reject lasting _
    | _ => exact hset _ (by decide)
  | _ => exact hset _ (by decide)

/-- What is known of the responses to a request is still known when the request layer is done with
it, or has raised. -/
theorem keeps_receiveRequest (rng : Bytes) (htoken : request.token ≠ none) :
    Keeps request Fine (RequestLayer.receiveRequest handlers rng) := by
  have hinit := keeps_initResponse (ω := ω) lasting rng htoken
  have hresource : ∀ rid : ℕ, Keeps request Fine
      (Action.modify (Scene.setResource rid) : Action Stop (Scene ω) Unit) :=
    fun rid => keeps_update _ fun _ => ⟨rfl, rfl⟩
  have hmissing : Keeps request Fine (setCode Codes.notFound : Action Stop (Scene ω) Unit) :=
    keeps_setCode lasting _ (by decide)
  refine keeps_get_bind _ fun s => ?_
  dsimp only
  split
  · refine keeps_get_bind _ fun s => triple_bind _ _ hinit fun _ => ?_
    split
    · exact keeps_discover lasting
    · split
      · exact hmissing
      · split
        · exact hmissing
        · exact triple_bind _ _ (hresource _) fun _ => keeps_getResource lasting faithful _
  · split
    · refine keeps_get_bind _ fun s => triple_bind _ _ hinit fun _ => ?_
      exact triple_bind _ _ (keeps_setSource lasting)
        fun _ => keeps_createResource lasting faithful _
    · split
      · refine keeps_get_bind _ fun s => triple_bind _ _ hinit fun _ => ?_
        refine triple_bind _ _ (keeps_setSource lasting) fun _ => ?_
        split
        · exact hmissing
        · exact triple_bind _ _ (hresource _) fun _ => keeps_updateResource lasting faithful _
      · split
        · refine keeps_get_bind _ fun s => triple_bind _ _ hinit fun _ => ?_
          refine triple_bind _ _ (keeps_setSource lasting) fun _ => ?_
          split
          · exact hmissing
          · exact triple_bind _ _ (hresource _) fun _ => keeps_deleteResource lasting faithful _ _
        · refine triple_modify _ fun s hs => ⟨hs.request, fun m hm => ?_⟩
          cases hm

end Methods

end BubotCoap.ResponseKeeping
