import BubotCoap.IntegerOptions
import BubotCoap.Queries
import BubotCoap.ResourceLayer
import BubotCoap.UdpTransfer
import BubotCoap.UriPaths

set_option autoImplicit false

namespace BubotCoap.OptionProperties
open PythonData Defines Utils Options Messages OptionAccess FallibleState

section Accessors

abbrev Access : Type := Action PyErr Message Unit

/-- A setter that raises leaves the message as it is. -/
def attempt (f : Message → Except PyErr Message) : Access := fun m =>
  match f m with
  | .ok m' => (.ok (), m')
  | .error e => (.error e, m)

theorem attempt_ok (f : Message → Except PyErr Message) (m m' : Message) (h : f m = .ok m') :
    attempt f m = (.ok (), m') := by
  unfold attempt
  rw [h]

theorem attempt_error (f : Message → Except PyErr Message) (m : Message) (e : PyErr)
    (h : f m = .error e) : attempt f m = (.error e, m) := by
  unfold attempt
  rw [h]

/-- `option.value = value` and `self.add_option(option)` on an option of the item. -/
def store (item : OptionItem) (value : Value) : Access := attempt fun m => m.addNew item value

def clear (item : OptionItem) : Access :=
  Action.modify fun m => m.delOptionByNumber item.number

/-- One option for each of the values, of which some may have to be converted. -/
def storeAll (item : OptionItem) : List (Except PyErr Value) → Access
  | [] => pure ()
  | value :: values => do
    let value ← Action.ofExcept value
    store item value
    storeAll item values

/-- `bytes(e, "utf-8")` of what is no bytes. -/
def etagBytes : Value → Except PyErr Value
  | .bytes b => .ok (.bytes b)
  | .str t => .ok (.bytes (encodeUtf8 t))
  | _ => .error .typeError

def setEtag (etags : List Value) : Access := storeAll OptionRegistry.etag (etags.map etagBytes)

def setContentType (contentType : Value) : Access :=
  storeAll OptionRegistry.contentType [(intOf contentType).map .int]

def setObserve (ob : Value) : Access := attempt fun m => m.setObserve ob

def setBlock1 (num more size : ℕ) : Access := attempt fun m => m.setBlock1 num more size

def setBlock2 (num more size : ℕ) : Access := attempt fun m => m.setBlock2 num more size

def setSize1 (value : Value) : Access := store OptionRegistry.size1 value

def setSize2 (value : Value) : Access := store OptionRegistry.size2 value

def setUriPath (path : Text) : Access := attempt fun m => UriPaths.setUriPath m path

def setUriQuery (value : Text) : Access := attempt fun m => UriPaths.setUriQuery m value

def setQuery (value : Queries.Query) : Access := attempt fun m => Queries.setQuery m value

/-- `Content_types.values()`. -/
def contentTypes : List ℕ := [0, 40, 41, 42, 47, 50, 60, 10000]

/-- Other values than those of the registered content types are passed over. -/
def setAccept (value : Value) : Access :=
  if value ∈ contentTypes.map Value.int then store OptionRegistry.accept value else pure ()

def setIfMatch (values : List Value) : Access :=
  storeAll OptionRegistry.ifMatch (values.map .ok)

def addIfNoneMatch : Access := store OptionRegistry.ifNoneMatch .none

/-- The option is added for either value. -/
def setIfNoneMatch (_value : Bool) : Access := store OptionRegistry.ifNoneMatch .none

def addNoResponse : Access := store OptionRegistry.noResponse (.int 26)

def setProxyUri (value : Value) : Access := store OptionRegistry.proxyUri (.str (strOf value))

def setProxySchema (value : Value) : Access :=
  store OptionRegistry.proxyScheme (.str (strOf value))

def setLocationPath (path : Text) : Access := attempt fun m => UriPaths.setLocationPath m path

def setLocationQuery (value : Text) : Access := attempt fun m => UriPaths.setLocationQuery m value

def setMaxAge (value : Value) : Access := do
  let age ← Action.ofExcept (intOf value)
  attempt fun m => IntegerOptions.setMaxAge m age

/-! Getters that no other function of the server reads. -/

def first (item : OptionItem) (m : Message) : Option Value :=
  (m.options.toList.find? fun o => o.number = item.number).map CoapOption.value

def accept (m : Message) : Option Value := first OptionRegistry.accept m

def proxyUri (m : Message) : Option Value := first OptionRegistry.proxyUri m

def proxySchema (m : Message) : Option Value := first OptionRegistry.proxyScheme m

def etag (m : Message) : List Value :=
  (m.options.toList.filter fun o => o.number = OptionRegistry.etag.number).map CoapOption.value

/-- The last of several options, zero if it reads as nothing. -/
def size1 (m : Message) : Option Value :=
  m.options.toList.foldl
    (fun value o =>
      if o.number = OptionRegistry.size1.number then
        some (if o.value = .none then .int 0 else o.value)
      else value)
    none

end Accessors

/-- What an application may call on a message. A property is deleted under the number of its
item. -/
inductive Call where
  | addOption (o : CoapOption)
  | delete (item : OptionItem)
  | setEtag (etags : List Value)
  | setContentType (contentType : Value)
  | setObserve (ob : Value)
  | setBlock1 (num more size : ℕ)
  | setBlock2 (num more size : ℕ)
  | setSize1 (value : Value)
  | setSize2 (value : Value)
  | setUriPath (path : Text)
  | setUriQuery (value : Text)
  | setQuery (value : Queries.Query)
  | setAccept (value : Value)
  | setIfMatch (values : List Value)
  | addIfNoneMatch
  | setIfNoneMatch (value : Bool)
  | addNoResponse
  | setProxyUri (value : Value)
  | setProxySchema (value : Value)
  | setLocationPath (path : Text)
  | setLocationQuery (value : Text)
  | setMaxAge (value : Value)

def Call.access : Call → Access
  | .addOption o => attempt fun m => m.addOption o
  | .delete item => clear item
  | .setEtag etags => OptionProperties.setEtag etags
  | .setContentType contentType => OptionProperties.setContentType contentType
  | .setObserve ob => OptionProperties.setObserve ob
  | .setBlock1 num more size => OptionProperties.setBlock1 num more size
  | .setBlock2 num more size => OptionProperties.setBlock2 num more size
  | .setSize1 value => OptionProperties.setSize1 value
  | .setSize2 value => OptionProperties.setSize2 value
  | .setUriPath path => OptionProperties.setUriPath path
  | .setUriQuery value => OptionProperties.setUriQuery value
  | .setQuery value => OptionProperties.setQuery value
  | .setAccept value => OptionProperties.setAccept value
  | .setIfMatch values => OptionProperties.setIfMatch values
  | .addIfNoneMatch => OptionProperties.addIfNoneMatch
  | .setIfNoneMatch value => OptionProperties.setIfNoneMatch value
  | .addNoResponse => OptionProperties.addNoResponse
  | .setProxyUri value => OptionProperties.setProxyUri value
  | .setProxySchema value => OptionProperties.setProxySchema value
  | .setLocationPath path => OptionProperties.setLocationPath path
  | .setLocationQuery value => OptionProperties.setLocationQuery value
  | .setMaxAge value => OptionProperties.setMaxAge value

/-- The application goes on after a call that has raised. -/
def run (calls : List Call) (m : Message) : Message :=
  calls.foldl (fun m call => (call.access m).2) m

section Log

/-- What a call asks for under one number. -/
structure Change where
  number : ℕ
  clears : Bool
  adds : List CoapOption

/-- All that has been asked for under a number since it was last deleted. -/
def Change.onto (c : Change) (n : ℕ) (asked : List CoapOption) : List CoapOption :=
  if n = c.number then (if c.clears then [] else asked) ++ c.adds else asked

theorem onto_of_ne (n : ℕ) (asked : List CoapOption) (c : Change) (h : n ≠ c.number) :
    c.onto n asked = asked := if_neg h

theorem onto_self (asked : List CoapOption) (c : Change) :
    c.onto c.number asked = (if c.clears then [] else asked) ++ c.adds := if_pos rfl

/-- The options of the values, up to the first one that is refused. -/
def made (item : OptionItem) : List (Except PyErr Value) → List CoapOption
  | [] => []
  | value :: values =>
    match value >>= CoapOption.make item.number with
    | .ok o => o :: made item values
    | .error _ => []

def stored (item : OptionItem) (values : List (Except PyErr Value)) : List Change :=
  [⟨item.number, false, made item values⟩]

/-- A value that is refused leaves the old one in place. -/
def replaced (item : OptionItem) (value : Except PyErr Value) : List Change :=
  match value >>= CoapOption.make item.number with
  | .ok o => [⟨item.number, true, [o]⟩]
  | .error _ => []

def listed (i : UriPaths.TextItem) (clears : Bool) (texts : List Text) : Change :=
  ⟨i.item.number, clears, texts.map (UriPaths.textOption i)⟩

def Call.changes : Call → List Change
  | .addOption o => [⟨o.number, false, [o]⟩]
  | .delete item => [⟨item.number, true, []⟩]
  | .setEtag etags => stored OptionRegistry.etag (etags.map etagBytes)
  | .setContentType contentType =>
    stored OptionRegistry.contentType [(intOf contentType).map .int]
  | .setObserve ob => replaced OptionRegistry.observe (.ok ob)
  | .setBlock1 num more size =>
    stored OptionRegistry.block1 [.ok (.int (Message.blockValue num more size))]
  | .setBlock2 num more size =>
    stored OptionRegistry.block2 [.ok (.int (Message.blockValue num more size))]
  | .setSize1 value => stored OptionRegistry.size1 [.ok value]
  | .setSize2 value => stored OptionRegistry.size2 [.ok value]
  | .setUriPath path =>
    listed .uriPath false ((UriPaths.pathPart path).splitOn '/') ::
      ((UriPaths.queryPart path).map fun query =>
        listed .uriQuery true (query.splitOn '&')).toList
  | .setUriQuery value => [listed .uriQuery true (value.splitOn '&')]
  | .setQuery value => [listed .uriQuery true (Queries.texts value.entries)]
  | .setAccept value =>
    if value ∈ contentTypes.map Value.int then stored OptionRegistry.accept [.ok value] else []
  | .setIfMatch values => stored OptionRegistry.ifMatch (values.map .ok)
  | .addIfNoneMatch => stored OptionRegistry.ifNoneMatch [.ok .none]
  | .setIfNoneMatch _ => stored OptionRegistry.ifNoneMatch [.ok .none]
  | .addNoResponse => stored OptionRegistry.noResponse [.ok (.int 26)]
  | .setProxyUri value => stored OptionRegistry.proxyUri [.ok (.str (strOf value))]
  | .setProxySchema value => stored OptionRegistry.proxyScheme [.ok (.str (strOf value))]
  | .setLocationPath path =>
    [listed .locationPath false ((UriPaths.pathPart path).splitOn '/')]
  | .setLocationQuery value => [listed .locationQuery true (value.splitOn '&')]
  | .setMaxAge value => replaced OptionRegistry.maxAge ((intOf value).map .int)

/-- Everything asked for under the number by the calls, since the last deletion. -/
def log (calls : List Call) (n : ℕ) (asked : List CoapOption) : List CoapOption :=
  (calls.flatMap Call.changes).foldl (fun asked c => c.onto n asked) asked

/-- An option of the number can be there once only. -/
def single (n : ℕ) : Bool := (OptionRegistry.find? n).any fun item => !item.repeatable

/-- Of an option that can be there once only the first is kept. -/
def shown (n : ℕ) (asked : List CoapOption) : List CoapOption :=
  if single n then asked.take 1 else asked

/-- Under each number the message has what has been asked for. -/
def Shows (asked : ℕ → List CoapOption) (m : Message) : Prop :=
  ∀ n, ofNumber n m.options = shown n (asked n)

end Log

section Steps

theorem single_number (o : CoapOption) : single o.number = !o.item.repeatable := by
  unfold single
  rw [show OptionRegistry.find? o.number = some o.item from o.registered]
  rfl

/-- A message has at most one option under such a number. -/
theorem shown_ofNumber (n : ℕ) (os : OptionList) : shown n (ofNumber n os) = ofNumber n os := by
  unfold shown
  split
  · next hsingle =>
    have honce : Once (ofNumber n os) := os.once.sublist List.filter_sublist
    have hnumber : ∀ o ∈ ofNumber n os, o.number = n := fun o ho =>
      of_decide_eq_true (List.mem_filter.mp ho).2
    match hos : ofNumber n os with
    | [] => rfl
    | [o] => rfl
    | o :: p :: rest =>
      rw [hos] at honce hnumber
      have ho := hnumber o List.mem_cons_self
      have hp := hnumber p (List.mem_cons_of_mem o List.mem_cons_self)
      have hrepeatable := (List.pairwise_cons.mp honce).1 p List.mem_cons_self (ho.trans hp.symm)
      rw [← ho, single_number, hrepeatable] at hsingle
      cases hsingle
  · rfl

theorem shows_self (m : Message) : Shows (fun n => ofNumber n m.options) m :=
  fun n => (shown_ofNumber n m.options).symm

theorem shown_append (n : ℕ) (asked adds : List CoapOption) :
    shown n (shown n asked ++ adds) = shown n (asked ++ adds) := by
  unfold shown
  split
  · cases asked with
    | nil => rfl
    | cons o asked => rfl
  · rfl

theorem shown_full (n : ℕ) (asked adds : List CoapOption) (hsingle : single n = true)
    (h : shown n asked ≠ []) : shown n (asked ++ adds) = shown n asked := by
  unfold shown at h ⊢
  rw [if_pos hsingle] at h
  rw [if_pos hsingle, if_pos hsingle]
  cases asked with
  | nil => exact absurd rfl h
  | cons o asked => rfl

theorem ofNumber_snoc (n : ℕ) (os os' : OptionList) (os'' : List CoapOption)
    (h : os'.toList = os.toList ++ os'') :
    ofNumber n os' = ofNumber n os ++ os''.filter fun o => o.number = n := by
  unfold ofNumber
  rw [h, List.filter_append]

theorem alreadyIn_iff (o : CoapOption) (os : OptionList) :
    os.alreadyIn o = true ↔ ofNumber o.number os ≠ [] := by
  unfold OptionList.alreadyIn ofNumber
  rw [List.any_eq_true, Ne, List.filter_eq_nil_iff]
  constructor
  · rintro ⟨p, hp, hsame⟩ hnone
    exact hnone p hp (by simpa [eq_comm] using hsame)
  · intro hsome
    push Not at hsome
    obtain ⟨p, hp, hsame⟩ := hsome
    exact ⟨p, hp, by simpa [eq_comm] using hsame⟩

/-- An option goes behind those of its number, or is refused where there can be but one. -/
theorem attempt_addOption (o : CoapOption) (m : Message) :
    (∃ os : OptionList, os.toList = m.options.toList ++ [o] ∧
      attempt (fun m => m.addOption o) m = (.ok (), { m with options := os })) ∨
    attempt (fun m => m.addOption o) m = (.error .typeError, m) ∧ single o.number = true ∧
      ofNumber o.number m.options ≠ [] := by
  by_cases h : o.item.repeatable = true ∨ m.options.alreadyIn o = false
  · left
    have hadd : m.options.add o =
        .ok ⟨m.options.toList ++ [o], m.options.once_append o h⟩ := dif_pos h
    refine ⟨⟨m.options.toList ++ [o], m.options.once_append o h⟩, rfl, attempt_ok _ m _ ?_⟩
    unfold Message.addOption
    rw [hadd]
    rfl
  · right
    have hadd : m.options.add o = .error .typeError := dif_neg h
    refine ⟨attempt_error _ m _ ?_, ?_, ?_⟩
    · unfold Message.addOption
      rw [hadd]
      rfl
    · rw [single_number]
      simpa using fun hrepeatable => h (Or.inl hrepeatable)
    · refine (alreadyIn_iff o m.options).mp ?_
      simpa using fun hnew => h (Or.inr hnew)

variable {asked : ℕ → List CoapOption} {m : Message}

theorem Shows.refused (h : Shows asked m) (k : ℕ) (adds : List CoapOption)
    (hsingle : single k = true) (hthere : ofNumber k m.options ≠ []) :
    Shows (fun n => Change.onto ⟨k, false, adds⟩ n (asked n)) m := by
  intro n
  let c : Change := ⟨k, false, adds⟩
  change _ = shown n (c.onto n (asked n))
  by_cases hn : n = k
  · subst hn
    rw [show c.onto n (asked n) = asked n ++ adds from onto_self _ c]
    rw [h n] at hthere
    exact (h n).trans (shown_full n _ _ hsingle hthere).symm
  · rw [onto_of_ne n _ c hn]
    exact h n

theorem Shows.appended (h : Shows asked m) (m' : Message) (k : ℕ) (adds : List CoapOption)
    (hadds : ∀ o ∈ adds, o.number = k)
    (hm' : m'.options.toList = m.options.toList ++ adds) :
    Shows (fun n => Change.onto ⟨k, false, adds⟩ n (asked n)) m' := by
  intro n
  let c : Change := ⟨k, false, adds⟩
  change _ = shown n (c.onto n (asked n))
  have hafter := ofNumber_snoc n m.options m'.options adds hm'
  by_cases hn : n = k
  · subst hn
    have hsame : adds.filter (fun o => o.number = n) = adds :=
      List.filter_eq_self.mpr fun o ho => decide_eq_true (hadds o ho)
    rw [show c.onto n (asked n) = asked n ++ adds from onto_self _ c, ← shown_ofNumber, hafter,
      hsame, h n]
    exact shown_append n (asked n) adds
  · have hnone : adds.filter (fun o => o.number = n) = [] := by
      refine List.filter_eq_nil_iff.mpr fun o ho => ?_
      rw [hadds o ho, decide_eq_true_eq]
      exact Ne.symm hn
    rw [onto_of_ne n _ c hn, hafter, hnone, List.append_nil, h n]

theorem Shows.addOption (h : Shows asked m) (o : CoapOption) :
    Shows (fun n => Change.onto ⟨o.number, false, [o]⟩ n (asked n))
      (attempt (fun m => m.addOption o) m).2 := by
  rcases attempt_addOption o m with ⟨os, hos, hadded⟩ | ⟨hrefused, hsingle, hthere⟩
  · rw [hadded]
    refine h.appended { m with options := os } o.number [o] (fun p hp => ?_) hos
    rw [List.mem_singleton.mp hp]
  · rw [hrefused]
    exact h.refused o.number [o] hsingle hthere

theorem Shows.cleared (h : Shows asked m) (k : ℕ) :
    Shows (fun n => Change.onto ⟨k, true, []⟩ n (asked n)) (m.delOptionByNumber k) := by
  intro n
  let c : Change := ⟨k, true, []⟩
  change ofNumber n (m.options.delete k) = shown n (c.onto n (asked n))
  by_cases hn : n = k
  · subst hn
    rw [show c.onto n (asked n) = [] from onto_self _ c, ofNumber_delete_self]
    unfold shown
    split <;> rfl
  · rw [onto_of_ne n _ c hn, ofNumber_delete_of_ne n k _ hn]
    exact h n

end Steps

section Calls

/-- The access does what the changes say, and leaves the rest of the message alone. -/
structure Follows (x : Access) (changes : List Change) : Prop where
  shows : ∀ asked m, Shows asked m →
    Shows (fun n => changes.foldl (fun asked c => c.onto n asked) (asked n)) (x m).2
  rest : ∀ m, (x m).2 = { m with options := (x m).2.options }

theorem follows_of (x : Access) (changes : List Change) (after : Message → Message)
    (hafter : ∀ m, (x m).2 = after m)
    (hshows : ∀ asked m, Shows asked m →
      Shows (fun n => changes.foldl (fun asked c => c.onto n asked) (asked n)) (after m))
    (hrest : ∀ m, after m = { m with options := (after m).options }) : Follows x changes := by
  refine ⟨fun asked m h => ?_, fun m => ?_⟩
  · rw [hafter]
    exact hshows asked m h
  · rw [hafter]
    exact hrest m

theorem follows_nothing : Follows (pure ()) [] := ⟨fun _ _ h => h, fun _ => rfl⟩

theorem follows_clear (item : OptionItem) :
    Follows (clear item) [⟨item.number, true, []⟩] :=
  ⟨fun _ _ h => h.cleared item.number, fun _ => rfl⟩

theorem rest_addOption (o : CoapOption) (m : Message) :
    (attempt (fun m => m.addOption o) m).2 =
      { m with options := (attempt (fun m => m.addOption o) m).2.options } := by
  rcases attempt_addOption o m with ⟨os, _, hadded⟩ | ⟨hrefused, _⟩
  · rw [hadded]
  · rw [hrefused]

theorem follows_addOption (o : CoapOption) :
    Follows (attempt fun m => m.addOption o) [⟨o.number, false, [o]⟩] :=
  ⟨fun _ _ h => h.addOption o, rest_addOption o⟩

theorem make_number (number : ℕ) (value : Value) (o : CoapOption)
    (h : CoapOption.make number value = .ok o) : o.number = number := by
  unfold CoapOption.make at h
  split at h
  · cases h
  · next item hitem =>
    split at h
    · cases h
    · rw [← Except.ok.inj h]
      exact find?_number number item hitem

theorem storeAll_made (item : OptionItem) (value : Except PyErr Value)
    (values : List (Except PyErr Value)) (o : CoapOption)
    (h : (value >>= CoapOption.make item.number) = .ok o) :
    storeAll item (value :: values) =
      ((attempt fun m => m.addOption o) >>= fun _ => storeAll item values) := by
  obtain ⟨v, rfl, hmake⟩ := (bind_eq_ok _ _ _).mp h
  have haddNew : (fun m : Message => m.addNew item v) = fun m => m.addOption o := by
    funext m
    unfold Message.addNew
    rw [hmake, ok_bind]
  change (store item v >>= fun _ => storeAll item values) = _
  unfold store
  rw [haddNew]

theorem storeAll_refused (item : OptionItem) (value : Except PyErr Value)
    (values : List (Except PyErr Value)) (e : PyErr) (m : Message)
    (h : (value >>= CoapOption.make item.number) = .error e) :
    storeAll item (value :: values) m = (.error e, m) := by
  cases value with
  | error e' =>
    cases h
    rfl
  | ok v =>
    refine Action.bind_error (x := store item v) _ (attempt_error _ m e ?_)
    unfold Message.addNew
    rw [show CoapOption.make item.number v = .error e from h]
    rfl

/-- Options that are added one after the other are those that all have been asked for. -/
theorem onto_cons (k n : ℕ) (o : CoapOption) (adds asked : List CoapOption) :
    Change.onto ⟨k, false, adds⟩ n (Change.onto ⟨k, false, [o]⟩ n asked) =
      Change.onto ⟨k, false, o :: adds⟩ n asked := by
  unfold Change.onto
  dsimp only
  split
  · simp
  · rfl

theorem onto_cleared (k n : ℕ) (adds asked : List CoapOption) :
    Change.onto ⟨k, false, adds⟩ n (Change.onto ⟨k, true, []⟩ n asked) =
      Change.onto ⟨k, true, adds⟩ n asked := by
  unfold Change.onto
  split <;> rfl

theorem shows_storeAll (item : OptionItem) (values : List (Except PyErr Value))
    (asked : ℕ → List CoapOption) (m : Message) (h : Shows asked m) :
    Shows (fun n => Change.onto ⟨item.number, false, made item values⟩ n (asked n))
      (storeAll item values m).2 := by
  induction values generalizing asked m with
  | nil => exact h.appended m item.number [] (by simp) (List.append_nil _).symm
  | cons value values ih =>
    unfold made
    cases hmake : value >>= CoapOption.make item.number with
    | error e =>
      rw [storeAll_refused item value values e m hmake]
      exact h.appended m item.number [] (by simp) (List.append_nil _).symm
    | ok o =>
      obtain ⟨v, _, hv⟩ := (bind_eq_ok _ _ _).mp hmake
      have hnumber := make_number item.number v o hv
      rw [storeAll_made item value values o hmake]
      rcases attempt_addOption o m with ⟨os, hos, hadded⟩ | ⟨hrefused, hsingle, hthere⟩
      · rw [Action.bind_ok _ hadded]
        have hfirst := h.appended { m with options := os } item.number [o] (fun p hp => by
          rw [List.mem_singleton.mp hp, hnumber]) hos
        have hrest := ih _ { m with options := os } hfirst
        simpa only [onto_cons] using hrest
      · rw [Action.bind_error _ hrefused]
        rw [hnumber] at hsingle hthere
        exact h.refused item.number (o :: made item values) hsingle hthere

theorem rest_storeAll (item : OptionItem) (values : List (Except PyErr Value)) (m : Message) :
    (storeAll item values m).2 = { m with options := (storeAll item values m).2.options } := by
  induction values generalizing m with
  | nil => rfl
  | cons value values ih =>
    cases hmake : value >>= CoapOption.make item.number with
    | error e => rw [storeAll_refused item value values e m hmake]
    | ok o =>
      rw [storeAll_made item value values o hmake]
      rcases attempt_addOption o m with ⟨os, _, hadded⟩ | ⟨hrefused, _⟩
      · rw [Action.bind_ok _ hadded]
        exact ih { m with options := os }
      · rw [Action.bind_error _ hrefused]

theorem follows_storeAll (item : OptionItem) (values : List (Except PyErr Value)) :
    Follows (storeAll item values) (stored item values) :=
  ⟨shows_storeAll item values, rest_storeAll item values⟩

theorem follows_store (item : OptionItem) (value : Value) :
    Follows (store item value) (stored item [.ok value]) := by
  have hsame : ∀ m, (store item value m).2 = (storeAll item [.ok value] m).2 := by
    intro m
    change _ = ((store item value >>= fun _ => pure ()) m).2
    rw [Action.bind_apply]
    generalize store item value m = r
    obtain ⟨result, m'⟩ := r
    cases result <;> rfl
  have hall := follows_storeAll item [.ok value]
  exact follows_of _ _ _ hsame hall.shows hall.rest

/-- A setter that deletes the old value first does so only if it accepts the new one. -/
theorem follows_replaced (item : OptionItem) (value : Value) :
    Follows (attempt fun m => (m.delOptionByNumber item.number).addNew item value)
      (replaced item (.ok value)) := by
  unfold replaced
  rw [ok_bind]
  cases hmake : CoapOption.make item.number value with
  | error e =>
    have hkept : ∀ m : Message, attempt (fun m => (m.delOptionByNumber item.number).addNew item
        value) m = (.error e, m) := by
      intro m
      refine attempt_error _ m e ?_
      unfold Message.addNew
      rw [hmake]
      rfl
    exact follows_of _ _ id (fun m => congrArg Prod.snd (hkept m)) (fun _ _ h => h) fun _ => rfl
  | ok o =>
    have hnumber := make_number item.number value o hmake
    have hset : ∀ m : Message, ∃ os : OptionList,
        os.toList = (m.options.delete item.number).toList ++ [o] ∧
        attempt (fun m => (m.delOptionByNumber item.number).addNew item value) m =
          (.ok (), { m with options := os }) := by
      intro m
      have hadd := add_push (m.options.delete item.number) o (by rw [hnumber, ofNumber_delete_self])
      refine ⟨push (m.options.delete item.number) o (by rw [hnumber, ofNumber_delete_self]), rfl,
        attempt_ok _ m _ ?_⟩
      unfold Message.addNew Message.addOption
      rw [hmake, ok_bind]
      change (((m.options.delete item.number).add o).map fun os => { m with options := os }) = _
      rw [hadd]
      rfl
    refine ⟨fun asked m h => ?_, fun m => ?_⟩
    · obtain ⟨os, hos, hattempt⟩ := hset m
      rw [hattempt]
      have hafter := (h.cleared item.number).appended { m with options := os } item.number [o]
        (fun p hp => by rw [List.mem_singleton.mp hp, hnumber]) hos
      simp only [onto_cleared] at hafter
      exact hafter
    · obtain ⟨os, _, hattempt⟩ := hset m
      rw [hattempt]

open UriPaths (TextItem pushTexts textOption)

theorem Shows.texts {asked : ℕ → List CoapOption} {m : Message} (h : Shows asked m) (i : TextItem)
    (texts : List Text) :
    Shows (fun n => (listed i false texts).onto n (asked n)) (pushTexts i m texts) := by
  refine h.appended (pushTexts i m texts) i.item.number (texts.map (textOption i)) (fun o ho => ?_)
    (UriPaths.toList_pushTexts i m texts)
  obtain ⟨t, _, rfl⟩ := List.mem_map.mp ho
  rfl

theorem Shows.newTexts {asked : ℕ → List CoapOption} {m : Message} (h : Shows asked m)
    (i : TextItem) (texts : List Text) :
    Shows (fun n => (listed i true texts).onto n (asked n))
      (pushTexts i (m.delOptionByNumber i.item.number) texts) := by
  have hafter := (h.cleared i.item.number).texts i texts
  unfold listed at hafter ⊢
  simp only [onto_cleared] at hafter
  exact hafter

theorem rest_pushTexts (i : TextItem) (m : Message) (texts : List Text) :
    pushTexts i m texts = { m with options := (pushTexts i m texts).options } := by
  unfold pushTexts
  induction texts generalizing m with
  | nil => rfl
  | cons t texts ih => exact ih (UriPaths.pushText i m t)

theorem follows_newTexts (i : TextItem) (texts : List Text) :
    Follows (attempt fun m => UriPaths.addTexts i (m.delOptionByNumber i.item.number) texts)
      [listed i true texts] := by
  refine follows_of _ _ (fun m => pushTexts i (m.delOptionByNumber i.item.number) texts)
    (fun m => ?_) (fun asked m h => h.newTexts i texts) fun m => rest_pushTexts i _ texts
  exact congrArg Prod.snd (attempt_ok _ m _ (UriPaths.addTexts_eq i _ texts))

theorem follows_texts (i : TextItem) (texts : List Text) :
    Follows (attempt fun m => UriPaths.addTexts i m texts) [listed i false texts] := by
  refine follows_of _ _ (fun m => pushTexts i m texts) (fun m => ?_)
    (fun asked m h => h.texts i texts) fun m => rest_pushTexts i m texts
  exact congrArg Prod.snd (attempt_ok _ m _ (UriPaths.addTexts_eq i m texts))

theorem follows_setUriPath (path : Text) :
    Follows (OptionProperties.setUriPath path)
      (listed .uriPath false ((UriPaths.pathPart path).splitOn '/') ::
        ((UriPaths.queryPart path).map fun query =>
          listed .uriQuery true (query.splitOn '&')).toList) := by
  refine follows_of _ _ (fun m => UriPaths.withPath m path) (fun m => ?_) (fun asked m h => ?_)
    fun m => ?_
  · exact congrArg Prod.snd (attempt_ok _ m _ (UriPaths.setUriPath_eq m path))
  · have hpath := h.texts .uriPath ((UriPaths.pathPart path).splitOn '/')
    unfold UriPaths.withPath
    cases UriPaths.queryPart path with
    | none => exact hpath
    | some query => exact hpath.newTexts .uriQuery (query.splitOn '&')
  · unfold UriPaths.withPath
    cases UriPaths.queryPart path with
    | none => exact rest_pushTexts _ m _
    | some query =>
      dsimp only
      rw [rest_pushTexts .uriQuery, rest_pushTexts .uriPath m]
      rfl

theorem follows_setQuery (value : Queries.Query) :
    Follows (OptionProperties.setQuery value)
      [listed .uriQuery true (Queries.texts value.entries)] := by
  have hpush : ∀ (texts : List Text) (m : Message),
      texts.foldl Queries.push m = pushTexts .uriQuery m texts := by
    intro texts
    unfold pushTexts
    induction texts with
    | nil => exact fun _ => rfl
    | cons t texts ih => exact fun m => ih (Queries.push m t)
  refine follows_of _ _ (fun m => pushTexts .uriQuery
      (m.delOptionByNumber OptionRegistry.uriQuery.number) (Queries.texts value.entries))
    (fun m => ?_) (fun asked m h => h.newTexts .uriQuery (Queries.texts value.entries))
    fun m => rest_pushTexts .uriQuery _ _
  exact congrArg Prod.snd
    (attempt_ok _ m _ ((Queries.setQuery_eq m value).trans (congrArg Except.ok (hpush _ _))))

theorem follows_setAccept (value : Value) :
    Follows (OptionProperties.setAccept value)
      (if value ∈ contentTypes.map Value.int then stored OptionRegistry.accept [.ok value]
        else []) := by
  unfold OptionProperties.setAccept
  split
  · exact follows_store _ _
  · exact follows_nothing

theorem follows_setMaxAge (value : Value) :
    Follows (OptionProperties.setMaxAge value)
      (replaced OptionRegistry.maxAge ((intOf value).map .int)) := by
  unfold OptionProperties.setMaxAge
  cases hage : intOf value with
  | error e => exact ⟨fun _ _ h => h, fun _ => rfl⟩
  | ok age => exact follows_replaced OptionRegistry.maxAge (.int age)

theorem follows_call (call : Call) : Follows call.access call.changes := by
  cases call with
  | addOption o => exact follows_addOption o
  | delete item => exact follows_clear item
  | setEtag etags => exact follows_storeAll _ _
  | setContentType contentType => exact follows_storeAll _ _
  | setObserve ob => exact follows_replaced OptionRegistry.observe ob
  | setBlock1 num more size => exact follows_store _ _
  | setBlock2 num more size => exact follows_store _ _
  | setSize1 value => exact follows_store _ _
  | setSize2 value => exact follows_store _ _
  | setUriPath path => exact follows_setUriPath path
  | setUriQuery value => exact follows_newTexts .uriQuery (value.splitOn '&')
  | setQuery value => exact follows_setQuery value
  | setAccept value => exact follows_setAccept value
  | setIfMatch values => exact follows_storeAll _ _
  | addIfNoneMatch => exact follows_store _ _
  | setIfNoneMatch value => exact follows_store _ _
  | addNoResponse => exact follows_store _ _
  | setProxyUri value => exact follows_store _ _
  | setProxySchema value => exact follows_store _ _
  | setLocationPath path =>
    exact follows_texts .locationPath ((UriPaths.pathPart path).splitOn '/')
  | setLocationQuery value => exact follows_newTexts .locationQuery (value.splitOn '&')
  | setMaxAge value => exact follows_setMaxAge value

end Calls

section Runs

theorem run_shows (calls : List Call) (asked : ℕ → List CoapOption) (m : Message)
    (h : Shows asked m) : Shows (fun n => log calls n (asked n)) (run calls m) := by
  induction calls generalizing asked m with
  | nil => exact h
  | cons call calls ih =>
    have hrest := ih _ (call.access m).2 ((follows_call call).shows asked m h)
    unfold log at hrest ⊢
    simp only [List.flatMap_cons, List.foldl_append]
    exact hrest

theorem run_rest (calls : List Call) (m : Message) :
    run calls m = { m with options := (run calls m).options } := by
  induction calls generalizing m with
  | nil => rfl
  | cons call calls ih =>
    have hfirst := (follows_call call).rest m
    have hrest := ih (call.access m).2
    change run calls (call.access m).2 = { m with options := (run calls (call.access m).2).options }
    rw [hrest, hfirst]

def sampleMessage : Message :=
  { Message.new .request with
    type := some .CON
    code := some Codes.get
    mid := some 7
    token := some [1, 2] }

/-- A second content type is refused, and a second path goes behind the first. -/
def sampleCalls : List Call :=
  [.setContentType (.int 60), .setUriPath "/a/b?x=1".toList, .setContentType (.int 50),
    .setEtag [.bytes [1], .int 2, .bytes [3]], .setUriPath "c?y=2".toList, .setAccept (.int 7)]

end Runs

section Getters
variable {asked : ℕ → List CoapOption} {m : Message}

theorem head_shown (n : ℕ) (os : List CoapOption) : (shown n os).head? = os.head? := by
  unfold shown
  split
  · cases os <;> rfl
  · rfl

/-- A property with one value reads the first that has been asked for. -/
theorem Shows.first (h : Shows asked m) (item : OptionItem) :
    OptionProperties.first item m = (asked item.number).head?.map CoapOption.value := by
  unfold OptionProperties.first
  rw [← List.head?_filter]
  change (ofNumber item.number m.options).head?.map _ = _
  rw [h item.number, head_shown]

theorem Shows.contentType (h : Shows asked m) :
    m.contentType =
      ((asked OptionRegistry.contentType.number).head?.map CoapOption.value).getD (.int 0) := by
  unfold Message.contentType
  rw [getOption_eq m OptionRegistry.contentType rfl, h, head_shown]

/-- A property with many values reads them all. -/
theorem Shows.etag (h : Shows asked m) :
    OptionProperties.etag m = (asked OptionRegistry.etag.number).map CoapOption.value :=
  congrArg (List.map CoapOption.value) (h OptionRegistry.etag.number)

theorem Shows.ifMatch (h : Shows asked m) :
    ResourceLayer.ifMatch m = (asked OptionRegistry.ifMatch.number).map CoapOption.value :=
  congrArg (List.map CoapOption.value) (h OptionRegistry.ifMatch.number)

/-- The last of the options counts, of which there is one at most. -/
theorem Shows.size1 (h : Shows asked m) :
    OptionProperties.size1 m = (asked OptionRegistry.size1.number).head?.map fun o =>
      if o.value = .none then .int 0 else o.value := by
  have hfold : OptionProperties.size1 m = (ofNumber OptionRegistry.size1.number m.options).foldl
      (fun _ o => some (if o.value = .none then .int 0 else o.value)) none := by
    unfold OptionProperties.size1 ofNumber
    rw [List.foldl_filter]
    simp only [decide_eq_true_eq]
  rw [hfold, h OptionRegistry.size1.number]
  unfold shown
  rw [if_pos (by decide)]
  cases asked OptionRegistry.size1.number with
  | nil => rfl
  | cons o os => rfl

end Getters

end BubotCoap.OptionProperties
