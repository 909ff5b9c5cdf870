import BubotCoap.FallibleState
import BubotCoap.Rendering
import BubotCoap.OrderedDict
import BubotCoap.Runs

set_option autoImplicit false

/-!
# The callback layer

The waiters of sent requests under their tokens. A wait is one task: it is suspended until its
future is done, and takes its entry out of the table when it runs again.
-/
namespace BubotCoap.CallbackLayer
open PythonData Messages OrderedDict FallibleState Rendering

/-- What ends a wait: the timeout, the cancellation of the task, or another exception. -/
inductive Interrupt where
  | timeoutError
  | cancelledError
  | other
  deriving DecidableEq

inductive Future where
  | pending
  | result (response : Message)
  | exception (e : Interrupt)
  | cancelled (e : Interrupt)
  deriving DecidableEq

inductive Outcome where
  | returned (response : Message)
  | returnedAll (responses : List Message)
  | raised (e : Interrupt)
  | extException
  deriving DecidableEq

/-- A waiter with the task that awaits it: an interrupt with which the task will run again before
its future is done, one that has reached the task, and how the task has ended. -/
structure Waiter where
  request : Message
  future : Future
  result : List Message
  expired : Option Interrupt
  interrupted : Option Interrupt
  outcome : Option Outcome
  deriving DecidableEq

def Waiter.new (request : Message) : Waiter := ⟨request, .pending, [], none, none, none⟩

def Waiter.key (w : Waiter) : Option Bytes := w.request.token

/-- The table refers to the waiters by their place among all that were made. -/
structure State where
  waitedAnswer : Dict (Option Bytes) ℕ
  waiters : List Waiter

def State.new : State := ⟨Dict.empty, []⟩

def State.update (s : State) (i : ℕ) (f : Waiter → Waiter) : State :=
  { s with waiters := s.waiters.modify i f }

/-- `wait` up to its suspension. -/
def wait (request : Message) (s : State) : State :=
  { waitedAnswer := s.waitedAnswer.insert (Waiter.new request).key s.waiters.length
    waiters := s.waiters ++ [Waiter.new request] }

/-- The setter of `Waiter.future`. A future takes one result. -/
def setFuture (i : ℕ) (value : Message) : Action Failure State Unit := fun s =>
  match s.waiters[i]? with
  | none => (.ok (), s)
  | some w =>
    if w.request.multicast then
      (.ok (), s.update i fun w => { w with result := w.result ++ [value] })
    else
      match w.future with
      | .pending => (.ok (), s.update i fun w => { w with future := .result value })
      | _ => (.error .invalidStateError, s)

/-- The response is written to the log whether there is a waiter or not. -/
def setResult (P : Platform) (response : Message) : Action Failure State Unit := do
  let _line ← Action.ofExcept (linePrint P response)
  let s ← Action.get
  match s.waitedAnswer.get? response.token with
  | none => pure ()
  | some i => setFuture i (printed response)

/-- A timeout or a cancellation reaches the task, in which the releases of the runtime differ. Some
cancel a future that is not done `atOnce`, others let the task run again, which does so. A future
that is done keeps its result, and whether the task still sees it depends on `overrides`. -/
def Waiter.interrupt (e : Interrupt) (atOnce overrides : Bool) (w : Waiter) : Waiter :=
  if w.future = .pending ∧ atOnce then { w with future := .cancelled e }
  else
    { w with
      expired := if w.future = .pending then some e else w.expired
      interrupted := if overrides then some e else w.interrupted }

def interrupt (i : ℕ) (e : Interrupt) (atOnce overrides : Bool) (s : State) : State :=
  s.update i (Waiter.interrupt e atOnce overrides)

/-- The handlers of `wait`. -/
def Waiter.throw (w : Waiter) : Interrupt → Outcome
  | .other => .extException
  | e => if w.request.multicast then .returnedAll w.result else .raised e

def Waiter.finish (w : Waiter) : Option Outcome :=
  match w.future, w.interrupted with
  | .pending, _ => none
  | _, some e => some (w.throw e)
  | .result response, none => some (.returned response)
  | .exception e, none => some (w.throw e)
  | .cancelled e, none => some (w.throw e)

/-- The task runs again. Where an interrupt has found its future not done, it cancels the future and
is suspended once more. It ends only after its future is done. -/
def wakeUp (i : ℕ) (s : State) : State :=
  match s.waiters[i]? with
  | none => s
  | some w =>
    if w.future = .pending then
      match w.expired with
      | none => s
      | some e => s.update i fun w => { w with future := .cancelled e }
    else
      match w.outcome, w.finish with
      | none, some outcome =>
        { (s.update i fun w => { w with outcome := some outcome }) with
          waitedAnswer := s.waitedAnswer.erase w.key }
      | _, _ => s

def Waiter.fail (e : Interrupt) (w : Waiter) : Waiter :=
  if w.future = .pending then { w with future := .exception e } else w

/-- Empties the table and fails whoever still waits. -/
def cancelWaited (e : Interrupt) (s : State) : State :=
  let (table, popped) := s.waitedAnswer.popEach (fun i => [i]) s.waitedAnswer.keys []
  popped.foldl (fun s i => s.update i (Waiter.fail e)) { s with waitedAnswer := table }

inductive Event where
  | wait (request : Message)
  | setResult (response : Message)
  | interrupt (waiter : ℕ) (e : Interrupt) (atOnce overrides : Bool)
  | wakeUp (waiter : ℕ)
  | cancelWaited (e : Interrupt)

def step (P : Platform) (s : State) : Event → State
  | .wait request => wait request s
  | .setResult response => (setResult P response s).2
  | .interrupt i e atOnce overrides => interrupt i e atOnce overrides s
  | .wakeUp i => wakeUp i s
  | .cancelWaited e => cancelWaited e s

def run (P : Platform) (events : List Event) : State := Runs.run (step P) State.new events

/-! What is promised to the waiters. -/

/-- A response to a request: its token, from the peer the request went to. -/
def Answers (response request : Message) : Prop :=
  response.token = request.token ∧ response.source = request.destination

/-- The `i`-th wait is for the request, and the first response to it that arrives after this wait
is the given one, as its log line leaves it. -/
def FirstAnswer (P : Platform) (events : List Event) (i : ℕ) (request response : Message) : Prop :=
  ∃ pre mid r post, events = pre ++ .wait request :: (mid ++ .setResult r :: post) ∧
    (run P pre).waiters.length = i ∧ Answers r request ∧ response = printed r ∧
      ∀ q, .setResult q ∈ mid → ¬ Answers q request

/-- The response that arrives now is handed to this waiter. -/
def Handed (s : State) (response : Message) (i : ℕ) (w : Waiter) : Prop :=
  s.waitedAnswer.get? response.token = some i ∧ s.waiters[i]? = some w

structure Orderly (P : Platform) (events : List Event) : Prop where
  never_raises : ∀ pre r post, events = pre ++ .setResult r :: post →
    (setResult P r (run P pre)).1 = .ok ()
  first_response : ∀ (i : ℕ) w response, (run P events).waiters[i]? = some w →
    w.request.multicast = false → w.outcome = some (.returned response) →
      FirstAnswer P events i w.request response
  completed : ∀ pre r post (i : ℕ) w, events = pre ++ .setResult r :: post →
    (run P pre).waiters[i]? = some w → w.request.multicast = false → w.future = .pending →
      Answers r w.request →
        (run P (pre ++ [.setResult r])).waiters[i]? = some { w with future := .result (printed r) }
  /-- The wait for a response that has come returns it, unless an interrupt has overtaken it. -/
  returned : ∀ pre i post w response, events = pre ++ .wakeUp i :: post →
    (run P pre).waiters[i]? = some w → w.outcome = none → w.interrupted = none →
      w.future = .result response →
        (run P (pre ++ [.wakeUp i])).waiters[i]? =
          some { w with outcome := some (.returned response) }
  own_peer : ∀ pre r post i w, events = pre ++ .setResult r :: post → Handed (run P pre) r i w →
    w.request.multicast = false → r.source = w.request.destination
  /-- No request is handed the response to another one that still waits. -/
  not_others : ∀ pre r post i w (j : ℕ) w', events = pre ++ .setResult r :: post →
    Handed (run P pre) r i w → (run P pre).waiters[j]? = some w' → w'.future = .pending →
      w'.request.destination ≠ w.request.destination → ¬ Answers r w'.request

/-- The token is in no other waiter's use when a wait begins and when one ends. -/
def TokenFree (s : State) : Event → Prop
  | .wait request => s.waitedAnswer.get? request.token = none
  | .wakeUp i => ∀ (w : Waiter) (j : ℕ), s.waiters[i]? = some w → w.outcome = none →
      w.finish ≠ none → s.waitedAnswer.get? w.key = some j → j = i
  | _ => True

/-- The response can be written to the log, and a single request that is to get it waits for it
and was sent to the peer it comes from. -/
def Welcome (P : Platform) (s : State) (response : Message) : Prop :=
  Printable P response ∧ ∀ i w, Handed s response i w → w.request.multicast = false →
    w.future = .pending ∧ response.source = w.request.destination

theorem run_concat (P : Platform) (events : List Event) (e : Event) :
    run P (events ++ [e]) = step P (run P events) e :=
  Runs.run_concat _ _ _ _

theorem getElem?_update (s : State) (i j : ℕ) (f : Waiter → Waiter) :
    (s.update i f).waiters[j]? = (s.waiters[j]?).map fun w => if i = j then f w else w :=
  List.getElem?_modify f i s.waiters j

@[simp] theorem interrupt_request (w : Waiter) (e : Interrupt) (atOnce overrides : Bool) :
    (w.interrupt e atOnce overrides).request = w.request := by
  unfold Waiter.interrupt
  split <;> rfl

@[simp] theorem interrupt_outcome (w : Waiter) (e : Interrupt) (atOnce overrides : Bool) :
    (w.interrupt e atOnce overrides).outcome = w.outcome := by
  unfold Waiter.interrupt
  split <;> rfl

/-- Only a future that is not done is changed, to one that is cancelled. -/
theorem interrupt_future (w : Waiter) (e : Interrupt) (atOnce overrides : Bool) :
    (w.interrupt e atOnce overrides).future = w.future ∨
      w.future = .pending ∧ (w.interrupt e atOnce overrides).future = .cancelled e := by
  unfold Waiter.interrupt
  split
  · next h => exact Or.inr ⟨h.1, rfl⟩
  · exact Or.inl rfl

theorem wakeUp_cases (i : ℕ) (s : State) :
    wakeUp i s = s ∨
    (∃ w e, s.waiters[i]? = some w ∧ w.future = .pending ∧
      wakeUp i s = s.update i fun w => { w with future := .cancelled e }) ∨
    ∃ w outcome, s.waiters[i]? = some w ∧ w.future ≠ .pending ∧ w.outcome = none ∧
      w.finish = some outcome ∧ wakeUp i s =
        { (s.update i fun w => { w with outcome := some outcome }) with
          waitedAnswer := s.waitedAnswer.erase w.key } := by
  unfold wakeUp
  cases hw : s.waiters[i]? with
  | none => exact Or.inl rfl
  | some w =>
    dsimp only
    by_cases hpending : w.future = .pending
    · rw [if_pos hpending]
      cases w.expired with
      | none => exact Or.inl rfl
      | some e => exact Or.inr (Or.inl ⟨w, e, rfl, hpending, rfl⟩)
    · rw [if_neg hpending]
      cases houtcome : w.outcome with
      | some outcome => exact Or.inl rfl
      | none =>
        cases hfinish : w.finish with
        | none => exact Or.inl rfl
        | some outcome =>
          exact Or.inr (Or.inr ⟨w, outcome, rfl, hpending, houtcome, hfinish, rfl⟩)

theorem wakeUp_returns (i : ℕ) (s : State) (w : Waiter) (response : Message)
    (hw : s.waiters[i]? = some w) (houtcome : w.outcome = none)
    (hinterrupted : w.interrupted = none) (hfuture : w.future = .result response) :
    (wakeUp i s).waiters[i]? = some { w with outcome := some (.returned response) } := by
  have hpending : w.future ≠ .pending := by
    rw [hfuture]
    exact fun h => by cases h
  have hfinish : w.finish = some (.returned response) := by
    unfold Waiter.finish
    rw [hfuture, hinterrupted]
  unfold wakeUp
  rw [hw]
  dsimp only
  rw [if_neg hpending, houtcome, hfinish]
  change (s.update i _).waiters[i]? = _
  rw [getElem?_update, hw, Option.map_some, if_pos rfl]

theorem setResult_printable (P : Platform) (response : Message) (s : State)
    (h : Printable P response) :
    setResult P response s =
      match s.waitedAnswer.get? response.token with
      | none => (.ok (), s)
      | some i => setFuture i (printed response) s := by
  obtain ⟨line, hline⟩ := (linePrint_ok_iff P response).mpr h
  unfold setResult
  rw [hline, Action.bind_ok _ (Action.ofExcept_apply _ s), Action.bind_get]
  cases s.waitedAnswer.get? response.token <;> rfl

theorem setFuture_multicast (i : ℕ) (value : Message) (s : State) (w : Waiter)
    (hw : s.waiters[i]? = some w) (multicast : w.request.multicast = true) :
    setFuture i value s =
      (.ok (), s.update i fun w => { w with result := w.result ++ [value] }) := by
  simp only [setFuture, hw, multicast, ↓reduceIte]

theorem setFuture_unicast (i : ℕ) (value : Message) (s : State) (w : Waiter)
    (hw : s.waiters[i]? = some w) (unicast : w.request.multicast = false)
    (pending : w.future = .pending) :
    setFuture i value s = (.ok (), s.update i fun w => { w with future := .result value }) := by
  simp only [setFuture, hw, unicast, Bool.false_eq_true, ↓reduceIte, pending]

theorem cancelWaited_eq (e : Interrupt) (s : State) :
    (cancelWaited e s).waitedAnswer = Dict.empty ∧ ∀ i : ℕ,
      (cancelWaited e s).waiters[i]? = (s.waiters[i]?).map fun w =>
        if i ∈ s.waitedAnswer.entries.map Prod.snd then w.fail e else w := by
  have hfold : ∀ (is : List ℕ) (t : State),
      (is.foldl (fun s i => s.update i (Waiter.fail e)) t).waitedAnswer = t.waitedAnswer ∧
        ∀ i : ℕ, (is.foldl (fun s i => s.update i (Waiter.fail e)) t).waiters[i]? =
          (t.waiters[i]?).map fun w => if i ∈ is then w.fail e else w := by
    intro is
    induction is with
    | nil => exact fun t => ⟨rfl, fun i => by simp⟩
    | cons k ks ih =>
      intro t
      obtain ⟨htable, hwaiters⟩ := ih (t.update k (Waiter.fail e))
      refine ⟨htable, fun i => ?_⟩
      rw [List.foldl_cons, hwaiters i, getElem?_update, Option.map_map]
      congr 1
      funext w
      have hidem : (w.fail e).fail e = w.fail e := by
        by_cases h : w.future = .pending <;> simp [Waiter.fail, h]
      by_cases hk : k = i
      · subst hk
        by_cases hmem : k ∈ ks <;> simp [hmem, hidem]
      · have hk' : i ≠ k := Ne.symm hk
        simp [hk, hk']
  have hpop : s.waitedAnswer.popEach (fun i => [i]) s.waitedAnswer.keys [] =
      (Dict.empty, s.waitedAnswer.entries.map Prod.snd) := by
    rw [Dict.popEach_keys, Dict.collect, List.nil_append, List.map_eq_flatMap]
  unfold cancelWaited
  rw [hpop]
  exact hfold _ _

/-- What is known of the `i`-th waiter while tokens are free and responses welcome. -/
structure Kept (P : Platform) (events : List Event) (s : State) (i : ℕ) (w : Waiter) : Prop where
  asked : ∃ pre mid, events = pre ++ .wait w.request :: mid ∧ (run P pre).waiters.length = i ∧
    (w.future = .pending → w.request.multicast = false →
      ∀ r, .setResult r ∈ mid → ¬ Answers r w.request)
  first : w.request.multicast = false → ∀ response, w.future = .result response →
    FirstAnswer P events i w.request response
  slot : w.future = .pending → s.waitedAnswer.get? w.request.token = some i
  returned : ∀ response, w.outcome = some (.returned response) → w.future = .result response

structure Inv (P : Platform) (events : List Event) (s : State) : Prop where
  kept : ∀ (i : ℕ) w, s.waiters[i]? = some w → Kept P events s i w
  table : ∀ token i, s.waitedAnswer.get? token = some i →
    ∃ w : Waiter, s.waiters[i]? = some w ∧ w.request.token = token

/-- How a step may change the future of a waiter. -/
inductive Turns (e : Event) (w : Waiter) : Future → Prop where
  | same : (w.future = .pending → w.request.multicast = false → ∀ r, e = .setResult r →
      ¬ Answers r w.request) → Turns e w w.future
  | answered (r : Message) : e = .setResult r → w.future = .pending → Answers r w.request →
      Turns e w (.result (printed r))
  | failed (future : Future) : future ≠ .pending → (∀ r, future ≠ .result r) → Turns e w future

theorem FirstAnswer.append (P : Platform) (events later : List Event) (i : ℕ)
    (request response : Message) (h : FirstAnswer P events i request response) :
    FirstAnswer P (events ++ later) i request response := by
  obtain ⟨pre, mid, r, post, rfl, hi, hanswers, hresponse, hfirst⟩ := h
  refine ⟨pre, mid, r, post ++ later, ?_, hi, hanswers, hresponse, hfirst⟩
  simp only [List.append_assoc, List.cons_append]

theorem Kept.step (P : Platform) (events : List Event) (s s' : State) (i : ℕ) (w w' : Waiter)
    (e : Event) (h : Kept P events s i w) (request : w'.request = w.request)
    (turns : Turns e w w'.future)
    (slot : w'.future = .pending → s'.waitedAnswer.get? w.request.token = some i)
    (returned : ∀ response, w'.outcome = some (.returned response) →
      w'.future = .result response) :
    Kept P (events ++ [e]) s' i w' := by
  obtain ⟨pre, mid, hsplit, hi, hnone⟩ := h.asked
  have hlater : events ++ [e] = pre ++ .wait w.request :: (mid ++ [e]) := by
    rw [hsplit, List.append_assoc, List.cons_append]
  generalize hfuture : w'.future = future at turns
  refine ⟨⟨pre, mid ++ [e], request ▸ hlater, hi, ?_⟩, ?_, request ▸ slot, returned⟩
  · rw [hfuture, request]
    intro hpending hunicast r hr
    cases turns with
    | same hsame =>
      rcases List.mem_append.mp hr with hmid | hlast
      · exact hnone hpending hunicast r hmid
      · exact hsame hpending hunicast r (List.mem_singleton.mp hlast).symm
    | answered r' => cases hpending
    | failed _ hne => exact absurd hpending hne
  · rw [hfuture, request]
    intro hunicast response hresult
    cases turns with
    | same =>
      exact FirstAnswer.append P events [e] i w.request response
        (h.first hunicast response hresult)
    | answered r he hpending hanswers =>
      cases hresult
      exact ⟨pre, mid, r, [], by rw [hlater, he], hi, hanswers, rfl, hnone hpending hunicast⟩
    | failed _ _ hne => exact absurd hresult (hne response)

theorem inv_wait (P : Platform) (events : List Event) (request : Message)
    (h : Inv P events (run P events))
    (fresh : (run P events).waitedAnswer.get? request.token = none) :
    Inv P (events ++ [.wait request]) (wait request (run P events)) := by
  generalize hs : run P events = s at h fresh
  have hnew : (wait request s).waiters[s.waiters.length]? = some (Waiter.new request) :=
    List.getElem?_concat_length
  constructor
  · intro i w hw
    by_cases hi : i < s.waiters.length
    · have hold : s.waiters[i]? = some w := (List.getElem?_append_left hi).symm.trans hw
      have hkept := h.kept i w hold
      refine hkept.step P events s _ i w w _ rfl (.same fun _ _ r hr => by cases hr) ?_
        hkept.returned
      intro hpending
      have hne : w.request.token ≠ request.token := by
        intro heq
        have hslot := hkept.slot hpending
        rw [heq, fresh] at hslot
        cases hslot
      exact (Dict.get?_insert_of_ne _ _ hne).trans (hkept.slot hpending)
    · have hlength : i = s.waiters.length := by
        have hlt := (List.getElem?_eq_some_iff.mp hw).1
        rw [wait, List.length_append, List.length_singleton] at hlt
        omega
      rw [hlength, hnew] at hw
      cases hw
      refine ⟨⟨events, [], rfl, ?_, ?_⟩, ?_, ?_, ?_⟩
      · rw [hs, hlength]
      · intro _ _ r hr
        cases hr
      · intro _ response hresult
        cases hresult
      · intro _
        rw [hlength]
        exact Dict.get?_insert_self _ _ _
      · intro response hreturned
        cases hreturned
  · intro token i hget
    change (s.waitedAnswer.insert request.token s.waiters.length).get? token = some i at hget
    rw [Dict.get?_insert] at hget
    split_ifs at hget with heq
    · cases hget
      exact ⟨Waiter.new request, hnew, heq.symm⟩
    · obtain ⟨w, hw, htoken⟩ := h.table token i hget
      refine ⟨w, ?_, htoken⟩
      exact (List.getElem?_append_left (List.getElem?_eq_some_iff.mp hw).1).trans hw

theorem Inv.update (P : Platform) (events : List Event) (s s' : State) (e : Event)
    (h : Inv P events s) (f : ℕ → Waiter → Waiter)
    (waiters : ∀ i : ℕ, s'.waiters[i]? = (s.waiters[i]?).map (f i))
    (request : ∀ i w, (f i w).request = w.request)
    (turns : ∀ i w, s.waiters[i]? = some w → Turns e w (f i w).future)
    (slot : ∀ i w, s.waiters[i]? = some w → (f i w).future = .pending →
      s'.waitedAnswer.get? w.request.token = some i)
    (returned : ∀ i w, s.waiters[i]? = some w → ∀ response,
      (f i w).outcome = some (.returned response) → (f i w).future = .result response)
    (table : ∀ token i, s'.waitedAnswer.get? token = some i →
      s.waitedAnswer.get? token = some i) :
    Inv P (events ++ [e]) s' := by
  constructor
  · intro i w' hw'
    rw [waiters, Option.map_eq_some_iff] at hw'
    obtain ⟨w, hw, rfl⟩ := hw'
    exact (h.kept i w hw).step P events s s' i w (f i w) e (request i w) (turns i w hw)
      (slot i w hw) (returned i w hw)
  · intro token i hget
    obtain ⟨w, hw, htoken⟩ := h.table token i (table token i hget)
    refine ⟨f i w, ?_, ?_⟩
    · rw [waiters, hw, Option.map_some]
    · rw [request]
      exact htoken

theorem setResult_cases (P : Platform) (r : Message) (events : List Event) (s : State)
    (h : Inv P events s) (welcome : Welcome P s r) :
    (s.waitedAnswer.get? r.token = none ∧ setResult P r s = (.ok (), s)) ∨
    (∃ i w, Handed s r i w ∧ w.request.multicast = true ∧ setResult P r s =
      (.ok (), s.update i fun w => { w with result := w.result ++ [printed r] })) ∨
    ∃ i w, Handed s r i w ∧ w.request.multicast = false ∧ w.future = .pending ∧
      r.source = w.request.destination ∧ setResult P r s =
        (.ok (), s.update i fun w => { w with future := .result (printed r) }) := by
  obtain ⟨hprintable, hhanded⟩ := welcome
  rw [setResult_printable P r s hprintable]
  cases hget : s.waitedAnswer.get? r.token with
  | none => exact Or.inl ⟨rfl, rfl⟩
  | some i =>
    obtain ⟨w, hw, -⟩ := h.table r.token i hget
    have hthis : Handed s r i w := ⟨hget, hw⟩
    cases hmulticast : w.request.multicast with
    | true =>
      exact Or.inr (Or.inl ⟨i, w, hthis, hmulticast, setFuture_multicast i _ s w hw hmulticast⟩)
    | false =>
      obtain ⟨hpending, hsource⟩ := hhanded i w hthis hmulticast
      exact Or.inr (Or.inr ⟨i, w, hthis, hmulticast, hpending, hsource,
        setFuture_unicast i _ s w hw hmulticast hpending⟩)

/-- A waiter that is not handed the response is not answered by it. -/
theorem not_answers (P : Platform) (events : List Event) (s : State) (h : Inv P events s)
    (r : Message) (i : ℕ) (w : Waiter) (hw : s.waiters[i]? = some w) (pending : w.future = .pending)
    (other : s.waitedAnswer.get? r.token ≠ some i) : ¬ Answers r w.request := by
  rintro ⟨htoken, -⟩
  rw [htoken, (h.kept i w hw).slot pending] at other
  exact other rfl

theorem inv_setResult (P : Platform) (r : Message) (events : List Event) (s : State)
    (h : Inv P events s) (welcome : Welcome P s r) :
    Inv P (events ++ [.setResult r]) (setResult P r s).2 := by
  rcases setResult_cases P r events s h welcome with
    ⟨hnone, heq⟩ | ⟨k, u, hhanded, hmulticast, heq⟩ |
      ⟨k, u, hhanded, hunicast, hpending, hsource, heq⟩
  · rw [heq]
    refine h.update P events s s _ (fun _ w => w) (fun i => by simp) (fun _ _ => rfl) ?_
      (fun i w hw => (h.kept i w hw).slot) (fun i w hw => (h.kept i w hw).returned)
      (fun _ _ => id)
    intro i w hw
    refine .same fun hpend _ q hq => ?_
    cases hq
    exact not_answers P events s h r i w hw hpend
      (by rw [hnone]; exact Option.some_ne_none i ∘ Eq.symm)
  · rw [heq]
    refine h.update P events s _ _ _ (fun i => getElem?_update s k i _) ?_ ?_ ?_ ?_ (fun _ _ => id)
    · intro i w
      split_ifs <;> rfl
    · intro i w hw
      have hfuture : (if k = i then { w with result := w.result ++ [printed r] } else w).future =
          w.future := by split_ifs <;> rfl
      rw [hfuture]
      refine .same fun hpend hunicast q hq => ?_
      cases hq
      refine not_answers P events s h r i w hw hpend ?_
      intro hget
      rw [hhanded.1] at hget
      cases hget
      rw [hhanded.2] at hw
      cases hw
      rw [hmulticast] at hunicast
      cases hunicast
    · intro i w hw hpend
      refine (h.kept i w hw).slot ?_
      split_ifs at hpend <;> exact hpend
    · intro i w hw response hreturned
      have hkept := (h.kept i w hw).returned response
      split_ifs at hreturned ⊢ <;> exact hkept hreturned
  · rw [heq]
    refine h.update P events s _ _ _ (fun i => getElem?_update s k i _) ?_ ?_ ?_ ?_ (fun _ _ => id)
    · intro i w
      split_ifs <;> rfl
    · intro i w hw
      split_ifs with hki
      · subst hki
        rw [hhanded.2] at hw
        cases hw
        obtain ⟨w', hw', htoken⟩ := h.table r.token k hhanded.1
        rw [hhanded.2] at hw'
        cases hw'
        exact .answered r rfl hpending ⟨htoken.symm, hsource⟩
      · refine .same fun hpend _ q hq => ?_
        cases hq
        refine not_answers P events s h r i w hw hpend ?_
        rw [hhanded.1]
        exact fun hget => hki (Option.some.inj hget)
    · intro i w hw hpend
      split_ifs at hpend
      exact (h.kept i w hw).slot hpend
    · intro i w hw response hreturned
      split_ifs at hreturned ⊢ with hki
      · subst hki
        rw [hhanded.2] at hw
        cases hw
        have hresult := (h.kept k u hhanded.2).returned response hreturned
        rw [hpending] at hresult
        cases hresult
      · exact (h.kept i w hw).returned response hreturned

theorem inv_interrupt (P : Platform) (k : ℕ) (e : Interrupt) (atOnce overrides : Bool)
    (events : List Event) (s : State) (h : Inv P events s) :
    Inv P (events ++ [.interrupt k e atOnce overrides]) (interrupt k e atOnce overrides s) := by
  have hfuture : ∀ i w, (if k = i then Waiter.interrupt e atOnce overrides w else w).future =
      w.future ∨ w.future = .pending ∧
        (if k = i then Waiter.interrupt e atOnce overrides w else w).future = .cancelled e := by
    intro i w
    split_ifs
    · exact interrupt_future w e atOnce overrides
    · exact Or.inl rfl
  refine h.update P events s _ _ _ (fun i => getElem?_update s k i _) ?_ ?_ ?_ ?_ (fun _ _ => id)
  · intro i w
    split_ifs
    · exact interrupt_request w e atOnce overrides
    · rfl
  · intro i w hw
    rcases hfuture i w with hsame | ⟨_, hcancelled⟩
    · rw [hsame]
      exact .same fun _ _ r hr => by cases hr
    · rw [hcancelled]
      exact .failed _ (by simp) (by simp)
  · intro i w hw hpend
    refine (h.kept i w hw).slot ?_
    rcases hfuture i w with hsame | ⟨hpending, _⟩
    · rwa [← hsame]
    · exact hpending
  · intro i w hw response hreturned
    have houtcome : (if k = i then Waiter.interrupt e atOnce overrides w else w).outcome =
        w.outcome := by
      split_ifs
      · exact interrupt_outcome w e atOnce overrides
      · rfl
    have hresult := (h.kept i w hw).returned response (houtcome ▸ hreturned)
    rcases hfuture i w with hsame | ⟨hpending, _⟩
    · rw [hsame]
      exact hresult
    · rw [hpending] at hresult
      cases hresult

theorem finish_pending (w : Waiter) (h : w.future = .pending) : w.finish = none := by
  simp only [Waiter.finish, h]

theorem throw_ne_returned (w : Waiter) (e : Interrupt) (response : Message) :
    w.throw e ≠ .returned response := by
  cases e <;> simp only [Waiter.throw] <;> try split_ifs
  all_goals exact fun h => by cases h

theorem future_of_finish (w : Waiter) (response : Message)
    (h : w.finish = some (.returned response)) : w.future = .result response := by
  unfold Waiter.finish at h
  split at h
  · cases h
  · exact absurd (Option.some.inj h) (throw_ne_returned w _ response)
  · cases h
    assumption
  · exact absurd (Option.some.inj h) (throw_ne_returned w _ response)
  · exact absurd (Option.some.inj h) (throw_ne_returned w _ response)

theorem inv_wakeUp (P : Platform) (k : ℕ) (events : List Event) (s : State) (h : Inv P events s)
    (free : TokenFree s (.wakeUp k)) :
    Inv P (events ++ [.wakeUp k]) (wakeUp k s) := by
  have hsame : ∀ w : Waiter, Turns (.wakeUp k) w w.future :=
    fun w => .same fun _ _ r hr => by cases hr
  have hidle : Inv P (events ++ [.wakeUp k]) s :=
    h.update P events s s _ (fun _ w => w) (fun i => by simp) (fun _ _ => rfl)
      (fun _ w _ => hsame w) (fun i w hw => (h.kept i w hw).slot)
      (fun i w hw => (h.kept i w hw).returned) (fun _ _ => id)
  rcases wakeUp_cases k s with heq | ⟨u, e, hu, hpending, heq⟩ |
    ⟨u, outcome, hu, _, houtcome, hfinish, heq⟩
  · rw [heq]
    exact hidle
  · rw [heq]
    have hcancelled : ∀ i w, s.waiters[i]? = some w → k = i →
        Turns (.wakeUp k) w ({ w with future := .cancelled e } : Waiter).future :=
      fun _ _ _ _ => .failed _ (by simp) (by simp)
    refine h.update P events s _ _ _ (fun i => getElem?_update s k i _) ?_ ?_ ?_ ?_ (fun _ _ => id)
    · intro i w
      split_ifs <;> rfl
    · intro i w hw
      split_ifs with hki
      · exact hcancelled i w hw hki
      · exact hsame w
    · intro i w hw hpend
      split_ifs at hpend
      exact (h.kept i w hw).slot hpend
    · intro i w hw response hreturned
      split_ifs at hreturned ⊢ with hki
      · subst hki
        rw [hu] at hw
        cases hw
        have hresult := (h.kept k u hu).returned response hreturned
        rw [hpending] at hresult
        cases hresult
      · exact (h.kept i w hw).returned response hreturned
  · rw [heq]
    refine h.update P events s _ _ _ (fun i => getElem?_update s k i _) ?_ ?_ ?_ ?_ ?_
    · intro i w
      split_ifs <;> rfl
    · intro i w hw
      split_ifs <;> exact hsame w
    · intro i w hw hpend
      have hpend' : w.future = .pending := by split_ifs at hpend <;> exact hpend
      have hslot := (h.kept i w hw).slot hpend'
      -- the slot of a waiter still pending is not that of the one that ends
      have hne : w.request.token ≠ u.key := by
        intro htoken
        have hik := free u i hu houtcome (by rw [hfinish]; exact Option.some_ne_none _)
          (htoken ▸ hslot)
        rw [hik, hu] at hw
        cases hw
        rw [finish_pending u hpend'] at hfinish
        cases hfinish
      exact (Dict.get?_erase_of_ne _ hne).trans hslot
    · intro i w hw response hreturned
      split_ifs at hreturned ⊢ with hki
      · subst hki
        rw [hu] at hw
        cases hw
        cases hreturned
        exact future_of_finish u response hfinish
      · exact (h.kept i w hw).returned response hreturned
    · intro token i hget
      change (s.waitedAnswer.erase u.key).get? token = some i at hget
      rw [Dict.get?_erase] at hget
      split_ifs at hget
      exact hget

theorem inv_cancelWaited (P : Platform) (e : Interrupt) (events : List Event) (s : State)
    (h : Inv P events s) : Inv P (events ++ [.cancelWaited e]) (cancelWaited e s) := by
  obtain ⟨htable, hwaiters⟩ := cancelWaited_eq e s
  have hfail : ∀ w : Waiter, (w.fail e).request = w.request ∧ (w.fail e).outcome = w.outcome ∧
      (w.fail e).future = if w.future = .pending then .exception e else w.future := by
    intro w
    by_cases hpend : w.future = .pending <;> simp [Waiter.fail, hpend]
  refine h.update P events s _ _ _ hwaiters ?_ ?_ ?_ ?_ ?_
  · intro i w
    split_ifs
    · exact (hfail w).1
    · rfl
  · intro i w hw
    have hsame : Turns (.cancelWaited e) w w.future := .same fun _ _ r hr => by cases hr
    split_ifs
    · rw [(hfail w).2.2]
      split_ifs
      · exact .failed _ (by simp) (by simp)
      · exact hsame
    · exact hsame
  · intro i w hw hpend
    -- whoever is pending is in the table and has been failed
    exfalso
    by_cases hwpend : w.future = .pending
    · have hslot := (h.kept i w hw).slot hwpend
      have hmem : i ∈ s.waitedAnswer.entries.map Prod.snd :=
        List.mem_map.mpr ⟨_, (Dict.mem_entries_iff _ _ _).mpr hslot, rfl⟩
      rw [if_pos hmem, (hfail w).2.2, if_pos hwpend] at hpend
      cases hpend
    · split_ifs at hpend
      · rw [(hfail w).2.2, if_neg hwpend] at hpend
        exact hwpend hpend
      · exact hwpend hpend
  · intro i w hw response hreturned
    have hkept := (h.kept i w hw).returned response
    split_ifs at hreturned ⊢
    · rw [(hfail w).2.1] at hreturned
      rw [(hfail w).2.2, hkept hreturned]
      rfl
    · exact hkept hreturned
  · intro token i hget
    rw [htable] at hget
    cases hget

theorem inv_run (P : Platform) (events : List Event)
    (free : ∀ pre e post, events = pre ++ e :: post → TokenFree (run P pre) e)
    (welcome : ∀ pre r post, events = pre ++ .setResult r :: post → Welcome P (run P pre) r) :
    Inv P events (run P events) := by
  refine Runs.run_induction (step P) (Inv P) State.new events ?_ ?_
  · constructor
    · intro i w hw
      cases hw
    · intro token i hget
      cases hget
  · intro pre e post hsplit h
    have hfree := free pre e post hsplit
    cases e with
    | wait request => exact inv_wait P pre request h hfree
    | setResult r => exact inv_setResult P r pre _ h (welcome pre r post hsplit)
    | interrupt k e atOnce overrides => exact inv_interrupt P k e atOnce overrides pre _ h
    | wakeUp k => exact inv_wakeUp P k pre _ h hfree
    | cancelWaited e => exact inv_cancelWaited P e pre _ h

theorem welcome_of_orderly (P : Platform) (events : List Event) (h : Orderly P events)
    (pre : List Event) (r : Message) (post : List Event)
    (hsplit : events = pre ++ .setResult r :: post) : Welcome P (run P pre) r := by
  have hok := h.never_raises pre r post hsplit
  have hprintable : Printable P r := by
    rw [← linePrint_ok_iff]
    cases hline : linePrint P r with
    | ok line => exact ⟨line, rfl⟩
    | error e =>
      unfold setResult at hok
      rw [hline] at hok
      cases hok
  refine ⟨hprintable, ?_⟩
  intro i w hhanded hunicast
  refine ⟨?_, h.own_peer pre r post i w hsplit hhanded hunicast⟩
  rw [setResult_printable P r _ hprintable, hhanded.1] at hok
  simp only [setFuture, hhanded.2, hunicast, Bool.false_eq_true, ↓reduceIte] at hok
  cases hfuture : w.future with
  | pending => rfl
  | result _ => rw [hfuture] at hok; cases hok
  | exception _ => rw [hfuture] at hok; cases hok
  | cancelled _ => rw [hfuture] at hok; cases hok

theorem orderly_of_welcome (P : Platform) (events : List Event)
    (free : ∀ pre e post, events = pre ++ e :: post → TokenFree (run P pre) e)
    (welcome : ∀ pre r post, events = pre ++ .setResult r :: post → Welcome P (run P pre) r) :
    Orderly P events := by
  -- the invariant holds before every event of the run
  have hinv : ∀ pre later, events = pre ++ later → Inv P pre (run P pre) := by
    intro pre later hsplit
    refine inv_run P pre (fun q e post hpre => ?_) (fun q r post hpre => ?_)
    · exact free q e (post ++ later) (by rw [hsplit, hpre, List.append_assoc, List.cons_append])
    · exact welcome q r (post ++ later) (by rw [hsplit, hpre, List.append_assoc, List.cons_append])
  constructor
  · intro pre r post hsplit
    rcases setResult_cases P r pre _ (hinv pre _ hsplit) (welcome pre r post hsplit) with
      ⟨-, heq⟩ | ⟨_, _, -, -, heq⟩ | ⟨_, _, -, -, -, -, heq⟩
    all_goals rw [heq]
  · intro i w response hw hunicast hreturned
    have hkept := (hinv events [] (List.append_nil events).symm).kept i w hw
    exact hkept.first hunicast response (hkept.returned response hreturned)
  · intro pre r post i w hsplit hw hunicast hpending hanswers
    have hkept := (hinv pre _ hsplit).kept i w hw
    have hslot : (run P pre).waitedAnswer.get? r.token = some i := by
      rw [hanswers.1]
      exact hkept.slot hpending
    rw [run_concat]
    change (setResult P r (run P pre)).2.waiters[i]? = _
    rw [setResult_printable P r _ (welcome pre r post hsplit).1, hslot]
    dsimp only
    rw [setFuture_unicast i _ _ w hw hunicast hpending, getElem?_update, hw]
    simp
  · intro pre i post w response _ hw houtcome hinterrupted hfuture
    rw [run_concat]
    exact wakeUp_returns i _ w response hw houtcome hinterrupted hfuture
  · intro pre r post i w hsplit hhanded hunicast
    exact ((welcome pre r post hsplit).2 i w hhanded hunicast).2
  · intro pre r post i w j w' hsplit hhanded hw' hpending hother hanswers
    have hslot := ((hinv pre _ hsplit).kept j w' hw').slot hpending
    rw [← hanswers.1, hhanded.1] at hslot
    cases hslot
    rw [hhanded.2] at hw'
    cases hw'
    exact hother rfl

/-- Which runs keep the promise, where no wait begins or ends under a token in another's use. -/
theorem orderly_iff (P : Platform) (events : List Event)
    (free : ∀ pre e post, events = pre ++ e :: post → TokenFree (run P pre) e) :
    Orderly P events ↔
      ∀ pre r post, events = pre ++ .setResult r :: post → Welcome P (run P pre) r :=
  ⟨fun h pre r post => welcome_of_orderly P events h pre r post,
    orderly_of_welcome P events free⟩

def samplePeer : Address := ("10.0.0.1".toList, 5683)

def sampleRequest : Message :=
  { Message.new .request with token := some [1], destination := some samplePeer }

def sampleResponse : Message :=
  { Message.new .response with token := some [1], code := some 69, source := some samplePeer }

theorem orderly_sample :
    Orderly plainPlatform [.wait sampleRequest, .setResult sampleResponse, .wakeUp 0] := by
  refine (orderly_iff plainPlatform [.wait sampleRequest, .setResult sampleResponse, .wakeUp 0]
    ?_).mpr ?_
  · rw [Runs.forall_event_cons fun pre e => TokenFree (run plainPlatform pre) e,
      Runs.forall_event_cons fun pre e => TokenFree (run plainPlatform (_ :: pre)) e,
      Runs.forall_event_cons fun pre e => TokenFree (run plainPlatform (_ :: _ :: pre)) e]
    refine ⟨rfl, trivial, ?_, Runs.forall_event_nil _⟩
    intro w j hw _ _ hj
    cases hw
    cases hj
    rfl
  · intro pre r post hsplit
    have hpre : pre = [.wait sampleRequest] ∧ r = sampleResponse := by
      rcases pre with _ | ⟨a, _ | ⟨b, _ | ⟨c, pre⟩⟩⟩
      · cases hsplit
      · cases hsplit
        exact ⟨rfl, rfl⟩
      · cases hsplit
      · simp at hsplit
    obtain ⟨rfl, rfl⟩ := hpre
    refine ⟨(linePrint_ok_iff plainPlatform sampleResponse).mp ⟨_, rfl⟩, ?_⟩
    rintro i w ⟨hget, hw⟩ -
    cases hget
    cases hw
    exact ⟨rfl, rfl⟩

/-- The response comes twice before the waiting task runs again. -/
theorem not_orderly_repeated :
    ¬ ∀ events : List Event, Orderly plainPlatform events := by
  intro h
  have hok := (h [.wait sampleRequest, .setResult sampleResponse, .setResult sampleResponse])
    |>.never_raises [.wait sampleRequest, .setResult sampleResponse] sampleResponse [] rfl
  cases hok

end BubotCoap.CallbackLayer
