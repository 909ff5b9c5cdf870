import BubotCoap.Defines
import BubotCoap.Runs

set_option autoImplicit false

/-!
# The transaction lock

The tasks that touch one transaction while its request is handled, as a step
relation over the lock of `transaction.py`, which a task cannot acquire twice:
`receive_request` of `server.py` with the handler of `resource_layer.py`, the
separate timer, `_retransmit`, and any others that hold the lock for a while.
-/
namespace BubotCoap.TransactionLock
open Defines Runs

/-- What becomes of the request behind the block and observe layers. -/
inductive Outcome where
  | unhandled
  /-- The handler returns a tuple without a callback. -/
  | immediate
  /-- `_handle_separate` is called. -/
  | separate
  /-- `_handle_separate_advanced` is called. -/
  | separateAdvanced
  | raises
  deriving DecidableEq

def Outcome.defers : Outcome → Bool
  | .separate => true
  | .separateAdvanced => true
  | _ => false

inductive TaskId where
  | main
  | timer
  | retransmit
  | other (i : ℕ)
  deriving DecidableEq

/-- Where `receive_request` stands. -/
inductive Main where
  | acquiring
  | starting
  | handling
  /-- At the test of the acknowledged flag. -/
  | deferring
  /-- In the `send_ack` called from there, which acquires the lock. -/
  | acknowledging
  | callback
  | replying
  | sending
  | done
  | failed
  deriving DecidableEq

/-- Where the separate timer stands; after a `send_ack` it sleeps again. -/
inductive Timer where
  | absent
  | sleeping
  | acquiring
  | holding
  | cancelled
  deriving DecidableEq

inductive Retransmit where
  | absent
  | acquiring
  | holding
  | done
  deriving DecidableEq

structure State where
  type : MsgType
  outcome : Outcome
  /-- Whether the response starts a retransmission. -/
  retransmits : Bool
  lock : Option TaskId
  main : Main
  timer : Timer
  retransmit : Retransmit
  acknowledged : Bool
  ackSent : Bool
  callbackRun : Bool

/-- A request that has just been received. -/
def State.start (type : MsgType) (outcome : Outcome) (retransmits : Bool) : State where
  type := type
  outcome := outcome
  retransmits := retransmits
  lock := none
  main := .acquiring
  timer := .absent
  retransmit := .absent
  acknowledged := false
  ackSent := false
  callbackRun := false

namespace State

/-- The body of `send_ack`, once it holds the lock. -/
def sendAck (s : State) : State :=
  if s.acknowledged = false ∧ s.type = .CON then { s with acknowledged := true, ackSent := true }
  else s

def handlerReturns (s : State) : State :=
  match s.outcome with
  | .separate => { s with main := .deferring }
  | .separateAdvanced => { s with main := .deferring }
  -- the timer is not stopped
  | .raises => { s with lock := none, main := .failed }
  | _ => { s with main := .replying }

def stepMain (s : State) : State :=
  match s.main with
  | .acquiring => if s.lock = none then { s with lock := some .main, main := .starting } else s
  | .starting => { s with timer := .sleeping, main := .handling }
  | .handling => s.handlerReturns
  | .deferring =>
    if s.acknowledged then { s with main := .callback } else { s with main := .acknowledging }
  | .acknowledging =>
    if s.lock = none then { s.sendAck with acknowledged := true, main := .callback } else s
  | .callback => { s with callbackRun := true, main := .replying }
  | .replying =>
    { s with
      timer := .cancelled
      acknowledged := true
      retransmit := if s.retransmits then .acquiring else .absent
      main := .sending }
  | .sending => { s with lock := none, main := .done }
  | .done => s
  | .failed => s

def stepTimer (s : State) : State :=
  match s.timer with
  | .sleeping => { s with timer := .acquiring }
  | .acquiring =>
    if s.lock = none then { s.sendAck with lock := some .timer, timer := .holding } else s
  | .holding => { s with lock := none, timer := .sleeping }
  | _ => s

def stepRetransmit (s : State) : State :=
  match s.retransmit with
  | .acquiring =>
    if s.lock = none then { s with lock := some .retransmit, retransmit := .holding } else s
  | .holding => { s with lock := none, retransmit := .done }
  | _ => s

/-- A task of another kind acquires the lock or releases it. -/
def stepOther (i : ℕ) (s : State) : State :=
  if s.lock = none then { s with lock := some (.other i) }
  else if s.lock = some (.other i) then { s with lock := none }
  else s

def Waits (s : State) : TaskId → Prop
  | .main => s.main = .acquiring ∨ s.main = .acknowledging
  | .timer => s.timer = .acquiring
  | .retransmit => s.retransmit = .acquiring
  | .other _ => False

def SelfDeadlock (s : State) : Prop := ∃ task, s.Waits task ∧ s.lock = some task

end State

inductive Event where
  | move (task : TaskId)
  /-- An empty message marks the request as acknowledged. -/
  | acknowledgement
  deriving DecidableEq

def step (s : State) : Event → State
  | .move .main => s.stepMain
  | .move .timer => s.stepTimer
  | .move .retransmit => s.stepRetransmit
  | .move (.other i) => s.stepOther i
  | .acknowledgement => { s with acknowledged := true }

/-- `receive_request` is between acquiring the lock and releasing it. -/
def Main.inside : Main → Bool
  | .acquiring => false
  | .done => false
  | .failed => false
  | _ => true

/-- Each task owns the lock exactly where its code is inside it. -/
structure Owned (s : State) : Prop where
  main : s.lock = some .main ↔ s.main.inside = true
  timer : s.lock = some .timer ↔ s.timer = .holding
  retransmit : s.lock = some .retransmit ↔ s.retransmit = .holding

theorem owned_start (type : MsgType) (outcome : Outcome) (retransmits : Bool) :
    Owned (.start type outcome retransmits) := by
  constructor <;> simp [State.start, Main.inside]

theorem sendAck_main (s : State) : s.sendAck.main = s.main := by
  unfold State.sendAck
  split <;> rfl

theorem sendAck_outcome (s : State) : s.sendAck.outcome = s.outcome := by
  unfold State.sendAck
  split <;> rfl

theorem sendAck_retransmit (s : State) : s.sendAck.retransmit = s.retransmit := by
  unfold State.sendAck
  split <;> rfl

/-- A step inside the lock, which keeps its owner. -/
theorem owned_inside (s : State) (h : Owned s) (hm : s.main.inside = true) (m : Main)
    (hm' : m.inside = true) : Owned { s with main := m } :=
  ⟨⟨fun _ => hm', fun _ => h.main.mpr hm⟩, h.timer, h.retransmit⟩

theorem owned_release (s : State) (h : Owned s) (hm : s.main.inside = true) (m : Main)
    (hm' : m.inside = false) : Owned { s with lock := none, main := m } := by
  have hlock := h.main.mpr hm
  obtain ⟨_, h₂, h₃⟩ := h
  rw [hlock] at h₂ h₃
  constructor
  · simp [hm']
  · simp [← h₂]
  · simp [← h₃]

theorem owned_main (s : State) (h : Owned s) : Owned s.stepMain := by
  unfold State.stepMain
  split
  · next hm =>
    split
    · next hfree =>
      obtain ⟨_, h₂, h₃⟩ := h
      rw [hfree] at h₂ h₃
      constructor
      · simp [Main.inside]
      · simp [← h₂]
      · simp [← h₃]
    · exact h
  · next hm =>
    have hlock := h.main.mpr (by rw [hm]; rfl)
    refine ⟨⟨fun _ => rfl, fun _ => hlock⟩, ?_, h.retransmit⟩
    simp [hlock]
  · next hm =>
    have hin : s.main.inside = true := by rw [hm]; rfl
    unfold State.handlerReturns
    split
    · exact owned_inside s h hin _ rfl
    · exact owned_inside s h hin _ rfl
    · exact owned_release s h hin _ rfl
    · exact owned_inside s h hin _ rfl
  · next hm =>
    have hin : s.main.inside = true := by rw [hm]; rfl
    split
    · exact owned_inside s h hin _ rfl
    · exact owned_inside s h hin _ rfl
  · next hm =>
    -- the nested acquisition fails: the lock is this task's own
    have hlock := h.main.mpr (by rw [hm]; rfl)
    rw [if_neg (by simp [hlock])]
    exact h
  · next hm =>
    have hin : s.main.inside = true := by rw [hm]; rfl
    exact owned_inside { s with callbackRun := true } ⟨h.main, h.timer, h.retransmit⟩ hin _ rfl
  · next hm =>
    have hlock := h.main.mpr (by rw [hm]; rfl)
    refine ⟨⟨fun _ => rfl, fun _ => hlock⟩, ?_, ?_⟩
    · simp [hlock]
    · simp only [hlock]
      split <;> simp
  · next hm => exact owned_release s h (by rw [hm]; rfl) _ rfl
  · exact h
  · exact h

theorem owned_timer (s : State) (h : Owned s) : Owned s.stepTimer := by
  unfold State.stepTimer
  split
  · next ht =>
    refine ⟨h.main, ?_, h.retransmit⟩
    have hlock := h.timer.not.mpr (by simp [ht])
    simp [hlock]
  · next ht =>
    split
    · next hfree =>
      obtain ⟨h₁, _, h₃⟩ := h
      rw [hfree] at h₁ h₃
      constructor
      · simp [sendAck_main, ← h₁]
      · simp
      · simp [sendAck_retransmit, ← h₃]
    · exact h
  · next ht =>
    have hlock := h.timer.mpr ht
    obtain ⟨h₁, _, h₃⟩ := h
    rw [hlock] at h₁ h₃
    constructor
    · simp [← h₁]
    · simp
    · simp [← h₃]
  · exact h

theorem owned_retransmit (s : State) (h : Owned s) : Owned s.stepRetransmit := by
  unfold State.stepRetransmit
  split
  · next hr =>
    split
    · next hfree =>
      obtain ⟨h₁, h₂, _⟩ := h
      rw [hfree] at h₁ h₂
      constructor
      · simp [← h₁]
      · simp [← h₂]
      · simp
    · exact h
  · next hr =>
    have hlock := h.retransmit.mpr hr
    obtain ⟨h₁, h₂, _⟩ := h
    rw [hlock] at h₁ h₂
    constructor
    · simp [← h₁]
    · simp [← h₂]
    · simp
  · exact h

theorem owned_other (i : ℕ) (s : State) (h : Owned s) : Owned (s.stepOther i) := by
  obtain ⟨h₁, h₂, h₃⟩ := h
  unfold State.stepOther
  split
  · next hfree =>
    rw [hfree] at h₁ h₂ h₃
    constructor
    · simp [← h₁]
    · simp [← h₂]
    · simp [← h₃]
  · split
    · next hlock =>
      rw [hlock] at h₁ h₂ h₃
      constructor
      · simp [← h₁]
      · simp [← h₂]
      · simp [← h₃]
    · exact ⟨h₁, h₂, h₃⟩

theorem owned_step (s : State) (e : Event) (h : Owned s) : Owned (step s e) := by
  cases e with
  | move task =>
    cases task with
    | main => exact owned_main s h
    | timer => exact owned_timer s h
    | retransmit => exact owned_retransmit s h
    | other i => exact owned_other i s h
  | acknowledgement => exact ⟨h.main, h.timer, h.retransmit⟩

theorem run_owned (type : MsgType) (outcome : Outcome) (retransmits : Bool)
    (events : List Event) : Owned (run step (.start type outcome retransmits) events) := by
  refine run_induction step (fun _ s => Owned s) _ events
    (owned_start type outcome retransmits) ?_
  intro pre e _ _ ih
  exact owned_step _ e ih

theorem selfDeadlock_iff (s : State) (h : Owned s) :
    s.SelfDeadlock ↔ s.main = .acknowledging := by
  constructor
  · rintro ⟨task, hwaits, hlock⟩
    cases task with
    | main =>
      have hin := h.main.mp hlock
      rcases hwaits with hm | hm
      · rw [hm] at hin
        cases hin
      · exact hm
    | timer =>
      have hholds := h.timer.mp hlock
      rw [show s.timer = .acquiring from hwaits] at hholds
      cases hholds
    | retransmit =>
      have hholds := h.retransmit.mp hlock
      rw [show s.retransmit = .acquiring from hwaits] at hholds
      cases hholds
    | other i => exact hwaits.elim
  · intro hm
    exact ⟨.main, Or.inr hm, h.main.mpr (by rw [hm]; rfl)⟩

/-- The other tasks leave `receive_request` where it is. -/
theorem step_elsewhere (s : State) (e : Event) (he : e ≠ .move .main) :
    (step s e).main = s.main ∧ (step s e).outcome = s.outcome := by
  cases e with
  | move task =>
    cases task with
    | main => exact absurd rfl he
    | timer =>
      change s.stepTimer.main = _ ∧ s.stepTimer.outcome = _
      unfold State.stepTimer
      split
      · exact ⟨rfl, rfl⟩
      · split
        · exact ⟨sendAck_main s, sendAck_outcome s⟩
        · exact ⟨rfl, rfl⟩
      · exact ⟨rfl, rfl⟩
      · exact ⟨rfl, rfl⟩
    | retransmit =>
      change s.stepRetransmit.main = _ ∧ s.stepRetransmit.outcome = _
      unfold State.stepRetransmit
      split
      · split <;> exact ⟨rfl, rfl⟩
      · exact ⟨rfl, rfl⟩
      · exact ⟨rfl, rfl⟩
    | other i =>
      change (s.stepOther i).main = _ ∧ (s.stepOther i).outcome = _
      unfold State.stepOther
      split
      · exact ⟨rfl, rfl⟩
      · split <;> exact ⟨rfl, rfl⟩
  | acknowledgement => exact ⟨rfl, rfl⟩

/-- Who waits for the lock in the nested `send_ack` waits for ever. -/
theorem acknowledging_step (s : State) (e : Event) (h : Owned s) (hm : s.main = .acknowledging) :
    (step s e).main = .acknowledging := by
  by_cases he : e = .move .main
  · have hlock := h.main.mpr (by rw [hm]; rfl)
    rw [he]
    change s.stepMain.main = _
    unfold State.stepMain
    rw [hm]
    dsimp only
    rw [if_neg (by simp [hlock])]
    exact hm
  · rw [(step_elsewhere s e he).1, hm]

theorem acknowledging_forever (s : State) (events : List Event) (h : Owned s)
    (hm : s.main = .acknowledging) : (run step s events).main = .acknowledging := by
  induction events generalizing s with
  | nil => exact hm
  | cons e events ih =>
    exact ih (step s e) (owned_step s e h) (acknowledging_step s e h hm)

theorem enters_acknowledging (s : State) (e : Event) (h : (step s e).main = .acknowledging) :
    s.main = .acknowledging ∨ (e = .move .main ∧ s.main = .deferring ∧ s.acknowledged = false) := by
  by_cases he : e = .move .main
  · rw [he] at h
    change s.stepMain.main = _ at h
    unfold State.stepMain at h
    split at h
    · next hm =>
      split at h
      · cases h
      · exact Or.inl h
    · cases h
    · unfold State.handlerReturns at h
      split at h <;> cases h
    · next hm =>
      split at h
      · cases h
      · next hack => exact Or.inr ⟨he, hm, by simpa using hack⟩
    · next hm => exact Or.inl hm
    · cases h
    · cases h
    · cases h
    · exact Or.inl h
    · exact Or.inl h
  · rw [(step_elsewhere s e he).1] at h
    exact Or.inl h

/-- Where every handler that defers finds the request acknowledged, no task waits for itself. -/
theorem no_self_deadlock (type : MsgType) (outcome : Outcome) (retransmits : Bool)
    (events : List Event)
    (h : ∀ pre post, events = pre ++ .move .main :: post →
      (run step (.start type outcome retransmits) pre).main = .deferring →
      (run step (.start type outcome retransmits) pre).acknowledged = true) :
    ¬ (run step (.start type outcome retransmits) events).SelfDeadlock := by
  rw [selfDeadlock_iff _ (run_owned type outcome retransmits events)]
  refine run_induction step (fun _ s => ¬ s.main = .acknowledging) _ events ?_ ?_
  · intro hm
    cases hm
  · intro pre e post hsplit ih hm
    rcases enters_acknowledging _ e hm with hin | ⟨rfl, hdefer, hack⟩
    · exact ih hin
    · rw [h pre post hsplit hdefer] at hack
      cases hack

/-- No task ever waits for itself, and a handler that defers has its acknowledgement sent and its
callback run. -/
def Safe (type : MsgType) (outcome : Outcome) : Prop :=
  ∀ retransmits events, ¬ (run step (.start type outcome retransmits) events).SelfDeadlock ∧
    (outcome.defers = true → (run step (.start type outcome retransmits) events).main = .done →
      (run step (.start type outcome retransmits) events).callbackRun = true ∧
        (type = .CON → (run step (.start type outcome retransmits) events).ackSent = true))

structure Direct (s : State) : Prop where
  outcome : s.outcome.defers = false
  main : s.main ≠ .deferring

theorem direct_step (s : State) (e : Event) (h : Direct s) : Direct (step s e) := by
  obtain ⟨houtcome, hmain⟩ := h
  by_cases he : e = .move .main
  · rw [he]
    change Direct s.stepMain
    unfold State.stepMain
    split
    · split
      · exact ⟨houtcome, by simp⟩
      · exact ⟨houtcome, hmain⟩
    · exact ⟨houtcome, by simp⟩
    · unfold State.handlerReturns
      split
      · next ho => rw [ho] at houtcome; cases houtcome
      · next ho => rw [ho] at houtcome; cases houtcome
      · exact ⟨houtcome, by simp⟩
      · exact ⟨houtcome, by simp⟩
    · next hm => exact absurd hm hmain
    · split
      · exact ⟨by rw [← houtcome, ← sendAck_outcome s], by simp⟩
      · exact ⟨houtcome, hmain⟩
    · exact ⟨houtcome, by simp⟩
    · exact ⟨houtcome, by simp⟩
    · exact ⟨houtcome, by simp⟩
    · exact ⟨houtcome, hmain⟩
    · exact ⟨houtcome, hmain⟩
  · obtain ⟨hm, ho⟩ := step_elsewhere s e he
    exact ⟨by rw [ho, houtcome], by rw [hm]; exact hmain⟩

/-- Handling a request is free of self-deadlocks exactly if its handler does not defer. -/
theorem lock_safe_iff (type : MsgType) (outcome : Outcome) :
    Safe type outcome ↔ outcome.defers = false := by
  constructor
  · intro h
    by_contra hdefers
    have hdead : (run step (.start type outcome false)
        (List.replicate 4 (.move .main))).SelfDeadlock := by
      refine ⟨.main, Or.inr ?_, ?_⟩
      · cases outcome <;> first | rfl | exact absurd rfl hdefers
      · cases outcome <;> first | rfl | exact absurd rfl hdefers
    exact (h false _).1 hdead
  · intro hdirect retransmits events
    refine ⟨no_self_deadlock type outcome retransmits events ?_, ?_⟩
    · intro pre post _ hdefer
      have hnever : Direct (run step (.start type outcome retransmits) pre) := by
        refine run_induction step (fun _ s => Direct s) _ pre ⟨hdirect, by simp [State.start]⟩ ?_
        intro pre e _ _ ih
        exact direct_step _ e ih
      exact absurd hdefer hnever.main
    · intro hdefers
      rw [hdirect] at hdefers
      cases hdefers

/-- A confirmable request whose handler returns a callback before the separate timer fires. -/
theorem separate_self_deadlock :
    (run step (.start .CON .separate false) (List.replicate 4 (.move .main))).SelfDeadlock ∧
      ¬ Safe .CON .separate := by
  have hdead : (run step (.start .CON .separate false)
      (List.replicate 4 (.move .main))).SelfDeadlock := ⟨.main, Or.inr rfl, rfl⟩
  exact ⟨hdead, fun h => (h false _).1 hdead⟩

end BubotCoap.TransactionLock
