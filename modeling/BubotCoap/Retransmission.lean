import BubotCoap.Messages
import BubotCoap.Runs
import Mathlib.Tactic.Ring

set_option autoImplicit false

/-!
# Retransmission

`start_retransmission` and `_retransmit` of `server.py`, together with the
statements around them at the four places that send a confirmable message. A
run interleaves the sending coroutine, the retransmission task and what
arrives.
-/
namespace BubotCoap.Retransmission
open PythonData Defines Messages Runs

inductive Sender where
  | sendMessage
  | sendBlockRequest
  | receiveRequest
  | notify
  deriving DecidableEq

inductive Statement where
  /-- `transaction.request.acknowledged = False` -/
  | clearAcknowledged
  | sendDatagram
  | startRetransmission
  deriving DecidableEq

def Sender.statements : Sender → List Statement
  | .sendMessage => [.sendDatagram, .startRetransmission]
  | .sendBlockRequest => [.clearAcknowledged, .sendDatagram, .startRetransmission]
  | .receiveRequest => [.startRetransmission, .sendDatagram]
  | .notify => [.startRetransmission, .sendDatagram]

inductive Task where
  | absent
  | created (futureTime : ℚ)
  | waiting (futureTime : ℚ) (retransmitCount : ℕ)
  | finished
  deriving DecidableEq

/-- A message that is being sent. -/
structure Sending where
  sender : Sender
  message : Message
  overTcp : Bool
  /-- What `random.uniform` returns. -/
  futureTime : ℚ
  statements : List Statement
  task : Task
  /-- The transaction's event, and whether it is set. -/
  retransmitStop : Option Bool
  stopped : Bool
  transmissions : ℕ
  /-- The waits that have run out. -/
  waits : List ℚ

def Sending.start (sender : Sender) (message : Message) (futureTime : ℚ) : Sending where
  sender := sender
  message := message
  overTcp := false
  futureTime := futureTime
  statements := sender.statements
  task := .absent
  retransmitStop := none
  stopped := false
  transmissions := 0
  waits := []

namespace Sending

/-- Neither acknowledged nor rejected, and the server goes on. -/
def Unanswered (s : Sending) : Prop :=
  s.message.acknowledged = false ∧ s.message.rejected = false ∧ s.stopped = false

instance (s : Sending) : Decidable s.Unanswered :=
  inferInstanceAs (Decidable (_ ∧ _ ∧ _))

def startRetransmission (s : Sending) : Sending :=
  if s.message.type = some .CON ∧ s.message.acknowledged = true ∧ s.overTcp = false then
    { s with task := .created s.futureTime, retransmitStop := some false }
  else s

def exit (s : Sending) : Sending :=
  { s with
    message :=
      if s.message.acknowledged = true ∨ s.message.rejected = true then s.message.setTimeouted false
      else s.message.setTimeouted true
    retransmitStop := none
    task := .finished }

/-- The condition of the loop. -/
def loop (futureTime : ℚ) (retransmitCount : ℕ) (s : Sending) : Sending :=
  if retransmitCount < maxRetransmit ∧ s.Unanswered then
    { s with task := .waiting futureTime retransmitCount }
  else s.exit

/-- The rest of the loop's body; of the last round the datagram is left out. -/
def afterWait (futureTime : ℚ) (retransmitCount : ℕ) (s : Sending) : Sending :=
  if s.Unanswered then
    loop (futureTime * 2) (retransmitCount + 1)
      (if retransmitCount + 1 < maxRetransmit then
        { s with transmissions := s.transmissions + 1 }
      else s)
  else loop futureTime retransmitCount s

/-- A wait that no event has cut short. -/
def waited (futureTime : ℚ) (s : Sending) : Sending :=
  if s.retransmitStop = some false then { s with waits := s.waits ++ [futureTime] } else s

/-- The task goes on: it gets the lock, its wait has run out, or the event ends its wait. -/
def retransmit (s : Sending) : Sending :=
  match s.task with
  | .absent => s
  | .created futureTime =>
    -- `receive_request` holds the lock to its end
    if s.sender = .receiveRequest ∧ s.statements ≠ [] then s else loop futureTime 0 s
  | .waiting futureTime retransmitCount =>
    (s.waited futureTime).afterWait futureTime retransmitCount
  | .finished => s

/-- The next statement of the sender. -/
def send (s : Sending) : Sending :=
  match s.statements with
  | [] => s
  | .clearAcknowledged :: rest =>
    { s with message := s.message.setAcknowledged false, statements := rest }
  | .sendDatagram :: rest => { s with transmissions := s.transmissions + 1, statements := rest }
  | .startRetransmission :: rest => ({ s with statements := rest } : Sending).startRetransmission

end Sending

inductive Event where
  | sender
  | task
  | acknowledgement
  | reset
  | stop
  deriving DecidableEq

def step (s : Sending) : Event → Sending
  | .sender => s.send
  | .task => s.retransmit
  | .acknowledgement =>
    { s with
      message := s.message.setAcknowledged true
      retransmitStop := s.retransmitStop.map fun _ => true }
  | .reset =>
    { s with
      message := s.message.setRejected true
      retransmitStop := s.retransmitStop.map fun _ => true }
  | .stop => { s with stopped := true, retransmitStop := s.retransmitStop.map fun _ => true }

theorem step_task (s : Sending) : step s .task = s.retransmit := rfl

/-- Nothing arrives. -/
def Quiet (events : List Event) : Prop := ∀ e ∈ events, e = .sender ∨ e = .task

/-- Neither the sender nor the task has anything left to do. -/
def Complete (s : Sending) : Prop := s.statements = [] ∧ (s.task = .absent ∨ s.task = .finished)

/-- If nothing arrives, the message is sent once and `MAX_RETRANSMIT` times again, the waits double
from the first on, and it is marked as timed out. -/
def GivesUp (sender : Sender) (message : Message) (futureTime : ℚ) : Prop :=
  ∀ events, Quiet events → Complete (run step (.start sender message futureTime) events) →
    (run step (.start sender message futureTime) events).transmissions = 1 + maxRetransmit ∧
      (∀ i < maxRetransmit, (run step (.start sender message futureTime) events).waits[i]? =
        some (futureTime * 2 ^ i)) ∧
      (run step (.start sender message futureTime) events).message.timeouted = true

/-- Once the message is sent, an acknowledgement ends the transmissions. -/
def StopsWhenAcknowledged (sender : Sender) (message : Message) (futureTime : ℚ) : Prop :=
  ∀ pre post, 1 ≤ (run step (.start sender message futureTime) pre).transmissions →
    (run step (.start sender message futureTime) (pre ++ .acknowledgement :: post)).transmissions =
      (run step (.start sender message futureTime) pre).transmissions

def Reliable (sender : Sender) (message : Message) (futureTime : ℚ) : Prop :=
  GivesUp sender message futureTime ∧ StopsWhenAcknowledged sender message futureTime

/-- A task that is alive belongs to a message that has been acknowledged or rejected, and the only
transmission is the sender's. -/
structure SentOnce (s : Sending) : Prop where
  answered : s.task = .absent ∨ s.task = .finished ∨
    s.message.acknowledged = true ∨ s.message.rejected = true
  cleared : .clearAcknowledged ∈ s.statements → s.task = .absent
  order : .clearAcknowledged ∉ s.statements.tail
  once : s.transmissions + s.statements.count .sendDatagram = 1

theorem sentOnce_start (sender : Sender) (message : Message) (futureTime : ℚ) :
    SentOnce (.start sender message futureTime) where
  answered := Or.inl rfl
  cleared _ := rfl
  order := by
    have key : ∀ sender : Sender, .clearAcknowledged ∉ sender.statements.tail := by
      intro sender
      cases sender <;> decide
    exact key sender
  once := by cases sender <;> rfl

theorem not_unanswered (s : Sending)
    (h : s.message.acknowledged = true ∨ s.message.rejected = true) : ¬ s.Unanswered := by
  rintro ⟨hack, hrej, _⟩
  rcases h with h | h
  · rw [hack] at h
    cases h
  · rw [hrej] at h
    cases h

theorem sentOnce_send (s : Sending) (h : SentOnce s) : SentOnce s.send := by
  obtain ⟨hanswered, hcleared, horder, honce⟩ := h
  unfold Sending.send
  split
  · exact ⟨hanswered, hcleared, horder, honce⟩
  · next rest hs =>
    rw [hs] at hcleared horder honce
    have htask := hcleared List.mem_cons_self
    refine ⟨Or.inl htask, fun _ => htask, fun hin => horder (List.mem_of_mem_tail hin), ?_⟩
    rw [List.count_cons_of_ne (by decide)] at honce
    exact honce
  · next rest hs =>
    rw [hs] at hcleared horder honce
    refine ⟨hanswered, fun hin => hcleared (List.mem_cons_of_mem _ hin),
      fun hin => horder (List.mem_of_mem_tail hin), ?_⟩
    rw [List.count_cons_self] at honce
    dsimp only
    omega
  · next rest hs =>
    rw [hs] at hcleared horder honce
    rw [List.count_cons_of_ne (by decide)] at honce
    have hnone : .clearAcknowledged ∉ rest := horder
    unfold Sending.startRetransmission
    split
    · next hguard =>
      refine ⟨Or.inr (Or.inr (Or.inl hguard.2.1)), fun hin => absurd hin hnone, ?_, honce⟩
      exact fun hin => hnone (List.mem_of_mem_tail hin)
    · refine ⟨hanswered, fun hin => absurd hin hnone, ?_, honce⟩
      exact fun hin => hnone (List.mem_of_mem_tail hin)

theorem sentOnce_exit (s : Sending) (h : SentOnce s) (htask : s.task ≠ .absent) :
    SentOnce s.exit where
  answered := Or.inr (Or.inl rfl)
  cleared hin := absurd (h.cleared hin) htask
  order := h.order
  once := h.once

theorem waited_task (s : Sending) (futureTime : ℚ) : (s.waited futureTime).task = s.task := by
  unfold Sending.waited
  split <;> rfl

theorem waited_transmissions (s : Sending) (futureTime : ℚ) :
    (s.waited futureTime).transmissions = s.transmissions := by
  unfold Sending.waited
  split <;> rfl

theorem sentOnce_waited (s : Sending) (futureTime : ℚ) (h : SentOnce s) :
    SentOnce (s.waited futureTime) := by
  unfold Sending.waited
  split
  · exact ⟨h.answered, h.cleared, h.order, h.once⟩
  · exact h

theorem sentOnce_retransmit (s : Sending) (h : SentOnce s) : SentOnce s.retransmit := by
  unfold Sending.retransmit
  split
  · exact h
  · next futureTime htask =>
    split
    · exact h
    · have hno := not_unanswered s (by simpa [htask] using h.answered)
      unfold Sending.loop
      rw [if_neg fun hand => hno hand.2]
      exact sentOnce_exit s h (by rw [htask]; simp)
  · next futureTime count htask =>
    have hsame := sentOnce_waited s futureTime h
    have hwaiting : (s.waited futureTime).task = .waiting futureTime count := by
      rw [waited_task, htask]
    generalize s.waited futureTime = s' at hsame hwaiting
    have hno := not_unanswered s' (by simpa [hwaiting] using hsame.answered)
    unfold Sending.afterWait
    rw [if_neg hno]
    unfold Sending.loop
    rw [if_neg fun hand => hno hand.2]
    exact sentOnce_exit s' hsame (by rw [hwaiting]; simp)
  · exact h

theorem sentOnce_step (s : Sending) (e : Event) (h : SentOnce s) : SentOnce (step s e) := by
  cases e with
  | sender => exact sentOnce_send s h
  | task => exact sentOnce_retransmit s h
  | acknowledgement => exact ⟨Or.inr (Or.inr (Or.inl rfl)), h.cleared, h.order, h.once⟩
  | reset => exact ⟨Or.inr (Or.inr (Or.inr rfl)), h.cleared, h.order, h.once⟩
  | stop => exact ⟨h.answered, h.cleared, h.order, h.once⟩

theorem run_sentOnce (sender : Sender) (message : Message) (futureTime : ℚ)
    (events : List Event) : SentOnce (run step (.start sender message futureTime) events) := by
  refine run_induction step (fun _ s => SentOnce s) _ events
    (sentOnce_start sender message futureTime) ?_
  intro pre e _ _ ih
  exact sentOnce_step _ e ih

theorem loop_transmissions (s : Sending) (futureTime : ℚ) (count : ℕ) :
    (s.loop futureTime count).transmissions = s.transmissions := by
  unfold Sending.loop Sending.exit
  split <;> rfl

theorem afterWait_transmissions (s : Sending) (futureTime : ℚ) (count : ℕ) :
    s.transmissions ≤ (s.afterWait futureTime count).transmissions := by
  unfold Sending.afterWait
  split
  · rw [loop_transmissions]
    split
    · exact Nat.le_succ _
    · exact le_rfl
  · exact (loop_transmissions s _ _).ge

theorem transmissions_step (s : Sending) (e : Event) :
    s.transmissions ≤ (step s e).transmissions := by
  cases e with
  | sender =>
    change _ ≤ s.send.transmissions
    unfold Sending.send Sending.startRetransmission
    split
    · exact le_rfl
    · exact le_rfl
    · exact Nat.le_succ _
    · split <;> exact le_rfl
  | task =>
    change _ ≤ s.retransmit.transmissions
    unfold Sending.retransmit
    split
    · exact le_rfl
    · split
      · exact le_rfl
      · exact (loop_transmissions s _ _).ge
    · next futureTime count _ =>
      have hwait := afterWait_transmissions (s.waited futureTime) futureTime count
      rwa [waited_transmissions] at hwait
    · exact le_rfl
  | acknowledgement => exact le_rfl
  | reset => exact le_rfl
  | stop => exact le_rfl

theorem stops_when_acknowledged (sender : Sender) (message : Message) (futureTime : ℚ) :
    StopsWhenAcknowledged sender message futureTime := by
  intro pre post hsent
  have hmono : ∀ events, ∀ s : Sending, s.transmissions ≤ (run step s events).transmissions := by
    intro events
    induction events with
    | nil => exact fun s => le_rfl
    | cons e events ih => exact fun s => (transmissions_step s e).trans (ih (step s e))
  have hpre := (run_sentOnce sender message futureTime pre).once
  have hall := (run_sentOnce sender message futureTime (pre ++ .acknowledgement :: post)).once
  have hle := hmono (.acknowledgement :: post) (run step (.start sender message futureTime) pre)
  rw [← run_append] at hle
  omega

/-- The sender's statements, of which the last two are enough to be done with. -/
theorem complete_run (sender : Sender) (message : Message) (futureTime : ℚ)
    (hack : message.acknowledged = false) :
    Complete (run step (.start sender message futureTime) [.sender, .sender, .sender]) := by
  have hclear : (message.setAcknowledged false).acknowledged = false := rfl
  cases sender <;>
    simp [Complete, run, step, Sending.send, Sending.start, Sender.statements,
      Sending.startRetransmission, hack, hclear]

/-- No message that is sent without being acknowledged yet is sent reliably. -/
theorem never_reliable (sender : Sender) (message : Message) (futureTime : ℚ)
    (hack : message.acknowledged = false) : ¬ Reliable sender message futureTime := by
  rintro ⟨hgives, _⟩
  have hquiet : Quiet [.sender, .sender, .sender] := by simp [Quiet]
  obtain ⟨hcount, _, _⟩ := hgives _ hquiet (complete_run sender message futureTime hack)
  have honce := (run_sentOnce sender message futureTime [.sender, .sender, .sender]).once
  rw [hcount] at honce
  unfold maxRetransmit at honce
  omega

def sampleCon : Message :=
  { Message.new .request with type := some .CON, mid := some 7, code := some Codes.get }

theorem never_reliable_sample : ¬ Reliable .sendBlockRequest sampleCon 2 :=
  never_reliable .sendBlockRequest sampleCon 2 rfl

theorem sampleCon_not_reliable : ¬ Reliable .sendMessage sampleCon 2 := by
  rintro ⟨hgives, _⟩
  have hquiet : Quiet [.sender, .sender] := by simp [Quiet]
  have hcomplete : Complete (run step (.start .sendMessage sampleCon 2) [.sender, .sender]) :=
    ⟨rfl, Or.inl rfl⟩
  obtain ⟨hcount, _, _⟩ := hgives _ hquiet hcomplete
  revert hcount
  decide

section
variable (s : Sending) (futureTime : ℚ) (count : ℕ) (hanswer : s.Unanswered)
  (hstop : s.retransmitStop = some false)
include hanswer hstop

theorem retransmit_round (htask : s.task = .waiting futureTime count)
    (hcount : count + 1 < maxRetransmit) :
    s.retransmit = { s with
      task := .waiting (futureTime * 2) (count + 1)
      transmissions := s.transmissions + 1
      waits := s.waits ++ [futureTime] } := by
  have hround : ∀ n waits, ({ s with transmissions := n, waits := waits } : Sending).Unanswered :=
    fun _ _ => hanswer
  unfold Sending.retransmit
  rw [htask]
  dsimp only
  unfold Sending.waited
  rw [if_pos hstop]
  unfold Sending.afterWait
  rw [if_pos (hround _ _), if_pos hcount]
  unfold Sending.loop
  rw [if_pos ⟨hcount, hround _ _⟩]

theorem retransmit_last (htask : s.task = .waiting futureTime count)
    (hcount : count + 1 = maxRetransmit) :
    s.retransmit = { s with
      message := s.message.setTimeouted true
      task := .finished
      retransmitStop := none
      waits := s.waits ++ [futureTime] } := by
  have hround : ∀ waits, ({ s with waits := waits } : Sending).Unanswered := fun _ => hanswer
  have hflags : ¬ (s.message.acknowledged = true ∨ s.message.rejected = true) := by
    rw [hanswer.1, hanswer.2.1]
    decide
  unfold Sending.retransmit
  rw [htask]
  dsimp only
  unfold Sending.waited
  rw [if_pos hstop]
  unfold Sending.afterWait
  rw [if_pos (hround _), if_neg (by omega)]
  unfold Sending.loop
  rw [if_neg (by omega)]
  unfold Sending.exit
  rw [if_neg hflags]

end

/-- The waits of the first `k` rounds. -/
def doubled (futureTime : ℚ) (k : ℕ) : List ℚ :=
  (List.range k).map fun i => futureTime * 2 ^ i

theorem doubled_succ (futureTime : ℚ) (k : ℕ) :
    doubled futureTime (k + 1) = doubled futureTime k ++ [futureTime * 2 ^ k] := by
  unfold doubled
  rw [List.range_succ, List.map_append, List.map_singleton]

def Sending.inRound (s : Sending) (futureTime : ℚ) (k : ℕ) : Sending :=
  { s with
    task := .waiting (futureTime * 2 ^ k) k
    transmissions := s.transmissions + k
    waits := s.waits ++ doubled futureTime k }

theorem retransmit_rounds (s : Sending) (futureTime : ℚ) (hanswer : s.Unanswered)
    (hstop : s.retransmitStop = some false) (htask : s.task = .waiting futureTime 0) (k : ℕ)
    (hk : k < maxRetransmit) :
    run step s (List.replicate k .task) = s.inRound futureTime k := by
  induction k with
  | zero =>
    have hwaits : s.waits ++ doubled futureTime 0 = s.waits := List.append_nil _
    unfold Sending.inRound
    rw [pow_zero, mul_one, ← htask, hwaits]
    rfl
  | succ k ih =>
    rw [List.replicate_succ', run_concat, ih (by omega), step_task,
      retransmit_round (s.inRound futureTime k) (futureTime * 2 ^ k) k hanswer hstop rfl hk]
    unfold Sending.inRound
    dsimp only
    rw [List.append_assoc, doubled_succ, pow_succ, mul_assoc, Nat.add_assoc]

/-- A task started for a message that stays unanswered would transmit it only `MAX_RETRANSMIT - 1`
times: the last of its rounds waits and transmits nothing. -/
theorem retransmit_quiet (s : Sending) (futureTime : ℚ) (hanswer : s.Unanswered)
    (hstop : s.retransmitStop = some false) (htask : s.task = .waiting futureTime 0) :
    run step s (List.replicate maxRetransmit .task) = { s with
      message := s.message.setTimeouted true
      task := .finished
      retransmitStop := none
      transmissions := s.transmissions + (maxRetransmit - 1)
      waits := s.waits ++ doubled futureTime maxRetransmit } := by
  have hmax : maxRetransmit = (maxRetransmit - 1) + 1 := rfl
  rw [hmax, List.replicate_succ', run_concat,
    retransmit_rounds s futureTime hanswer hstop htask (maxRetransmit - 1) (by decide), step_task,
    retransmit_last (s.inRound futureTime (maxRetransmit - 1))
      (futureTime * 2 ^ (maxRetransmit - 1)) (maxRetransmit - 1) hanswer hstop rfl rfl]
  unfold Sending.inRound
  dsimp only
  rw [List.append_assoc, doubled_succ, Nat.add_sub_cancel]

end BubotCoap.Retransmission
