import BubotCoap.DatagramReception
import BubotCoap.OptionAccess
import BubotCoap.Retransmission

set_option autoImplicit false

/-!
# The retransmission loop

One `_retransmit` task of `server.py`, from one suspension to the next: it waits for the lock of
the transaction, for its event, and for `send_datagram`, which writes the log line of the message
and serializes it. In between the message may be acknowledged or rejected, and the server stopped.
-/
namespace BubotCoap.RetransmitLoop
open PythonData Defines Options Messages StructPack Serializer Rendering Runs Retransmission

/-- The serializer of the endpoint. -/
inductive Transport where
  | udp
  | tcp (host : Layout)

def Transport.serialize : Transport → Message → Except PyErr Bytes
  | .udp => SerializerUdp.serialize
  | .tcp host => SerializerTcp.serialize host

structure Sender where
  address : Address
  transport : Transport

inductive Position where
  | created (futureTime : ℚ)
  | waiting (futureTime : ℚ) (retransmitCount : ℕ)
  | sending (futureTime : ℚ) (retransmitCount : ℕ)
  | finished
  | raised (e : Failure)
  deriving DecidableEq

/-- A retransmission as it is initiated: the number of waits so far, and the flags. -/
structure Initiated where
  waits : ℕ
  acknowledged : Bool
  rejected : Bool
  stopped : Bool
  deriving DecidableEq

structure Loop where
  message : Message
  stopped : Bool
  position : Position
  /-- The timeouts of the waits. -/
  waits : List ℚ
  initiated : List Initiated
  /-- What is assigned to `timeouted`, each with whether the message was answered then. -/
  assigned : List (Bool × Bool)

def Loop.start (message : Message) (futureTime : ℚ) (stopped : Bool) : Loop where
  message := message
  stopped := stopped
  position := .created futureTime
  waits := []
  initiated := []
  assigned := []

def answered (m : Message) : Bool := m.acknowledged || m.rejected

variable (P : Platform) (sender : Sender)

namespace Loop

/-- The flags let the loop go on. -/
def Unanswered (s : Loop) : Prop := answered s.message = false ∧ s.stopped = false

instance (s : Loop) : Decidable s.Unanswered := inferInstanceAs (Decidable (_ ∧ _))

def assign (value : Bool) (s : Loop) : Loop :=
  { s with
    message := s.message.setTimeouted value
    assigned := s.assigned ++ [(answered s.message, value)]
    position := .finished }

/-- What follows the loop. The warning is written before the message is marked. -/
def exit (s : Loop) : Loop :=
  if answered s.message = true then s.assign false
  else
    match linePrint P s.message with
    | .error e => { s with position := .raised e }
    | .ok _ => ({ s with message := printed s.message } : Loop).assign true

/-- The condition of the loop, and the wait that follows it. -/
def loop (futureTime : ℚ) (retransmitCount : ℕ) (s : Loop) : Loop :=
  if retransmitCount < maxRetransmit ∧ s.Unanswered then
    { s with
      position := .waiting futureTime retransmitCount
      waits := s.waits ++ [futureTime] }
  else s.exit P

/-- The rest of the loop's body. -/
def afterWait (futureTime : ℚ) (retransmitCount : ℕ) (s : Loop) : Loop :=
  if s.Unanswered then
    if retransmitCount + 1 < maxRetransmit then
      { s with
        position := .sending (futureTime * 2) (retransmitCount + 1)
        initiated := s.initiated ++
          [⟨s.waits.length, s.message.acknowledged, s.message.rejected, s.stopped⟩] }
    else loop P (futureTime * 2) (retransmitCount + 1) s
  else loop P futureTime retransmitCount s

/-- `Endpoint.send_message`. -/
def sendMessage (message : Message) : Except Failure Message := do
  let message := { message with source := some sender.address }
  let _ ← linePrint P message
  let _ ← (sender.transport.serialize (printed message)).mapError .raised
  .ok (printed message)

/-- The task goes on. -/
def resume (s : Loop) : Loop :=
  match s.position with
  | .created futureTime => loop P futureTime 0 s
  | .waiting futureTime retransmitCount => afterWait P futureTime retransmitCount s
  | .sending futureTime retransmitCount =>
    match sendMessage P sender s.message with
    | .error e => { s with position := .raised e }
    | .ok message => loop P futureTime retransmitCount { s with message := message }
  | .finished => s
  | .raised _ => s

/-- The task has come to its end, one way or the other. -/
def ended (s : Loop) : Bool :=
  match s.position with
  | .finished => true
  | .raised _ => true
  | _ => false

end Loop

inductive Happening where
  | acknowledgement
  | rejection
  | stop
  | resume
  deriving DecidableEq

def step (s : Loop) : Happening → Loop
  | .acknowledgement => { s with message := s.message.setAcknowledged true }
  | .rejection => { s with message := s.message.setRejected true }
  | .stop => { s with stopped := true }
  | .resume => s.resume P sender

/-- What the task is to do, in the state after the happenings. -/
structure Obeys (futureTime : ℚ) (happenings : List Happening) (s : Loop) : Prop where
  /-- The lock, each wait and each retransmission take one turn. -/
  ends : 2 * maxRetransmit + 1 ≤ happenings.count .resume → s.ended = true
  bounded : s.waits.length ≤ maxRetransmit
  doubled : ∀ i timeout, s.waits[i]? = some timeout → timeout = futureTime * 2 ^ i
  allowed : ∀ x ∈ s.initiated,
    x.acknowledged = false ∧ x.rejected = false ∧ x.stopped = false
  once : s.initiated.Pairwise fun x y => x.waits < y.waits
  afterWait : ∀ x ∈ s.initiated, 1 ≤ x.waits ∧ x.waits ≤ s.waits.length
  marked : s.ended = true → ∃ b, s.assigned = [(b, !b)]

def ObeysFlags (message : Message) (futureTime : ℚ) (stopped : Bool) : Prop :=
  ∀ happenings, Obeys futureTime happenings
    (run (step P sender) (.start message futureTime stopped) happenings)

/-- The fields that the log line and the serializers read. -/
structure Alike (m m' : Message) : Prop where
  type : m'.type = m.type
  mid : m'.mid = m.mid
  token : m'.token = m.token
  options : m'.options = m.options
  payload : m'.payload = m.payload
  code : m'.code.getD 0 = m.code.getD 0

theorem alike_setAcknowledged (m : Message) (b : Bool) : Alike m (m.setAcknowledged b) := by
  cases b with
  | true => exact ⟨rfl, rfl, rfl, rfl, rfl, rfl⟩
  | false => exact ⟨rfl, rfl, rfl, rfl, rfl, rfl⟩

theorem alike_setRejected (m : Message) (b : Bool) : Alike m (m.setRejected b) := by
  cases b with
  | true => exact ⟨rfl, rfl, rfl, rfl, rfl, rfl⟩
  | false => exact ⟨rfl, rfl, rfl, rfl, rfl, rfl⟩

theorem serialize_alike (t : Transport) (m m' : Message) (h : Alike m m') :
    t.serialize (printed m') = t.serialize (printed m) := by
  have hbody : bodyFields (printed m') = bodyFields (printed m) := by
    unfold bodyFields printed
    dsimp only
    rw [h.options, h.payload]
  have hcode : (printed m').code = (printed m).code := congrArg some h.code
  have htype : (printed m').type = (printed m).type := h.type
  have hmid : (printed m').mid = (printed m).mid := h.mid
  have htoken : (printed m').token = (printed m).token := h.token
  cases t with
  | udp =>
    change SerializerUdp.serialize (printed m') = SerializerUdp.serialize (printed m)
    unfold SerializerUdp.serialize SerializerUdp.headerFields
    rw [hbody, hcode, htype, hmid, htoken]
  | tcp host =>
    change SerializerTcp.serialize host (printed m') = SerializerTcp.serialize host (printed m)
    unfold SerializerTcp.serialize SerializerTcp.bodyBytes
    rw [hbody, hcode, htoken]

theorem printable_printed (m : Message) : Printable P (printed m) ↔ Printable P m :=
  ⟨fun h => ⟨h.code, h.option, h.payload⟩, fun h => ⟨h.code, h.option, h.payload⟩⟩

theorem printable_alike (m m' : Message) (h : Alike m m') : Printable P m' ↔ Printable P m := by
  rw [← printable_printed P m', ← printable_printed P m]
  exact printable_congr P _ _ (congrArg some h.code) h.options h.payload

/-- The message can be written to the log and to the transport. -/
def Sendable (m : Message) : Prop :=
  Printable P m ∧ ∃ bytes, sender.transport.serialize (printed m) = .ok bytes

theorem sendable_alike (m m' : Message) (h : Alike m m') :
    Sendable P sender m' ↔ Sendable P sender m := by
  unfold Sendable
  rw [printable_alike P m m' h, serialize_alike sender.transport m m' h]

theorem sendMessage_ok (m : Message) (h : Sendable P sender m) :
    ∃ m', Loop.sendMessage P sender m = .ok m' ∧ Alike m m' := by
  obtain ⟨hprint, bytes, hser⟩ := h
  obtain ⟨line, hline⟩ := (linePrint_ok_iff P { m with source := some sender.address }).mpr
    ⟨hprint.code, hprint.option, hprint.payload⟩
  have halike : Alike m { m with source := some sender.address } := ⟨rfl, rfl, rfl, rfl, rfl, rfl⟩
  refine ⟨printed { m with source := some sender.address }, ?_, ⟨rfl, rfl, rfl, rfl, rfl, rfl⟩⟩
  unfold Loop.sendMessage
  dsimp only
  rw [hline, ok_bind, serialize_alike sender.transport m _ halike, hser]
  rfl

theorem sendMessage_error (m : Message) (h : ¬ Sendable P sender m) :
    ∃ e, Loop.sendMessage P sender m = .error e := by
  have halike : Alike m { m with source := some sender.address } := ⟨rfl, rfl, rfl, rfl, rfl, rfl⟩
  unfold Loop.sendMessage
  dsimp only
  cases hline : linePrint P { m with source := some sender.address } with
  | error e => exact ⟨e, rfl⟩
  | ok line =>
    rw [ok_bind, serialize_alike sender.transport m _ halike]
    cases hser : sender.transport.serialize (printed m) with
    | error e => exact ⟨.raised e, rfl⟩
    | ok bytes =>
      have hprint := (linePrint_ok_iff P { m with source := some sender.address }).mp ⟨line, hline⟩
      exact absurd ⟨(printable_alike P m _ halike).mp hprint, bytes, hser⟩ h

/-! How far the task has come. -/

/-- The first `k` retransmissions: each follows its own wait, and no flag is set. -/
def firsts (k : ℕ) : List Initiated := (List.range k).map fun i => ⟨i + 1, false, false, false⟩

theorem firsts_succ (k : ℕ) : firsts (k + 1) = firsts k ++ [⟨k + 1, false, false, false⟩] := by
  unfold firsts
  rw [List.range_succ, List.map_append, List.map_singleton]

/-- Behind `k` waits and `j` retransmissions. -/
structure Behind (futureTime : ℚ) (k j : ℕ) (s : Loop) : Prop where
  waits : s.waits = doubled futureTime k
  initiated : s.initiated = firsts j

def Staged (futureTime : ℚ) (s : Loop) : Prop :=
  match s.position with
  | .created t => t = futureTime ∧ Behind futureTime 0 0 s ∧ s.assigned = []
  | .waiting t k =>
    k < maxRetransmit ∧ t = futureTime * 2 ^ k ∧ Behind futureTime (k + 1) k s ∧ s.assigned = []
  | .sending t k =>
    k < maxRetransmit ∧ t = futureTime * 2 ^ k ∧ Behind futureTime k k s ∧ s.assigned = []
  | .finished =>
    (∃ k j, k ≤ maxRetransmit ∧ j ≤ k ∧ Behind futureTime k j s) ∧
      ∃ b, s.assigned = [(b, !b)]
  | .raised _ =>
    (∃ k j, k ≤ maxRetransmit ∧ j ≤ k ∧ Behind futureTime k j s) ∧ s.assigned = []

/-- An upper bound for the turns that are left. -/
def rank : Position → ℕ
  | .created _ => 2 * maxRetransmit + 1
  | .waiting _ k => 2 * (maxRetransmit - k)
  | .sending _ k => 2 * (maxRetransmit - k) + 1
  | .finished => 0
  | .raised _ => 0

theorem ended_iff (futureTime : ℚ) (s : Loop) (h : Staged futureTime s) :
    s.ended = true ↔ rank s.position = 0 := by
  unfold Staged at h
  unfold Loop.ended rank
  cases hp : s.position with
  | created t => simp
  | waiting t k =>
    rw [hp] at h
    have hk := h.1
    dsimp only
    simp only [Bool.false_eq_true, false_iff]
    omega
  | sending t k => simp
  | finished => simp
  | raised e => simp

theorem staged_exit (futureTime : ℚ) (k j : ℕ) (s : Loop) (hk : k ≤ maxRetransmit) (hj : j ≤ k)
    (h : Behind futureTime k j s) (hnew : s.assigned = []) : Staged futureTime (s.exit P) := by
  unfold Loop.exit
  split_ifs with hanswered
  · refine ⟨⟨k, j, hk, hj, h.waits, h.initiated⟩, true, ?_⟩
    change s.assigned ++ [(answered s.message, false)] = _
    rw [hnew, hanswered]
    rfl
  · cases linePrint P s.message with
    | error e => exact ⟨⟨k, j, hk, hj, h.waits, h.initiated⟩, hnew⟩
    | ok line =>
      refine ⟨⟨k, j, hk, hj, h.waits, h.initiated⟩, false, ?_⟩
      change s.assigned ++ [(answered s.message, true)] = _
      rw [hnew, Bool.eq_false_iff.mpr hanswered]
      rfl

theorem rank_exit (s : Loop) : rank (s.exit P).position = 0 := by
  unfold Loop.exit
  split_ifs
  · rfl
  · cases linePrint P s.message with
    | error e => rfl
    | ok line => rfl

theorem staged_loop (futureTime : ℚ) (k : ℕ) (s : Loop) (hk : k ≤ maxRetransmit)
    (h : Behind futureTime k k s) (hnew : s.assigned = []) :
    Staged futureTime (s.loop P (futureTime * 2 ^ k) k) := by
  unfold Loop.loop
  split_ifs with hcond
  · refine ⟨hcond.1, rfl, ⟨?_, h.initiated⟩, hnew⟩
    change s.waits ++ [futureTime * 2 ^ k] = _
    rw [h.waits, doubled_succ]
  · exact staged_exit P futureTime k k s hk le_rfl h hnew

theorem rank_loop (futureTime : ℚ) (k : ℕ) (s : Loop) :
    rank (s.loop P futureTime k).position ≤ 2 * (maxRetransmit - k) := by
  unfold Loop.loop
  split_ifs
  · exact le_rfl
  · rw [rank_exit]
    exact Nat.zero_le _

section
variable (futureTime : ℚ) (k : ℕ) (s : Loop) (hk : k < maxRetransmit)
  (h : Behind futureTime (k + 1) k s) (hnew : s.assigned = [])
include hk h hnew

theorem staged_afterWait : Staged futureTime (s.afterWait P (futureTime * 2 ^ k) k) := by
  have hdouble : futureTime * 2 ^ k * 2 = futureTime * 2 ^ (k + 1) := by
    rw [pow_succ, mul_assoc]
  unfold Loop.afterWait
  split_ifs with hgo hlast
  · refine ⟨hlast, hdouble, ⟨h.waits, ?_⟩, hnew⟩
    obtain ⟨hanswered, hstopped⟩ := hgo
    unfold answered at hanswered
    rw [Bool.or_eq_false_iff] at hanswered
    have hlength : s.waits.length = k + 1 := by
      rw [h.waits]
      unfold doubled
      rw [List.length_map, List.length_range]
    change s.initiated ++ [_] = _
    rw [h.initiated, firsts_succ, hlength, hanswered.1, hanswered.2, hstopped]
  · -- the last round waits and sends nothing
    have hend : k + 1 = maxRetransmit := by omega
    unfold Loop.loop
    rw [if_neg (by omega)]
    exact staged_exit P futureTime (k + 1) k s (by omega) (Nat.le_succ k) h hnew
  · unfold Loop.loop
    rw [if_neg fun hcond => hgo hcond.2]
    exact staged_exit P futureTime (k + 1) k s (by omega) (Nat.le_succ k) h hnew

omit h hnew in
theorem rank_afterWait (t : ℚ) :
    rank (s.afterWait P t k).position < 2 * (maxRetransmit - k) := by
  unfold Loop.afterWait
  split_ifs with hgo hlast
  · change 2 * (maxRetransmit - (k + 1)) + 1 < _
    omega
  · have hle := rank_loop P (t * 2) (k + 1) s
    omega
  · unfold Loop.loop
    rw [if_neg fun hcond => hgo hcond.2, rank_exit]
    omega

end

theorem staged_resume (futureTime : ℚ) (s : Loop) (h : Staged futureTime s) :
    Staged futureTime (s.resume P sender) := by
  unfold Loop.resume
  unfold Staged at h
  cases hp : s.position with
  | created t =>
    rw [hp] at h
    obtain ⟨rfl, hbehind, hnew⟩ := h
    have hloop := staged_loop P t 0 s (Nat.zero_le _) hbehind hnew
    rwa [pow_zero, mul_one] at hloop
  | waiting t k =>
    rw [hp] at h
    obtain ⟨hk, rfl, hbehind, hnew⟩ := h
    exact staged_afterWait P futureTime k s hk hbehind hnew
  | sending t k =>
    rw [hp] at h
    obtain ⟨hk, rfl, hbehind, hnew⟩ := h
    dsimp only
    cases Loop.sendMessage P sender s.message with
    | error e => exact ⟨⟨k, k, hk.le, le_rfl, hbehind.waits, hbehind.initiated⟩, hnew⟩
    | ok message =>
      exact staged_loop P futureTime k { s with message := message } hk.le
        ⟨hbehind.waits, hbehind.initiated⟩ hnew
  | finished =>
    rw [hp] at h
    unfold Staged
    rw [hp]
    exact h
  | raised e =>
    rw [hp] at h
    unfold Staged
    rw [hp]
    exact h

theorem rank_resume (futureTime : ℚ) (s : Loop) (h : Staged futureTime s) :
    rank (s.resume P sender).position ≤ rank s.position - 1 := by
  unfold Loop.resume
  unfold Staged at h
  cases hp : s.position with
  | created t =>
    have hle := rank_loop P t 0 s
    unfold rank at hle ⊢
    dsimp only at hle ⊢
    omega
  | waiting t k =>
    rw [hp] at h
    have hlt := rank_afterWait P k s h.1 t
    change _ ≤ 2 * (maxRetransmit - k) - 1
    dsimp only
    omega
  | sending t k =>
    dsimp only
    cases Loop.sendMessage P sender s.message with
    | error e => exact Nat.zero_le _
    | ok message => exact rank_loop P t k { s with message := message }
  | finished =>
    dsimp only
    rw [hp]
    exact Nat.zero_le _
  | raised e =>
    dsimp only
    rw [hp]
    exact Nat.zero_le _

theorem staged_step (futureTime : ℚ) (s : Loop) (e : Happening) (h : Staged futureTime s) :
    Staged futureTime (step P sender s e) := by
  have hsame : ∀ message stopped,
      Staged futureTime { s with message := message, stopped := stopped } := by
    intro message stopped
    unfold Staged at h ⊢
    dsimp only
    cases hp : s.position with
    | created t => rw [hp] at h; exact ⟨h.1, ⟨h.2.1.waits, h.2.1.initiated⟩, h.2.2⟩
    | waiting t k =>
      rw [hp] at h
      exact ⟨h.1, h.2.1, ⟨h.2.2.1.waits, h.2.2.1.initiated⟩, h.2.2.2⟩
    | sending t k =>
      rw [hp] at h
      exact ⟨h.1, h.2.1, ⟨h.2.2.1.waits, h.2.2.1.initiated⟩, h.2.2.2⟩
    | finished =>
      rw [hp] at h
      obtain ⟨⟨k, j, hk, hj, hbehind⟩, hassigned⟩ := h
      exact ⟨⟨k, j, hk, hj, hbehind.waits, hbehind.initiated⟩, hassigned⟩
    | raised e =>
      rw [hp] at h
      obtain ⟨⟨k, j, hk, hj, hbehind⟩, hassigned⟩ := h
      exact ⟨⟨k, j, hk, hj, hbehind.waits, hbehind.initiated⟩, hassigned⟩
  cases e with
  | acknowledgement => exact hsame _ _
  | rejection => exact hsame _ _
  | stop => exact hsame _ _
  | resume => exact staged_resume P sender futureTime s h

/-! When the log line and the serializer raise nothing. -/

/-- What keeps the task from raising, where it is. -/
def Sound (s : Loop) : Prop :=
  match s.position with
  | .created _ => answered s.message = true ∨ Printable P s.message ∧
      (s.stopped = true ∨ ∃ bytes, sender.transport.serialize (printed s.message) = .ok bytes)
  | .waiting _ _ => Sendable P sender s.message
  | .sending _ _ => Sendable P sender s.message
  | .finished => True
  | .raised _ => False

theorem sound_exit (s : Loop) (h : answered s.message = true ∨ Printable P s.message) :
    Sound P sender (s.exit P) := by
  unfold Loop.exit
  split_ifs with hanswered
  · exact trivial
  · have hprint := h.resolve_left hanswered
    obtain ⟨line, hline⟩ := (linePrint_ok_iff P s.message).mpr hprint
    rw [hline]
    exact trivial

theorem sound_loop (t : ℚ) (k : ℕ) (s : Loop) (h : Sendable P sender s.message) :
    Sound P sender (s.loop P t k) := by
  unfold Loop.loop
  split_ifs
  · exact h
  · exact sound_exit P sender s (Or.inr h.1)

theorem sound_resume (s : Loop) (h : Sound P sender s) : Sound P sender (s.resume P sender) := by
  unfold Loop.resume
  unfold Sound at h
  cases hp : s.position with
  | created t =>
    rw [hp] at h
    by_cases hgo : s.Unanswered
    · obtain ⟨hanswered, hstopped⟩ := hgo
      rcases h with h | ⟨hprint, h | hser⟩
      · rw [hanswered] at h
        cases h
      · rw [hstopped] at h
        cases h
      · exact sound_loop P sender t 0 s ⟨hprint, hser⟩
    · dsimp only
      unfold Loop.loop
      rw [if_neg fun hcond => hgo hcond.2]
      exact sound_exit P sender s (h.imp_right And.left)
  | waiting t k =>
    rw [hp] at h
    dsimp only
    unfold Loop.afterWait
    split_ifs
    · exact h
    · exact sound_loop P sender _ _ s h
    · exact sound_loop P sender _ _ s h
  | sending t k =>
    rw [hp] at h
    obtain ⟨m', hsend, halike⟩ := sendMessage_ok P sender s.message h
    dsimp only
    rw [hsend]
    exact sound_loop P sender t k _ ((sendable_alike P sender s.message m' halike).mpr h)
  | finished =>
    unfold Sound
    rw [hp]
    exact trivial
  | raised e =>
    rw [hp] at h
    exact h.elim

theorem sound_step (s : Loop) (e : Happening) (h : Sound P sender s) :
    Sound P sender (step P sender s e) := by
  -- the happenings set flags only, and an answer is never taken back
  have hsame : ∀ message stopped, Alike s.message message →
      (answered s.message = true → answered message = true) →
      (s.stopped = true → stopped = true) →
      Sound P sender { s with message := message, stopped := stopped } := by
    intro message stopped halike hanswered hstopped
    unfold Sound at h ⊢
    dsimp only
    cases hp : s.position with
    | created t =>
      rw [hp] at h
      refine h.imp hanswered ?_
      rintro ⟨hprint, hrest⟩
      refine ⟨(printable_alike P _ _ halike).mpr hprint, hrest.imp hstopped ?_⟩
      rw [serialize_alike sender.transport _ _ halike]
      exact id
    | waiting t k => rw [hp] at h; exact (sendable_alike P sender _ _ halike).mpr h
    | sending t k => rw [hp] at h; exact (sendable_alike P sender _ _ halike).mpr h
    | finished => exact trivial
    | raised e => rw [hp] at h; exact h
  cases e with
  | acknowledgement => exact hsame _ _ (alike_setAcknowledged _ true) (fun _ => rfl) id
  | rejection => exact hsame _ _ (alike_setRejected _ true) (fun _ => rfl) id
  | stop => exact hsame _ _ ⟨rfl, rfl, rfl, rfl, rfl, rfl⟩ id fun _ => rfl
  | resume => exact sound_resume P sender s h

theorem rank_step (futureTime : ℚ) (s : Loop) (e : Happening) (h : Staged futureTime s) :
    rank (step P sender s e).position ≤ rank s.position - [e].count .resume := by
  cases e with
  | acknowledgement => exact le_rfl
  | rejection => exact le_rfl
  | stop => exact le_rfl
  | resume => exact rank_resume P sender futureTime s h

/-- The state after the happenings, however they fall. -/
theorem staged_run (message : Message) (futureTime : ℚ) (stopped : Bool)
    (happenings : List Happening) :
    Staged futureTime (run (step P sender) (.start message futureTime stopped) happenings) ∧
      rank (run (step P sender) (.start message futureTime stopped) happenings).position ≤
        2 * maxRetransmit + 1 - happenings.count .resume := by
  refine run_induction (step P sender) (fun happened s => Staged futureTime s ∧
    rank s.position ≤ 2 * maxRetransmit + 1 - happened.count .resume) _ happenings ?_ ?_
  · exact ⟨⟨rfl, ⟨rfl, rfl⟩, rfl⟩, le_rfl⟩
  · rintro pre e post - ⟨hstaged, hrank⟩
    refine ⟨staged_step P sender futureTime _ e hstaged, ?_⟩
    have hstep := rank_step P sender futureTime _ e hstaged
    rw [List.count_append]
    omega

theorem sound_run (message : Message) (futureTime : ℚ) (stopped : Bool)
    (happenings : List Happening)
    (h : Sound P sender (.start message futureTime stopped)) :
    Sound P sender (run (step P sender) (.start message futureTime stopped) happenings) :=
  run_induction (step P sender) (fun _ s => Sound P sender s) _ happenings h
    fun _ e _ _ hsound => sound_step P sender _ e hsound

/-! What the task is to do, from how far it has come. -/

theorem firsts_mem (k : ℕ) (x : Initiated) (h : x ∈ firsts k) :
    1 ≤ x.waits ∧ x.waits ≤ k ∧
      x.acknowledged = false ∧ x.rejected = false ∧ x.stopped = false := by
  unfold firsts at h
  rw [List.mem_map] at h
  obtain ⟨i, hi, rfl⟩ := h
  exact ⟨Nat.le_add_left 1 i, List.mem_range.mp hi, rfl, rfl, rfl⟩

theorem firsts_pairwise (k : ℕ) : (firsts k).Pairwise fun x y => x.waits < y.waits := by
  unfold firsts
  rw [List.pairwise_map]
  exact List.pairwise_lt_range.imp fun h => Nat.succ_lt_succ h

theorem doubled_length (futureTime : ℚ) (k : ℕ) : (doubled futureTime k).length = k := by
  unfold doubled
  rw [List.length_map, List.length_range]

theorem doubled_getElem? (futureTime timeout : ℚ) (k i : ℕ)
    (h : (doubled futureTime k)[i]? = some timeout) : timeout = futureTime * 2 ^ i := by
  unfold doubled at h
  rw [List.getElem?_map, Option.map_eq_some_iff] at h
  obtain ⟨j, hj, rfl⟩ := h
  rw [List.getElem?_eq_some_iff] at hj
  obtain ⟨hlt, rfl⟩ := hj
  rw [List.getElem_range]

theorem staged_behind (futureTime : ℚ) (s : Loop) (h : Staged futureTime s) :
    ∃ k j, k ≤ maxRetransmit ∧ j ≤ k ∧ Behind futureTime k j s := by
  unfold Staged at h
  cases hp : s.position with
  | created t => rw [hp] at h; exact ⟨0, 0, Nat.zero_le _, le_rfl, h.2.1⟩
  | waiting t k => rw [hp] at h; exact ⟨k + 1, k, h.1, Nat.le_succ k, h.2.2.1⟩
  | sending t k => rw [hp] at h; exact ⟨k, k, h.1.le, le_rfl, h.2.2.1⟩
  | finished => rw [hp] at h; exact h.1
  | raised e => rw [hp] at h; exact h.1

theorem obeys_of_staged (futureTime : ℚ) (happenings : List Happening) (s : Loop)
    (hstaged : Staged futureTime s)
    (hrank : rank s.position ≤ 2 * maxRetransmit + 1 - happenings.count .resume)
    (hsound : Sound P sender s) : Obeys futureTime happenings s := by
  obtain ⟨k, j, hk, hj, hwaits, hinitiated⟩ := staged_behind futureTime s hstaged
  have hlength : s.waits.length = k := by rw [hwaits, doubled_length]
  refine ⟨fun hturns => ?_, ?_, fun i timeout hi => ?_, fun x hx => ?_, ?_, fun x hx => ?_,
    fun hended => ?_⟩
  · rw [ended_iff futureTime s hstaged]
    omega
  · rwa [hlength]
  · rw [hwaits] at hi
    exact doubled_getElem? futureTime timeout k i hi
  · rw [hinitiated] at hx
    exact (firsts_mem j x hx).2.2
  · rw [hinitiated]
    exact firsts_pairwise j
  · rw [hinitiated] at hx
    obtain ⟨hfirst, hlast, _⟩ := firsts_mem j x hx
    exact ⟨hfirst, by omega⟩
  · unfold Staged at hstaged
    unfold Sound at hsound
    unfold Loop.ended at hended
    cases hp : s.position with
    | created t => rw [hp] at hended; cases hended
    | waiting t k => rw [hp] at hended; cases hended
    | sending t k => rw [hp] at hended; cases hended
    | finished => rw [hp] at hstaged; exact hstaged.2
    | raised e => rw [hp] at hsound; exact hsound.elim

theorem not_obeys_of_raised (futureTime : ℚ) (happenings : List Happening) (s : Loop) (e : Failure)
    (hstaged : Staged futureTime s) (h : s.position = .raised e) :
    ¬ Obeys futureTime happenings s := by
  intro hobeys
  unfold Staged at hstaged
  rw [h] at hstaged
  have hended : s.ended = true := by
    unfold Loop.ended
    rw [h]
  obtain ⟨b, hb⟩ := hobeys.marked hended
  rw [hstaged.2] at hb
  cases hb

section
variable (message : Message) (futureTime : ℚ) (hanswered : answered message = false)
include hanswered

theorem raised_of_stopped (h : ¬ Printable P message) :
    ∃ e, (run (step P sender) (.start message futureTime true) [.resume]).position =
      .raised e := by
  have hstay : ¬ (Loop.start message futureTime true).Unanswered := by
    rintro ⟨_, hstopped⟩
    cases hstopped
  have hopen : ¬ answered (Loop.start message futureTime true).message = true := by
    change ¬ answered message = true
    rw [hanswered]
    exact Bool.false_ne_true
  rw [run_cons]
  change ∃ e, (Loop.loop P futureTime 0 (.start message futureTime true)).position = .raised e
  unfold Loop.loop
  rw [if_neg fun hcond => hstay hcond.2]
  unfold Loop.exit
  rw [if_neg hopen]
  cases hline : linePrint P (Loop.start message futureTime true).message with
  | error e => exact ⟨e, rfl⟩
  | ok line => exact absurd ((linePrint_ok_iff P message).mp ⟨line, hline⟩) h

theorem raised_of_not_sendable (h : ¬ Sendable P sender message) :
    ∃ e, (run (step P sender) (.start message futureTime false)
      [.resume, .resume, .resume]).position = .raised e := by
  obtain ⟨e, he⟩ := sendMessage_error P sender message h
  let first : Loop := step P sender (.start message futureTime false) .resume
  have hfirst : first = { Loop.start message futureTime false with
      position := .waiting futureTime 0, waits := [futureTime] } :=
    if_pos ⟨by decide, hanswered, rfl⟩
  have hgo : first.Unanswered := by
    rw [hfirst]
    exact ⟨hanswered, rfl⟩
  let second : Loop := first.afterWait P futureTime 0
  have hsecond : second = { first with
      position := .sending (futureTime * 2) 1
      initiated := first.initiated ++ [⟨first.waits.length, first.message.acknowledged,
        first.message.rejected, first.stopped⟩] } :=
    (if_pos hgo).trans (if_pos (by decide))
  have hthird : (second.resume P sender).position = .raised e := by
    have hmessage : second.message = message := by rw [hsecond, hfirst]; rfl
    unfold Loop.resume
    rw [show second.position = .sending (futureTime * 2) 1 by rw [hsecond]]
    dsimp only
    rw [hmessage, he]
  have hsteps : step P sender first .resume = second := by
    change first.resume P sender = second
    unfold Loop.resume
    rw [show first.position = .waiting futureTime 0 by rw [hfirst]]
  refine ⟨e, ?_⟩
  rw [run_cons, run_cons, hsteps]
  exact hthird

end

/-- The task obeys its flags unless the log line or the serializer raises on the way: the message
is acknowledged or rejected before the task runs, or its line can be written, and, where the server
is not yet stopped, it can be serialized. -/
theorem obeysFlags_iff (message : Message) (futureTime : ℚ) (stopped : Bool) :
    ObeysFlags P sender message futureTime stopped ↔
      answered message = true ∨ Printable P message ∧
        (stopped = true ∨
          ∃ bytes, sender.transport.serialize (printed message) = .ok bytes) := by
  constructor
  · intro hobeys
    by_contra hnot
    rw [not_or, Bool.not_eq_true] at hnot
    obtain ⟨hanswered, hnot⟩ := hnot
    cases stopped with
    | true =>
      have hprint : ¬ Printable P message := fun h => hnot ⟨h, Or.inl rfl⟩
      obtain ⟨e, he⟩ := raised_of_stopped P sender message futureTime hanswered hprint
      exact not_obeys_of_raised futureTime _ _ e
        (staged_run P sender message futureTime true _).1 he (hobeys _)
    | false =>
      have hsend : ¬ Sendable P sender message := fun h => hnot ⟨h.1, Or.inr h.2⟩
      obtain ⟨e, he⟩ := raised_of_not_sendable P sender message futureTime hanswered hsend
      exact not_obeys_of_raised futureTime _ _ e
        (staged_run P sender message futureTime false _).1 he (hobeys _)
  · intro h happenings
    obtain ⟨hstaged, hrank⟩ := staged_run P sender message futureTime stopped happenings
    exact obeys_of_staged P sender futureTime happenings _ hstaged hrank
      (sound_run P sender message futureTime stopped happenings h)

def confirmable : Message := { Message.new .request with type := some .CON }

/-- A confirmable request with the Block2 option of a first and only block of sixteen bytes. -/
theorem not_obeysFlags :
    confirmable.setBlock2 0 0 16 = .ok (OptionAccess.withBlock2 confirmable 0 0 16) ∧
      ¬ ObeysFlags plainPlatform ⟨(['h'], 1), .udp⟩
        (OptionAccess.withBlock2 confirmable 0 0 16) 2 false := by
  refine ⟨rfl, fun h => ?_⟩
  obtain ⟨b, hb⟩ := (h [.resume, .resume, .resume]).marked (by decide +kernel)
  have hnone : (run (step plainPlatform ⟨(['h'], 1), .udp⟩)
      (.start (OptionAccess.withBlock2 confirmable 0 0 16) 2 false)
      [.resume, .resume, .resume]).assigned = [] := by decide +kernel
  rw [hnone] at hb
  cases hb

end BubotCoap.RetransmitLoop
