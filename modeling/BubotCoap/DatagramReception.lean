import BubotCoap.MessageLayer
import BubotCoap.Rendering
import BubotCoap.Truncation

set_option autoImplicit false

/-!
# The reception of a datagram

`datagram_received` of `coap_udp_protocol.py`, from the bytes to the task that
handles the message. Which datagrams lead to what the caller may expect of them.
-/
namespace BubotCoap.DatagramReception
open PythonData Defines Options Messages Serializer FallibleState Rendering Truncation

/-- A coroutine object. Its body does not run before it is awaited or made a task. -/
inductive Coroutine where
  | datagramReceivedRequest (message : Message)
  | datagramReceivedResponse (message : Message)
  | datagramReceivedMessage (message : Message)
  | sendDatagram (message : Message)
  deriving DecidableEq

structure Endpoint where
  address : Address
  multicast : Bool
  scheme : Text

structure Node where
  endpoint : Endpoint
  messageLayer : MessageLayer.State
  /-- The arguments of `create_task`. -/
  tasks : List Coroutine

def Node.createTask (node : Node) (task : Coroutine) : Node :=
  { node with tasks := node.tasks ++ [task] }

/-- The datagrams given to `endpoint.send_message` once the tasks run. -/
def Node.handed (node : Node) : List Message :=
  node.tasks.filterMap fun task =>
    match task with
    | .sendDatagram message => some message
    | _ => none

def handler (message : Message) : Coroutine :=
  match message.kind with
  | .request => .datagramReceivedRequest message
  | .response => .datagramReceivedResponse message
  | .message => .datagramReceivedMessage message

def raises {σ α : Type} (x : Except PyErr α) : Action Failure σ α :=
  Action.ofExcept (x.mapError .raised)

def fetchMid : Action Failure Node ℕ :=
  Action.zoom Node.messageLayer (fun layer node => { node with messageLayer := layer }) .raised
    MessageLayer.fetchMid

def datagramReceivedBadMessage (message : ℕ) (clientAddress : Address) :
    Action Failure Node Unit := do
  let rst := { Message.new .message with destination := some clientAddress }
  let rst ← raises (rst.setType MsgType.RST.toNat)
  let rst ← raises (rst.setCode (some message))
  let mid ← fetchMid
  let rst ← raises (rst.setMid (some mid))
  let node ← Action.get
  -- the call creates the coroutine, and nothing awaits it
  let _dropped := Coroutine.sendDatagram { rst with source := some node.endpoint.address }
  pure ()

/-- The decoded message as it arrived at this endpoint. -/
def addressed (endpoint : Endpoint) (message : Message) : Message :=
  { message with
    destination := some endpoint.address
    multicast := endpoint.multicast
    scheme := some endpoint.scheme }

/-- The message as the log line leaves it, given to the handler of its class. -/
def dispatch (P : Platform) (message : Message) : Action Failure Node Unit := do
  let node ← Action.get
  let message := addressed node.endpoint message
  let _line ← Action.ofExcept (linePrint P message)
  Action.modify fun node => node.createTask (handler (printed message))

/-- `except RuntimeError`. -/
def logged {σ : Type} (x : Action Failure σ Unit) : Action Failure σ Unit := fun s =>
  match x s with
  | (.error .runtimeError, s') => (.ok (), s')
  | result => result

def datagramReceived (P : Platform) (rng data : Bytes) (clientAddress : Address) :
    Action Failure Node Unit :=
  logged do
    let decoded ← raises (SerializerUdp.deserialize rng data clientAddress)
    match decoded with
    | .code n => datagramReceivedBadMessage n clientAddress
    | .message m => dispatch P m

/-- What is asked of one datagram: a message goes to exactly one task, that of its class, and a
rejected one is answered with exactly one reset. -/
structure Accounted (P : Platform) (rng data : Bytes) (sender : Address) (node : Node) : Prop where
  quiet : (datagramReceived P rng data sender node).1 = .ok ()
  message : ∀ m, SerializerUdp.deserialize rng data sender = .ok (.message m) →
    (datagramReceived P rng data sender node).2.tasks =
      node.tasks ++ [handler (printed (addressed node.endpoint m))]
  code : ∀ n, SerializerUdp.deserialize rng data sender = .ok (.code n) →
    ∃ rst, rst.type = some .RST ∧ rst.destination = some sender ∧
      (datagramReceived P rng data sender node).2.handed = node.handed ++ [rst]

variable (P : Platform) (rng data : Bytes) (sender : Address) (node : Node)

theorem printable_addressed (endpoint : Endpoint) (m : Message) :
    Printable P (addressed endpoint m) ↔ Printable P m :=
  printable_congr P m _ rfl rfl rfl

theorem datagramReceivedBadMessage_tasks (n : ℕ) :
    (datagramReceivedBadMessage n sender node).2.tasks = node.tasks := by
  let R : Node → Node → Prop := fun before after => after.tasks = before.tasks
  have trans : ∀ s t u, R s t → R t u → R s u := fun s t u hst htu => Eq.trans htu hst
  have hraises : ∀ x : Except PyErr Message, Action.Moves R (raises x) := fun x s => rfl
  have hmid : Action.Moves R fetchMid := fun s => rfl
  have key : Action.Moves R (datagramReceivedBadMessage n sender) := by
    refine Action.Moves.andThen R trans _ _ (hraises _) fun rst => ?_
    refine Action.Moves.andThen R trans _ _ (hraises _) fun rst => ?_
    refine Action.Moves.andThen R trans _ _ hmid fun mid => ?_
    refine Action.Moves.andThen R trans _ _ (hraises _) fun rst => ?_
    intro s
    rfl
  exact key node

theorem datagramReceived_error (e : PyErr)
    (h : SerializerUdp.deserialize rng data sender = .error e) :
    datagramReceived P rng data sender node = (.error (.raised e), node) := by
  unfold datagramReceived logged raises
  rw [h]
  rfl

theorem datagramReceived_code (n : ℕ)
    (h : SerializerUdp.deserialize rng data sender = .ok (.code n)) :
    (datagramReceived P rng data sender node).2.handed = node.handed := by
  have htasks := datagramReceivedBadMessage_tasks sender node n
  have hbody : datagramReceived P rng data sender node =
      logged (datagramReceivedBadMessage n sender) node := by
    unfold datagramReceived raises
    rw [h]
    rfl
  have hlogged : (logged (datagramReceivedBadMessage n sender) node).2 =
      (datagramReceivedBadMessage n sender node).2 := by
    unfold logged
    split
    · next heq => rw [heq]
    · rfl
  unfold Node.handed
  rw [hbody, hlogged, htasks]

theorem datagramReceived_message (m : Message)
    (h : SerializerUdp.deserialize rng data sender = .ok (.message m)) :
    datagramReceived P rng data sender node = logged (dispatch P m) node := by
  unfold datagramReceived raises
  rw [h]
  rfl

theorem dispatch_printable (m : Message) (h : Printable P m) :
    logged (dispatch P m) node =
      (.ok (), node.createTask (handler (printed (addressed node.endpoint m)))) := by
  obtain ⟨line, hline⟩ := (linePrint_ok_iff P _).mpr ((printable_addressed P node.endpoint m).mpr h)
  unfold logged dispatch
  rw [Action.bind_get, hline]
  rfl

theorem dispatch_unprintable (m : Message) (h : ¬ Printable P m) :
    (logged (dispatch P m) node).2 = node := by
  rw [← printable_addressed P node.endpoint m, ← linePrint_ok_iff] at h
  cases hline : linePrint P (addressed node.endpoint m) with
  | ok line => exact absurd ⟨line, hline⟩ h
  | error e =>
    unfold logged dispatch
    rw [Action.bind_get, hline]
    cases e with
    | raised e => rfl
    | runtimeError => rfl
    | decodeError => rfl
    | invalidStateError => rfl

theorem createTask_ne (task : Coroutine) : node.tasks ++ [task] ≠ node.tasks := by
  simp

theorem accounted_iff_printable :
    Accounted P rng data sender node ↔
      ∃ m, SerializerUdp.deserialize rng data sender = .ok (.message m) ∧ Printable P m := by
  constructor
  · intro h
    cases hread : SerializerUdp.deserialize rng data sender with
    | error e =>
      have hquiet := h.quiet
      rw [datagramReceived_error P rng data sender node e hread] at hquiet
      cases hquiet
    | ok decoded =>
      cases decoded with
      | code n =>
        obtain ⟨rst, _, _, hhanded⟩ := h.code n hread
        rw [datagramReceived_code P rng data sender node n hread] at hhanded
        exact absurd hhanded (by simp)
      | message m =>
        refine ⟨m, rfl, ?_⟩
        by_contra hprint
        have htasks := h.message m hread
        rw [datagramReceived_message P rng data sender node m hread,
          dispatch_unprintable P node m hprint] at htasks
        exact createTask_ne node _ htasks.symm
  · rintro ⟨m, hread, hprint⟩
    have hrun := datagramReceived_message P rng data sender node m hread
    rw [dispatch_printable P node m hprint] at hrun
    refine ⟨by rw [hrun], ?_, ?_⟩
    · intro m' hm'
      rw [hread] at hm'
      cases hm'
      rw [hrun]
      rfl
    · intro n hn
      rw [hread] at hn
      cases hn

/-- A datagram is accounted for exactly if its header and its options are accepted and the log
line of the message can be built. -/
theorem accounted_iff :
    Accounted P rng data sender node ↔
      (HeaderOk data ∧ Accepts 0 [] (body data)) ∧
        ∀ m, SerializerUdp.deserialize rng data sender = .ok (.message m) → Printable P m := by
  rw [accounted_iff_printable, ← returns_message_iff rng data sender]
  constructor
  · rintro ⟨m, hread, hprint⟩
    refine ⟨⟨m, hread⟩, ?_⟩
    intro m' hread'
    rw [hread] at hread'
    cases hread'
    exact hprint
  · rintro ⟨⟨m, hread⟩, hprint⟩
    exact ⟨m, hread, hprint m hread⟩

def sampleNode : Node := ⟨⟨(['s'], 5683), false, "coap".toList⟩, MessageLayer.State.new 1, []⟩

/-- A datagram of version 0, a GET whose Block2 option is zero, and a GET with two payload bytes
that are no text. -/
theorem not_accounted :
    ¬ Accounted plainPlatform [] [0x00, 0x01, 0x8C, 0xDA] (['h'], 1) sampleNode ∧
      ¬ Accounted plainPlatform [] [0x40, 0x01, 0x00, 0x07, 0xD0, 0x0A] (['h'], 1) sampleNode ∧
      ¬ Accounted plainPlatform [] [0x40, 0x01, 0x00, 0x07, 0xFF, 0xFF, 0xFF] (['h'], 1)
        sampleNode := by
  refine ⟨?_, ?_, ?_⟩
  · intro h
    obtain ⟨rst, _, _, hhanded⟩ := h.code Codes.badRequest (by decide +kernel)
    rw [datagramReceived_code _ _ _ _ _ Codes.badRequest (by decide +kernel)] at hhanded
    exact absurd hhanded (by simp)
  · intro h
    exact absurd h.quiet (by decide +kernel)
  · intro h
    exact absurd h.quiet (by decide +kernel)

end BubotCoap.DatagramReception
