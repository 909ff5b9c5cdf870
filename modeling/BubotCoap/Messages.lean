import BubotCoap.Options

set_option autoImplicit false

/-!
# Messages

`messages/message.py`, `messages/request.py` and `messages/response.py`: the
fields of a message, their setters with the values they refuse, and the
accessors of single options.
-/
namespace BubotCoap.Messages
open PythonData Defines Utils Options

abbrev Address := Text × ℕ

inductive Kind where
  | message
  | request
  | response
  deriving DecidableEq, Repr

inductive Payload where
  | bytes (b : Bytes)
  | str (t : Text)
  deriving DecidableEq, Repr

def Payload.length : Payload → ℕ
  | .bytes b => b.length
  | .str t => t.length

def Payload.slice (i j : ℕ) : Payload → Payload
  | .bytes b => .bytes (PythonData.slice b i j)
  | .str t => .str (PythonData.slice t i j)

/-- `a + b` on two payload attributes. -/
def appendPayload : Option Payload → Option Payload → Except PyErr (Option Payload)
  | some (.bytes a), some (.bytes b) => .ok (some (.bytes (a ++ b)))
  | some (.str a), some (.str b) => .ok (some (.str (a ++ b)))
  | _, _ => .error .typeError

/-- What `add_option` keeps true: only a repeatable option occurs twice. -/
def Once (options : List CoapOption) : Prop :=
  options.Pairwise fun a b => a.number = b.number → a.item.repeatable = true

instance (options : List CoapOption) : Decidable (Once options) :=
  inferInstanceAs (Decidable (List.Pairwise _ options))

structure OptionList where
  toList : List CoapOption
  once : Once toList

namespace OptionList

def empty : OptionList := ⟨[], List.Pairwise.nil⟩

def alreadyIn (os : OptionList) (o : CoapOption) : Bool :=
  os.toList.any fun p => o.number = p.number

/-- `del_option_by_number`. -/
def delete (os : OptionList) (number : ℕ) : OptionList :=
  ⟨os.toList.filter fun o => o.number ≠ number, os.once.sublist List.filter_sublist⟩

theorem once_append (os : OptionList) (o : CoapOption)
    (h : o.item.repeatable = true ∨ os.alreadyIn o = false) : Once (os.toList ++ [o]) := by
  refine List.pairwise_append.mpr ⟨os.once, List.pairwise_singleton _ _, ?_⟩
  intro a ha b hb hnum
  rw [List.mem_singleton] at hb
  subst hb
  rcases h with hrep | hnew
  · have hitem : some a.item = some b.item := by
      rw [← a.registered, ← b.registered]
      exact congrArg _ hnum
    rw [Option.some.inj hitem]
    exact hrep
  · have := List.any_eq_false.mp hnew a ha
    simp only [decide_eq_true_eq] at this
    exact absurd hnum.symm this

/-- `add_option`. -/
def add (os : OptionList) (o : CoapOption) : Except PyErr OptionList :=
  if h : o.item.repeatable = true ∨ os.alreadyIn o = false then
    .ok ⟨os.toList ++ [o], once_append os o h⟩
  else .error .typeError

@[ext] theorem ext {os ps : OptionList} (h : os.toList = ps.toList) : os = ps := by
  cases os
  cases ps
  simp_all

instance : DecidableEq OptionList := fun os ps =>
  decidable_of_iff (os.toList = ps.toList) ⟨ext, congrArg _⟩

end OptionList

structure Message where
  kind : Kind
  type : Option MsgType
  mid : Option ℤ
  token : Option Bytes
  options : OptionList
  payload : Option Payload
  destination : Option Address
  source : Option Address
  code : Option ℕ
  acknowledged : Bool
  rejected : Bool
  timeouted : Bool
  multicast : Bool
  duplicated : Bool
  timestamp : Option ℚ
  scheme : Option Text
  payloadType : Value
  deriving DecidableEq

def Message.new (kind : Kind) : Message where
  kind := kind
  type := none
  mid := none
  token := none
  options := OptionList.empty
  payload := none
  destination := none
  source := none
  code := none
  acknowledged := false
  rejected := false
  timeouted := false
  multicast := false
  duplicated := false
  timestamp := none
  scheme := none
  payloadType := .none

namespace Message

/-- The version is always 1: the setter refuses every other one. -/
def setVersion (m : Message) (v : ℕ) : Except PyErr Message :=
  if v = version then .ok m else .error .attributeError

def setType (m : Message) (value : ℕ) : Except PyErr Message :=
  match MsgType.ofNat? value with
  | some t => .ok { m with type := some t }
  | none => .error .attributeError

def setMid (m : Message) (value : Option ℤ) : Except PyErr Message :=
  match value with
  | some v => if v > 65536 then .error .attributeError else .ok { m with mid := some v }
  | none => .ok { m with mid := none }

def delMid (m : Message) : Message := { m with mid := none }

def setPayload (m : Message) (value : Option Payload) : Message := { m with payload := value }

/-- Without a token the message gets `rng`, the eight random bytes of `generate_random_token`. -/
def setToken (rng : Bytes) (m : Message) (value : Option Bytes) : Except PyErr Message :=
  match value with
  | some v =>
    if v.length > 256 then .error .attributeError else .ok { m with token := some v }
  | none => .ok { m with token := some rng }

def setCode (m : Message) (value : Option ℕ) : Except PyErr Message :=
  match value with
  | some v =>
    if v ∈ Codes.list then .ok { m with code := some v } else .error .attributeError
  | none => .ok { m with code := none }

def setAcknowledged (m : Message) (value : Bool) : Message :=
  if value then { m with acknowledged := true, timeouted := false, rejected := false }
  else { m with acknowledged := false }

def setRejected (m : Message) (value : Bool) : Message :=
  if value then { m with rejected := true, timeouted := false, acknowledged := false }
  else { m with rejected := false }

def setTimeouted (m : Message) (value : Bool) : Message :=
  if value then { m with timeouted := true, acknowledged := false, rejected := false }
  else { m with timeouted := false }

def schemeText (m : Message) : Text :=
  match m.scheme with
  | some (c :: cs) => c :: cs
  | _ => "coap".toList

def addOption (m : Message) (o : CoapOption) : Except PyErr Message :=
  (m.options.add o).map fun os => { m with options := os }

def delOptionByNumber (m : Message) (number : ℕ) : Message :=
  { m with options := m.options.delete number }

def getOption (m : Message) (item : OptionItem) : Option Value :=
  (m.options.toList.find? fun o => o.name = item.name).map CoapOption.value

def addNew (m : Message) (item : OptionItem) (value : Value) : Except PyErr Message :=
  CoapOption.make item.number value >>= m.addOption

def contentType (m : Message) : Value := (m.getOption OptionRegistry.contentType).getD (.int 0)

def observe (m : Message) : Option Value :=
  (m.options.toList.find? fun o => o.number = OptionRegistry.observe.number).map fun o =>
    match o.value with
    | .none => .int 0
    | v => v

def setObserve (m : Message) (ob : Value) : Except PyErr Message :=
  (m.delOptionByNumber OptionRegistry.observe.number).addNew OptionRegistry.observe ob

/-- The last option of a block option's number decides. -/
def block (number : ℕ) (m : Message) : Except PyErr (Option (ℕ × ℕ × ℕ)) :=
  m.options.toList.foldlM
    (fun value o => if o.number = number then some <$> parseBlockwise o.value else pure value)
    none

def szx (size : ℕ) : ℕ :=
  if size > 512 then 6
  else if 256 < size ∧ size ≤ 512 then 5
  else if 128 < size ∧ size ≤ 256 then 4
  else if 64 < size ∧ size ≤ 128 then 3
  else if 32 < size ∧ size ≤ 64 then 2
  else if 16 < size ∧ size ≤ 32 then 1
  else 0

def blockValue (num more size : ℕ) : ℕ := (num <<< 4) ||| (more <<< 3) ||| szx size

def block1 (m : Message) : Except PyErr (Option (ℕ × ℕ × ℕ)) :=
  m.block OptionRegistry.block1.number

def setBlock1 (m : Message) (num more size : ℕ) : Except PyErr Message :=
  m.addNew OptionRegistry.block1 (.int (blockValue num more size))

def delBlock1 (m : Message) : Message := m.delOptionByNumber OptionRegistry.block1.number

def block2 (m : Message) : Except PyErr (Option (ℕ × ℕ × ℕ)) :=
  m.block OptionRegistry.block2.number

def setBlock2 (m : Message) (num more size : ℕ) : Except PyErr Message :=
  m.addNew OptionRegistry.block2 (.int (blockValue num more size))

def delBlock2 (m : Message) : Message := m.delOptionByNumber OptionRegistry.block2.number

def setSize1 (m : Message) (value : ℕ) : Except PyErr Message :=
  m.addNew OptionRegistry.size1 (.int value)

def delSize1 (m : Message) : Message := m.delOptionByNumber OptionRegistry.size1.number

def size2 (m : Message) : Option Value := m.getOption OptionRegistry.size2

def setSize2 (m : Message) (value : ℕ) : Except PyErr Message :=
  m.addNew OptionRegistry.size2 (.int value)

def delSize2 (m : Message) : Message := m.delOptionByNumber OptionRegistry.size2.number

def uriPath (m : Message) : Text :=
  (m.options.toList.flatMap fun o =>
    if o.number = OptionRegistry.uriPath.number then strOf o.value ++ ['/'] else []).dropLast

/-- The address a request was sent to; of a group address only the host. -/
def replySource (request : Message) : Except PyErr (Option Address) :=
  if request.multicast then
    match request.destination with
    | some (host, _) => .ok (some (host, 0))
    | none => .error .typeError
  else
    match request.destination with
    | some address => .ok (some address)
    -- the source setter refuses what is no pair
    | none => .error .attributeError

/-- `Response.init_from_request`. -/
def initFromRequest (rng : Bytes) (request : Message) : Except PyErr Message := do
  let source ← replySource request
  let response :=
    { Message.new .response with
      destination := request.source
      source := source
      scheme := some request.schemeText }
  response.setToken rng request.token

end Message

end BubotCoap.Messages
