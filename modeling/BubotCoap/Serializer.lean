import BubotCoap.Messages
import BubotCoap.StableSort
import BubotCoap.StructPack

set_option autoImplicit false

/-!
# The option codec

`serializer.py`: what the UDP and the TCP serializer share. The encoder emits
the arguments of one `struct` format; the decoder walks over the bytes behind
the header with a position, the current option number and the message so far.
-/
namespace BubotCoap.Serializer
open PythonData Defines Options Messages StructPack StableSort

def isRequest (code : ℕ) : Bool :=
  decide (requestCodeLowerBound ≤ code ∧ code ≤ requestCodeUpperBound)

def isResponse (code : ℕ) : Bool :=
  decide (responseCodeLowerBound ≤ code ∧ code ≤ responseCodeUpperBound)

def asSortedList (options : OptionList) : List CoapOption :=
  sortBy CoapOption.number options.toList

/-- Beyond two bytes the error message itself cannot be built: it appends a number to a text. -/
def getOptionNibble (optionvalue : ℕ) : Except PyErr ℕ :=
  if optionvalue ≤ 12 then .ok optionvalue
  else if optionvalue ≤ 255 + 13 then .ok 13
  else if optionvalue ≤ 65535 + 269 then .ok 14
  else .error .typeError

/-- The loop of `int_to_words`, least significant word first. -/
def words (wordSize : ℕ) : ℕ → ℕ → List ℕ
  | 0, _ => []
  | k + 1, n => (n &&& (2 ^ wordSize - 1)) :: words wordSize k (n >>> wordSize)

def intToWords (intVal numWords wordSize : ℕ) : Except PyErr (List ℕ) :=
  if intVal ≤ 2 ^ (wordSize * numWords) - 1 then .ok (words wordSize numWords intVal).reverse
  else .error .attributeError

def extended (nibble value : ℕ) : List Field :=
  if nibble = 13 then [.ubyte (some (value - 13))]
  else if nibble = 14 then [.ushort (value - 269)]
  else []

def valueFields (option : CoapOption) : Except PyErr (List Field) :=
  if option.length > 0 then
    match option.item.valueType, option.value with
    | .INTEGER, .int n => do
      let ws ← intToWords n option.length 8
      .ok (ws.map fun w => .ubyte (some w))
    | .INTEGER, _ => .error .typeError
    | .STRING, .str t => .ok [.str (encodeUtf8 t)]
    | .STRING, _ => .error .typeError
    | _, .bytes b => .ok (b.map fun x => .ubyte (some x.toNat))
    -- the characters of a text are no integers, which the packing finds out
    | _, .str t => .ok (t.map fun _ => .ubyte none)
    | _, _ => .error .typeError
  else .ok []

def optionFields (lastoptionnumber : ℕ) (option : CoapOption) : Except PyErr (List Field) := do
  let optiondelta := option.number - lastoptionnumber
  let optiondeltanibble ← getOptionNibble optiondelta
  let optionlength := option.length
  let optionlengthnibble ← getOptionNibble optionlength
  let tmp := (optiondeltanibble <<< optionDeltaBits) ||| optionlengthnibble
  let value ← valueFields option
  .ok (.ubyte (some tmp) :: extended optiondeltanibble optiondelta ++
    extended optionlengthnibble optionlength ++ value)

def optionsFields (lastoptionnumber : ℕ) : List CoapOption → Except PyErr (List Field)
  | [] => .ok []
  | option :: options => do
    let fs ← optionFields lastoptionnumber option
    let rest ← optionsFields option.number options
    .ok (fs ++ rest)

def payloadFields : Option Payload → List Field
  | some (.bytes b) =>
    if b.length > 0 then [.ubyte (some payloadMarker), .str b] else []
  | some (.str t) =>
    if t.length > 0 then [.ubyte (some payloadMarker), .str (encodeUtf8 t)] else []
  | none => []

def bodyFields (message : Message) : Except PyErr (List Field) := do
  let fs ← optionsFields 0 (asSortedList message.options)
  .ok (fs ++ payloadFields message.payload)

def readExtended (nibble pos : ℕ) (values : Bytes) : Except PyErr (ℕ × ℕ) :=
  if nibble ≤ 12 then .ok (nibble, pos)
  else if nibble = 13 then do
    let b ← item values pos
    .ok (b.toNat + 13, pos + 1)
  else if nibble = 14 then do
    let v ← unpackH (slice values pos (pos + 2))
    .ok (v + 269, pos + 2)
  else .error .attributeError

def readOptionValueLenFromByte (byte pos : ℕ) (values : Bytes) :
    Except PyErr (ℕ × ℕ × ℕ) := do
  let (value, pos) ← readExtended ((byte &&& 0xF0) >>> 4) pos values
  let (length, pos) ← readExtended (byte &&& 0x0F) pos values
  .ok (value, length, pos)

def convertToRaw (number : ℕ) (value : Value) (length : ℕ) : Except PyErr Value :=
  match OptionRegistry.find? number with
  | none => .error .keyError
  | some item =>
    if length = 0 ∧ item.valueType ≠ .INTEGER then .ok (.bytes [])
    else if length = 0 then .ok (.int 0)
    else
      match item.valueType, value with
      | .STRING, .bytes b => (decodeUtf8 b).map .str
      | .OPAQUE, .bytes b => .ok (.bytes b)
      | .OPAQUE, .str t => .ok (.bytes (encodeUtf8 t))
      | .OPAQUE, _ => .error .typeError
      | _, .str t => .ok (.bytes (encodeUtf8 t))
      | _, .int n => .ok (.int n)
      | _, .bytes b => .ok (.bytes b)
      | _, .none => .error .typeError

def readValue (item : OptionItem) (values : Bytes) (pos optionLength : ℕ) : Value :=
  if optionLength = 0 then .none
  else
    let tmp := slice values pos (pos + optionLength)
    match item.valueType with
    | .INTEGER => .int (tmp.foldl (fun v b => (v <<< 8) ||| b.toNat) 0)
    | _ => .bytes tmp

structure Cursor where
  pos : ℕ
  currentOption : ℕ
  message : Message

/-- A decoded option is added; a content type is also remembered as the payload's type. -/
def addDecoded (m : Message) (option : CoapOption) : Except PyErr Message := do
  let m ← m.addOption option
  .ok (if option.number = OptionRegistry.contentType.number then
    { m with payloadType := option.value } else m)

def readOption (values : Bytes) (nextByte : ℕ) (c : Cursor) : Except PyErr Cursor := do
  let (num, optionLength, pos) ← readOptionValueLenFromByte nextByte c.pos values
  let currentOption := c.currentOption + num
  match OptionRegistry.find? currentOption with
  | none =>
    match OptionRegistry.getOptionFlags currentOption with
    | none => .error .structError
    | some (optCritical, _, _) =>
      if optCritical then .error .attributeError
      else .ok ⟨pos + optionLength, currentOption, c.message⟩
  | some item => do
    let raw ← convertToRaw currentOption (readValue item values pos optionLength) optionLength
    let option ← CoapOption.make currentOption raw
    let m ← addDecoded c.message option
    .ok ⟨pos + optionLength, currentOption, m⟩

/-- One round of the loop: an option, or the payload marker and all that follows it. -/
def readStep (values : Bytes) (c : Cursor) : Except PyErr Cursor := do
  let nextByte ← item values c.pos
  let pos := c.pos + 1
  if nextByte.toNat ≠ payloadMarker then
    readOption values nextByte.toNat { c with pos := pos }
  else if values.length ≤ pos then .error .attributeError
  else
    let payload := values.drop pos
    .ok { c with
      pos := pos + payload.length
      message := { c.message with payload := some (.bytes payload) } }

/-- The loop; every round moves forward, so as many rounds as there are bytes are enough. -/
def readLoop (values : Bytes) : ℕ → Cursor → Except PyErr Message
  | 0, c => .ok c.message
  | fuel + 1, c =>
    if c.pos < values.length then readStep values c >>= readLoop values fuel
    else .ok c.message

def readMessage (values : Bytes) (m : Message) : Except PyErr Message :=
  readLoop values values.length ⟨0, 0, m⟩

/-- What `deserialize` returns: a message, or the code of the error reply. -/
inductive Decoded where
  | message (m : Message)
  | code (n : ℕ)
  deriving DecidableEq

def Decoded.message? : Decoded → Option Message
  | .message m => some m
  | .code _ => none

/-- The exceptions the deserializers turn into a code; the others pass through. -/
def badRequestOn : Except PyErr Message → Except PyErr Decoded
  | .ok m => .ok (.message m)
  | .error .attributeError => .ok (.code Codes.badRequest)
  | .error .structError => .ok (.code Codes.badRequest)
  | .error .unicodeDecodeError => .ok (.code Codes.badRequest)
  | .error e => .error e

end BubotCoap.Serializer
