import BubotCoap.Serializer

set_option autoImplicit false

/-!
# The UDP serializer

`serializer_udp.py` and the identical class of `serializer.py`.
-/
namespace BubotCoap.SerializerUdp
open PythonData Defines Messages StructPack Serializer

/-- The four fixed bytes and the token. A missing code or message id is sent as zero. -/
def headerFields (message : Message) : Except PyErr (List Field) :=
  match message.type with
  | none => .error .typeError
  | some type =>
    let token := message.token.getD []
    let tkl := token.length
    let tmp := ((version <<< 2 ||| type.toNat) <<< 4) ||| tkl
    .ok ([.ubyte (some tmp), .ubyte (some (message.code.getD 0)), .ushort (message.mid.getD 0)] ++
      if tkl > 0 then [.str token] else [])

/-- The buffer that `serialize` returns, filled as far as the packing came. -/
def serialize (message : Message) : Except PyErr Bytes := do
  let header ← headerFields message
  let body ← bodyFields message
  .ok (packInto network (header ++ body)).1

/-- The class of a received message follows from its code; an empty message keeps none. -/
def newMessage (code : ℕ) : Except PyErr Message :=
  if isResponse code then (Message.new .response).setCode (some code)
  else if isRequest code then (Message.new .request).setCode (some code)
  else .ok (Message.new .message)

def readHeader (rng datagram : Bytes) (source : Address) : Except PyErr (Message × Bytes) := do
  let (first, code, mid) ← unpackBBH datagram
  let messageType := (first &&& 0x30) >>> 4
  let tokenLength := first &&& 0x0F
  let message ← newMessage code
  let message := { message with source := some source, destination := none }
  let message ← message.setVersion ((first &&& 0xC0) >>> 6)
  let message ← message.setType messageType
  let message ← message.setMid (some mid)
  let token := if tokenLength > 0 then some (slice datagram 4 (4 + tokenLength)) else none
  let message ← message.setToken rng token
  .ok (message, datagram.drop (4 + tokenLength))

/-- `rng` is the token generated for a datagram that carries none. -/
def deserialize (rng datagram : Bytes) (source : Address) : Except PyErr Decoded :=
  badRequestOn do
    let (message, values) ← readHeader rng datagram source
    readMessage values message

end BubotCoap.SerializerUdp
