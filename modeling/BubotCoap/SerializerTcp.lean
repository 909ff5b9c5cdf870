import BubotCoap.Serializer

set_option autoImplicit false

/-!
# The TCP serializer

`serializer_tcp.py`. Its option encoder starts from an empty format string, so
the body is laid out as the host does it: `host` is the layout of a format
without a prefix.
-/
namespace BubotCoap.SerializerTcp
open PythonData Defines Messages StructPack Serializer

def extendedLength (l : ℕ) : ℕ × ℕ :=
  if l = 13 then (1, 13) else if l = 14 then (2, 269) else (4, 65805)

/-- Offset of the token, token length and length of options and payload, once they are known. -/
def extractMessageSize (data : Bytes) : Option (ℕ × ℕ × ℕ) :=
  match data with
  | [] => none
  | first :: _ =>
    let l := first.toNat >>> 4
    let tkl := first.toNat &&& 0x0f
    if l ≥ 13 then
      let (extlen, offset) := extendedLength l
      if data.length < extlen + 1 then none
      else some (2 + extlen, tkl, BigEndian.value (slice data 1 (1 + extlen)) + offset)
    else some (2, tkl, l)

def encodeLength (l : ℕ) : Except PyErr (ℕ × Bytes) :=
  if l < 13 then .ok (l, [])
  else if l < 269 then toBytes 13 1 (l - 13)
  else if l < 65805 then toBytes 14 2 (l - 269)
  else toBytes 15 4 (l - 65805)
where
  toBytes (nibble width n : ℕ) : Except PyErr (ℕ × Bytes) := do
    fits width n
    .ok (nibble, BigEndian.bytes width n)

/-- The options and the payload; `pack_into` may have stopped before the end. -/
def bodyBytes (host : Layout) (message : Message) : Except PyErr Bytes := do
  let body ← bodyFields message
  .ok (packInto host body).1

def serialize (host : Layout) (message : Message) : Except PyErr Bytes := do
  let datagram ← bodyBytes host message
  let (l, extlen) ← encodeLength datagram.length
  let token := message.token.getD []
  let tkl := token.length
  if tkl > 8 then .error .valueError
  else
    match message.code with
    | none => .error .typeError
    | some code =>
      if code < 256 then
        .ok ([UInt8.ofNat ((l <<< 4) ||| tkl)] ++ extlen ++ [UInt8.ofNat code] ++ token ++ datagram)
      else .error .valueError

def readHeader (rng datagram : Bytes) (source : Address) : Except PyErr (Message × Bytes) :=
  match extractMessageSize datagram with
  | none => .error .typeError
  | some (tokenoffset, tkl, _) => do
    -- the exception meant to be raised here needs five arguments and is given one
    if tkl > 8 then .error .typeError
    else
      let code ← item datagram (tokenoffset - 1)
      let token := slice datagram tokenoffset (tokenoffset + tkl)
      let kind :=
        if isResponse code.toNat then Kind.response
        else if isRequest code.toNat then Kind.request
        else Kind.message
      let message ← (Message.new kind).setCode (some code.toNat)
      let message := { message with source := some source, destination := none }
      let message ← message.setToken rng (some token)
      .ok (message, datagram.drop (tokenoffset + tkl))

def deserialize (rng datagram : Bytes) (source : Address) : Except PyErr Decoded :=
  badRequestOn do
    let (message, values) ← readHeader rng datagram source
    readMessage values message

end BubotCoap.SerializerTcp
