import BubotCoap.SerializerTcp

set_option autoImplicit false

/-!
# The TCP protocol object

`coap_tcp_protocol.py`: the receive buffer of one connection and the messages
handed on. The module's own copies of the length functions are those of the
serializer.
-/
namespace BubotCoap.CoapTcpProtocol
open PythonData Messages Serializer SerializerTcp

structure Protocol where
  endpoint : Address
  scheme : Text
  isServer : Bool
  remoteAddress : Address
  spool : Bytes
  /-- The arguments `message_received` has been called with. -/
  received : List Message

def Protocol.new (endpoint : Address) (scheme : Text) (isServer : Bool) (remote : Address) :
    Protocol := ⟨endpoint, scheme, isServer, remote, [], []⟩

def addressed (p : Protocol) (m : Message) : Message :=
  { m with
    destination := some p.endpoint
    multicast := false
    scheme := if p.isServer then some p.scheme else m.scheme }

/-- Every way through the body of the read loop leaves it: with `break` while the next frame is
incomplete, with `return` after one frame. The exception of a call is the second component; those
of `message_received` are left to `StreamErrors.dataReceived`, and change neither the buffer nor
the messages handed on (`StreamErrors.dataReceived_protocol`). -/
def dataReceived (rng : Bytes) (p : Protocol) (data : Bytes) : Protocol × Option PyErr :=
  let p := { p with spool := p.spool ++ data }
  match extractMessageSize p.spool with
  | none => (p, none)
  | some (tokenoffset, tkl, l) =>
    let msgSize := tokenoffset + tkl + l
    if msgSize > p.spool.length then (p, none)
    else
      match deserialize rng (p.spool.take msgSize) p.remoteAddress with
      | .error e => (p, some e)
      -- the class has no method for bad messages
      | .ok (.code _) => ({ p with spool := p.spool.drop msgSize }, some .attributeError)
      | .ok (.message m) =>
        ({ p with
          spool := p.spool.drop msgSize
          received := p.received ++ [addressed p m] }, none)

/-- One call for each chunk, until one of them does not read its frame. -/
def dataReceivedAll (rng : Bytes) (p : Protocol) : List Bytes → Protocol × Option PyErr
  | [] => (p, none)
  | data :: rest =>
    match dataReceived rng p data with
    | (p, some e) => (p, some e)
    | (p, none) => dataReceivedAll rng p rest

end BubotCoap.CoapTcpProtocol
