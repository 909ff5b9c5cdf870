import Mathlib.Algebra.Order.Ring.Rat

set_option autoImplicit false

/-!
# Constants and registries

`defines.py`: protocol parameters, the option registry and the message codes.
Times are rational numbers of seconds.
-/
namespace BubotCoap.Defines

def ackTimeout : ℚ := 2
def ackRandomFactor : ℚ := 3 / 2
def maxRetransmit : ℕ := 4
def maxTransmitSpan : ℚ := ackTimeout * (2 ^ (maxRetransmit + 1) - 1) * ackRandomFactor
def maxLatency : ℚ := 120
def processingDelay : ℚ := ackTimeout
def exchangeLifetime : ℚ := maxTransmitSpan + 2 * maxLatency + processingDelay

def maxPayload : ℕ := 1024
def maxNonNotifications : ℕ := 10

def optionDeltaBits : ℕ := 4
def payloadMarker : ℕ := 0xFF
def version : ℕ := 1

def requestCodeLowerBound : ℕ := 1
def requestCodeUpperBound : ℕ := 31
def responseCodeLowerBound : ℕ := 64
def responseCodeUpperBound : ℕ := 191

def discoveryUrl : List Char := "/.well-known/core".toList

inductive ValueType where
  | INTEGER
  | STRING
  | OPAQUE
  | UNKNOWN
  deriving DecidableEq, Repr

structure OptionItem where
  number : ℕ
  name : String
  valueType : ValueType
  repeatable : Bool
  default : Option ℕ
  deriving DecidableEq, Repr

namespace OptionRegistry
open ValueType

def reserved : OptionItem := ⟨0, "Reserved", UNKNOWN, true, none⟩
def ifMatch : OptionItem := ⟨1, "If-Match", OPAQUE, true, none⟩
def uriHost : OptionItem := ⟨3, "Uri-Host", STRING, true, none⟩
def etag : OptionItem := ⟨4, "ETag", OPAQUE, true, none⟩
def ifNoneMatch : OptionItem := ⟨5, "If-None-Match", OPAQUE, false, none⟩
def observe : OptionItem := ⟨6, "Observe", INTEGER, false, some 0⟩
def uriPort : OptionItem := ⟨7, "Uri-Port", INTEGER, false, some 5683⟩
def locationPath : OptionItem := ⟨8, "Location-Path", STRING, true, none⟩
def uriPath : OptionItem := ⟨11, "Uri-Path", STRING, true, none⟩
def contentType : OptionItem := ⟨12, "Content-Type", INTEGER, false, some 0⟩
def maxAge : OptionItem := ⟨14, "Max-Age", INTEGER, false, some 60⟩
def uriQuery : OptionItem := ⟨15, "Uri-Query", STRING, true, none⟩
def accept : OptionItem := ⟨17, "Accept", INTEGER, false, some 0⟩
def locationQuery : OptionItem := ⟨20, "Location-Query", STRING, true, none⟩
def block2 : OptionItem := ⟨23, "Block2", INTEGER, false, none⟩
def block1 : OptionItem := ⟨27, "Block1", INTEGER, false, none⟩
def size2 : OptionItem := ⟨28, "Size2", INTEGER, false, some 0⟩
def proxyUri : OptionItem := ⟨35, "Proxy-Uri", STRING, false, none⟩
def proxyScheme : OptionItem := ⟨39, "Proxy-Schema", STRING, false, none⟩
def size1 : OptionItem := ⟨60, "Size1", INTEGER, false, none⟩
def noResponse : OptionItem := ⟨258, "No-Response", INTEGER, false, none⟩
def rmMessageSwitching : OptionItem := ⟨65524, "Routing", OPAQUE, false, none⟩
def ocfAcceptContentFormatVersion : OptionItem :=
  ⟨2049, "OCF-Accept-Content-Format-Version", INTEGER, false, none⟩
def ocfContentFormatVersion : OptionItem :=
  ⟨2053, "OCF-Content-Format-Version", INTEGER, false, none⟩
def maxMessageSize : OptionItem := ⟨2, "Max-Message-Size", INTEGER, false, some 1152⟩

-- BLOCK_WISE_TRANSFER shares number 4 with ETAG and is not in the table.
def list : List (ℕ × OptionItem) :=
  [(0, reserved), (1, ifMatch), (3, uriHost), (4, etag), (5, ifNoneMatch), (6, observe),
    (7, uriPort), (8, locationPath), (11, uriPath), (12, contentType), (14, maxAge),
    (15, uriQuery), (17, accept), (20, locationQuery), (23, block2), (27, block1), (28, size2),
    (35, proxyUri), (39, proxyScheme), (60, size1), (258, noResponse),
    (2049, ocfAcceptContentFormatVersion), (2053, ocfContentFormatVersion),
    (65524, rmMessageSwitching), (2, maxMessageSize)]

def find? (n : ℕ) : Option OptionItem := list.lookup n

/-- The first byte of the number as the host stores it: in one byte below 256, otherwise as a
little-endian short. `none` is the `struct.error` of a number that fits neither. -/
def optByte (optionNum : ℕ) : Option ℕ :=
  if optionNum < 256 then some optionNum
  else if optionNum < 65536 then some (optionNum % 256)
  else none

/-- `get_option_flags`: the critical, unsafe and no-cache-key bits. -/
def getOptionFlags (optionNum : ℕ) : Option (Bool × Bool × Bool) :=
  (optByte optionNum).map fun b =>
    (decide (b &&& 0x01 > 0), decide (b &&& 0x02 > 0), decide (b &&& 0x1e = 0x1c))

end OptionRegistry

/-- Message types; `None` is the absence of one. -/
inductive MsgType where
  | CON
  | NON
  | ACK
  | RST
  deriving DecidableEq, Repr

def MsgType.toNat : MsgType → ℕ
  | .CON => 0
  | .NON => 1
  | .ACK => 2
  | .RST => 3

def MsgType.ofNat? : ℕ → Option MsgType
  | 0 => some .CON
  | 1 => some .NON
  | 2 => some .ACK
  | 3 => some .RST
  | _ => none

namespace Codes

def errorLowerBound : ℕ := 128

def empty : ℕ := 0
def get : ℕ := 1
def post : ℕ := 2
def put : ℕ := 3
def delete : ℕ := 4
def created : ℕ := 65
def deleted : ℕ := 66
def changed : ℕ := 68
def content : ℕ := 69
def continueCode : ℕ := 95
def badRequest : ℕ := 128
def notFound : ℕ := 132
def methodNotAllowed : ℕ := 133
def requestEntityIncomplete : ℕ := 136
def preconditionFailed : ℕ := 140
def unsupportedContentFormat : ℕ := 143
def internalServerError : ℕ := 160
def csm : ℕ := 225

def list : List ℕ :=
  [0, 1, 2, 3, 4, 65, 66, 67, 68, 69, 95, 128, 131, 132, 133, 134, 136, 140, 141, 143,
    160, 161, 162, 163, 164, 165, 225, 226, 227, 228, 229]

end Codes

theorem mem_list_of_find? (n : ℕ) (i : OptionItem) (h : OptionRegistry.find? n = some i) :
    (n, i) ∈ OptionRegistry.list := by
  obtain ⟨l, r, hl, _⟩ := List.lookup_eq_some_iff.mp h
  rw [hl]
  simp

theorem find?_number (n : ℕ) (i : OptionItem) (h : OptionRegistry.find? n = some i) :
    i.number = n := by
  have key : ∀ p ∈ OptionRegistry.list, p.2.number = p.1 := by decide
  exact key (n, i) (mem_list_of_find? n i h)

theorem find?_uriPath :
    OptionRegistry.find? OptionRegistry.uriPath.number = some OptionRegistry.uriPath := rfl

theorem find?_size1 :
    OptionRegistry.find? OptionRegistry.size1.number = some OptionRegistry.size1 := rfl

theorem find?_le (n : ℕ) (i : OptionItem) (h : OptionRegistry.find? n = some i) : n ≤ 65524 := by
  have key : ∀ p ∈ OptionRegistry.list, p.1 ≤ 65524 := by decide
  exact key (n, i) (mem_list_of_find? n i h)

@[simp] theorem ofNat?_toNat (t : MsgType) : MsgType.ofNat? t.toNat = some t := by
  cases t <;> rfl

theorem toNat_lt (t : MsgType) : t.toNat < 4 := by
  cases t <;> decide

end BubotCoap.Defines
