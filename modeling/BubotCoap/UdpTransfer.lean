import BubotCoap.OptionAccess
import BubotCoap.UdpRoundTrip

set_option autoImplicit false

namespace BubotCoap.UdpTransfer
open PythonData Defines Utils Options Messages StableSort Serializer OptionAccess OptionWire
  SerializerUdp UdpRoundTrip

/-- Serialization, and `datagram_received` at the endpoint `destination`. -/
def transfer (rng : Bytes) (scheme : Text) (source destination : Address) (m : Message) :
    Except PyErr Decoded := do
  let datagram ← serialize m
  let decoded ← deserialize rng datagram source
  match decoded with
  | .message m' =>
    .ok (.message { m' with
      destination := some destination
      multicast := false
      scheme := some scheme })
  | .code n => .ok (.code n)

/-- The message as it arrives, `pt` being what it remembers of the content type. -/
def arrived (scheme : Text) (source destination : Address) (pt : Value) (m : Message) : Message :=
  { received m source pt with
    destination := some destination
    multicast := false
    scheme := some scheme }

theorem transfer_eq (rng : Bytes) (scheme : Text) (source destination : Address) (m : Message)
    (h : UdpEncodable m) :
    ∃ pt, transfer rng scheme source destination m =
      .ok (.message (arrived scheme source destination pt m)) := by
  obtain ⟨datagram, pt, hserialize, hdeserialize⟩ := deserialize_wire m rng source h
  refine ⟨pt, ?_⟩
  unfold transfer
  rw [hserialize, ok_bind, hdeserialize]
  rfl

theorem ofNumber_sorted (number : ℕ) (os : OptionList) :
    ofNumber number (sortedOptions os) = ofNumber number os :=
  (sortBy_stable CoapOption.number os.toList).stable number

section
variable (scheme : Text) (source destination : Address) (pt : Value) (m : Message)

theorem block_arrived (number : ℕ) :
    (arrived scheme source destination pt m).block number = m.block number :=
  block_congr number _ _ (ofNumber_sorted number m.options)

theorem contentType_arrived :
    (arrived scheme source destination pt m).contentType = m.contentType :=
  contentType_congr _ _ (ofNumber_sorted _ m.options)

end

theorem optionsFields_error (o : CoapOption) (hlong : 65804 < o.length) (os : List CoapOption)
    (ho : o ∈ os) (last : ℕ) : ∀ fs, optionsFields last os ≠ .ok fs := by
  induction os generalizing last with
  | nil => exact absurd ho List.not_mem_nil
  | cons p os ih =>
    intro fs h
    rw [optionsFields] at h
    obtain ⟨f, hfirst, h⟩ := (bind_eq_ok _ _ _).mp h
    obtain ⟨rest, hrest, _⟩ := (bind_eq_ok _ _ _).mp h
    rcases List.mem_cons.mp ho with rfl | hmem
    · obtain ⟨_, _, hfirst⟩ := (bind_eq_ok _ _ _).mp hfirst
      obtain ⟨_, hlength, _⟩ := (bind_eq_ok _ _ _).mp hfirst
      unfold getOptionNibble at hlength
      rw [if_neg (by omega), if_neg (by omega), if_neg (by omega)] at hlength
      cases hlength
    · exact ih hmem p.number rest hrest

theorem transfer_error (rng : Bytes) (scheme : Text) (source destination : Address) (m : Message)
    (o : CoapOption) (ho : o ∈ m.options.toList) (hlong : 65804 < o.length) :
    ∃ e, transfer rng scheme source destination m = .error e := by
  cases h : transfer rng scheme source destination m with
  | error e => exact ⟨e, rfl⟩
  | ok d =>
    obtain ⟨datagram, hserialize, _⟩ := (bind_eq_ok _ _ _).mp h
    obtain ⟨header, _, hserialize⟩ := (bind_eq_ok _ _ _).mp hserialize
    obtain ⟨body, hbody, _⟩ := (bind_eq_ok _ _ _).mp hserialize
    obtain ⟨fs, hfs, _⟩ := (bind_eq_ok _ _ _).mp hbody
    have hmem : o ∈ asSortedList m.options := (mem_sortBy CoapOption.number _ o).mpr ho
    exact absurd hfs (optionsFields_error o hlong _ hmem 0 fs)

theorem intOption_encodable (item : OptionItem) (v : ℕ)
    (h : OptionRegistry.find? item.number = some item) (hi : item.valueType = .INTEGER)
    (hv : byteLen v ≤ 65804) : Encodable (intOption item v h hi) := by
  refine ⟨hv, ?_⟩
  dsimp only [intOption]
  rw [hi]
  trivial

end BubotCoap.UdpTransfer
