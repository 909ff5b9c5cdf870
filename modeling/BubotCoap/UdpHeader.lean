import BubotCoap.TokenEcho

set_option autoImplicit false

namespace BubotCoap.UdpHeader
open PythonData Defines Utils Options Messages StructPack StableSort Serializer OptionWire
  SerializerUdp UdpRoundTrip Truncation TokenEcho

def versionBits (datagram : Bytes) : ℕ := (datagram.headD 0).toNat / 64

def typeBits (datagram : Bytes) : ℕ := (datagram.headD 0).toNat / 16 % 4

def codeByte (datagram : Bytes) : ℕ := ((datagram.drop 1).headD 0).toNat

def midBytes (datagram : Bytes) : ℕ := BigEndian.value (slice datagram 2 4)

/-- What the first bytes of a datagram say by the layout of RFC 7252 is the message's. A missing
message id stands for zero, and a missing token for the empty one. -/
structure Heads (m : Message) (datagram : Bytes) : Prop where
  complete : 4 + tokenLength datagram ≤ datagram.length
  version : versionBits datagram = 1
  type : m.type.map MsgType.toNat = some (typeBits datagram)
  tokenLength : tokenLength datagram = (m.token.getD []).length
  code : codeByte datagram = m.code.getD 0
  mid : (midBytes datagram : ℤ) = m.mid.getD 0
  token : tokenBytes datagram = m.token.getD []

/-- `serialize` raises, or the header comes out right. -/
def HeaderKept (m : Message) : Prop :=
  (∃ e, serialize m = .error e) ∨ ∃ datagram, serialize m = .ok datagram ∧ Heads m datagram

/-- The options the encoder refuses: too long a value, and a number under the reserved option. -/
def Refused (o : CoapOption) : Prop :=
  65804 < o.length ∨ o.item.valueType = .UNKNOWN ∧ ∃ n, n ≠ 0 ∧ o.stored = .int n

theorem type_eq_bits (x : UInt8) : (x.toNat &&& 0x30) >>> 4 = x.toNat / 16 % 4 := by
  rw [Nat.shiftRight_and_distrib, Nat.shiftRight_eq_div_pow]
  exact Nat.and_two_pow_sub_one_eq_mod _ 2

theorem heads_wire (m : Message) (t : MsgType) (rest : Bytes) (htype : m.type = some t)
    (hc : m.code.getD 0 < 256) (hpos : 0 ≤ m.mid.getD 0) (hm : m.mid.getD 0 ≤ 65535)
    (hle : (m.token.getD []).length ≤ 15) :
    Heads m (headerWire t (m.code.getD 0) (m.mid.getD 0).toNat (m.token.getD []) ++ rest) := by
  obtain ⟨hfirst, hversion, htypeBits, htkl⟩ := first_byte t (m.token.getD []).length (by omega)
  have hmid := BigEndian.value_bytes 2 (m.mid.getD 0).toNat (by omega)
  rw [BigEndian.bytes_two] at hmid
  set first := (version <<< 2 ||| t.toNat) <<< 4 ||| (m.token.getD []).length with hdef
  have hnat : (UInt8.ofNat first).toNat = first := by
    rw [UInt8.toNat_ofNat']
    omega
  have hwire : headerWire t (m.code.getD 0) (m.mid.getD 0).toNat (m.token.getD []) ++ rest =
      UInt8.ofNat first :: UInt8.ofNat (m.code.getD 0) ::
        UInt8.ofNat ((m.mid.getD 0).toNat / 256) :: UInt8.ofNat (m.mid.getD 0).toNat :: (m.token.getD [] ++ rest) := by
    simp [headerWire, BigEndian.bytes_two, hdef]
  have hlength : Truncation.tokenLength
      (headerWire t (m.code.getD 0) (m.mid.getD 0).toNat (m.token.getD []) ++ rest) =
        (m.token.getD []).length := by
    rw [hwire]
    unfold Truncation.tokenLength
    rw [List.headD_cons, ← DeserializeErrors.low_nibble, hnat, htkl]
  refine ⟨?_, ?_, ?_, hlength, ?_, ?_, ?_⟩
  · rw [hlength, hwire]
    simp only [List.length_cons, List.length_append]
    omega
  · rw [hwire]
    unfold versionBits
    rw [List.headD_cons, ← DeserializeErrors.version_bits, hnat, hversion]
    rfl
  · rw [hwire, htype]
    unfold typeBits
    rw [List.headD_cons, ← type_eq_bits, hnat, htypeBits]
    rfl
  · rw [hwire]
    unfold codeByte
    rw [List.drop_one, List.tail_cons, List.headD_cons, UInt8.toNat_ofNat']
    omega
  · rw [hwire]
    unfold midBytes
    change ((BigEndian.value [UInt8.ofNat ((m.mid.getD 0).toNat / 256),
      UInt8.ofNat (m.mid.getD 0).toNat] : ℕ) : ℤ) = m.mid.getD 0
    omega
  · unfold tokenBytes
    rw [hlength, hwire]
    exact slice_append [UInt8.ofNat first, UInt8.ofNat (m.code.getD 0),
      UInt8.ofNat ((m.mid.getD 0).toNat / 256), UInt8.ofNat (m.mid.getD 0).toNat] (m.token.getD []) rest 4 _
      rfl rfl

/-- No datagram announces a token of more than fifteen bytes or a longer message id, nor a
negative one. -/
theorem range_of_heads (m : Message) (datagram : Bytes) (h : Heads m datagram) :
    (m.token.getD []).length ≤ 15 ∧ 0 ≤ m.mid.getD 0 ∧ m.mid.getD 0 ≤ 65535 := by
  constructor
  · rw [← h.tokenLength]
    unfold Truncation.tokenLength
    omega
  · rw [← h.mid]
    have hvalue := BigEndian.value_lt (slice datagram 2 4)
    have hlength : (slice datagram 2 4).length ≤ 2 := List.length_take_le _ _
    unfold midBytes
    have hpow : 256 ^ (slice datagram 2 4).length ≤ 256 ^ 2 :=
      Nat.pow_le_pow_right (by decide) hlength
    omega

theorem value_of_reserved (o : CoapOption) (n : ℕ) (htype : o.item.valueType = .UNKNOWN)
    (hs : o.stored = .int n) (hpos : o.length > 0) : valueFields o = .error .typeError := by
  unfold valueFields
  rw [if_pos hpos, value_of_length_pos o hpos, htype, hs]

/-- Only the reserved option can hold a value that its encoder is not made for. -/
theorem emits_or_reserved (o : CoapOption) :
    Emits o ∨ o.item.valueType = .UNKNOWN ∧
      ((∃ n, o.stored = .int n) ∨ ∃ t, o.stored = .str t) := by
  have htyped := o.typed
  unfold Emits
  revert htyped
  cases o.item.valueType <;> cases o.stored <;> simp [accepts]

theorem valueFields_ok (o : CoapOption)
    (h : ¬ (o.item.valueType = .UNKNOWN ∧ ∃ n, n ≠ 0 ∧ o.stored = .int n)) :
    ∃ fs, valueFields o = .ok fs := by
  by_cases hpos : o.length > 0
  · rcases emits_or_reserved o with hemits | ⟨htype, ⟨n, hs⟩ | ⟨t, hs⟩⟩
    · obtain ⟨fs, hfs, -⟩ := valueFields_emits o hemits
      exact ⟨fs, hfs⟩
    · refine absurd ⟨htype, n, ?_, hs⟩ h
      rintro rfl
      unfold CoapOption.length at hpos
      rw [hs] at hpos
      exact absurd hpos (by decide)
    · refine ⟨t.map fun _ => .ubyte none, ?_⟩
      unfold valueFields
      rw [if_pos hpos, value_of_length_pos o hpos, htype, hs]
  · exact ⟨[], if_neg hpos⟩

theorem optionFields_error_iff (last : ℕ) (o : CoapOption) :
    (∃ e, optionFields last o = .error e) ↔ Refused o := by
  unfold optionFields Refused
  dsimp only
  rw [getOptionNibble_eq _ (delta_le last o), ok_bind]
  by_cases hlong : 65804 < o.length
  · have hnibble : getOptionNibble o.length = .error .typeError := by
      unfold getOptionNibble
      rw [if_neg (by omega), if_neg (by omega), if_neg (by omega)]
    exact iff_of_true ⟨.typeError, by rw [hnibble]; rfl⟩ (Or.inl hlong)
  · rw [getOptionNibble_eq _ (Nat.le_of_not_lt hlong), ok_bind]
    by_cases hreserved : o.item.valueType = .UNKNOWN ∧ ∃ n, n ≠ 0 ∧ o.stored = .int n
    · obtain ⟨htype, n, hn, hs⟩ := hreserved
      have hpos : o.length > 0 := by
        have hzero := (byteLen_eq_zero_iff n).not.mpr hn
        unfold CoapOption.length
        rw [hs]
        dsimp only
        omega
      refine iff_of_true ⟨.typeError, ?_⟩ (Or.inr ⟨htype, n, hn, hs⟩)
      rw [value_of_reserved o n htype hs hpos]
      rfl
    · obtain ⟨fs, hfs⟩ := valueFields_ok o hreserved
      refine iff_of_false ?_ ?_
      · rintro ⟨e, he⟩
        rw [hfs] at he
        cases he
      · rintro (h | h)
        · exact hlong h
        · exact hreserved h

theorem optionsFields_error_iff (os : List CoapOption) (last : ℕ) :
    (∃ e, optionsFields last os = .error e) ↔ ∃ o ∈ os, Refused o := by
  induction os generalizing last with
  | nil =>
    refine iff_of_false ?_ (by simp)
    rintro ⟨e, he⟩
    cases he
  | cons o os ih =>
    have hone := optionFields_error_iff last o
    have hrest := ih o.number
    rw [optionsFields, List.exists_mem_cons_iff, ← hone, ← hrest]
    cases optionFields last o with
    | error e => exact iff_of_true ⟨e, rfl⟩ (Or.inl ⟨e, rfl⟩)
    | ok fs =>
      rw [ok_bind]
      cases optionsFields o.number os with
      | error e => exact iff_of_true ⟨e, rfl⟩ (Or.inr ⟨e, rfl⟩)
      | ok gs =>
        refine iff_of_false ?_ ?_
        · rintro ⟨e, he⟩
          cases he
        · rintro (⟨e, he⟩ | ⟨e, he⟩)
          · cases he
          · cases he

theorem serialize_error_iff (m : Message) (t : MsgType) (htype : m.type = some t) :
    (∃ e, serialize m = .error e) ↔ ∃ o ∈ m.options.toList, Refused o := by
  have hsorted : (∃ o ∈ asSortedList m.options, Refused o) ↔ ∃ o ∈ m.options.toList, Refused o := by
    unfold asSortedList
    simp only [mem_sortBy]
  rw [← hsorted, ← optionsFields_error_iff (asSortedList m.options) 0]
  unfold serialize headerFields bodyFields
  rw [htype]
  dsimp only
  rw [ok_bind]
  cases optionsFields 0 (asSortedList m.options) with
  | error e => exact iff_of_true ⟨e, rfl⟩ ⟨e, rfl⟩
  | ok fs =>
    refine iff_of_false ?_ ?_
    · rintro ⟨e, he⟩
      cases he
    · rintro ⟨e, he⟩
      cases he

/-- The header comes out right, or none comes out, exactly if the token has at most fifteen bytes
and the message id is one of two bytes, or an option is refused. -/
theorem headerKept_iff (m : Message) (t : MsgType) (c : ℕ) (htype : m.type = some t)
    (hcode : m.code = some c) (hc : c ∈ Codes.list) :
    HeaderKept m ↔
      (m.token.getD []).length ≤ 15 ∧ 0 ≤ m.mid.getD 0 ∧ m.mid.getD 0 ≤ 65535 ∨
        ∃ o ∈ m.options.toList, Refused o := by
  rw [← serialize_error_iff m t htype]
  constructor
  · rintro (herror | ⟨datagram, -, hheads⟩)
    · exact Or.inr herror
    · exact Or.inl (range_of_heads m datagram hheads)
  · rintro (⟨hle, hpos, hm⟩ | herror)
    · cases hser : serialize m with
      | error e => exact Or.inl ⟨e, hser⟩
      | ok datagram =>
        have hlt : m.code.getD 0 < 256 := by
          rw [hcode]
          exact code_lt c hc
        obtain ⟨rest, rfl⟩ := serialize_header m t datagram htype hlt hpos hm hle hser
        exact Or.inr ⟨_, hser, heads_wire m t rest htype hlt hpos hm hle⟩
    · exact Or.inl herror

/-- A ping whose message id does not fit in two bytes: the setter accepts it. -/
def pingOf (mid : ℤ) : Message :=
  { Message.new .message with
    type := some .CON
    code := some Codes.empty
    mid := some mid }

theorem headerKept_iff_longMid :
    HeaderKept (pingOf 65536) ↔
      ((pingOf 65536).token.getD []).length ≤ 15 ∧ 0 ≤ (pingOf 65536).mid.getD 0 ∧
          (pingOf 65536).mid.getD 0 ≤ 65535 ∨
        ∃ o ∈ (pingOf 65536).options.toList, Refused o :=
  headerKept_iff (pingOf 65536) .CON Codes.empty rfl rfl (by decide)

/-- The setter accepts the message id, and it is sent as zero. -/
structure Zeroed (mid : ℤ) : Prop where
  accepted : (Message.new .message).setMid (some mid) =
    .ok { Message.new .message with mid := some mid }
  serialized : serialize (pingOf mid) = .ok [0x40, 0, 0, 0]
  corrupted : ¬ HeaderKept (pingOf mid)

/-- The first one too large for two bytes, and a negative one. -/
theorem not_headerKept : Zeroed 65536 ∧ Zeroed (-1) := by
  have hser : ∀ mid, mid = 65536 ∨ mid = -1 → serialize (pingOf mid) = .ok [0x40, 0, 0, 0] := by
    rintro mid (rfl | rfl) <;> decide
  have hset : ∀ mid, mid = 65536 ∨ mid = -1 → (Message.new .message).setMid (some mid) =
      .ok { Message.new .message with mid := some mid } := by
    rintro mid (rfl | rfl) <;> rfl
  have hzeroed : ∀ mid, mid = 65536 ∨ mid = -1 → Zeroed mid := by
    intro mid hmid
    refine ⟨hset mid hmid, hser mid hmid, ?_⟩
    rintro (⟨e, he⟩ | ⟨datagram, -, hheads⟩)
    · rw [hser mid hmid] at he
      cases he
    · obtain ⟨-, hpos, hle⟩ := range_of_heads (pingOf mid) datagram hheads
      change 0 ≤ mid at hpos
      change mid ≤ 65535 at hle
      omega
  exact ⟨hzeroed 65536 (Or.inl rfl), hzeroed (-1) (Or.inr rfl)⟩

end BubotCoap.UdpHeader
