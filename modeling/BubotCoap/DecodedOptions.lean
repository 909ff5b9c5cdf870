import BubotCoap.DeserializeErrors
import BubotCoap.MessageLayer

set_option autoImplicit false

namespace BubotCoap.DecodedOptions
open PythonData Defines Options Messages Serializer DeserializeErrors

section
variable (Q : Message → Prop)
  (hoption : ∀ (m m' : Message) (number : ℕ) (value raw : Value) (length : ℕ) (o : CoapOption),
    convertToRaw number value length = .ok raw → CoapOption.make number raw = .ok o →
      addDecoded m o = .ok m' → Q m → Q m')
include hoption

theorem optionRound_keeps (values : Bytes) (number length pos : ℕ) (m : Message) (c' : Cursor)
    (h : optionRound values number length pos m = .ok c') (hm : Q m) : Q c'.message := by
  unfold optionRound at h
  split at h
  · split at h
    · cases h
    · split_ifs at h
      rwa [← Except.ok.inj h]
  · obtain ⟨raw, hraw, h⟩ := (bind_eq_ok _ _ _).mp h
    obtain ⟨o, hmake, h⟩ := (bind_eq_ok _ _ _).mp h
    obtain ⟨m', hadd, h⟩ := (bind_eq_ok _ _ _).mp h
    rw [← Except.ok.inj h]
    exact hoption m m' number _ raw length o hraw hmake hadd hm

variable (hpayload : ∀ (m : Message) (payload : Option Payload),
  Q m → Q { m with payload := payload })
include hpayload

theorem readStep_keeps (values : Bytes) (c c' : Cursor) (h : readStep values c = .ok c')
    (hc : Q c.message) : Q c'.message := by
  unfold readStep at h
  obtain ⟨first, _, h⟩ := (bind_eq_ok _ _ _).mp h
  dsimp only at h
  split_ifs at h
  · rw [readOption_eq] at h
    obtain ⟨r, _, h⟩ := (bind_eq_ok _ _ _).mp h
    exact optionRound_keeps Q hoption values _ _ _ _ c' h hc
  · rw [← Except.ok.inj h]
    exact hpayload _ _ hc

/-- What each decoded option and the payload keep holds in the end. -/
theorem readLoop_keeps (values : Bytes) (fuel : ℕ) (c : Cursor) (m : Message)
    (h : readLoop values fuel c = .ok m) (hc : Q c.message) : Q m := by
  induction fuel generalizing c with
  | zero => rwa [← Except.ok.inj h]
  | succ fuel ih =>
    unfold readLoop at h
    split_ifs at h
    · obtain ⟨c', hstep, h⟩ := (bind_eq_ok _ _ _).mp h
      exact ih c' h (readStep_keeps Q hoption hpayload values c c' hstep hc)
    · rwa [← Except.ok.inj h]

end

theorem addDecoded_eq (m m' : Message) (o : CoapOption) (h : addDecoded m o = .ok m') :
    m'.options.toList = m.options.toList ++ [o] ∧ m'.token = m.token := by
  unfold addDecoded Message.addOption at h
  cases hadd : m.options.add o with
  | error e =>
    rw [hadd] at h
    cases h
  | ok os =>
    rw [hadd] at h
    simp only [Except.map, ok_bind, Except.ok.injEq] at h
    have hos : os.toList = m.options.toList ++ [o] := by
      unfold OptionList.add at hadd
      split_ifs at hadd
      rw [← Except.ok.inj hadd]
    rw [← h, ← hos]
    split
    · exact ⟨rfl, rfl⟩
    · exact ⟨rfl, rfl⟩

theorem make_ok (number : ℕ) (value : Value) (o : CoapOption)
    (h : CoapOption.make number value = .ok o) :
    OptionRegistry.find? number = some o.item ∧ setValue o.item.valueType value = .ok o.stored := by
  unfold CoapOption.make at h
  split at h
  · cases h
  · next item hfind =>
    split at h
    · cases h
    · next v hv =>
      rw [← Except.ok.inj h]
      exact ⟨hfind, hv⟩

theorem convertToRaw_opaque (number length : ℕ) (value raw : Value) (item : OptionItem)
    (hitem : OptionRegistry.find? number = some item) (htype : item.valueType = .OPAQUE)
    (h : convertToRaw number value length = .ok raw) : ∃ b, raw = .bytes b := by
  unfold convertToRaw at h
  rw [hitem] at h
  dsimp only at h
  rw [htype] at h
  split_ifs at h with hempty hzero
  · exact ⟨[], (Except.ok.inj h).symm⟩
  · exact absurd ⟨hzero, by decide⟩ hempty
  · cases value with
    | none => cases h
    | int n => cases h
    | bytes b => exact ⟨b, (Except.ok.inj h).symm⟩
    | str t => exact ⟨encodeUtf8 t, (Except.ok.inj h).symm⟩

/-- The OPAQUE options hold bytes. -/
def OpaqueBytes (m : Message) : Prop :=
  ∀ o ∈ m.options.toList, o.item.valueType = .OPAQUE → ∃ b, o.stored = .bytes b

theorem readMessage_opaqueBytes (values : Bytes) (base m : Message)
    (h : readMessage values base = .ok m) (hbase : OpaqueBytes base) : OpaqueBytes m := by
  refine readLoop_keeps OpaqueBytes ?_ (fun _ _ hm => hm) values _ _ m h hbase
  intro m m' number value raw length o hraw hmake hadd hm x hx htype
  rw [(addDecoded_eq m m' o hadd).1] at hx
  rcases List.mem_append.mp hx with hx | hx
  · exact hm x hx htype
  · rw [List.mem_singleton.mp hx] at htype ⊢
    obtain ⟨hitem, hset⟩ := make_ok number raw o hmake
    obtain ⟨b, rfl⟩ := convertToRaw_opaque number length value raw o.item hitem htype hraw
    rw [htype] at hset
    exact ⟨b, (Except.ok.inj hset).symm⟩

/-! A header comes without options. -/

theorem setCode_options (m m' : Message) (code : Option ℕ) (h : m.setCode code = .ok m') :
    m'.options = m.options := by
  unfold Message.setCode at h
  cases code with
  | none => rw [← Except.ok.inj h]
  | some c =>
    dsimp only at h
    split_ifs at h
    rw [← Except.ok.inj h]

theorem newMessage_options (code : ℕ) (m : Message)
    (h : SerializerUdp.newMessage code = .ok m) : m.options = OptionList.empty := by
  unfold SerializerUdp.newMessage at h
  split_ifs at h
  · exact setCode_options _ m _ h
  · exact setCode_options _ m _ h
  · rw [← Except.ok.inj h]
    rfl

theorem udp_readHeader_options (rng datagram values : Bytes) (source : Address) (m : Message)
    (h : SerializerUdp.readHeader rng datagram source = .ok (m, values)) :
    m.options = OptionList.empty := by
  unfold SerializerUdp.readHeader at h
  obtain ⟨⟨first, code, mid⟩, _, h⟩ := (bind_eq_ok _ _ _).mp h
  obtain ⟨m₁, hnew, h⟩ := (bind_eq_ok _ _ _).mp h
  obtain ⟨m₂, hversion, h⟩ := (bind_eq_ok _ _ _).mp h
  obtain ⟨m₃, htype, h⟩ := (bind_eq_ok _ _ _).mp h
  obtain ⟨m₄, hmid, h⟩ := (bind_eq_ok _ _ _).mp h
  obtain ⟨m₅, htoken, h⟩ := (bind_eq_ok _ _ _).mp h
  have h₂ : m₂.options = OptionList.empty := by
    unfold Message.setVersion at hversion
    split_ifs at hversion
    rw [← Except.ok.inj hversion]
    exact newMessage_options code m₁ hnew
  have h₃ : m₃.options = m₂.options := by
    unfold Message.setType at htype
    split at htype
    · rw [← Except.ok.inj htype]
    · cases htype
  rw [← (Prod.mk.inj (Except.ok.inj h)).1, MessageLayer.setToken_eq _ _ _ _ htoken,
    MessageLayer.setMid_eq _ _ _ hmid]
  exact h₃.trans h₂

theorem tcp_readHeader_options (rng datagram values : Bytes) (source : Address) (m : Message)
    (h : SerializerTcp.readHeader rng datagram source = .ok (m, values)) :
    m.options = OptionList.empty := by
  unfold SerializerTcp.readHeader at h
  split at h
  · cases h
  · dsimp only at h
    split_ifs at h
    obtain ⟨code, _, h⟩ := (bind_eq_ok _ _ _).mp h
    obtain ⟨m₁, hcode, h⟩ := (bind_eq_ok _ _ _).mp h
    obtain ⟨m₂, htoken, h⟩ := (bind_eq_ok _ _ _).mp h
    rw [← (Prod.mk.inj (Except.ok.inj h)).1, MessageLayer.setToken_eq _ _ _ _ htoken]
    exact setCode_options _ m₁ _ hcode

/-- A message that one of the serializers has read. -/
inductive FromWire : Message → Prop
  | udp (rng datagram : Bytes) (source : Address) (m : Message)
      (h : SerializerUdp.deserialize rng datagram source = .ok (.message m)) : FromWire m
  | tcp (rng datagram : Bytes) (source : Address) (m : Message)
      (h : SerializerTcp.deserialize rng datagram source = .ok (.message m)) : FromWire m

theorem badRequestOn_message (r : Except PyErr Message) (m : Message)
    (h : badRequestOn r = .ok (.message m)) : r = .ok m := by
  cases r with
  | error e => cases e <;> cases h
  | ok m' =>
    cases h
    rfl

theorem FromWire.opaqueBytes (m : Message) (h : FromWire m) : OpaqueBytes m := by
  have hempty : ∀ base : Message, base.options = OptionList.empty → OpaqueBytes base := by
    intro base hbase o ho
    rw [hbase] at ho
    cases ho
  cases h with
  | udp rng datagram source _ h =>
    obtain ⟨⟨base, values⟩, hheader, hread⟩ :=
      (bind_eq_ok _ _ _).mp (badRequestOn_message _ m h)
    exact readMessage_opaqueBytes values base m hread
      (hempty base (udp_readHeader_options rng datagram values source base hheader))
  | tcp rng datagram source _ h =>
    obtain ⟨⟨base, values⟩, hheader, hread⟩ :=
      (bind_eq_ok _ _ _).mp (badRequestOn_message _ m h)
    exact readMessage_opaqueBytes values base m hread
      (hempty base (tcp_readHeader_options rng datagram values source base hheader))

end BubotCoap.DecodedOptions
