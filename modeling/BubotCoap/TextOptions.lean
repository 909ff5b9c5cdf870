import BubotCoap.OptionSequences
import BubotCoap.TcpRoundTrip

set_option autoImplicit false

namespace BubotCoap.TextOptions
open PythonData Defines Utils Options Messages StructPack StableSort Serializer OptionWire
  DeserializeErrors Truncation OptionSequences TcpRoundTrip

/-- An option of any kind within the limits of the format, which counts bytes. -/
structure WellFormed (o : CoapOption) : Prop where
  emits : Emits o
  bytes_le : (rawBytes o).length ≤ 65804

def TextOk (o : CoapOption) : Prop :=
  ∀ t, o.item.valueType = .STRING → o.stored = .str t → t ≠ [] ∧ IsAscii t

def lastOf (before : List CoapOption) : ℕ := before.foldl (fun _ o => o.number) 0

/-- The head of the option, as it is laid out behind the options `before`, announces the number
of bytes that follow as its value. -/
def Announces (l : Layout) (before : List CoapOption) (o : CoapOption) : Prop :=
  ∃ ps fs, optionsFields 0 before = .ok ps ∧ optionFields (lastOf before) o = .ok fs ∧
    ∀ rest, ∃ value, Head ((write l (calcsize l 0 ps) fs).1 ++ rest) (o.number - lastOf before)
      value.length (value ++ rest)

theorem netBytes_extended (v : ℕ) : netBytes (extended (nibble v) v) = extension v := by
  rw [extended_nibble]
  unfold extension
  split_ifs
  · rfl
  · rfl
  · have hnat : ((v : ℤ) - 269).toNat = v - 269 := by omega
    simp [Field.encode, shortBytes, network, hnat]

theorem netBytes_headFields (delta length : ℕ) :
    netBytes (headFields delta length) = headBytes delta length := by
  have hbyte : nibble delta <<< 4 ||| nibble length = nibble delta * 16 + nibble length := by
    have hlt : nibble length < 2 ^ 4 := by
      have := nibble_lt length
      omega
    rw [← Nat.shiftLeft_add_eq_or_of_lt hlt, Nat.shiftLeft_eq]
  simp only [headFields, netBytes_append, netBytes_cons, netBytes_extended, Field.encode,
    Option.getD_some, hbyte, List.cons_append, List.nil_append, headBytes]

theorem length_le_rawBytes (o : CoapOption) : o.length ≤ (rawBytes o).length := by
  unfold CoapOption.length rawBytes
  cases o.stored with
  | int n => exact (BigEndian.bytes_length _ _).ge
  | none => exact Nat.le_refl 0
  | bytes b => exact Nat.le_refl b.length
  | str t => exact length_le_encodeUtf8 t

theorem length_le (o : CoapOption) (h : WellFormed o) : o.length ≤ 65804 :=
  (length_le_rawBytes o).trans h.bytes_le

theorem announced_iff (o : CoapOption) (h : WellFormed o) :
    (rawBytes o).length = o.length ↔
      ∀ t, o.item.valueType = .STRING → o.stored = .str t → IsAscii t := by
  have hemits := h.emits
  unfold Emits at hemits
  unfold rawBytes CoapOption.length
  split at hemits
  · next n ht hs => simp [ht, hs]
  · next t ht hs =>
    rw [hs, encodeUtf8_length_eq_iff]
    constructor
    · intro hascii t' _ heq
      rw [← Value.str.inj heq]
      exact hascii
    · intro hall
      exact hall t ht rfl
  · next b ht hs => simp [ht, hs]
  · next ht hs => simp [ht, hs]
  · next b ht hs => simp [ht, hs]
  · next ht hs => simp [ht, hs]
  · exact hemits.elim

theorem emitted (o : CoapOption) (h : WellFormed o) : Emitted o := ⟨h.emits, length_le o h⟩

theorem framed (o : CoapOption) (h : WellFormed o) (hannounced : (rawBytes o).length = o.length) :
    Framed o :=
  ⟨emitted o h, hannounced⟩

theorem delta_le_of_lastOf (before : List CoapOption) (o : CoapOption) :
    o.number - lastOf before ≤ 65804 := by
  have := number_le o
  omega

theorem optionFields_bytes (last off : ℕ) (o : CoapOption) (h : Emitted o) :
    ∃ fs, optionFields last o = .ok fs ∧ (∀ f ∈ fs, f.Fits) ∧
      (write network off fs).1 = headBytes (o.number - last) o.length ++ rawBytes o := by
  obtain ⟨fs, hfs, hfits, hbytes⟩ := optionFields_emitted last o h
  have hall : ∀ f ∈ headFields (o.number - last) o.length ++ fs, f.Fits := by
    intro f hf
    rcases List.mem_append.mp hf with hf | hf
    · exact headFields_fits _ _ (delta_le last o) h.length_le f hf
    · exact (hfits f hf).1
  refine ⟨_, hfs, hall, ?_⟩
  rw [write_network off _ hall, List.flatMap_append]
  change netBytes _ ++ netBytes _ = _
  rw [netBytes_headFields, hbytes]

theorem announces_network_iff (before : List CoapOption) (o : CoapOption)
    (hbefore : ∀ p ∈ before, Emitted p) (h : Emitted o) :
    Announces network before o ↔ (rawBytes o).length = o.length := by
  have hhead := fun rest => head_headBytes (o.number - lastOf before) o.length rest
    (delta_le_of_lastOf before o) h.length_le
  constructor
  · rintro ⟨ps, fs, _, hfs, hall⟩
    obtain ⟨gs, hgs, _, hbytes⟩ := optionFields_bytes (lastOf before) (calcsize network 0 ps) o h
    have hsame : gs = fs := Except.ok.inj (hgs.symm.trans hfs)
    obtain ⟨value, hvalue⟩ := hall []
    rw [← hsame, hbytes, List.append_assoc] at hvalue
    obtain ⟨-, hlength, hrest⟩ := head_unique _ _ _ _ _ _ _ (hhead _) hvalue
    rw [List.append_nil, List.append_nil] at hrest
    rw [hrest, hlength]
  · intro hannounced
    obtain ⟨ps, hps, _, _⟩ := optionsFields_emitted before 0 hbefore
    obtain ⟨fs, hfs, _, hbytes⟩ := optionFields_bytes (lastOf before) (calcsize network 0 ps) o h
    refine ⟨ps, fs, hps, hfs, fun rest => ⟨rawBytes o, ?_⟩⟩
    rw [hbytes, hannounced, List.append_assoc]
    exact hhead _

/-- What a peer stores: an empty byte string is put into a text option by printing it, and a
missing value comes as an empty one. -/
def arrivedValue : ValueType → Value → Value
  | .STRING, .str [] => .str (reprBytes [])
  | _, .none => .bytes []
  | _, v => v

theorem accepts_arrivedValue (type : ValueType) (v : Value) (h : accepts type v = true) :
    accepts type (arrivedValue type v) = true := by
  cases type with
  | INTEGER => cases v <;> first | rfl | cases h
  | OPAQUE => cases v <;> first | rfl | cases h
  | UNKNOWN => cases v <;> rfl
  | STRING =>
    cases v with
    | str t => cases t <;> rfl
    | int _ => cases h
    | none => cases h
    | bytes _ => cases h

def arrived (o : CoapOption) : CoapOption :=
  ⟨o.item, arrivedValue o.item.valueType o.stored, o.registered, accepts_arrivedValue _ _ o.typed⟩

theorem arrived_of_text (o : CoapOption) (t : Text) (hs : o.stored = .str t) (ht : t ≠ []) :
    arrived o = o := by
  have hvalue : arrivedValue o.item.valueType (.str t) = .str t := by
    cases t with
    | nil => exact absurd rfl ht
    | cons c t => cases o.item.valueType <;> rfl
  unfold arrived
  obtain ⟨item, stored, registered, typed⟩ := o
  subst hs
  simp only [CoapOption.mk.injEq, true_and]
  exact hvalue

theorem convertToRaw_arrived (o : CoapOption) (h : Framed o) (values : Bytes) (pos : ℕ)
    (rest : Bytes) (hdrop : values.drop pos = rawBytes o ++ rest) :
    ∃ raw, convertToRaw o.number (readValue o.item values pos (rawBytes o).length)
        (rawBytes o).length = .ok raw ∧
      setValue o.item.valueType raw = .ok (arrived o).stored := by
  have hreg : OptionRegistry.find? o.number = some o.item := o.registered
  have hslice := slice_of_drop values pos (rawBytes o) rest hdrop
  have hemits := h.emits
  have hannounced := h.announced
  unfold convertToRaw readValue arrived
  rw [hreg, hslice, hannounced]
  dsimp only
  unfold Emits at hemits
  unfold CoapOption.length at hannounced ⊢
  unfold rawBytes at hannounced ⊢
  split at hemits
  · next n ht hs =>
    rw [ht, hs]
    refine ⟨.int n, ?_, rfl⟩
    by_cases hzero : byteLen n = 0
    · have hn := (byteLen_eq_zero_iff n).mp hzero
      subst hn
      simp [hzero]
    · have hv := BigEndian.value_bytes (byteLen n) n (lt_pow_byteLen n)
      simp [hzero, BigEndian.foldl_shift_or, hv]
  · next t ht hs =>
    rw [ht, hs]
    cases t with
    | nil => exact ⟨.bytes [], by simp, rfl⟩
    | cons c t =>
      refine ⟨.str (c :: t), ?_, rfl⟩
      simp [decodeUtf8_encodeUtf8, Except.map]
  · next b ht hs =>
    rw [ht, hs]
    refine ⟨.bytes b, ?_, rfl⟩
    cases b <;> simp
  · next ht hs =>
    rw [ht, hs]
    exact ⟨.bytes [], by simp, rfl⟩
  · next b ht hs =>
    rw [ht, hs]
    refine ⟨.bytes b, ?_, rfl⟩
    cases b <;> simp
  · next ht hs =>
    rw [ht, hs]
    exact ⟨.bytes [], by simp, rfl⟩
  · exact hemits.elim

theorem decodes_arrived (o : CoapOption) (h : Framed o) (r : RawOption)
    (hnumber : r.number = o.number) (hvalue : r.value = rawBytes o) : Decodes r (arrived o) := by
  intro values pos rest m hdrop
  have hreg : OptionRegistry.find? o.number = some o.item := o.registered
  rw [hvalue] at hdrop
  obtain ⟨raw, hraw, hset⟩ := convertToRaw_arrived o h values pos rest hdrop
  rw [hnumber, hvalue]
  unfold optionRound
  rw [hreg]
  dsimp only
  rw [hraw, ok_bind, make_eq o.number raw (arrived o) rfl hset, ok_bind]

theorem rounds_of_framed (os : List CoapOption) (h : ∀ o ∈ os, Framed o) :
    ∃ raws, raws.map RawOption.number = os.map CoapOption.number ∧
      Rounds raws (os.map arrived) ∧ ∀ last, optionsBytes last os = rawsWire last raws := by
  induction os with
  | nil => exact ⟨[], rfl, .done, fun _ => rfl⟩
  | cons o os ih =>
    have ho := h o List.mem_cons_self
    obtain ⟨raws, hnumbers, hrounds, hwire⟩ := ih fun p hp => h p (List.mem_cons_of_mem o hp)
    have hle : o.number ≤ 65535 := (number_le o).trans (by decide)
    have hbytes : (rawBytes o).length ≤ 65804 := by
      rw [ho.announced]
      exact ho.length_le
    have hreg : OptionRegistry.find? o.number = some o.item := o.registered
    refine ⟨⟨o.number, rawBytes o, hle, hbytes⟩ :: raws, ?_, ?_, ?_⟩
    · rw [List.map_cons, List.map_cons, hnumbers]
    · refine .known _ raws (arrived o) _ ?_ (decodes_arrived o ho _ rfl rfl) hrounds
      unfold RawOption.registered
      rw [hreg]
      rfl
    · intro last
      rw [optionsBytes, rawsWire, hwire, optionBytes, rawWire, netBytes_headFields, ho.announced]

/-- The bytes behind the payload marker, if it is sent. -/
def payloadOf : Option Payload → Option Bytes
  | some (.bytes b) => if b = [] then none else some b
  | some (.str t) => if t = [] then none else some (encodeUtf8 t)
  | none => none

theorem encodeUtf8_ne_nil (t : Text) (h : t ≠ []) : encodeUtf8 t ≠ [] := by
  have hle := length_le_encodeUtf8 t
  have hpos := List.length_pos_iff.mpr h
  exact List.length_pos_iff.mp (by omega)

theorem payloadOf_ne (p : Option Payload) : payloadOf p ≠ some [] := by
  unfold payloadOf
  split
  · split_ifs with h
    · exact Option.some_ne_none _ |>.symm
    · exact fun heq => h (Option.some.inj heq)
  · split_ifs with h
    · exact Option.some_ne_none _ |>.symm
    · exact fun heq => encodeUtf8_ne_nil _ h (Option.some.inj heq)
  · exact Option.some_ne_none _ |>.symm

theorem netBytes_payloadFields (p : Option Payload) :
    netBytes (payloadFields p) = payloadWire (payloadOf p) := by
  have hpos : ∀ {α : Type} (xs : List α), xs.length > 0 ↔ ¬ xs = [] := fun xs =>
    List.length_pos_iff
  unfold payloadFields payloadOf
  split
  · simp only [hpos, ite_not]
    split_ifs
    · rfl
    · simp [payloadWire, Field.encode, payloadMarker]
  · simp only [hpos, ite_not]
    split_ifs
    · rfl
    · simp [payloadWire, Field.encode, payloadMarker]
  · rfl

theorem readMessage_framed (m base : Message) (h : ∀ o ∈ m.options.toList, Framed o)
    (hoptions : base.options = OptionList.empty) (hnone : base.payload = none) :
    ∃ m', readMessage (bodyWire m) base = .ok m' ∧
      m'.options.toList = (asSortedList m.options).map arrived := by
  obtain ⟨raws, hnumbers, hrounds, hwire⟩ :=
    rounds_of_framed (asSortedList m.options) (forall_sorted m.options _ h)
  have honce : Once ((asSortedList m.options).map arrived) :=
    List.pairwise_map.mpr (sortedOptions m.options).once
  have hsorted : raws.Pairwise fun a b => a.number ≤ b.number := by
    rw [← List.pairwise_map (f := RawOption.number) (R := (· ≤ ·)), hnumbers, List.pairwise_map]
    exact sortBy_sorted _ _
  obtain ⟨pt, hadd⟩ := foldlM_addDecoded_blank _ base honce hoptions
  have hread := readMessage_bodyOf raws _ (payloadOf m.payload) base _ (payloadOf_ne _) hsorted
    hrounds hadd hnone
  refine ⟨{ base with
    options := ⟨_, honce⟩
    payload := (payloadOf m.payload).map .bytes
    payloadType := pt }, ?_, rfl⟩
  unfold bodyWire
  rw [hwire, netBytes_payloadFields]
  exact hread

/-- The messages in question: all options are within the limits, the payload is arbitrary. -/
structure Carried (m : Message) : Prop where
  type : ∃ t, m.type = some t
  code : ∃ c ∈ Codes.list, m.code = some c
  mid : ∃ n : ℕ, n ≤ 65535 ∧ m.mid = some (n : ℤ)
  token : (m.token.getD []).length ≤ 8
  options : ∀ o ∈ m.options.toList, WellFormed o

/-- What is asked for every text option of the message: its length is announced as emitted, and
the peer finds an option of its number and text in its place. -/
def Survives (l : Layout) (wire : Except PyErr Bytes) (decode : Bytes → Except PyErr Decoded)
    (m : Message) : Prop :=
  ∀ before o after t, asSortedList m.options = before ++ o :: after →
    o.item.valueType = .STRING → o.stored = .str t →
    Announces l before o ∧
      ∃ bytes m' o', wire = .ok bytes ∧ decode bytes = .ok (.message m') ∧
        m'.options.toList[before.length]? = some o' ∧ o'.number = o.number ∧ o'.value = .str t

def UdpSurvives (rng : Bytes) (source : Address) (m : Message) : Prop :=
  Survives network (SerializerUdp.serialize m)
    (fun bytes => SerializerUdp.deserialize rng bytes source) m

def TcpSurvives (rng : Bytes) (source : Address) (m : Message) : Prop :=
  Survives littleEndianHost (SerializerTcp.serialize littleEndianHost m)
    (fun bytes => SerializerTcp.deserialize rng bytes source) m

theorem udp_decoded (rng : Bytes) (source : Address) (m : Message) (h : Carried m)
    (hframed : ∀ o ∈ m.options.toList, Framed o) :
    ∃ bytes m', SerializerUdp.serialize m = .ok bytes ∧
      SerializerUdp.deserialize rng bytes source = .ok (.message m') ∧
      m'.options.toList = (asSortedList m.options).map arrived := by
  obtain ⟨t, htype⟩ := h.type
  obtain ⟨c, hc, hcode⟩ := h.code
  obtain ⟨mid, hm, hmid⟩ := h.mid
  have htoken := h.token
  have hlt := UdpRoundTrip.code_lt c hc
  have hser := UdpRoundTrip.serialize_eq m t c mid (m.token.getD []) htype hcode hmid rfl hlt hm
    (by omega) fun o ho => (hframed o ho).toEmitted
  obtain ⟨base, hbase, hoptions, hnone⟩ := newMessage_blank c (Or.inl hc)
  have hhead := UdpRoundTrip.readHeader_wire t c mid (m.token.getD []) (bodyWire m) rng source base
    hbase hlt hm (by omega)
  obtain ⟨m', hread, hall⟩ := readMessage_framed m
    { base with
      type := some t
      mid := some mid
      token := some (if (m.token.getD []).length > 0 then m.token.getD [] else rng)
      source := some source
      destination := none } hframed hoptions hnone
  refine ⟨_, m', hser, ?_, hall⟩
  unfold SerializerUdp.deserialize
  rw [hhead, ok_bind]
  dsimp only
  rw [hread]
  rfl

theorem tcp_decoded (rng : Bytes) (source : Address) (m : Message) (h : Carried m)
    (hframed : ∀ o ∈ m.options.toList, Framed o)
    (haligned : Aligned 0 0 (asSortedList m.options))
    (hlength : (bodyWire m).length < 65805 + 2 ^ 32) :
    ∃ bytes m', SerializerTcp.serialize littleEndianHost m = .ok bytes ∧
      SerializerTcp.deserialize rng bytes source = .ok (.message m') ∧
      m'.options.toList = (asSortedList m.options).map arrived := by
  obtain ⟨c, hc, hcode⟩ := h.code
  have hbody := (bodyBytes_iff m hframed).mpr haligned
  obtain ⟨l, extlen, henc⟩ := encodeLength_ok (bodyWire m).length hlength
  have hspec := TcpFraming.encodeLength_spec _ _ _ henc
  have hser := (TcpFraming.serialize_eq_ok_iff littleEndianHost m _).mpr ⟨bodyWire m, l, extlen, c,
    hbody, henc, h.token, hcode, UdpRoundTrip.code_lt c hc, rfl⟩
  have hhead := readHeader_frameBytes l extlen c (m.token.getD []) (bodyWire m) rng source hspec
    h.token hc
  obtain ⟨m', hread, hall⟩ := readMessage_framed m (headed c (m.token.getD []) source) hframed
    rfl rfl
  refine ⟨_, m', hser, ?_, hall⟩
  unfold SerializerTcp.deserialize
  rw [hhead, ok_bind]
  dsimp only
  rw [hread]
  rfl

theorem aligned_split (before : List CoapOption) (o : CoapOption) (after : List CoapOption)
    (off last : ℕ) (ps : List Field) (hbefore : ∀ p ∈ before, Framed p)
    (hps : optionsFields last before = .ok ps)
    (haligned : Aligned off last (before ++ o :: after)) :
    Agrees littleEndianHost off ps ∧
      FieldAligned (off + (ps.map Field.width).sum + 1)
        (o.number - before.foldl (fun _ p => p.number) last) ∧
      FieldAligned (off + (ps.map Field.width).sum + 1 +
        extendedWidth (o.number - before.foldl (fun _ p => p.number) last)) o.length := by
  induction before generalizing off last ps with
  | nil =>
    have : ps = [] := (Except.ok.inj hps).symm
    subst this
    exact ⟨trivial, haligned.1, haligned.2.1⟩
  | cons p before ih =>
    have hp := hbefore p List.mem_cons_self
    obtain ⟨gs, hgs, hps⟩ := (bind_eq_ok _ _ _).mp hps
    obtain ⟨rest, hrest, hps⟩ := (bind_eq_ok _ _ _).mp hps
    have hsplit := (Except.ok.inj hps).symm
    obtain ⟨hdelta, hlength, htail⟩ := haligned
    have hgs' := (agrees_option off last p gs hp.toEmitted hgs).mpr ⟨hdelta, hlength⟩
    have hwidth := width_option last p gs hp hgs
    have hoff : off + 1 + extendedWidth (p.number - last) + extendedWidth p.length + p.length =
        off + (gs.map Field.width).sum := by
      rw [hwidth]
      omega
    rw [hoff] at htail
    have hih := ih (off + (gs.map Field.width).sum) p.number rest
      (fun q hq => hbefore q (List.mem_cons_of_mem p hq)) hrest htail
    rw [hsplit, agrees_append, List.map_append, List.sum_append, ← Nat.add_assoc]
    exact ⟨⟨hgs', hih.1⟩, hih.2⟩

theorem calcsize_of_agrees (l : Layout) (off : ℕ) (fs : List Field) (h : Agrees l off fs) :
    calcsize l off fs = (fs.map Field.width).sum := by
  induction fs generalizing off with
  | nil => rfl
  | cons f fs ih =>
    obtain ⟨hpad, _, hrest⟩ := h
    rw [calcsize, hpad, List.map_cons, List.sum_cons, Nat.add_zero, Nat.zero_add, ih _ hrest]

theorem announces_of_aligned (before : List CoapOption) (o : CoapOption)
    (after : List CoapOption) (hbefore : ∀ p ∈ before, Framed p) (ho : Emitted o)
    (haligned : Aligned 0 0 (before ++ o :: after)) :
    Announces littleEndianHost before o ↔ Announces network before o := by
  obtain ⟨ps, hps, _, _⟩ := optionsFields_emitted before 0 fun p hp => (hbefore p hp).toEmitted
  obtain ⟨fs, hfs, hfits, hbytes⟩ := optionFields_bytes (lastOf before) (calcsize network 0 ps) o ho
  obtain ⟨hagrees, hhead⟩ := aligned_split before o after 0 0 ps hbefore hps haligned
  have hsize := calcsize_of_agrees littleEndianHost 0 ps hagrees
  have hwrite : (write littleEndianHost (calcsize littleEndianHost 0 ps) fs).1 =
      (write network (calcsize network 0 ps) fs).1 := by
    rw [write_network _ fs hfits, write_eq_network_iff littleEndianHost _ fs hfits, hsize,
      agrees_option _ _ o fs ho hfs]
    rw [Nat.zero_add] at hhead
    exact hhead
  have hps' : ∀ qs, optionsFields 0 before = .ok qs → qs = ps := fun qs hqs =>
    Except.ok.inj (hqs.symm.trans hps)
  have hfs' : ∀ gs, optionFields (lastOf before) o = .ok gs → gs = fs := fun gs hgs =>
    Except.ok.inj (hgs.symm.trans hfs)
  constructor
  · rintro ⟨qs, gs, hqs, hgs, hall⟩
    rw [hps' qs hqs, hfs' gs hgs, hwrite] at hall
    exact ⟨ps, fs, hps, hfs, hall⟩
  · rintro ⟨qs, gs, hqs, hgs, hall⟩
    rw [hps' qs hqs, hfs' gs hgs, ← hwrite] at hall
    exact ⟨ps, fs, hps, hfs, hall⟩

def TextsOk (m : Message) : Prop := ∀ o ∈ m.options.toList, TextOk o

theorem mem_sorted (os : OptionList) (o : CoapOption) : o ∈ asSortedList os ↔ o ∈ os.toList :=
  mem_sortBy _ _ _

theorem framed_of_textsOk (m : Message) (h : Carried m) (hok : TextsOk m) :
    ∀ o ∈ m.options.toList, Framed o := by
  intro o ho
  have hwell := h.options o ho
  exact framed o hwell ((announced_iff o hwell).mpr fun t ht hs => (hok o ho t ht hs).2)

/-- An ASCII text that is not empty is found in its place. -/
theorem found_of_textsOk (m m' : Message) (hok : TextsOk m)
    (hall : m'.options.toList = (asSortedList m.options).map arrived)
    (before : List CoapOption) (o : CoapOption) (after : List CoapOption) (t : Text)
    (hsplit : asSortedList m.options = before ++ o :: after)
    (htype : o.item.valueType = .STRING) (hs : o.stored = .str t) :
    ∃ o', m'.options.toList[before.length]? = some o' ∧ o'.number = o.number ∧
      o'.value = .str t := by
  have ho : o ∈ m.options.toList := (mem_sorted m.options o).mp (by rw [hsplit]; simp)
  have harrived := arrived_of_text o t hs (hok o ho t htype hs).1
  have hvalue : o.value = .str t := by
    unfold CoapOption.value
    rw [hs]
  refine ⟨o, ?_, rfl, hvalue⟩
  rw [hall, hsplit, List.map_append, List.map_cons, harrived,
    List.getElem?_append_right (by simp)]
  simp

theorem ne_nil_of_found (m m' : Message)
    (hall : m'.options.toList = (asSortedList m.options).map arrived)
    (before : List CoapOption) (o o' : CoapOption) (after : List CoapOption) (t : Text)
    (hsplit : asSortedList m.options = before ++ o :: after)
    (htype : o.item.valueType = .STRING) (hs : o.stored = .str t)
    (hget : m'.options.toList[before.length]? = some o') (hvalue : o'.value = .str t) :
    t ≠ [] := by
  rintro rfl
  have harrived : arrived o = o' := by
    rw [hall, hsplit, List.map_append, List.map_cons,
      List.getElem?_append_right (by simp)] at hget
    simpa using hget
  have hstored : (arrived o).stored = .str (reprBytes []) := by
    change arrivedValue o.item.valueType o.stored = _
    rw [htype, hs]
    rfl
  unfold CoapOption.value at hvalue
  rw [← harrived, hstored] at hvalue
  exact absurd (Value.str.inj hvalue) (by decide)

/-- For a serializer that announces rightly behind framed options, and whose bytes are decoded to
the options as they arrive once all are framed. -/
theorem survives_iff (l : Layout) (wire : Except PyErr Bytes)
    (decode : Bytes → Except PyErr Decoded) (m : Message) (h : Carried m)
    (hannounces : ∀ before o after, asSortedList m.options = before ++ o :: after →
      (∀ p ∈ before, Framed p) → (Announces l before o ↔ (rawBytes o).length = o.length))
    (hdecoded : (∀ o ∈ m.options.toList, Framed o) → ∃ bytes m', wire = .ok bytes ∧
      decode bytes = .ok (.message m') ∧
      m'.options.toList = (asSortedList m.options).map arrived) :
    Survives l wire decode m ↔ TextsOk m := by
  have hmem : ∀ before o after, asSortedList m.options = before ++ o :: after →
      o ∈ m.options.toList := by
    intro before o after hsplit
    rw [← mem_sorted, hsplit]
    simp
  constructor
  · intro hsurvives
    -- by induction on the number of options in front
    have hall : ∀ n before o after, before.length = n →
        asSortedList m.options = before ++ o :: after → Framed o := by
      intro n
      induction n using Nat.strong_induction_on with
      | _ n ih =>
        intro before o after hn hsplit
        have hwell := h.options o (hmem before o after hsplit)
        have hbefore : ∀ p ∈ before, Framed p := by
          intro p hp
          obtain ⟨first, rest, rfl⟩ := List.append_of_mem hp
          refine ih first.length ?_ first p (rest ++ o :: after) rfl (by simp [hsplit])
          rw [← hn, List.length_append, List.length_cons]
          omega
        refine framed o hwell ((announced_iff o hwell).mpr ?_)
        intro t htype hs
        have hannounced := (hannounces before o after hsplit hbefore).mp
          (hsurvives before o after t hsplit htype hs).1
        exact (announced_iff o hwell).mp hannounced t htype hs
    have hsplits : ∀ o ∈ m.options.toList, ∃ before after,
        asSortedList m.options = before ++ o :: after := fun o ho =>
      List.append_of_mem ((mem_sorted m.options o).mpr ho)
    have hframed : ∀ o ∈ m.options.toList, Framed o := by
      intro o ho
      obtain ⟨before, after, hsplit⟩ := hsplits o ho
      exact hall _ before o after rfl hsplit
    obtain ⟨bytes, m', hser, hdes, hoptions⟩ := hdecoded hframed
    intro o ho t htype hs
    have hascii := (announced_iff o (h.options o ho)).mp (hframed o ho).announced t htype hs
    obtain ⟨before, after, hsplit⟩ := hsplits o ho
    obtain ⟨_, bytes', m'', o', hser', hdes', hget, _, hvalue⟩ :=
      hsurvives before o after t hsplit htype hs
    have hbytes : bytes' = bytes := Except.ok.inj (hser'.symm.trans hser)
    subst hbytes
    obtain rfl : m'' = m' := by simpa using hdes'.symm.trans hdes
    exact ⟨ne_nil_of_found m m'' hoptions before o o' after t hsplit htype hs hget hvalue, hascii⟩
  · intro hok before o after t hsplit htype hs
    have hframed := framed_of_textsOk m h hok
    obtain ⟨bytes, m', hser, hdes, hoptions⟩ := hdecoded hframed
    obtain ⟨o', hfound⟩ := found_of_textsOk m m' hok hoptions before o after t hsplit htype hs
    refine ⟨?_, bytes, m', o', hser, hdes, hfound⟩
    refine (hannounces before o after hsplit ?_).mpr
      (hframed o (hmem before o after hsplit)).announced
    intro p hp
    refine hframed p ((mem_sorted m.options p).mp ?_)
    rw [hsplit]
    simp [hp]

theorem udp_survives_iff (rng : Bytes) (source : Address) (m : Message) (h : Carried m) :
    UdpSurvives rng source m ↔ TextsOk m := by
  refine survives_iff _ _ _ m h ?_ (udp_decoded rng source m h)
  intro before o after hsplit hbefore
  have ho : o ∈ m.options.toList := by
    rw [← mem_sorted, hsplit]
    simp
  exact announces_network_iff before o (fun p hp => (hbefore p hp).toEmitted)
    (emitted o (h.options o ho))

theorem tcp_survives_iff (rng : Bytes) (source : Address) (m : Message) (h : Carried m)
    (haligned : Aligned 0 0 (asSortedList m.options))
    (hlength : (bodyWire m).length < 65805 + 2 ^ 32) :
    TcpSurvives rng source m ↔ TextsOk m := by
  refine survives_iff _ _ _ m h ?_ fun hframed =>
    tcp_decoded rng source m h hframed haligned hlength
  intro before o after hsplit hbefore
  have ho : o ∈ m.options.toList := by
    rw [← mem_sorted, hsplit]
    simp
  have hemitted := emitted o (h.options o ho)
  rw [announces_of_aligned before o after hbefore hemitted (by rwa [← hsplit])]
  exact announces_network_iff before o (fun p hp => (hbefore p hp).toEmitted) hemitted

/-- Over UDP the text options survive exactly if each is ASCII and not empty; over TCP the same
holds where the host lays the body out as the network does. -/
theorem texts_survive_iff (rng : Bytes) (source : Address) (m : Message) (h : Carried m) :
    (UdpSurvives rng source m ↔ TextsOk m) ∧
      (Aligned 0 0 (asSortedList m.options) → (bodyWire m).length < 65805 + 2 ^ 32 →
        (TcpSurvives rng source m ↔ TextsOk m)) :=
  ⟨udp_survives_iff rng source m h, tcp_survives_iff rng source m h⟩

def samplePath (t : Text) : Message :=
  { Message.new .request with
    type := some .CON
    code := some Codes.get
    mid := some 7
    token := some [1]
    options := ⟨[⟨OptionRegistry.uriPath, .str t, find?_uriPath, rfl⟩], List.pairwise_singleton _ _⟩
    payload := some (.str ['x']) }

theorem samplePath_carried (t : Text) (h : (encodeUtf8 t).length ≤ 65804) :
    Carried (samplePath t) where
  type := ⟨.CON, rfl⟩
  code := ⟨Codes.get, by decide, rfl⟩
  mid := ⟨7, by decide, rfl⟩
  token := by
    change [1].length ≤ 8
    decide
  options := by
    intro o ho
    rw [List.mem_singleton.mp ho]
    exact ⟨trivial, h⟩

theorem texts_survive_iff_sample :
    (UdpSurvives [] (['h'], 1) (samplePath ['a']) ↔ TextsOk (samplePath ['a'])) ∧
      (Aligned 0 0 (asSortedList (samplePath ['a']).options) →
        (bodyWire (samplePath ['a'])).length < 65805 + 2 ^ 32 →
        (TcpSurvives [] (['h'], 1) (samplePath ['a']) ↔ TextsOk (samplePath ['a']))) :=
  texts_survive_iff [] (['h'], 1) (samplePath ['a']) (samplePath_carried ['a'] (by decide))

/-- The path segment in front of an option whose delta takes two bytes. -/
theorem find?_ocfAccept :
    OptionRegistry.find? OptionRegistry.ocfAcceptContentFormatVersion.number =
      some OptionRegistry.ocfAcceptContentFormatVersion := rfl

theorem accepts_ocfAccept :
    accepts OptionRegistry.ocfAcceptContentFormatVersion.valueType (.int 2048) = true := rfl

theorem accepts_uriPath (t : Text) :
    accepts OptionRegistry.uriPath.valueType (.str t) = true := rfl

def sampleMixed : Message :=
  { samplePath ['a'] with
    options := ⟨[⟨OptionRegistry.uriPath, .str ['a'], find?_uriPath, accepts_uriPath _⟩,
      ⟨OptionRegistry.ocfAcceptContentFormatVersion, .int 2048, find?_ocfAccept,
        accepts_ocfAccept⟩], by decide⟩ }

theorem sampleMixed_carried : Carried sampleMixed where
  type := ⟨.CON, rfl⟩
  code := ⟨Codes.get, by decide, rfl⟩
  mid := ⟨7, by decide, rfl⟩
  token := by decide
  options := by
    intro o ho
    simp only [sampleMixed, List.mem_cons, List.not_mem_nil, or_false] at ho
    rcases ho with rfl | rfl
    · exact ⟨trivial, by decide⟩
    · exact ⟨trivial, by decide⟩

/-- The empty path segment and one with an accent, over UDP and over TCP, and an ASCII one over
TCP in front of an option whose delta is laid out as the host does it. -/
theorem not_texts_survive :
    Carried (samplePath []) ∧ ¬ UdpSurvives [] (['h'], 1) (samplePath []) ∧
      ¬ TcpSurvives [] (['h'], 1) (samplePath []) ∧
      Carried (samplePath ['é']) ∧ ¬ UdpSurvives [] (['h'], 1) (samplePath ['é']) ∧
      ¬ TcpSurvives [] (['h'], 1) (samplePath ['é']) ∧
      Carried sampleMixed ∧ ¬ TcpSurvives [] (['h'], 1) sampleMixed := by
  have hempty := samplePath_carried [] (by decide)
  have haccent := samplePath_carried ['é'] (by decide)
  have haligned : ∀ t : Text, t.length < 269 → Aligned 0 0 (asSortedList (samplePath t).options) :=
    fun t ht => ⟨fun h => absurd h (show ¬ 269 ≤ 11 by decide),
      fun h => absurd h (Nat.not_le.mpr ht), trivial⟩
  refine ⟨hempty, fun h => ?_, fun h => ?_, haccent, fun h => ?_, fun h => ?_,
    sampleMixed_carried, fun h => ?_⟩
  · have hok := (udp_survives_iff [] (['h'], 1) _ hempty).mp h
    exact (hok _ (List.mem_singleton_self _) [] rfl rfl).1 rfl
  · have hok := (tcp_survives_iff [] (['h'], 1) _ hempty (haligned [] (by decide))
      (by decide +kernel)).mp h
    exact (hok _ (List.mem_singleton_self _) [] rfl rfl).1 rfl
  · have hok := (udp_survives_iff [] (['h'], 1) _ haccent).mp h
    exact absurd (hok _ (List.mem_singleton_self _) ['é'] rfl rfl).2 (by decide)
  · have hok := (tcp_survives_iff [] (['h'], 1) _ haccent (haligned ['é'] (by decide))
      (by decide +kernel)).mp h
    exact absurd (hok _ (List.mem_singleton_self _) ['é'] rfl rfl).2 (by decide)
  · obtain ⟨_, bytes, m', o', hser, hdes, _⟩ := h [] _ _ ['a'] rfl rfl rfl
    have hframe : SerializerTcp.serialize littleEndianHost sampleMixed =
        .ok [0xA1, 1, 1, 0xB1, 97, 0xE2, 0, 0xE9, 6, 8, 0, 0xFF, 0x78] := by decide +kernel
    have hbytes : bytes = [0xA1, 1, 1, 0xB1, 97, 0xE2, 0, 0xE9, 6, 8, 0, 0xFF, 0x78] :=
      Except.ok.inj (hser.symm.trans hframe)
    have hrefused : SerializerTcp.deserialize []
        [0xA1, 1, 1, 0xB1, 97, 0xE2, 0, 0xE9, 6, 8, 0, 0xFF, 0x78] (['h'], 1) =
          .ok (.code Codes.badRequest) := by decide +kernel
    dsimp only at hdes
    rw [hbytes, hrefused] at hdes
    cases hdes

end BubotCoap.TextOptions
