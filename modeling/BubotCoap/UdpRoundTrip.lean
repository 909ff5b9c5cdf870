import BubotCoap.OptionWire
import BubotCoap.SerializerUdp

set_option autoImplicit false

namespace BubotCoap.UdpRoundTrip
open PythonData Defines Options Messages StructPack StableSort Serializer OptionWire SerializerUdp

/-- The messages the UDP format carries. -/
structure UdpEncodable (m : Message) : Prop where
  type : ∃ t, m.type = some t
  code : ∃ c ∈ Codes.list, m.code = some c ∧ (isRequest c = true ∨ isResponse c = true)
  mid : ∃ n : ℕ, n ≤ 65535 ∧ m.mid = some (n : ℤ)
  token : ∃ t : Bytes, m.token = some t ∧ 1 ≤ t.length ∧ t.length ≤ 15
  options : ∀ o ∈ m.options.toList, Encodable o
  payload : BytesPayload m.payload

def kindOf (code : ℕ) : Kind :=
  if isResponse code then .response else if isRequest code then .request else .message

/-- The message a peer builds, `pt` being what it remembers of the content type. -/
def received (m : Message) (source : Address) (pt : Value) : Message :=
  { Message.new (kindOf (m.code.getD 0)) with
    type := m.type
    mid := m.mid
    token := m.token
    options := sortedOptions m.options
    payload := wirePayload m.payload
    source := some source
    code := m.code
    payloadType := pt }

theorem first_byte (t : MsgType) (tkl : ℕ) (h : tkl < 16) :
    ((version <<< 2 ||| t.toNat) <<< 4 ||| tkl) < 256 ∧
      (((version <<< 2 ||| t.toNat) <<< 4 ||| tkl) &&& 0xC0) >>> 6 = version ∧
      (((version <<< 2 ||| t.toNat) <<< 4 ||| tkl) &&& 0x30) >>> 4 = t.toNat ∧
      ((version <<< 2 ||| t.toNat) <<< 4 ||| tkl) &&& 0x0F = tkl := by
  have key : ∀ n < 4, ∀ tkl < 16,
      ((version <<< 2 ||| n) <<< 4 ||| tkl) < 256 ∧
      (((version <<< 2 ||| n) <<< 4 ||| tkl) &&& 0xC0) >>> 6 = version ∧
      (((version <<< 2 ||| n) <<< 4 ||| tkl) &&& 0x30) >>> 4 = n ∧
      ((version <<< 2 ||| n) <<< 4 ||| tkl) &&& 0x0F = tkl := by decide
  exact key t.toNat (toNat_lt t) tkl h

theorem code_lt (c : ℕ) (h : c ∈ Codes.list) : c < 256 := by
  have key : ∀ c ∈ Codes.list, c < 256 := by decide
  exact key c h

def headerWire (t : MsgType) (c mid : ℕ) (token : Bytes) : Bytes :=
  UInt8.ofNat ((version <<< 2 ||| t.toNat) <<< 4 ||| token.length) :: UInt8.ofNat c ::
    BigEndian.bytes 2 mid ++ token

theorem serialize_getD (m : Message) (t : MsgType) (c mid : ℕ) (token : Bytes)
    (htype : m.type = some t) (hcode : m.code.getD 0 = c) (hmid : m.mid.getD 0 = (mid : ℤ))
    (htoken : m.token.getD [] = token) (hc : c < 256) (hm : mid ≤ 65535)
    (hle : token.length ≤ 15) (hoptions : ∀ o ∈ m.options.toList, Emitted o) :
    serialize m = .ok (headerWire t c mid token ++ bodyWire m) := by
  obtain ⟨body, hbody, hfits, hbytes⟩ := bodyFields_emitted m hoptions
  obtain ⟨hfirst, _⟩ := first_byte t token.length (by omega)
  unfold serialize headerFields
  rw [htype, hcode, hmid, htoken]
  simp only [ok_bind, hbody]
  set tokenFields : List Field := if token.length > 0 then [.str token] else [] with htf
  have htoken' : netBytes tokenFields = token := by
    rw [htf]
    split_ifs with hpos
    · simp [Field.encode]
    · exact (List.length_eq_zero_iff.mp (by omega)).symm
  have htokenFits : ∀ f ∈ tokenFields, f.Fits := by
    intro f hf
    rw [htf] at hf
    split_ifs at hf
    · rw [List.mem_singleton.mp hf]
      trivial
    · exact absurd hf List.not_mem_nil
  rw [packInto_network]
  · change Except.ok (netBytes _) = _
    rw [netBytes_append, netBytes_append, htoken', hbytes]
    simp [Field.encode, shortBytes, network, headerWire]
  · intro f hf
    simp only [List.cons_append, List.nil_append, List.mem_cons, List.mem_append] at hf
    rcases hf with rfl | rfl | rfl | hf | hf
    · exact hfirst
    · exact hc
    · simp only [Field.Fits]
      omega
    · exact htokenFits f hf
    · exact hfits f hf

theorem serialize_eq (m : Message) (t : MsgType) (c mid : ℕ) (token : Bytes)
    (htype : m.type = some t) (hcode : m.code = some c) (hmid : m.mid = some (mid : ℤ))
    (htoken : m.token.getD [] = token) (hc : c < 256) (hm : mid ≤ 65535)
    (hle : token.length ≤ 15) (hoptions : ∀ o ∈ m.options.toList, Emitted o) :
    serialize m = .ok (headerWire t c mid token ++ bodyWire m) :=
  serialize_getD m t c mid token htype (by rw [hcode]; rfl) (by rw [hmid]; rfl) htoken hc hm hle
    hoptions

/-- Whatever becomes of the options, the header is packed before them. -/
theorem serialize_header (m : Message) (t : MsgType) (bytes : Bytes) (htype : m.type = some t)
    (hc : m.code.getD 0 < 256) (hpos : 0 ≤ m.mid.getD 0) (hm : m.mid.getD 0 ≤ 65535)
    (hle : (m.token.getD []).length ≤ 15) (h : serialize m = .ok bytes) :
    ∃ rest, bytes =
      headerWire t (m.code.getD 0) (m.mid.getD 0).toNat (m.token.getD []) ++ rest := by
  obtain ⟨hfirst, _⟩ := first_byte t (m.token.getD []).length (by omega)
  unfold serialize headerFields at h
  rw [htype] at h
  simp only [ok_bind] at h
  obtain ⟨body, _, h⟩ := (bind_eq_ok _ _ _).mp h
  set tokenFields : List Field :=
    if (m.token.getD []).length > 0 then [.str (m.token.getD [])] else [] with hfields
  have hencode : tokenFields.flatMap (Field.encode network) = m.token.getD [] := by
    rw [hfields]
    split_ifs with hpos
    · simp [Field.encode]
    · exact (List.length_eq_zero_iff.mp (by omega)).symm
  have hfits : ∀ f ∈ [Field.ubyte
      (some (((version <<< 2 ||| t.toNat) <<< 4) ||| (m.token.getD []).length)),
      .ubyte (some (m.code.getD 0)), .ushort (m.mid.getD 0)] ++ tokenFields, f.Fits := by
    intro f hf
    simp only [List.cons_append, List.nil_append, List.mem_cons] at hf
    rcases hf with rfl | rfl | rfl | hf
    · exact hfirst
    · exact hc
    · simp only [Field.Fits]
      omega
    · rw [hfields] at hf
      split_ifs at hf
      · rw [List.mem_singleton.mp hf]
        trivial
      · exact absurd hf List.not_mem_nil
  obtain ⟨rest, hrest⟩ := packInto_network_append _ body hfits
  refine ⟨rest, ?_⟩
  rw [← Except.ok.inj h, hrest, List.flatMap_append, hencode]
  simp [Field.encode, shortBytes, network, headerWire]

def headed (t : MsgType) (c mid : ℕ) (token : Bytes) (source : Address) : Message :=
  { Message.new (kindOf c) with
    type := some t
    mid := some (mid : ℤ)
    token := some token
    source := some source
    code := some c }

theorem readHeader_wire (t : MsgType) (c mid : ℕ) (token rest rng : Bytes) (source : Address)
    (base : Message) (hbase : newMessage c = .ok base) (hc : c < 256) (hm : mid ≤ 65535)
    (hle : token.length ≤ 15) :
    readHeader rng (headerWire t c mid token ++ rest) source =
      .ok ({ base with
        type := some t
        mid := some (mid : ℤ)
        token := some (if token.length > 0 then token else rng)
        source := some source
        destination := none }, rest) := by
  obtain ⟨hfirst, hversion, htype, htkl⟩ := first_byte t token.length (by omega)
  set first := (version <<< 2 ||| t.toNat) <<< 4 ||| token.length with hdef
  have hf : (UInt8.ofNat first).toNat = first := by
    rw [UInt8.toNat_ofNat']
    omega
  have hcn : (UInt8.ofNat c).toNat = c := by
    rw [UInt8.toNat_ofNat']
    omega
  have hmv := BigEndian.value_bytes 2 mid (by omega)
  rw [BigEndian.bytes_two] at hmv
  have hwire : headerWire t c mid token ++ rest =
      UInt8.ofNat first :: UInt8.ofNat c :: UInt8.ofNat (mid / 256) :: UInt8.ofNat mid ::
        (token ++ rest) := by
    simp [headerWire, BigEndian.bytes_two, hdef]
  have hunpack : unpackBBH (headerWire t c mid token ++ rest) = .ok (first, c, mid) := by
    rw [hwire, unpackBBH, hf, hcn, hmv]
  have hslice : slice (headerWire t c mid token ++ rest) 4 (4 + token.length) = token := by
    rw [hwire]
    exact slice_append [UInt8.ofNat first, UInt8.ofNat c, UInt8.ofNat (mid / 256),
      UInt8.ofNat mid] token rest 4 token.length rfl rfl
  have hdrop : (headerWire t c mid token ++ rest).drop (4 + token.length) = rest := by
    rw [hwire]
    simp [Nat.add_comm 4]
  unfold readHeader
  rw [hunpack, ok_bind]
  dsimp only
  rw [hbase, ok_bind, hversion, htype, htkl]
  unfold Message.setVersion Message.setType Message.setMid Message.setToken
  simp only [↓reduceIte, ok_bind, ofNat?_toNat, hslice, hdrop]
  rw [if_neg (by omega), ok_bind]
  by_cases hpos : token.length > 0
  · simp only [hpos, ↓reduceIte]
    rw [if_neg (by omega), ok_bind]
  · simp only [hpos, ↓reduceIte, ok_bind]

theorem readHeader_headerWire (t : MsgType) (c mid : ℕ) (token rest rng : Bytes)
    (source : Address) (hc : c ∈ Codes.list) (hkind : isRequest c = true ∨ isResponse c = true)
    (hm : mid ≤ 65535) (hpos : 1 ≤ token.length) (hle : token.length ≤ 15) :
    readHeader rng (headerWire t c mid token ++ rest) source =
      .ok (headed t c mid token source, rest) := by
  have hmessage : newMessage c = .ok { Message.new (kindOf c) with code := some c } := by
    unfold newMessage kindOf Message.setCode
    by_cases hres : isResponse c = true
    · simp [hres, hc, Message.new]
    · have hreq : isRequest c = true := hkind.resolve_right hres
      simp [hres, hreq, hc, Message.new]
  rw [readHeader_wire t c mid token rest rng source _ hmessage (code_lt c hc) hm hle,
    if_pos (show token.length > 0 from hpos)]
  rfl

theorem deserialize_wire (m : Message) (rng : Bytes) (source : Address) (h : UdpEncodable m) :
    ∃ datagram pt, serialize m = .ok datagram ∧
      deserialize rng datagram source = .ok (.message (received m source pt)) := by
  obtain ⟨t, htype⟩ := h.type
  obtain ⟨c, hc, hcode, hkind⟩ := h.code
  obtain ⟨mid, hm, hmid⟩ := h.mid
  obtain ⟨token, htoken, hpos, hle⟩ := h.token
  have hser := serialize_eq m t c mid token htype hcode hmid (by rw [htoken]; rfl)
    (code_lt c hc) hm hle
    fun o ho => (framed_of_encodable o (h.options o ho)).toEmitted
  have hhead := readHeader_headerWire t c mid token (bodyWire m) rng source hc hkind hm hpos hle
  obtain ⟨pt, hbody⟩ := readMessage_bodyWire m (headed t c mid token source) h.options
    h.payload rfl rfl
  refine ⟨_, pt, hser, ?_⟩
  unfold deserialize
  rw [hhead, ok_bind]
  dsimp only
  rw [hbody]
  simp only [badRequestOn, received, headed, htype, hcode, hmid, htoken, Option.getD_some]

/-- Every field survives, the options stably sorted by number, an empty payload as none. -/
theorem deserialize_serialize (m : Message) (rng : Bytes) (source : Address)
    (h : UdpEncodable m) :
    ∃ datagram m', serialize m = .ok datagram ∧
      deserialize rng datagram source = .ok (.message m') ∧
      m'.code = m.code ∧ m'.type = m.type ∧ m'.mid = m.mid ∧ m'.token = m.token ∧
      m'.payload = wirePayload m.payload ∧
      IsStableSort CoapOption.number m.options.toList m'.options.toList := by
  obtain ⟨datagram, pt, hser, hdes⟩ := deserialize_wire m rng source h
  exact ⟨datagram, _, hser, hdes, rfl, rfl, rfl, rfl, rfl, sortBy_stable _ _⟩

def samplePost : Message :=
  { Message.new .request with
    type := some .CON
    code := some Codes.post
    mid := some 7
    token := some [1, 2]
    options := ⟨[⟨OptionRegistry.size1, .int 300, find?_size1, rfl⟩,
      ⟨OptionRegistry.uriPath, .str ['b'], find?_uriPath, rfl⟩,
      ⟨OptionRegistry.uriPath, .str ['a'], find?_uriPath, rfl⟩,
      ⟨OptionRegistry.etag, .bytes [9], rfl, rfl⟩], by decide⟩
    payload := some (.bytes [255]) }

theorem samplePost_encodable : UdpEncodable samplePost where
  type := ⟨.CON, rfl⟩
  code := ⟨Codes.post, by decide, rfl, Or.inl (by decide)⟩
  mid := ⟨7, by decide, rfl⟩
  token := ⟨[1, 2], rfl, by decide, by decide⟩
  options := by decide
  payload := trivial

theorem deserialize_serialize_samplePost :
    ∃ datagram m', serialize samplePost = .ok datagram ∧
      deserialize [] datagram (['h'], 5683) = .ok (.message m') ∧
      m'.code = samplePost.code ∧ m'.type = samplePost.type ∧ m'.mid = samplePost.mid ∧
      m'.token = samplePost.token ∧ m'.payload = wirePayload samplePost.payload ∧
      IsStableSort CoapOption.number samplePost.options.toList m'.options.toList :=
  deserialize_serialize samplePost [] (['h'], 5683) samplePost_encodable

end BubotCoap.UdpRoundTrip
