import BubotCoap.TcpFraming
import BubotCoap.UdpRoundTrip

set_option autoImplicit false

namespace BubotCoap.TcpRoundTrip
open PythonData Defines Options Messages StructPack StableSort Serializer OptionWire TcpFraming
  SerializerTcp

def extendedWidth (v : ℕ) : ℕ := if v ≤ 12 then 0 else if v ≤ 268 then 1 else 2

/-- The extended field of `v`, written at offset `off`, comes out as in network format: if it
has two bytes, the offset is even and the two bytes are equal. -/
def FieldAligned (off v : ℕ) : Prop :=
  269 ≤ v → off % 2 = 0 ∧ (v - 269) / 256 = (v - 269) % 256

/-- All extended fields of the options, which start at offset `off`, are aligned in this sense. -/
def Aligned (off last : ℕ) : List CoapOption → Prop
  | [] => True
  | o :: os =>
    FieldAligned (off + 1) (o.number - last) ∧
      FieldAligned (off + 1 + extendedWidth (o.number - last)) o.length ∧
      Aligned (off + 1 + extendedWidth (o.number - last) + extendedWidth o.length + o.length)
        o.number os

theorem agrees_plain (l : Layout) (off : ℕ) (fs : List Field) (h : ∀ f ∈ fs, Plain f) :
    Agrees l off fs := by
  induction fs generalizing off with
  | nil => trivial
  | cons f fs ih =>
    have hrest := ih (off + f.width) fun g hg => h g (List.mem_cons_of_mem f hg)
    have hf := h f List.mem_cons_self
    cases f with
    | ubyte v => exact ⟨rfl, rfl, hrest⟩
    | str b => exact ⟨rfl, rfl, hrest⟩
    | ushort v => exact hf.elim

theorem shortBytes_agree (v : ℕ) (h : v < 65536) :
    shortBytes littleEndianHost v = shortBytes network v ↔ v / 256 = v % 256 := by
  simp only [shortBytes, littleEndianHost, network, BigEndian.bytes_two, List.reverse_cons,
    List.reverse_nil, List.nil_append, List.cons_append, ↓reduceIte, Bool.false_eq_true,
    List.cons.injEq, and_true]
  constructor
  · rintro ⟨hlow, _⟩
    have := congrArg UInt8.toNat hlow
    rw [UInt8.toNat_ofNat', UInt8.toNat_ofNat'] at this
    omega
  · intro heq
    have hbyte : UInt8.ofNat v = UInt8.ofNat (v / 256) := by
      apply UInt8.toNat_inj.mp
      rw [UInt8.toNat_ofNat', UInt8.toNat_ofNat']
      omega
    exact ⟨hbyte, hbyte.symm⟩

theorem agrees_extended (off v : ℕ) (h : v ≤ 65804) :
    Agrees littleEndianHost off (extended (nibble v) v) ↔ FieldAligned off v := by
  rw [extended_nibble]
  unfold FieldAligned
  split_ifs with h₁ h₂
  · exact iff_of_true trivial fun hv => by omega
  · exact iff_of_true ⟨rfl, rfl, trivial⟩ fun hv => by omega
  · have hbytes := shortBytes_agree (v - 269) (by omega)
    have hnat : ((v : ℤ) - 269).toNat = v - 269 := by omega
    simp only [Agrees, Field.pad, Field.encode, and_true, hnat, hbytes]
    simp only [littleEndianHost]
    constructor
    · rintro ⟨hpad, hb⟩ _
      exact ⟨by omega, hb⟩
    · intro hall
      obtain ⟨heven, hb⟩ := hall (by omega)
      exact ⟨by omega, hb⟩

theorem width_extended (v : ℕ) :
    ((extended (nibble v) v).map Field.width).sum = extendedWidth v := by
  rw [extended_nibble]
  unfold extendedWidth
  split_ifs <;> rfl

theorem width_eq_length (fs : List Field) : (fs.map Field.width).sum = (netBytes fs).length := by
  induction fs with
  | nil => rfl
  | cons f fs ih => simp [ih]

theorem agrees_option (off last : ℕ) (o : CoapOption) (fs : List Field) (h : Emitted o)
    (hfs : optionFields last o = .ok fs) :
    Agrees littleEndianHost off fs ↔
      FieldAligned (off + 1) (o.number - last) ∧
        FieldAligned (off + 1 + extendedWidth (o.number - last)) o.length := by
  obtain ⟨gs, hgs, hplain, _⟩ := optionFields_emitted last o h
  have hsame := Except.ok.inj (hgs.symm.trans hfs)
  have hgp := fun k => agrees_plain littleEndianHost k gs fun f hf => (hplain f hf).2
  rw [← hsame, headFields, ← agrees_extended _ _ (delta_le last o),
    ← agrees_extended _ _ h.length_le]
  simp only [List.cons_append, Agrees, agrees_append, Field.pad, Field.encode, Field.width,
    width_extended, hgp, true_and, and_true, Nat.add_assoc, List.append_assoc]

theorem width_option (last : ℕ) (o : CoapOption) (fs : List Field) (h : Framed o)
    (hfs : optionFields last o = .ok fs) :
    (fs.map Field.width).sum =
      1 + extendedWidth (o.number - last) + extendedWidth o.length + o.length := by
  obtain ⟨gs, hgs, _, hraw⟩ := optionFields_emitted last o h.toEmitted
  have hsame := Except.ok.inj (hgs.symm.trans hfs)
  have hgw : (gs.map Field.width).sum = o.length := by
    rw [width_eq_length, hraw, h.announced]
  rw [← hsame, headFields]
  simp only [List.cons_append, List.map_cons, List.map_append, List.sum_cons, List.sum_append,
    Field.width, width_extended, hgw]
  omega

theorem agrees_options (os : List CoapOption) (off last : ℕ) (fs : List Field)
    (h : ∀ o ∈ os, Framed o) (hfs : optionsFields last os = .ok fs) :
    Agrees littleEndianHost off fs ↔ Aligned off last os := by
  induction os generalizing off last fs with
  | nil =>
    have : fs = [] := (Except.ok.inj hfs).symm
    subst this
    exact Iff.rfl
  | cons o os ih =>
    have ho := h o List.mem_cons_self
    obtain ⟨gs, hgs, hfs⟩ := (bind_eq_ok _ _ _).mp hfs
    obtain ⟨rest, hrest, hfs⟩ := (bind_eq_ok _ _ _).mp hfs
    have hsplit := (Except.ok.inj hfs).symm
    have htail := fun k => ih k o.number rest (fun p hp => h p (List.mem_cons_of_mem o hp)) hrest
    rw [hsplit, agrees_append, agrees_option off last o gs ho.toEmitted hgs,
      width_option last o gs ho hgs, htail, Aligned, and_assoc]
    simp only [Nat.add_assoc]

theorem plain_payload (p : Option Payload) : ∀ f ∈ payloadFields p, Plain f := by
  intro f hf
  unfold payloadFields at hf
  split at hf
  · split_ifs at hf <;> simp at hf
    rcases hf with rfl | rfl <;> trivial
  · split_ifs at hf <;> simp at hf
    rcases hf with rfl | rfl <;> trivial
  · simp at hf

theorem bodyBytes_iff (m : Message) (h : ∀ o ∈ m.options.toList, Framed o) :
    bodyBytes littleEndianHost m = .ok (bodyWire m) ↔ Aligned 0 0 (asSortedList m.options) := by
  obtain ⟨fs, hfs, hfits, hbytes⟩ := bodyFields_emitted m fun o ho => (h o ho).toEmitted
  obtain ⟨gs, hgs, _, _⟩ :=
    optionsFields_emitted (asSortedList m.options) 0
      fun o ho => (forall_sorted m.options _ h o ho).toEmitted
  have hsplit : fs = gs ++ payloadFields m.payload := by
    have := hfs
    rw [bodyFields, hgs, ok_bind] at this
    exact (Except.ok.inj this).symm
  have hagree := write_eq_network_iff littleEndianHost 0 fs hfits
  rw [← agrees_options (asSortedList m.options) 0 0 gs (forall_sorted m.options _ h) hgs]
  unfold bodyBytes
  rw [hfs, ok_bind, packInto_of_fits littleEndianHost fs hfits, ← hbytes, Except.ok.injEq]
  change (write littleEndianHost 0 fs).1 = fs.flatMap (Field.encode network) ↔ _
  rw [hagree, hsplit, agrees_append]
  exact and_iff_left (agrees_plain _ _ _ (plain_payload _))

/-- The messages the TCP format carries, the body being counted as the standard lays it out. -/
structure TcpEncodable (m : Message) : Prop where
  code : ∃ c ∈ Codes.list, m.code = some c
  token : ∃ t : Bytes, m.token = some t ∧ t.length ≤ 8
  options : ∀ o ∈ m.options.toList, Encodable o
  payload : BytesPayload m.payload
  length : (bodyWire m).length < 65805 + 2 ^ 32

theorem encodeLength_ok (n : ℕ) (h : n < 65805 + 2 ^ 32) :
    ∃ l extlen, encodeLength n = .ok (l, extlen) := by
  have htoBytes : ∀ nibble width k, k < 256 ^ width →
      encodeLength.toBytes nibble width k = .ok (nibble, BigEndian.bytes width k) := by
    intro nibble width k hk
    unfold encodeLength.toBytes fits
    rw [if_pos hk, ok_bind]
  unfold encodeLength
  split_ifs with h₁ h₂ h₃
  · exact ⟨_, _, rfl⟩
  · exact ⟨_, _, htoBytes 13 1 _ (by omega)⟩
  · exact ⟨_, _, htoBytes 14 2 _ (by omega)⟩
  · exact ⟨_, _, htoBytes 15 4 _ (by omega)⟩

def headed (c : ℕ) (token : Bytes) (source : Address) : Message :=
  { Message.new (UdpRoundTrip.kindOf c) with
    token := some token
    source := some source
    code := some c }

theorem drop_frameBytes (l : ℕ) (extlen : Bytes) (c : ℕ) (token body : Bytes) :
    (frameBytes l extlen c token body).drop (2 + extlen.length + token.length) = body := by
  have hpart : frameBytes l extlen c token body =
      (UInt8.ofNat (l <<< 4 ||| token.length) :: extlen ++ [UInt8.ofNat c] ++ token) ++ body := by
    simp [frameBytes]
  rw [hpart]
  exact List.drop_left' (by simp; omega)

theorem readHeader_frameBytes (l : ℕ) (extlen : Bytes) (c : ℕ) (token body rng : Bytes)
    (source : Address) (h : Length body.length l extlen) (ht : token.length ≤ 8)
    (hc : c ∈ Codes.list) :
    readHeader rng (frameBytes l extlen c token body) source =
      .ok (headed c token source, body) := by
  have hlt := UdpRoundTrip.code_lt c hc
  have hcn : (UInt8.ofNat c).toNat = c := by
    rw [UInt8.toNat_ofNat']
    omega
  have hsize := extractMessageSize_header _ _ token.length extlen
    (UInt8.ofNat c :: (token ++ body)) h ht
  set first := UInt8.ofNat (l <<< 4 ||| token.length) with hfirst
  have hframe : frameBytes l extlen c token body =
      first :: (extlen ++ UInt8.ofNat c :: (token ++ body)) := rfl
  have hcode := item_append (first :: extlen) (token ++ body) (UInt8.ofNat c)
    (2 + extlen.length - 1) (by simp; omega)
  have htoken := slice_append (first :: extlen ++ [UInt8.ofNat c]) token body
    (2 + extlen.length) token.length (by simp; omega) rfl
  have hdrop := drop_frameBytes l extlen c token body
  simp only [List.cons_append, List.append_assoc, List.nil_append] at hcode htoken
  rw [hframe] at hdrop ⊢
  unfold readHeader
  rw [hsize]
  dsimp only
  rw [if_neg (by omega), hcode, ok_bind, hcn, htoken, hdrop]
  have hset : ∀ kind, (Message.new kind).setCode (some c) =
      .ok { Message.new kind with code := some c } := by
    intro kind
    simp [Message.setCode, hc]
  rw [hset, ok_bind]
  unfold Message.setToken
  dsimp only
  rw [if_neg (by omega), ok_bind]
  simp only [headed, UdpRoundTrip.kindOf, Message.new]

/-- What the round trip asks of a frame: the peer reads the message back, and behind the token
stand the bytes that the UDP serializer emits there, whatever type and id the datagram has. -/
def RoundTrip (host : Layout) (rng : Bytes) (source : Address) (m : Message) : Prop :=
  ∃ frame m', serialize host m = .ok frame ∧
    deserialize rng frame source = .ok (.message m') ∧
    m'.code = m.code ∧ m'.token = m.token ∧ m'.payload = wirePayload m.payload ∧
    IsStableSort CoapOption.number m.options.toList m'.options.toList ∧
    ∃ tokenoffset tkl l, extractMessageSize frame = some (tokenoffset, tkl, l) ∧
      ∀ type, ∀ mid : ℕ, mid ≤ 65535 → ∃ datagram,
        SerializerUdp.serialize { m with type := some type, mid := some (mid : ℤ) } =
            .ok datagram ∧
        frame.drop (tokenoffset + tkl) = datagram.drop (4 + tkl)

theorem udp_serialize (m : Message) (h : TcpEncodable m) (t : MsgType) (mid : ℕ)
    (hm : mid ≤ 65535) :
    ∃ header : Bytes, header.length = 4 + (m.token.getD []).length ∧
      SerializerUdp.serialize { m with type := some t, mid := some (mid : ℤ) } =
        .ok (header ++ bodyWire m) := by
  obtain ⟨c, hc, hcode⟩ := h.code
  obtain ⟨token, htoken, hlen⟩ := h.token
  refine ⟨UdpRoundTrip.headerWire t c mid token, ?_, ?_⟩
  · rw [htoken]
    simp only [UdpRoundTrip.headerWire, List.cons_append, List.length_cons, List.length_append,
      BigEndian.bytes_length, Option.getD_some]
    omega
  · exact UdpRoundTrip.serialize_eq { m with type := some t, mid := some (mid : ℤ) } t c mid token rfl
      hcode rfl (by rw [htoken]; rfl) (UdpRoundTrip.code_lt c hc) hm (by omega)
      fun o ho => (framed_of_encodable o (h.options o ho)).toEmitted

theorem roundTrip_iff_body (host : Layout) (rng : Bytes) (source : Address) (m : Message)
    (h : TcpEncodable m) :
    RoundTrip host rng source m ↔ bodyBytes host m = .ok (bodyWire m) := by
  obtain ⟨c, hc, hcode⟩ := h.code
  obtain ⟨token, htoken, hlen⟩ := h.token
  constructor
  · rintro ⟨frame, m', hser, _, _, _, _, _, tokenoffset, tkl, l, hsize, hudp⟩
    obtain ⟨body, nibble, extlen, code, hbody, henc, htkl, _, _, rfl⟩ :=
      (serialize_eq_ok_iff host m frame).mp hser
    have hspec := encodeLength_spec _ _ _ henc
    have hhead := extractMessageSize_header _ _ _ extlen
      (UInt8.ofNat code :: (m.token.getD [] ++ body)) hspec htkl
    rw [frameBytes, hhead] at hsize
    obtain ⟨rfl, rfl, rfl⟩ : 2 + extlen.length = tokenoffset ∧
        (m.token.getD []).length = tkl ∧ body.length = l := by simpa using hsize
    obtain ⟨datagram, hdatagram, hdrop⟩ := hudp .CON 0 (by omega)
    obtain ⟨header, hlength, hwire⟩ := udp_serialize m h .CON 0 (by omega)
    rw [hwire] at hdatagram
    rw [drop_frameBytes, ← Except.ok.inj hdatagram, List.drop_left' hlength] at hdrop
    rw [hbody, hdrop]
  · intro hbody
    obtain ⟨l, extlen, henc⟩ := encodeLength_ok (bodyWire m).length h.length
    have hspec := encodeLength_spec _ _ _ henc
    have hser : serialize host m = .ok (frameBytes l extlen c token (bodyWire m)) := by
      refine (serialize_eq_ok_iff host m _).mpr ⟨bodyWire m, l, extlen, c, hbody, henc, ?_, hcode,
        UdpRoundTrip.code_lt c hc, ?_⟩
      · rw [htoken]
        exact hlen
      · rw [htoken]
        rfl
    have hhead := readHeader_frameBytes l extlen c token (bodyWire m) rng source hspec hlen hc
    obtain ⟨pt, hread⟩ := readMessage_bodyWire m (headed c token source) h.options h.payload rfl rfl
    have hsize := extractMessageSize_header _ _ token.length extlen
      (UInt8.ofNat c :: (token ++ bodyWire m)) hspec hlen
    refine ⟨_, { headed c token source with
      options := sortedOptions m.options
      payload := wirePayload m.payload
      payloadType := pt }, hser, ?_, ?_, ?_, rfl, sortBy_stable _ _, _, _, _, hsize, ?_⟩
    · unfold deserialize
      rw [hhead, ok_bind]
      dsimp only
      rw [hread]
      rfl
    · exact hcode.symm
    · exact htoken.symm
    · intro type mid hm
      obtain ⟨header, hlength, hwire⟩ := udp_serialize m h type mid hm
      rw [htoken, Option.getD_some] at hlength
      exact ⟨_, hwire, by rw [drop_frameBytes, List.drop_left' hlength]⟩

/-- On a little-endian host the round trip succeeds exactly if every two-byte extended field of
the sorted options stands at an even offset of the body and has equal bytes. -/
theorem roundTrip_iff (rng : Bytes) (source : Address) (m : Message) (h : TcpEncodable m) :
    RoundTrip littleEndianHost rng source m ↔ Aligned 0 0 (asSortedList m.options) := by
  rw [roundTrip_iff_body littleEndianHost rng source m h,
    bodyBytes_iff m fun o ho => framed_of_encodable o (h.options o ho)]

theorem samplePost_tcpEncodable : TcpEncodable UdpRoundTrip.samplePost where
  code := ⟨Codes.post, by decide, rfl⟩
  token := ⟨[1, 2], rfl, by decide⟩
  options := by decide
  payload := trivial
  length := by decide +kernel

theorem roundTrip_iff_samplePost :
    RoundTrip littleEndianHost [] (['h'], 5683) UdpRoundTrip.samplePost ↔
      Aligned 0 0 (asSortedList UdpRoundTrip.samplePost.options) :=
  roundTrip_iff [] (['h'], 5683) UdpRoundTrip.samplePost samplePost_tcpEncodable

def sampleOcf : Message :=
  { Message.new .request with
    code := some Codes.get
    token := some [1]
    options := ⟨[⟨OptionRegistry.ocfAcceptContentFormatVersion, .int 2048, rfl, rfl⟩], by decide⟩ }

theorem not_roundTrip_sampleOcf :
    TcpEncodable sampleOcf ∧ ¬ RoundTrip littleEndianHost [] (['h'], 5683) sampleOcf := by
  have h : TcpEncodable sampleOcf :=
    { code := ⟨Codes.get, by decide, rfl⟩
      token := ⟨[1], rfl, by decide⟩
      options := by decide
      payload := trivial
      length := by decide +kernel }
  refine ⟨h, ?_⟩
  rw [roundTrip_iff_body littleEndianHost [] (['h'], 5683) sampleOcf h,
    bodyBytes_iff sampleOcf fun o ho => framed_of_encodable o (h.options o ho)]
  intro haligned
  have hfield : FieldAligned 1 2049 := haligned.1
  exact absurd (hfield (by decide)).1 (by decide)

end BubotCoap.TcpRoundTrip
