import BubotCoap.DecodedOptions
import BubotCoap.Truncation
import BubotCoap.UdpRoundTrip

set_option autoImplicit false

namespace BubotCoap.TokenEcho
open PythonData Defines Options Messages StructPack Serializer OptionWire DeserializeErrors
  DecodedOptions Truncation

theorem readMessage_token (values : Bytes) (base m : Message)
    (h : readMessage values base = .ok m) : m.token = base.token :=
  readLoop_keeps (fun m => m.token = base.token)
    (fun m m' _ _ _ _ o _ _ hadd hm => (addDecoded_eq m m' o hadd).2.trans hm)
    (fun _ _ hm => hm) values _ _ m h rfl

/-- The token of the datagram, as far as it has one. -/
def tokenBytes (datagram : Bytes) : Bytes := slice datagram 4 (4 + tokenLength datagram)

theorem tokenBytes_length (datagram : Bytes) (h : 4 + tokenLength datagram ≤ datagram.length) :
    (tokenBytes datagram).length = tokenLength datagram := by
  unfold tokenBytes slice
  rw [List.length_take, List.length_drop]
  omega

theorem readHeader_token (rng datagram : Bytes) (source : Address) (m : Message) (values : Bytes)
    (h : SerializerUdp.readHeader rng datagram source = .ok (m, values)) :
    m.token = some (if tokenLength datagram > 0 then tokenBytes datagram else rng) := by
  unfold SerializerUdp.readHeader at h
  obtain ⟨⟨first, code, mid⟩, hunpack, h⟩ := (bind_eq_ok _ _ _).mp h
  have hlength : first &&& 0x0F = tokenLength datagram := by
    unfold unpackBBH at hunpack
    split at hunpack
    · obtain ⟨rfl, -, -⟩ : _ ∧ _ ∧ _ := by simpa using hunpack
      exact low_nibble _
    · cases hunpack
  dsimp only at h
  rw [hlength] at h
  obtain ⟨m₁, _, h⟩ := (bind_eq_ok _ _ _).mp h
  obtain ⟨m₂, _, h⟩ := (bind_eq_ok _ _ _).mp h
  obtain ⟨m₃, _, h⟩ := (bind_eq_ok _ _ _).mp h
  obtain ⟨m₄, _, h⟩ := (bind_eq_ok _ _ _).mp h
  obtain ⟨m₅, htoken, h⟩ := (bind_eq_ok _ _ _).mp h
  have hm : m₅ = m := (Prod.mk.inj (Except.ok.inj h)).1
  subst hm
  unfold Message.setToken at htoken
  by_cases hpos : tokenLength datagram > 0
  · rw [if_pos hpos] at htoken ⊢
    dsimp only at htoken
    split_ifs at htoken
    rw [← Except.ok.inj htoken]
    rfl
  · rw [if_neg hpos] at htoken ⊢
    rw [← Except.ok.inj htoken]

theorem deserialize_token (rng datagram : Bytes) (source : Address) (m : Message)
    (h : SerializerUdp.deserialize rng datagram source = .ok (.message m)) :
    m.token = some (if tokenLength datagram > 0 then tokenBytes datagram else rng) := by
  unfold SerializerUdp.deserialize at h
  cases hread : SerializerUdp.readHeader rng datagram source with
  | error e =>
    rw [hread] at h
    cases e <;> cases h
  | ok r =>
    obtain ⟨base, values⟩ := r
    rw [hread, ok_bind] at h
    dsimp only at h
    cases hbody : readMessage values base with
    | error e =>
      rw [hbody] at h
      cases e <;> cases h
    | ok m' =>
      rw [hbody] at h
      obtain rfl : m' = m := by simpa [badRequestOn] using h
      rw [readMessage_token values base m' hbody]
      exact readHeader_token rng datagram source base values hread

/-- Code and message id fit their fields. -/
structure Sendable (m : Message) : Prop where
  code : m.code.getD 0 < 256
  mid : 0 ≤ m.mid.getD 0 ∧ m.mid.getD 0 < 65536

theorem serialize_token (m : Message) (token bytes : Bytes) (hm : Sendable m)
    (htoken : m.token = some token) (hle : token.length ≤ 15)
    (h : SerializerUdp.serialize m = .ok bytes) :
    tokenLength bytes = token.length ∧ tokenBytes bytes = token := by
  cases htype : m.type with
  | none =>
    unfold SerializerUdp.serialize SerializerUdp.headerFields at h
    rw [htype] at h
    cases h
  | some type =>
    obtain ⟨hfirst, _, _, htkl⟩ := UdpRoundTrip.first_byte type token.length (by omega)
    obtain ⟨rest, hrest⟩ := UdpRoundTrip.serialize_header m type bytes htype hm.code
      hm.mid.1 (Int.le_of_lt_add_one hm.mid.2) (by rwa [htoken]) h
    rw [htoken, Option.getD_some] at hrest
    set first := ((version <<< 2 ||| type.toNat) <<< 4) ||| token.length with hdef
    have hbytes : bytes = UInt8.ofNat first :: UInt8.ofNat (m.code.getD 0) ::
        UInt8.ofNat ((m.mid.getD 0).toNat / 256) :: UInt8.ofNat (m.mid.getD 0).toNat ::
          (token ++ rest) := by
      rw [hrest]
      simp [UdpRoundTrip.headerWire, BigEndian.bytes_two, hdef]
    have hlength : tokenLength bytes = token.length := by
      have hnat : (UInt8.ofNat first).toNat = first := by
        rw [UInt8.toNat_ofNat']
        omega
      rw [hbytes]
      unfold tokenLength
      rw [List.headD_cons, ← low_nibble, hnat, htkl]
    refine ⟨hlength, ?_⟩
    unfold tokenBytes
    rw [hlength, hbytes]
    exact slice_append [UInt8.ofNat first, UInt8.ofNat (m.code.getD 0),
      UInt8.ofNat ((m.mid.getD 0).toNat / 256), UInt8.ofNat (m.mid.getD 0).toNat] token rest 4 token.length
      rfl rfl

theorem initFromRequest_token (rng token : Bytes) (request response : Message)
    (htoken : request.token = some token)
    (h : Message.initFromRequest rng request = .ok response) : response.token = some token := by
  unfold Message.initFromRequest at h
  obtain ⟨source, _, h⟩ := (bind_eq_ok _ _ _).mp h
  dsimp only at h
  rw [htoken] at h
  unfold Message.setToken at h
  dsimp only at h
  split_ifs at h
  rw [← Except.ok.inj h]

/-- What is asked of an accepted datagram: the decoded token is that of the datagram, the random
tokens `rng` and `rng'` play no part, and the answer carries it. The server has set the
destination, and the layers what they set of the answer besides its token. -/
structure Echoed (datagram : Bytes) (source : Address) : Prop where
  decoded : ∀ rng m, rng.length = 8 →
    SerializerUdp.deserialize rng datagram source = .ok (.message m) →
    (tokenBytes datagram).length = tokenLength datagram ∧ m.token = some (tokenBytes datagram)
  determined : ∀ rng rng' m m', rng.length = 8 → rng'.length = 8 →
    SerializerUdp.deserialize rng datagram source = .ok (.message m) →
    SerializerUdp.deserialize rng' datagram source = .ok (.message m') → m.token = m'.token
  echoed : ∀ rng rng' m destination multicast response answer bytes, rng.length = 8 →
    rng'.length = 8 → SerializerUdp.deserialize rng datagram source = .ok (.message m) →
    Message.initFromRequest rng' { m with destination := destination, multicast := multicast } =
      .ok response →
    answer.token = response.token → Sendable answer → SerializerUdp.serialize answer = .ok bytes →
    tokenLength bytes = tokenLength datagram ∧ tokenBytes bytes = tokenBytes datagram

/-- Tokens are preserved and echoed exactly if the datagram has one and has all of it. -/
theorem echoed_iff (rng datagram : Bytes) (source : Address) (m : Message)
    (haccepted : SerializerUdp.deserialize rng datagram source = .ok (.message m))
    (hle : tokenLength datagram ≤ 8) :
    Echoed datagram source ↔
      1 ≤ tokenLength datagram ∧ 4 + tokenLength datagram ≤ datagram.length := by
  constructor
  · intro h
    obtain ⟨m', hm'⟩ := (returns_message_iff (List.replicate 8 0) datagram source).mpr
      ((returns_message_iff rng datagram source).mp ⟨m, haccepted⟩)
    obtain ⟨hlength, htoken⟩ := h.decoded _ m' (List.length_replicate) hm'
    have hpos : 1 ≤ tokenLength datagram := by
      by_contra hzero
      rw [deserialize_token _ datagram source m' hm', if_neg (by omega), Option.some.injEq]
        at htoken
      have := congrArg List.length htoken
      rw [hlength, List.length_replicate] at this
      omega
    refine ⟨hpos, ?_⟩
    unfold tokenBytes slice at hlength
    rw [List.length_take, List.length_drop] at hlength
    omega
  · rintro ⟨hpos, hinside⟩
    have hdecoded : ∀ rng m, SerializerUdp.deserialize rng datagram source = .ok (.message m) →
        m.token = some (tokenBytes datagram) := by
      intro rng m hm
      rw [deserialize_token rng datagram source m hm,
        if_pos (show tokenLength datagram > 0 from hpos)]
    have hlength := tokenBytes_length datagram hinside
    refine ⟨?_, ?_, ?_⟩
    · intro rng m _ hm
      exact ⟨hlength, hdecoded rng m hm⟩
    · intro rng rng' m m' _ _ hm hm'
      rw [hdecoded rng m hm, hdecoded rng' m' hm']
    · intro rng rng' m destination multicast response answer bytes _ _ hm hinit hanswer
        hsendable hbytes
      have hresponse := initFromRequest_token rng' (tokenBytes datagram)
        { m with destination := destination, multicast := multicast } response
        (hdecoded rng m hm) hinit
      obtain ⟨htkl, htoken⟩ := serialize_token answer (tokenBytes datagram) bytes hsendable
        (hanswer.trans hresponse) (by omega) hbytes
      exact ⟨by rw [htkl, hlength], htoken⟩

def sampleDecoded : Message :=
  { Message.new .request with
    type := some .CON
    mid := some 7
    token := some [1, 2]
    source := some (['h'], 1)
    code := some Codes.get }

theorem echoed_iff_sample :
    Echoed [0x42, 1, 0, 7, 1, 2] (['h'], 1) ↔
      1 ≤ tokenLength [0x42, 1, 0, 7, 1, 2] ∧
        4 + tokenLength [0x42, 1, 0, 7, 1, 2] ≤ [0x42, 1, 0, 7, 1, 2].length :=
  echoed_iff [] [0x42, 1, 0, 7, 1, 2] (['h'], 1) sampleDecoded (by decide +kernel) (by decide)

/-- A request without a token gets one, and its answer carries it. -/
theorem not_echoed_empty : ¬ Echoed [0x40, 1, 0, 7] (['h'], 1) := by
  intro h
  obtain ⟨m, hm⟩ := (returns_message_iff (List.replicate 8 0) [0x40, 1, 0, 7] (['h'], 1)).mpr
    ⟨.mk 0x40 1 0 7 [] (by decide) (Or.inl (by decide)), .done 0 []⟩
  have htoken := (h.decoded _ m List.length_replicate hm).2
  rw [deserialize_token _ _ _ m hm] at htoken
  exact absurd htoken (by decide)

end BubotCoap.TokenEcho
