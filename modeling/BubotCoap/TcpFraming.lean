import BubotCoap.SelfDelimiting
import BubotCoap.SerializerTcp

set_option autoImplicit false

namespace BubotCoap.TcpFraming
open PythonData Defines Messages StructPack Serializer SelfDelimiting SerializerTcp

/-- The sum of the three numbers a frame announces. -/
def frameSize (data : Bytes) : Option ℕ :=
  (extractMessageSize data).map fun s => s.1 + s.2.1 + s.2.2

theorem frameSize_nil : frameSize [] = none := rfl

theorem frameSize_eq_some_iff (data : Bytes) (n : ℕ) :
    frameSize data = some n ↔
      ∃ a b c, extractMessageSize data = some (a, b, c) ∧ a + b + c = n := by
  simp [frameSize]

theorem frameSize_eq_none_iff (data : Bytes) :
    frameSize data = none ↔ extractMessageSize data = none := by
  simp [frameSize]

theorem extractMessageSize_append (p rest : Bytes) (s : ℕ × ℕ × ℕ)
    (h : extractMessageSize p = some s) : extractMessageSize (p ++ rest) = some s := by
  cases p with
  | nil => cases h
  | cons first p =>
    unfold extractMessageSize at h ⊢
    dsimp only [List.cons_append] at h ⊢
    split
    · next hlong =>
      rw [if_pos hlong] at h
      have hwidth : (extendedLength (first.toNat >>> 4)).1 < (first :: p).length := by
        by_contra hshort
        rw [if_pos (by omega)] at h
        cases h
      rw [if_neg (by omega)] at h
      rw [if_neg (by
        rw [List.length_cons, List.length_append]
        rw [List.length_cons] at hwidth
        omega), ← h]
      have hsame : slice (first :: (p ++ rest)) 1 (1 + (extendedLength (first.toNat >>> 4)).1) =
          slice (first :: p) 1 (1 + (extendedLength (first.toNat >>> 4)).1) := by
        rw [List.length_cons] at hwidth
        simp only [slice, List.drop_succ_cons, List.drop_zero]
        exact List.take_append_of_le_length (by omega)
      rw [hsame]
    · next hshort =>
      rwa [if_neg hshort] at h

theorem frameSize_append (p rest : Bytes) (n : ℕ) (h : frameSize p = some n) :
    frameSize (p ++ rest) = some n := by
  obtain ⟨s, hs, hn⟩ := Option.map_eq_some_iff.mp h
  unfold frameSize
  rw [extractMessageSize_append p rest s hs, Option.map_some, hn]

/-- What `serialize` writes in front of the code. -/
structure Length (n l : ℕ) (extlen : Bytes) : Prop where
  nibble : l < 16
  short : l < 13 → extlen = [] ∧ n = l
  long : 13 ≤ l →
    extlen.length = (extendedLength l).1 ∧
      n = BigEndian.value extlen + (extendedLength l).2

theorem toBytes_eq_ok (nibble width n l : ℕ) (extlen : Bytes)
    (h : encodeLength.toBytes nibble width n = .ok (l, extlen)) :
    l = nibble ∧ extlen.length = width ∧ BigEndian.value extlen = n := by
  unfold encodeLength.toBytes at h
  obtain ⟨_, hfits, h⟩ := (bind_eq_ok _ _ _).mp h
  have hlt : n < 256 ^ width := by
    unfold fits at hfits
    split_ifs at hfits
    assumption
  obtain ⟨rfl, rfl⟩ := Prod.mk.inj (Except.ok.inj h)
  exact ⟨rfl, BigEndian.bytes_length width n, BigEndian.value_bytes width n hlt⟩

theorem encodeLength_spec (n l : ℕ) (extlen : Bytes) (h : encodeLength n = .ok (l, extlen)) :
    Length n l extlen := by
  unfold encodeLength at h
  split_ifs at h with h₁ h₂ h₃
  · obtain ⟨rfl, rfl⟩ := Prod.mk.inj (Except.ok.inj h)
    exact ⟨by omega, fun _ => ⟨rfl, rfl⟩, fun h => by omega⟩
  · obtain ⟨rfl, hlen, hval⟩ := toBytes_eq_ok _ _ _ _ _ h
    exact ⟨by omega, fun h => by omega, fun _ => ⟨hlen, by change n = _ + 13; omega⟩⟩
  · obtain ⟨rfl, hlen, hval⟩ := toBytes_eq_ok _ _ _ _ _ h
    exact ⟨by omega, fun h => by omega, fun _ => ⟨hlen, by change n = _ + 269; omega⟩⟩
  · obtain ⟨rfl, hlen, hval⟩ := toBytes_eq_ok _ _ _ _ _ h
    exact ⟨by omega, fun h => by omega, fun _ => ⟨hlen, by change n = _ + 65805; omega⟩⟩

def frameBytes (l : ℕ) (extlen : Bytes) (code : ℕ) (token body : Bytes) : Bytes :=
  UInt8.ofNat (l <<< 4 ||| token.length) :: (extlen ++ (UInt8.ofNat code :: (token ++ body)))

theorem serialize_eq_ok_iff (host : Layout) (m : Message) (frame : Bytes) :
    serialize host m = .ok frame ↔
      ∃ body l extlen code, bodyBytes host m = .ok body ∧
        encodeLength body.length = .ok (l, extlen) ∧ (m.token.getD []).length ≤ 8 ∧
        m.code = some code ∧ code < 256 ∧
        frame = frameBytes l extlen code (m.token.getD []) body := by
  unfold serialize
  constructor
  · intro h
    obtain ⟨body, hbody, h⟩ := (bind_eq_ok _ _ _).mp h
    obtain ⟨⟨l, extlen⟩, hlen, h⟩ := (bind_eq_ok _ _ _).mp h
    dsimp only at h
    split_ifs at h with htkl
    split at h
    · exact absurd h (by simp)
    · next code hcode =>
      split_ifs at h with hlt
      refine ⟨body, l, extlen, code, hbody, hlen, by omega, hcode, hlt, ?_⟩
      rw [← Except.ok.inj h]
      simp [frameBytes]
  · rintro ⟨body, l, extlen, code, hbody, hlen, htkl, hcode, hlt, rfl⟩
    rw [hbody, ok_bind, hlen, ok_bind, hcode]
    dsimp only
    rw [if_neg (by omega), if_pos hlt]
    simp [frameBytes]

theorem first_byte (l tkl : ℕ) (hl : l < 16) (ht : tkl ≤ 8) :
    (UInt8.ofNat (l <<< 4 ||| tkl)).toNat >>> 4 = l ∧
      (UInt8.ofNat (l <<< 4 ||| tkl)).toNat &&& 0x0f = tkl := by
  have key : ∀ l < 16, ∀ tkl < 9, (l <<< 4 ||| tkl) < 256 ∧ (l <<< 4 ||| tkl) >>> 4 = l ∧
      (l <<< 4 ||| tkl) &&& 0x0f = tkl := by decide
  obtain ⟨hlt, hhigh, hlow⟩ := key l hl tkl (by omega)
  have hnat : (UInt8.ofNat (l <<< 4 ||| tkl)).toNat = l <<< 4 ||| tkl := by
    rw [UInt8.toNat_ofNat']
    omega
  rw [hnat]
  exact ⟨hhigh, hlow⟩

theorem extractMessageSize_header (n l tkl : ℕ) (extlen rest : Bytes) (h : Length n l extlen)
    (ht : tkl ≤ 8) :
    extractMessageSize (UInt8.ofNat (l <<< 4 ||| tkl) :: (extlen ++ rest)) =
      some (2 + extlen.length, tkl, n) := by
  obtain ⟨hhigh, hlow⟩ := first_byte l tkl h.nibble ht
  unfold extractMessageSize
  dsimp only
  rw [hhigh, hlow]
  by_cases hl : l < 13
  · obtain ⟨hnil, hn⟩ := h.short hl
    rw [if_neg (by omega), hnil, hn]
    rfl
  · obtain ⟨hlen, hn⟩ := h.long (by omega)
    have hslice : slice (UInt8.ofNat (l <<< 4 ||| tkl) :: (extlen ++ rest)) 1
        (1 + (extendedLength l).1) = extlen :=
      slice_append [_] extlen rest 1 _ rfl hlen
    rw [if_pos (by omega), hslice, ← hn, ← hlen, if_neg]
    simp only [List.length_cons, List.length_append]
    omega

theorem extractMessageSize_short (n l tkl : ℕ) (extlen p : Bytes) (h : Length n l extlen)
    (ht : tkl ≤ 8) (hp : p.length < extlen.length) :
    extractMessageSize (UInt8.ofNat (l <<< 4 ||| tkl) :: p) = none := by
  obtain ⟨hhigh, hlow⟩ := first_byte l tkl h.nibble ht
  unfold extractMessageSize
  dsimp only
  rw [hhigh, hlow]
  by_cases hl : l < 13
  · rw [(h.short hl).1] at hp
    exact absurd hp (by simp)
  · obtain ⟨hlen, hn⟩ := h.long (by omega)
    rw [if_pos (by omega), if_pos]
    rw [List.length_cons]
    omega

theorem frameBytes_length (l : ℕ) (extlen : Bytes) (code : ℕ) (token body : Bytes) :
    (frameBytes l extlen code token body).length =
      2 + extlen.length + token.length + body.length := by
  simp only [frameBytes, List.length_cons, List.length_append]
  omega

theorem frame_frameBytes (l : ℕ) (extlen : Bytes) (code : ℕ) (token body : Bytes)
    (h : Length body.length l extlen) (ht : token.length ≤ 8) :
    Frame frameSize (frameBytes l extlen code token body) := by
  refine ⟨?_, ?_⟩
  · intro rest
    rw [frameSize_eq_some_iff]
    refine ⟨2 + extlen.length, token.length, body.length, ?_, (frameBytes_length _ _ _ _ _).symm⟩
    have := extractMessageSize_header _ _ token.length extlen
      (UInt8.ofNat code :: (token ++ body) ++ rest) h ht
    simpa [frameBytes] using this
  · intro part q n hq hne hn
    have hqlen := List.length_pos_iff.mpr hne
    have hpart : part.length < (frameBytes l extlen code token body).length := by
      rw [hq, List.length_append]
      omega
    rw [frameBytes_length] at hpart
    cases part with
    | nil => exact absurd hn (by simp [frameSize_nil])
    | cons b part =>
      rw [frameBytes, List.cons_append] at hq
      obtain ⟨hb, htail⟩ := List.cons.inj hq
      subst hb
      by_cases hshort : part.length < extlen.length
      · have hnone := extractMessageSize_short _ _ token.length extlen part h ht hshort
        rw [← frameSize_eq_none_iff] at hnone
        rw [hnone] at hn
        exact absurd hn (by simp)
      · -- the extended length is there, so the announced length is the whole frame's
        obtain ⟨r, hr⟩ : ∃ r, part = extlen ++ r := by
          rcases List.append_eq_append_iff.mp htail with ⟨a, ha, _⟩ | ⟨a, ha, _⟩
          · exact ⟨a, ha⟩
          · have : a = [] := by
              rw [ha, List.length_append] at hshort
              exact List.length_eq_zero_iff.mp (by omega)
            exact ⟨[], by rw [ha, this]; simp⟩
        have hsome := extractMessageSize_header _ _ token.length extlen r h ht
        rw [← hr] at hsome
        obtain ⟨a, b, c, habc, hsum⟩ := (frameSize_eq_some_iff _ _).mp hn
        rw [hsome] at habc
        obtain ⟨rfl, rfl, rfl⟩ : 2 + extlen.length = a ∧ token.length = b ∧ body.length = c := by
          simpa using habc
        omega

theorem frame_of_serialize (host : Layout) (m : Message) (frame : Bytes)
    (h : serialize host m = .ok frame) : Frame frameSize frame := by
  obtain ⟨body, l, extlen, code, _, hlen, htkl, _, _, rfl⟩ := (serialize_eq_ok_iff _ _ _).mp h
  exact frame_frameBytes _ _ _ _ _ (encodeLength_spec _ _ _ hlen) htkl

/-- Every frame announces its own length, no proper part of it announces one that has arrived,
and a sequence of frames can be cut in only one way. -/
theorem serialize_self_delimiting (host : Layout) (fs : List Bytes)
    (h : ∀ f ∈ fs, ∃ m, serialize host m = .ok f) :
    (∀ f ∈ fs,
      (∀ rest, ∃ a b c, extractMessageSize (f ++ rest) = some (a, b, c) ∧ a + b + c = f.length) ∧
      ∀ p q, f = p ++ q → q ≠ [] → extractMessageSize p = none ∨
        ∃ a b c, extractMessageSize p = some (a, b, c) ∧ p.length < a + b + c) ∧
    ∀ gs : List Bytes, (gs.flatten = fs.flatten ∧
      ∀ g ∈ gs, ∃ a b c, extractMessageSize g = some (a, b, c) ∧ a + b + c = g.length) ↔
        gs = fs := by
  have hframe : ∀ f ∈ fs, Frame frameSize f := by
    intro f hf
    obtain ⟨m, hm⟩ := h f hf
    exact frame_of_serialize host m f hm
  refine ⟨?_, ?_⟩
  · intro f hf
    refine ⟨?_, ?_⟩
    · intro rest
      exact (frameSize_eq_some_iff _ _).mp ((hframe f hf).whole rest)
    · intro p q hq hne
      cases hsize : frameSize p with
      | none => exact Or.inl ((frameSize_eq_none_iff p).mp hsize)
      | some n =>
        obtain ⟨a, b, c, habc, hsum⟩ := (frameSize_eq_some_iff p n).mp hsize
        have hlt := (hframe f hf).early p q n hq hne hsize
        exact Or.inr ⟨a, b, c, habc, by omega⟩
  · intro gs
    constructor
    · rintro ⟨hflat, hgs⟩
      refine cut_unique frameSize frameSize_nil fs gs hframe ?_ hflat.symm
      intro g hg
      exact (frameSize_eq_some_iff _ _).mpr (hgs g hg)
    · rintro rfl
      refine ⟨rfl, ?_⟩
      intro g hg
      have := (hframe g hg).whole []
      rw [List.append_nil] at this
      exact (frameSize_eq_some_iff _ _).mp this

def sampleContent : Message :=
  { Message.new .response with
    code := some Codes.content
    token := some [1]
    payload := some (.bytes [72, 105]) }

def sampleFrame : Bytes := [0x31, 69, 1, 255, 72, 105]

theorem serialize_sampleContent :
    serialize littleEndianHost sampleContent = .ok sampleFrame := by decide +kernel

theorem serialize_self_delimiting_twice :
    (∀ f ∈ [sampleFrame, sampleFrame],
      (∀ rest, ∃ a b c, extractMessageSize (f ++ rest) = some (a, b, c) ∧ a + b + c = f.length) ∧
      ∀ p q, f = p ++ q → q ≠ [] → extractMessageSize p = none ∨
        ∃ a b c, extractMessageSize p = some (a, b, c) ∧ p.length < a + b + c) ∧
    ∀ gs : List Bytes, (gs.flatten = [sampleFrame, sampleFrame].flatten ∧
      ∀ g ∈ gs, ∃ a b c, extractMessageSize g = some (a, b, c) ∧ a + b + c = g.length) ↔
        gs = [sampleFrame, sampleFrame] :=
  serialize_self_delimiting littleEndianHost [sampleFrame, sampleFrame] (by
    intro f hf
    refine ⟨sampleContent, ?_⟩
    have : f = sampleFrame := by simpa using hf
    rw [this, serialize_sampleContent])

end BubotCoap.TcpFraming
