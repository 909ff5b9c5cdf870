import BubotCoap.Serializer

set_option autoImplicit false

namespace BubotCoap.OptionWire
open PythonData Defines Utils Options Messages StructPack StableSort Serializer

/-- The bytes that stand for an option's value. -/
def rawBytes (o : CoapOption) : Bytes :=
  match o.stored with
  | .int n => BigEndian.bytes (byteLen n) n
  | .bytes b => b
  | .str t => encodeUtf8 t
  | .none => []

/-- The values the option format can carry: integers, byte strings and ASCII texts that are not
empty, of a length the extended field reaches. -/
def Encodable (o : CoapOption) : Prop :=
  o.length ≤ 65804 ∧
    match o.item.valueType, o.stored with
    | .INTEGER, .int _ => True
    | .OPAQUE, .bytes _ => True
    | .STRING, .str t => t ≠ [] ∧ IsAscii t
    | .UNKNOWN, .bytes _ => True
    | _, _ => False

def storable : ValueType → Value → Bool
  | .INTEGER, .int _ => true
  | .OPAQUE, .bytes _ => true
  | .STRING, .str t => decide (t ≠ [] ∧ IsAscii t)
  | .UNKNOWN, .bytes _ => true
  | _, _ => false

theorem encodable_iff (o : CoapOption) :
    Encodable o ↔ o.length ≤ 65804 ∧ storable o.item.valueType o.stored = true := by
  unfold Encodable storable
  split <;> simp

instance (o : CoapOption) : Decidable (Encodable o) :=
  decidable_of_iff _ (encodable_iff o).symm

/-- The value serializer knows what to do with the value. -/
def Emits (o : CoapOption) : Prop :=
  match o.item.valueType, o.stored with
  | .INTEGER, .int _ => True
  | .STRING, .str _ => True
  | .OPAQUE, .bytes _ => True
  | .OPAQUE, .none => True
  | .UNKNOWN, .bytes _ => True
  | .UNKNOWN, .none => True
  | _, _ => False

/-- An option that the serializers can write. -/
structure Emitted (o : CoapOption) : Prop where
  emits : Emits o
  length_le : o.length ≤ 65804

/-- An option whose header announces as many bytes as are emitted. -/
structure Framed (o : CoapOption) : Prop extends Emitted o where
  announced : (rawBytes o).length = o.length

/-- The encoding of fields in network format. -/
def netBytes (fs : List Field) : Bytes := fs.flatMap (Field.encode network)

@[simp] theorem netBytes_nil : netBytes [] = [] := rfl

@[simp] theorem netBytes_cons (f : Field) (fs : List Field) :
    netBytes (f :: fs) = f.encode network ++ netBytes fs := rfl

@[simp] theorem netBytes_append (fs gs : List Field) :
    netBytes (fs ++ gs) = netBytes fs ++ netBytes gs := List.flatMap_append

/-- A field that every layout encodes the same way. -/
def Plain : Field → Prop
  | .ushort _ => False
  | _ => True

def nibble (v : ℕ) : ℕ := if v ≤ 12 then v else if v ≤ 268 then 13 else 14

theorem nibble_lt (v : ℕ) : nibble v < 15 := by
  unfold nibble
  split
  · omega
  · split <;> omega

theorem getOptionNibble_eq (v : ℕ) (h : v ≤ 65804) : getOptionNibble v = .ok (nibble v) := by
  unfold getOptionNibble nibble
  split_ifs
  · rfl
  · rfl
  · rfl

theorem extended_nibble (v : ℕ) :
    extended (nibble v) v =
      if v ≤ 12 then [] else if v ≤ 268 then [.ubyte (some (v - 13))]
      else [.ushort (v - 269)] := by
  unfold extended nibble
  split_ifs <;> first | rfl | omega

theorem extended_fits (v : ℕ) (h : v ≤ 65804) : ∀ f ∈ extended (nibble v) v, f.Fits := by
  intro f hf
  rw [extended_nibble] at hf
  split_ifs at hf <;> simp only [List.mem_singleton, List.not_mem_nil] at hf <;> subst hf
  all_goals
    simp only [Field.Fits]
    omega

theorem readExtended_extended (v : ℕ) (pre rest : Bytes) (h : v ≤ 65804) :
    readExtended (nibble v) pre.length (pre ++ (netBytes (extended (nibble v) v) ++ rest)) =
      .ok (v, pre.length + (netBytes (extended (nibble v) v)).length) := by
  rw [extended_nibble]
  unfold readExtended nibble
  by_cases h₁ : v ≤ 12
  · simp [h₁]
  · by_cases h₂ : v ≤ 268
    · have hb : (UInt8.ofNat (v - 13)).toNat = v - 13 := by
        rw [UInt8.toNat_ofNat']
        omega
      have hit := item_append pre rest (UInt8.ofNat (v - 13)) pre.length rfl
      have hv : v - 13 + 13 = v := by omega
      simp only [h₁, h₂, netBytes_cons, netBytes_nil, Field.encode, Option.getD_some,
        List.append_nil, List.cons_append, List.nil_append, ↓reduceIte, Nat.reduceLeDiff]
      rw [hit, ok_bind, hb, hv, List.length_singleton]
    · have hs := slice_append pre (BigEndian.bytes 2 (v - 269)) rest pre.length 2 rfl
        (BigEndian.bytes_length 2 _)
      have hu := unpackH_bytes (v - 269) (by omega) []
      rw [List.append_nil] at hu
      have hv : v - 269 + 269 = v := by omega
      have hnat : ((v : ℤ) - 269).toNat = v - 269 := by omega
      simp only [h₁, h₂, netBytes_cons, netBytes_nil, Field.encode, shortBytes, network,
        List.append_nil, ↓reduceIte, Nat.reduceEqDiff, Nat.reduceLeDiff, hnat]
      rw [hs, hu, ok_bind, hv, BigEndian.bytes_length]

/-- The header byte holds both nibbles and is never the payload marker. -/
theorem header_byte (a b : ℕ) (ha : a < 15) (hb : b < 15) :
    (a <<< 4 ||| b) < 255 ∧ ((a <<< 4 ||| b) &&& 0xF0) >>> 4 = a ∧
      (a <<< 4 ||| b) &&& 0x0F = b := by
  have key : ∀ a < 15, ∀ b < 15, (a <<< 4 ||| b) < 255 ∧
      ((a <<< 4 ||| b) &&& 0xF0) >>> 4 = a ∧ (a <<< 4 ||| b) &&& 0x0F = b := by decide
  exact key a ha b hb

theorem words_reverse (k n : ℕ) :
    (words 8 k n).reverse = (BigEndian.bytes k n).map UInt8.toNat := by
  induction k generalizing n with
  | zero => rfl
  | succ k ih =>
    have hlast : n &&& (2 ^ 8 - 1) = (UInt8.ofNat n).toNat := by
      rw [BigEndian.mask_eq_mod, UInt8.toNat_ofNat']
    rw [words, List.reverse_cons, ih, BigEndian.shiftRight_eq_div, BigEndian.bytes,
      List.map_append, List.map_singleton, hlast]

theorem intToWords_byteLen (n : ℕ) :
    intToWords n (byteLen n) 8 = .ok ((BigEndian.bytes (byteLen n) n).map UInt8.toNat) := by
  have hmax : n ≤ 2 ^ (8 * byteLen n) - 1 := by
    have := lt_pow_byteLen n
    have hpow : (256 : ℕ) ^ byteLen n = 2 ^ (8 * byteLen n) := by rw [pow_mul]; norm_num
    omega
  rw [intToWords, if_pos hmax, words_reverse]

theorem length_rawBytes (o : CoapOption) (h : Encodable o) : (rawBytes o).length = o.length := by
  obtain ⟨_, h⟩ := h
  unfold rawBytes CoapOption.length
  split at h <;> simp_all [encodeUtf8_length_of_ascii]

theorem framed_of_encodable (o : CoapOption) (h : Encodable o) : Framed o := by
  refine ⟨⟨?_, h.1⟩, length_rawBytes o h⟩
  obtain ⟨_, h⟩ := h
  unfold Emits
  revert h
  cases o.item.valueType <;> cases o.stored <;> simp

theorem netBytes_ubytes (b : Bytes) :
    netBytes (b.map fun x => .ubyte (some x.toNat)) = b := by
  induction b with
  | nil => rfl
  | cons x b ih =>
    rw [List.map_cons, netBytes_cons, ih]
    simp [Field.encode]

theorem value_of_length_pos (o : CoapOption) (h : o.length > 0) : o.value = o.stored := by
  unfold CoapOption.value
  unfold CoapOption.length at h
  split
  · next n hn =>
    rw [hn] at h
    dsimp only at h
    split_ifs <;> rw [hn]
  · rfl

theorem rawBytes_of_length_zero (o : CoapOption) (h : ¬ o.length > 0) : rawBytes o = [] := by
  have hzero : o.length = 0 := by omega
  unfold CoapOption.length at hzero
  unfold rawBytes
  split at hzero
  · next n hn => simp only [hn, hzero, BigEndian.bytes]
  · next hn => simp only [hn]
  · next b hb => simp only [hb, List.length_eq_zero_iff.mp hzero]
  · next t ht =>
    simp only [ht, List.length_eq_zero_iff.mp hzero]
    rfl

theorem valueFields_emits (o : CoapOption) (h : Emits o) :
    ∃ fs, valueFields o = .ok fs ∧ (∀ f ∈ fs, f.Fits ∧ Plain f) ∧ netBytes fs = rawBytes o := by
  unfold valueFields
  by_cases hpos : o.length > 0
  · rw [if_pos hpos, value_of_length_pos o hpos]
    have hbytes : ∀ b : Bytes, ∀ f ∈ b.map fun x => Field.ubyte (some x.toNat),
        f.Fits ∧ Plain f := by
      intro b f hf
      obtain ⟨x, _, rfl⟩ := List.mem_map.mp hf
      exact ⟨x.toNat_lt, trivial⟩
    unfold Emits at h
    revert h
    split
    · next n ht hs =>
      intro _
      have hsize : o.length = byteLen n := by simp [CoapOption.length, hs]
      refine ⟨(rawBytes o).map fun x => .ubyte (some x.toNat), ?_, hbytes _, netBytes_ubytes _⟩
      simp only [ht, hs, hsize, intToWords_byteLen, rawBytes, bind, Except.bind, List.map_map]
      rfl
    · next t ht hs =>
      intro _
      refine ⟨[.str (rawBytes o)], ?_, ?_, ?_⟩
      · simp only [ht, hs, rawBytes]
      · intro f hf
        rw [List.mem_singleton] at hf
        subst hf
        exact ⟨trivial, trivial⟩
      · simp [Field.encode]
    · next b ht hs =>
      intro _
      refine ⟨(rawBytes o).map fun x => .ubyte (some x.toNat), ?_, hbytes _, netBytes_ubytes _⟩
      simp only [ht, hs, rawBytes]
    · next ht hs =>
      simp only [CoapOption.length, hs] at hpos
      omega
    · next b ht hs =>
      intro _
      refine ⟨(rawBytes o).map fun x => .ubyte (some x.toNat), ?_, hbytes _, netBytes_ubytes _⟩
      simp only [ht, hs, rawBytes]
    · next ht hs =>
      simp only [CoapOption.length, hs] at hpos
      omega
    · exact False.elim
  · exact ⟨[], by rw [if_neg hpos], by simp, (rawBytes_of_length_zero o hpos).symm⟩

def headFields (delta length : ℕ) : List Field :=
  .ubyte (some (nibble delta <<< 4 ||| nibble length)) :: extended (nibble delta) delta ++
    extended (nibble length) length

def optionBytes (last : ℕ) (o : CoapOption) : Bytes :=
  netBytes (headFields (o.number - last) o.length) ++ rawBytes o

theorem headFields_fits (delta length : ℕ) (hd : delta ≤ 65804) (hl : length ≤ 65804) :
    ∀ f ∈ headFields delta length, f.Fits := by
  have hbyte := (header_byte _ _ (nibble_lt delta) (nibble_lt length)).1
  intro f hf
  simp only [headFields, List.cons_append, List.mem_cons, List.mem_append] at hf
  rcases hf with rfl | hf | hf
  · simp only [Field.Fits]
    omega
  · exact extended_fits delta hd f hf
  · exact extended_fits length hl f hf

theorem delta_le (last : ℕ) (o : CoapOption) : o.number - last ≤ 65804 := by
  have := number_le o
  omega

theorem optionFields_emitted (last : ℕ) (o : CoapOption) (h : Emitted o) :
    ∃ fs, optionFields last o = .ok (headFields (o.number - last) o.length ++ fs) ∧
      (∀ f ∈ fs, f.Fits ∧ Plain f) ∧ netBytes fs = rawBytes o := by
  obtain ⟨fs, hfs, hfits, hbytes⟩ := valueFields_emits o h.emits
  refine ⟨fs, ?_, hfits, hbytes⟩
  simp only [optionFields, getOptionNibble_eq _ (delta_le last o),
    getOptionNibble_eq _ h.length_le, hfs,
    bind, Except.bind, optionDeltaBits, headFields, List.cons_append, List.append_assoc]

theorem readOptionValueLenFromByte_head (delta length pos : ℕ) (pre rest : Bytes)
    (hd : delta ≤ 65804) (hl : length ≤ 65804) (hpos : pre.length = pos) :
    readOptionValueLenFromByte (nibble delta <<< 4 ||| nibble length) pos
        (pre ++ (netBytes (extended (nibble delta) delta) ++
          (netBytes (extended (nibble length) length) ++ rest))) =
      .ok (delta, length, pos + (netBytes (extended (nibble delta) delta)).length +
        (netBytes (extended (nibble length) length)).length) := by
  obtain ⟨_, hhigh, hlow⟩ := header_byte _ _ (nibble_lt delta) (nibble_lt length)
  subst hpos
  have hfirst := readExtended_extended delta pre
    (netBytes (extended (nibble length) length) ++ rest) hd
  have hsecond := readExtended_extended length (pre ++ netBytes (extended (nibble delta) delta))
    rest hl
  rw [List.length_append, List.append_assoc] at hsecond
  unfold readOptionValueLenFromByte
  rw [hhigh, hlow, hfirst]
  simp only [bind, Except.bind, hsecond]

theorem convertToRaw_rawBytes (o : CoapOption) (pos : ℕ) (pre rest : Bytes) (h : Encodable o)
    (hpos : pre.length = pos) :
    convertToRaw o.number (readValue o.item (pre ++ (rawBytes o ++ rest)) pos o.length)
      o.length = .ok o.stored := by
  have hlen := length_rawBytes o h
  have hslice := slice_append pre (rawBytes o) rest pos o.length hpos hlen
  have hreg : OptionRegistry.find? o.number = some o.item := o.registered
  unfold convertToRaw readValue
  rw [hreg, hslice]
  dsimp only
  obtain ⟨_, h⟩ := h
  have hsize := hlen
  revert h
  split
  · next n ht hs =>
    intro _
    have hn : o.length = byteLen n := by simp [CoapOption.length, hs]
    by_cases hz : o.length = 0
    · have : n = 0 := (byteLen_eq_zero_iff n).mp (by omega)
      simp [hz, ht, hs, this]
    · have hv := BigEndian.value_bytes (byteLen n) n (lt_pow_byteLen n)
      simp [hz, ht, hs, rawBytes, BigEndian.foldl_shift_or, hv]
  · next b ht hs =>
    intro _
    by_cases hz : o.length = 0
    · have : b = [] := by simpa [CoapOption.length, hs] using hz
      simp [hz, ht, hs, this]
    · simp [hz, ht, hs, rawBytes]
  · next t ht hs =>
    intro ht'
    have hz : o.length ≠ 0 := by simpa [CoapOption.length, hs] using ht'.1
    simp [hz, ht, hs, rawBytes, decodeUtf8_encodeUtf8, Except.map]
  · next b ht hs =>
    intro _
    by_cases hz : o.length = 0
    · have : b = [] := by simpa [CoapOption.length, hs] using hz
      simp [hz, ht, hs, this]
    · simp [hz, ht, hs, rawBytes]
  · intro h
    exact absurd h (by simp)

theorem readStep_option (last : ℕ) (o : CoapOption) (pre rest : Bytes) (m m' : Message)
    (h : Encodable o) (hle : last ≤ o.number) (hadd : addDecoded m o = .ok m') :
    readStep (pre ++ (optionBytes last o ++ rest)) ⟨pre.length, last, m⟩ =
      .ok ⟨pre.length + (optionBytes last o).length, o.number, m'⟩ := by
  have hd := delta_le last o
  obtain ⟨hbyte, _, _⟩ := header_byte _ _ (nibble_lt (o.number - last)) (nibble_lt o.length)
  set head := nibble (o.number - last) <<< 4 ||| nibble o.length with hhead
  set deltaBytes := netBytes (extended (nibble (o.number - last)) (o.number - last)) with hdelta
  set lengthBytes := netBytes (extended (nibble o.length) o.length) with hlength
  have hbytes : optionBytes last o =
      UInt8.ofNat head :: (deltaBytes ++ (lengthBytes ++ rawBytes o)) := by
    simp [optionBytes, headFields, Field.encode, hhead, hdelta, hlength]
  have hnat : (UInt8.ofNat head).toNat = head := by
    rw [UInt8.toNat_ofNat']
    omega
  have hitem := item_append pre (deltaBytes ++ (lengthBytes ++ (rawBytes o ++ rest)))
    (UInt8.ofNat head) pre.length rfl
  have hvalues : pre ++ (optionBytes last o ++ rest) =
      pre ++ UInt8.ofNat head :: (deltaBytes ++ (lengthBytes ++ (rawBytes o ++ rest))) := by
    simp [hbytes]
  have hread := readOptionValueLenFromByte_head (o.number - last) o.length (pre.length + 1)
    (pre ++ [UInt8.ofNat head]) (rawBytes o ++ rest) hd h.1 (by simp)
  have hraw := convertToRaw_rawBytes o (pre.length + 1 + deltaBytes.length + lengthBytes.length)
    (pre ++ [UInt8.ofNat head] ++ deltaBytes ++ lengthBytes) rest h (by simp; omega)
  have hreg : OptionRegistry.find? o.number = some o.item := o.registered
  have hnum : last + (o.number - last) = o.number := by omega
  have hpos : pre.length + 1 + deltaBytes.length + lengthBytes.length + o.length =
      pre.length + (optionBytes last o).length := by
    rw [hbytes]
    simp only [List.length_cons, List.length_append, length_rawBytes o h]
    omega
  simp only [List.append_assoc, List.cons_append, List.nil_append] at hread hraw
  rw [← hhead, ← hdelta, ← hlength] at hread
  rw [hvalues]
  unfold readStep
  rw [hitem]
  simp only [bind, Except.bind, hnat]
  rw [if_pos (by unfold payloadMarker; omega)]
  unfold readOption
  simp only [bind, Except.bind, hread, hnum, hreg, hraw, make_stored, hadd, hpos]

theorem readExtended_pos (nib pos : ℕ) (values : Bytes) (r : ℕ × ℕ)
    (h : readExtended nib pos values = .ok r) : pos ≤ r.2 := by
  unfold readExtended at h
  split_ifs at h
  · rw [← Except.ok.inj h]
  · obtain ⟨b, _, hb⟩ := (bind_eq_ok _ _ _).mp h
    rw [← Except.ok.inj hb]
    exact Nat.le_succ pos
  · obtain ⟨v, _, hv⟩ := (bind_eq_ok _ _ _).mp h
    rw [← Except.ok.inj hv]
    exact Nat.le_add_right pos 2

theorem readOption_pos (values : Bytes) (byte : ℕ) (c c' : Cursor)
    (h : readOption values byte c = .ok c') : c.pos ≤ c'.pos := by
  unfold readOption readOptionValueLenFromByte at h
  obtain ⟨⟨num, len, pos⟩, hread, h⟩ := (bind_eq_ok _ _ _).mp h
  obtain ⟨⟨value, p⟩, hvalue, hread⟩ := (bind_eq_ok _ _ _).mp hread
  obtain ⟨⟨length, q⟩, hlength, hread⟩ := (bind_eq_ok _ _ _).mp hread
  have h₁ := readExtended_pos _ _ _ _ hvalue
  have h₂ := readExtended_pos _ _ _ _ hlength
  have hq : q = pos := congrArg (fun r => r.2.2) (Except.ok.inj hread)
  have hnext : c'.pos = pos + len := by
    dsimp only at h
    split at h
    · split at h
      · exact absurd h (by simp)
      · split_ifs at h
        rw [← Except.ok.inj h]
    · obtain ⟨raw, _, h⟩ := (bind_eq_ok _ _ _).mp h
      obtain ⟨o, _, h⟩ := (bind_eq_ok _ _ _).mp h
      obtain ⟨m, _, h⟩ := (bind_eq_ok _ _ _).mp h
      rw [← Except.ok.inj h]
  dsimp only at h₁ h₂
  omega

theorem readStep_pos (values : Bytes) (c c' : Cursor) (h : readStep values c = .ok c') :
    c.pos < c'.pos := by
  unfold readStep at h
  obtain ⟨b, _, h⟩ := (bind_eq_ok _ _ _).mp h
  dsimp only at h
  split_ifs at h
  · have := readOption_pos values _ _ _ h
    exact this
  · rw [← Except.ok.inj h]
    dsimp only
    omega

/-- The loop without its bound. -/
def readFrom (values : Bytes) (c : Cursor) : Except PyErr Message :=
  readLoop values (values.length - c.pos) c

theorem readLoop_eq_readFrom (values : Bytes) (fuel : ℕ) (c : Cursor)
    (h : values.length - c.pos ≤ fuel) : readLoop values fuel c = readFrom values c := by
  induction fuel using Nat.strong_induction_on generalizing c with
  | _ fuel ih =>
    by_cases hc : c.pos < values.length
    · obtain ⟨k, hk⟩ : ∃ k, fuel = k + 1 := ⟨fuel - 1, by omega⟩
      obtain ⟨l, hl⟩ : ∃ l, values.length - c.pos = l + 1 := ⟨values.length - c.pos - 1, by omega⟩
      unfold readFrom
      rw [hk, hl]
      simp only [readLoop, hc, ↓reduceIte]
      cases hs : readStep values c with
      | error e => rfl
      | ok c' =>
        have hpos := readStep_pos values c c' hs
        rw [ok_bind, ok_bind, ih k (by omega) c' (by omega)]
        by_cases hfuel : l < fuel
        · rw [ih l hfuel c' (by omega)]
        · have : l = k := by omega
          rw [this, ih k (by omega) c' (by omega)]
    · have hzero : values.length - c.pos = 0 := by omega
      unfold readFrom
      rw [hzero]
      cases fuel with
      | zero => rfl
      | succ k => simp only [readLoop, hc, ↓reduceIte]

theorem readFrom_step (values : Bytes) (c : Cursor) (h : c.pos < values.length) :
    readFrom values c = readStep values c >>= readFrom values := by
  obtain ⟨l, hl⟩ : ∃ l, values.length - c.pos = l + 1 := ⟨values.length - c.pos - 1, by omega⟩
  have hunfold : readFrom values c = readStep values c >>= readLoop values l := by
    unfold readFrom
    rw [hl]
    simp only [readLoop, h, ↓reduceIte]
  rw [hunfold]
  cases hs : readStep values c with
  | error e => rfl
  | ok c' =>
    have hpos := readStep_pos values c c' hs
    rw [ok_bind, ok_bind, readLoop_eq_readFrom values l c' (by omega)]

theorem readFrom_end (values : Bytes) (c : Cursor) (h : values.length ≤ c.pos) :
    readFrom values c = .ok c.message := by
  have hzero : values.length - c.pos = 0 := by omega
  unfold readFrom
  rw [hzero]
  rfl

def optionsBytes (last : ℕ) : List CoapOption → Bytes
  | [] => []
  | o :: os => optionBytes last o ++ optionsBytes o.number os

theorem optionsFields_emitted (os : List CoapOption) (last : ℕ) (h : ∀ o ∈ os, Emitted o) :
    ∃ fs, optionsFields last os = .ok fs ∧ (∀ f ∈ fs, f.Fits) ∧
      netBytes fs = optionsBytes last os := by
  induction os generalizing last with
  | nil => exact ⟨[], rfl, by simp, rfl⟩
  | cons o os ih =>
    have ho := h o List.mem_cons_self
    obtain ⟨fs, hfs, hfits, hbytes⟩ := optionFields_emitted last o ho
    obtain ⟨gs, hgs, hgits, hrest⟩ := ih o.number fun p hp => h p (List.mem_cons_of_mem o hp)
    refine ⟨headFields (o.number - last) o.length ++ fs ++ gs, ?_, ?_, ?_⟩
    · rw [optionsFields, hfs, ok_bind, hgs, ok_bind]
    · intro f hf
      simp only [List.mem_append] at hf
      rcases hf with (hf | hf) | hf
      · exact headFields_fits _ _ (delta_le last o) ho.length_le f hf
      · exact (hfits f hf).1
      · exact hgits f hf
    · rw [netBytes_append, netBytes_append, hbytes, hrest, optionsBytes, optionBytes]

theorem optionBytes_ne_nil (last : ℕ) (o : CoapOption) : 0 < (optionBytes last o).length := by
  simp [optionBytes, headFields, Field.encode]

theorem readFrom_options (os : List CoapOption) (last : ℕ) (pre rest : Bytes) (m m' : Message)
    (henc : ∀ o ∈ os, Encodable o) (hlast : ∀ o ∈ os, last ≤ o.number)
    (hsorted : os.Pairwise fun a b => a.number ≤ b.number)
    (hadd : os.foldlM addDecoded m = .ok m') :
    ∃ n, readFrom (pre ++ (optionsBytes last os ++ rest)) ⟨pre.length, last, m⟩ =
      readFrom (pre ++ (optionsBytes last os ++ rest))
        ⟨pre.length + (optionsBytes last os).length, n, m'⟩ := by
  induction os generalizing last pre m with
  | nil =>
    have : m = m' := Except.ok.inj hadd
    subst this
    exact ⟨last, rfl⟩
  | cons o os ih =>
    rw [List.foldlM_cons] at hadd
    obtain ⟨m₁, hm₁, hadd⟩ := (bind_eq_ok _ _ _).mp hadd
    rw [List.pairwise_cons] at hsorted
    have hstep := readStep_option last o pre (optionsBytes o.number os ++ rest) m m₁
      (henc o List.mem_cons_self) (hlast o List.mem_cons_self) hm₁
    obtain ⟨n, hn⟩ := ih o.number (pre ++ optionBytes last o) m₁
      (fun p hp => henc p (List.mem_cons_of_mem o hp)) hsorted.1 hsorted.2 hadd
    have hlt := optionBytes_ne_nil last o
    refine ⟨n, ?_⟩
    rw [optionsBytes, List.append_assoc (optionBytes last o)]
    rw [readFrom_step _ _ (by simp only [List.length_append]; omega), hstep, ok_bind]
    rw [List.append_assoc, List.length_append] at hn
    rw [hn, List.length_append, Nat.add_assoc]

theorem readFrom_payload (b pre : Bytes) (n : ℕ) (m : Message) :
    readFrom (pre ++ netBytes (payloadFields (some (.bytes b)))) ⟨pre.length, n, m⟩ =
      .ok (if b = [] then m else { m with payload := some (.bytes b) }) := by
  by_cases hb : b = []
  · subst hb
    exact readFrom_end _ _ (by simp [payloadFields])
  · have hpos : b.length > 0 := List.length_pos_iff.mpr hb
    have hbytes : netBytes (payloadFields (some (.bytes b))) = 255 :: b := by
      simp [payloadFields, hpos, Field.encode, payloadMarker]
    have hitem := item_append pre b 255 pre.length rfl
    have hdrop : (pre ++ 255 :: b).drop (pre.length + 1) = b := by simp
    rw [hbytes, if_neg hb, readFrom_step _ _ (by simp)]
    have hstep : readStep (pre ++ 255 :: b) ⟨pre.length, n, m⟩ =
        .ok ⟨pre.length + 1 + b.length, n, { m with payload := some (.bytes b) }⟩ := by
      unfold readStep
      rw [hitem, ok_bind]
      dsimp only
      rw [if_neg (by decide), if_neg (by simp; omega), hdrop]
    rw [hstep, ok_bind, readFrom_end _ _ (by simp; omega)]

theorem once_symm (os ps : List CoapOption) (h : os.Perm ps) (ho : Once os) : Once ps := by
  refine h.pairwise ho ?_
  intro a b hab hnum
  have hitem : some a.item = some b.item := by
    rw [← a.registered, ← b.registered]
    exact congrArg _ hnum.symm
  rw [← Option.some.inj hitem]
  exact hab hnum.symm

theorem add_of_once (os : OptionList) (o : CoapOption) (h : Once (os.toList ++ [o])) :
    os.add o = .ok ⟨os.toList ++ [o], h⟩ := by
  have hcond : o.item.repeatable = true ∨ os.alreadyIn o = false := by
    by_cases hin : os.alreadyIn o = true
    · obtain ⟨p, hp, hnum⟩ := List.any_eq_true.mp hin
      have hcross := (List.pairwise_append.mp h).2.2 p hp o (List.mem_singleton_self o)
      have hpo : o.number = p.number := by simpa using hnum
      have hitem : some p.item = some o.item := by
        rw [← p.registered, ← o.registered]
        exact congrArg _ hpo.symm
      rw [← Option.some.inj hitem]
      exact Or.inl (hcross hpo.symm)
    · exact Or.inr (by simpa using hin)
  rw [OptionList.add, dif_pos hcond]

theorem foldlM_addDecoded (os : List CoapOption) (m : Message)
    (h : Once (m.options.toList ++ os)) :
    ∃ pt, os.foldlM addDecoded m =
      .ok { m with options := ⟨m.options.toList ++ os, h⟩, payloadType := pt } := by
  induction os generalizing m with
  | nil =>
    refine ⟨m.payloadType, ?_⟩
    have : (⟨m.options.toList ++ [], h⟩ : OptionList) = m.options := by
      ext1
      simp
    rw [this]
    rfl
  | cons o os ih =>
    have hone : Once (m.options.toList ++ [o]) :=
      h.sublist (by simp)
    obtain ⟨pt₁, hpt₁⟩ : ∃ pt₁, addDecoded m o =
        .ok { m with options := ⟨m.options.toList ++ [o], hone⟩, payloadType := pt₁ } := by
      refine ⟨if o.number = OptionRegistry.contentType.number then o.value else m.payloadType, ?_⟩
      unfold addDecoded Message.addOption
      rw [add_of_once m.options o hone]
      simp only [Except.map, ok_bind]
      split <;> rfl
    obtain ⟨pt, hpt⟩ := ih { m with
      options := ⟨m.options.toList ++ [o], hone⟩, payloadType := pt₁ } (by simpa using h)
    refine ⟨pt, ?_⟩
    rw [List.foldlM_cons, hpt₁, ok_bind, hpt]
    simp

def sortedOptions (os : OptionList) : OptionList :=
  ⟨asSortedList os, once_symm _ _ (sortBy_perm _ _).symm os.once⟩

/-- An empty payload is not told from an absent one. -/
def wirePayload : Option Payload → Option Payload
  | some (.bytes []) => none
  | p => p

def BytesPayload : Option Payload → Prop
  | some (.str _) => False
  | _ => True

def bodyWire (m : Message) : Bytes :=
  optionsBytes 0 (asSortedList m.options) ++ netBytes (payloadFields m.payload)

theorem payloadFields_fits (p : Option Payload) : ∀ f ∈ payloadFields p, f.Fits := by
  intro f hf
  unfold payloadFields payloadMarker at hf
  split at hf
  · split_ifs at hf <;> simp at hf
    rcases hf with rfl | rfl <;> simp [Field.Fits]
  · split_ifs at hf <;> simp at hf
    rcases hf with rfl | rfl <;> simp [Field.Fits]
  · simp at hf

theorem forall_sorted (os : OptionList) (p : CoapOption → Prop) (h : ∀ o ∈ os.toList, p o) :
    ∀ o ∈ asSortedList os, p o := by
  intro o ho
  exact h o ((mem_sortBy _ _ _).mp ho)

theorem bodyFields_emitted (m : Message) (h : ∀ o ∈ m.options.toList, Emitted o) :
    ∃ fs, bodyFields m = .ok fs ∧ (∀ f ∈ fs, f.Fits) ∧ netBytes fs = bodyWire m := by
  obtain ⟨fs, hfs, hfits, hbytes⟩ :=
    optionsFields_emitted (asSortedList m.options) 0 (forall_sorted m.options _ h)
  refine ⟨fs ++ payloadFields m.payload, ?_, ?_, ?_⟩
  · rw [bodyFields, hfs, ok_bind]
  · intro f hf
    rcases List.mem_append.mp hf with hf | hf
    · exact hfits f hf
    · exact payloadFields_fits _ f hf
  · rw [netBytes_append, hbytes, bodyWire]

theorem readMessage_bodyWire (m base : Message) (h : ∀ o ∈ m.options.toList, Encodable o)
    (hp : BytesPayload m.payload) (hoptions : base.options = OptionList.empty)
    (hpayload : base.payload = none) :
    ∃ pt, readMessage (bodyWire m) base =
      .ok { base with
        options := sortedOptions m.options
        payload := wirePayload m.payload
        payloadType := pt } := by
  have hnil : base.options.toList = [] := by rw [hoptions]; rfl
  obtain ⟨pt, hadd⟩ := foldlM_addDecoded (asSortedList m.options) base (by
    rw [hnil]
    exact (sortedOptions m.options).once)
  refine ⟨pt, ?_⟩
  obtain ⟨n, hread⟩ := readFrom_options (asSortedList m.options) 0 []
    (netBytes (payloadFields m.payload)) base _ (forall_sorted m.options _ h)
    (fun o _ => Nat.zero_le _) (sortBy_sorted _ _) hadd
  unfold readMessage
  rw [readLoop_eq_readFrom _ _ _ (by simp)]
  simp only [List.nil_append, List.length_nil, Nat.zero_add] at hread
  rw [show bodyWire m = optionsBytes 0 (asSortedList m.options) ++
    netBytes (payloadFields m.payload) from rfl, hread]
  cases hm : m.payload with
  | none =>
    rw [readFrom_end _ _ (by simp [payloadFields])]
    simp [wirePayload, sortedOptions, hnil, hpayload]
  | some p =>
    cases p with
    | str t => rw [hm] at hp; exact hp.elim
    | bytes b =>
      rw [readFrom_payload]
      cases b <;> simp [wirePayload, sortedOptions, hnil, hpayload]

end BubotCoap.OptionWire
