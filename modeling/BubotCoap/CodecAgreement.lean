import BubotCoap.HeaderRoundTrip
import BubotCoap.OptionAccess
import BubotCoap.TextOptions

set_option autoImplicit false

namespace BubotCoap.CodecAgreement
open PythonData Utils Defines Options Messages Serializer StableSort OptionWire OptionSequences
  OptionTypes OptionNumbers OptionAccess HeaderOptions HeaderRoundTrip DeserializeErrors
  UdpRoundTrip

/-- The value of an option in the classes of the other codec. -/
def valueOf (o : CoapOption) : OptionValue :=
  match o.stored with
  | .str t => .stringOption t
  | .bytes b => .opaqueOption b
  | .none => .opaqueOption []
  | .int n =>
    if format o.number = .blockOption then .blockOption (.ofInteger n) else .uintOption n

/-- Under every number both hold the same values in the same order. -/
def Same (options : OptionList) (s : HeaderOptions.Options) : Prop :=
  ∀ number, (ofNumber number options).map valueOf =
    (s.getOption number).map OptionType.value

/-- What both codecs write alike: an integer of one word, or a value that is not of the greatest
length and has as many bytes as its length says. -/
def Alike (o : CoapOption) : Prop :=
  match o.stored with
  | .str t => IsAscii t ∧ t.length ≤ 65803
  | .bytes b => b.length ≤ 65803
  | .none => True
  | .int n => n < 256 ^ 4

theorem data_valueOf (o : CoapOption) : (valueOf o).data = rawBytes o := by
  unfold valueOf rawBytes
  cases o.stored with
  | str t => rfl
  | bytes b => rfl
  | none => rfl
  | int n =>
    dsimp only
    split_ifs
    · change BigEndian.bytes (byteLen (BlockwiseTuple.ofInteger n).asInteger)
        (BlockwiseTuple.ofInteger n).asInteger = _
      rw [asInteger_ofInteger]
    · rfl

def integerOf : Value → ℕ
  | .int n => n
  | _ => 0

theorem word_valueOf (o : CoapOption) : (valueOf o).word = integerOf o.stored := by
  unfold valueOf
  cases o.stored with
  | int n =>
    dsimp only
    split_ifs
    · exact asInteger_ofInteger n
    · rfl
  | _ => rfl

theorem alike_iff (o : CoapOption) :
    Alike o ↔ (valueOf o).word < 256 ^ 4 ∧ (rawBytes o).length ≤ 65803 ∧
      o.length = (rawBytes o).length := by
  rw [word_valueOf]
  have hzero : 0 < 256 ^ 4 := by decide
  unfold Alike rawBytes CoapOption.length
  cases o.stored with
  | str t =>
    dsimp only
    rw [eq_comm, encodeUtf8_length_eq_iff]
    constructor
    · rintro ⟨hascii, hle⟩
      exact ⟨hzero, (encodeUtf8_length_of_ascii t hascii).trans_le hle, hascii⟩
    · rintro ⟨-, hle, hascii⟩
      exact ⟨hascii, (encodeUtf8_length_of_ascii t hascii).ge.trans hle⟩
  | bytes b => exact ⟨fun h => ⟨hzero, h, rfl⟩, fun h => h.2.1⟩
  | none => exact iff_of_true trivial ⟨hzero, Nat.zero_le _, rfl⟩
  | int n =>
    dsimp only
    rw [BigEndian.bytes_length]
    constructor
    · intro h
      have := (byteLen_le_iff n 4).mpr h
      exact ⟨h, by omega, rfl⟩
    · exact fun h => h.1

section Order
variable (options : OptionList) (s : HeaderOptions.Options)

theorem sorted_same (h : Same options s) :
    (asSortedList options).map (fun o => (o.number, valueOf o)) =
      s.optionList.map fun p => (p.number, p.value) := by
  have hkey : ∀ {α : Type} (number : α → ℕ) (value : α → OptionValue) (xs : List α) (n : ℕ),
      (xs.map fun x => (number x, value x)).filter (fun e => e.1 = n) =
        ((xs.filter fun x => number x = n).map value).map fun v => (n, v) := by
    intro α number value xs n
    rw [List.filter_map, List.map_map]
    refine List.map_congr_left fun x hx => ?_
    have hnumber := of_decide_eq_true (List.mem_filter.mp hx).2
    exact Prod.ext hnumber rfl
  refine eq_of_sorted Prod.fst _ _ ?_ ?_ fun n => ?_
  · exact List.pairwise_map.mpr (sortBy_sorted CoapOption.number options.toList)
  · exact List.pairwise_map.mpr (optionList_sorted s)
  · have hstable := (sortBy_stable CoapOption.number options.toList).stable n
    have hsorted : ((asSortedList options).filter fun o => o.number = n) =
        ofNumber n options := hstable
    rw [hkey CoapOption.number valueOf, hkey OptionType.number OptionType.value,
      optionList_filter, hsorted, h n]

theorem raws_same (h : Same options s) :
    s.optionList.map raw = (asSortedList options).map fun o => (o.number, rawBytes o) := by
  have hsorted := congrArg (List.map fun e : ℕ × OptionValue => ((e.1, e.2.data) : Raw))
    (sorted_same options s h)
  rw [List.map_map, List.map_map] at hsorted
  refine hsorted.symm.trans (List.map_congr_left fun o _ => ?_)
  exact Prod.ext rfl (data_valueOf o)

theorem words_same (h : Same options s) :
    (∀ p ∈ s.optionList, p.value.word < 256 ^ 4) ↔
      ∀ o ∈ asSortedList options, (valueOf o).word < 256 ^ 4 := by
  have hvalues : (asSortedList options).map valueOf = s.optionList.map OptionType.value := by
    have hsorted := congrArg (List.map Prod.snd) (sorted_same options s h)
    rw [List.map_map, List.map_map] at hsorted
    exact hsorted
  constructor
  · intro hall o ho
    have hmem : valueOf o ∈ s.optionList.map OptionType.value := by
      rw [← hvalues]
      exact List.mem_map_of_mem ho
    obtain ⟨p, hp, heq⟩ := List.mem_map.mp hmem
    rw [← heq]
    exact hall p hp
  · intro hall p hp
    have hmem : p.value ∈ (asSortedList options).map valueOf := by
      rw [hvalues]
      exact List.mem_map_of_mem hp
    obtain ⟨o, ho, heq⟩ := List.mem_map.mp hmem
    rw [← heq]
    exact hall o ho

end Order

section Bytes

theorem spaced_numbers (last : ℕ) (os : List CoapOption) (hlast : ∀ o ∈ os, last ≤ o.number)
    (hsorted : os.Pairwise fun a b => a.number ≤ b.number) :
    Spaced 65803 last (os.map fun o => (o.number, rawBytes o)) ↔
      ∀ o ∈ os, (rawBytes o).length ≤ 65803 := by
  induction os generalizing last with
  | nil => exact iff_of_true trivial fun o ho => absurd ho List.not_mem_nil
  | cons o os ih =>
    obtain ⟨hfirst, hrest⟩ := List.pairwise_cons.mp hsorted
    have hnumber := number_le o
    rw [List.forall_mem_cons, ← ih o.number hfirst hrest]
    constructor
    · rintro ⟨-, -, hlength, hspaced⟩
      exact ⟨hlength, hspaced⟩
    · rintro ⟨hlength, hspaced⟩
      exact ⟨hlast o List.mem_cons_self, by dsimp only; omega, hlength, hspaced⟩

theorem optionBytes_eq (last : ℕ) (o : CoapOption) :
    optionBytes last o = headBytes (o.number - last) o.length ++ rawBytes o := by
  rw [optionBytes, TextOptions.netBytes_headFields]

/-- The bytes are the same if every header announces the bytes that follow it. -/
theorem optionsBytes_eq_wire_iff (last : ℕ) (os : List CoapOption)
    (hlength : ∀ o ∈ os, o.length ≤ 65804) (hbytes : ∀ o ∈ os, (rawBytes o).length ≤ 65804) :
    optionsBytes last os = wire last (os.map fun o => (o.number, rawBytes o)) ↔
      ∀ o ∈ os, o.length = (rawBytes o).length := by
  induction os generalizing last with
  | nil => exact iff_of_true rfl fun o ho => absurd ho List.not_mem_nil
  | cons o os ih =>
    obtain ⟨hlen, hlengths⟩ := List.forall_mem_cons.mp hlength
    obtain ⟨hraw, hraws⟩ := List.forall_mem_cons.mp hbytes
    have hnumber := number_le o
    rw [List.forall_mem_cons, ← ih o.number hlengths hraws, optionsBytes, List.map_cons, wire,
      optionBytes_eq, List.append_assoc]
    dsimp only
    constructor
    · intro heq
      have hhead := head_headBytes (o.number - last) o.length
        (rawBytes o ++ optionsBytes o.number os) (by omega) hlen
      have hhead' := head_headBytes (o.number - last) (rawBytes o).length
        (rawBytes o ++ wire o.number (os.map fun o => (o.number, rawBytes o))) (by omega) hraw
      rw [heq] at hhead
      obtain ⟨-, hsame, hrest⟩ := head_unique _ _ _ _ _ _ _ hhead hhead'
      exact ⟨hsame, List.append_cancel_left hrest⟩
    · rintro ⟨hsame, hrest⟩
      rw [hsame, hrest]

end Bytes

/-- The options of the datagram are those that the other codec encodes. -/
def Agree (m : Message) (s : HeaderOptions.Options) : Prop :=
  ∃ header datagram t, s.encode = .ok header ∧ SerializerUdp.serialize m = .ok datagram ∧
    m.type = some t ∧
    datagram = headerWire t (m.code.getD 0) (m.mid.getD 0).toNat (m.token.getD []) ++
      (header ++ netBytes (payloadFields m.payload))

/-- A message whose header can be written; a missing code or message id is written as zero. -/
structure Addressed (m : Message) : Prop where
  type : ∃ t, m.type = some t
  code : m.code.getD 0 < 256
  mid : 0 ≤ m.mid.getD 0 ∧ m.mid.getD 0 ≤ 65535
  token : (m.token.getD []).length ≤ 15

/-- The two codecs agree on a message exactly if its texts are ASCII, its integers are of one word
and no value has the greatest length. -/
theorem agree_iff_alike (m : Message) (s : HeaderOptions.Options) (haddressed : Addressed m)
    (hemitted : ∀ o ∈ m.options.toList, Emitted o) (hsame : Same m.options s) :
    Agree m s ↔ ∀ o ∈ m.options.toList, Alike o := by
  obtain ⟨t, htype⟩ := haddressed.type
  have hserialize : SerializerUdp.serialize m = .ok
      (headerWire t (m.code.getD 0) (m.mid.getD 0).toNat (m.token.getD []) ++ bodyWire m) := by
    have hmid := haddressed.mid
    exact serialize_getD m t _ _ _ htype rfl (by omega) rfl haddressed.code (by omega)
      haddressed.token hemitted
  have hsorted : (asSortedList m.options).Pairwise fun a b => a.number ≤ b.number :=
    sortBy_sorted CoapOption.number m.options.toList
  have hmem : ∀ o, o ∈ asSortedList m.options ↔ o ∈ m.options.toList :=
    fun o => mem_sortBy CoapOption.number m.options.toList o
  have hlength : ∀ o ∈ asSortedList m.options, o.length ≤ 65804 :=
    fun o ho => (hemitted o ((hmem o).mp ho)).length_le
  have hencodable : HeaderRoundTrip.Encodable s ↔
      (∀ o ∈ asSortedList m.options, (valueOf o).word < 256 ^ 4) ∧
        ∀ o ∈ asSortedList m.options, (rawBytes o).length ≤ 65803 := by
    rw [← words_same m.options s hsame,
      ← spaced_numbers 0 _ (fun _ _ => Nat.zero_le _) hsorted, ← raws_same m.options s hsame]
    exact ⟨fun h => ⟨h.words, h.spaced⟩, fun h => ⟨h.1, h.2⟩⟩
  have hall : (∀ o ∈ m.options.toList, Alike o) ↔ HeaderRoundTrip.Encodable s ∧
      ∀ o ∈ asSortedList m.options, o.length = (rawBytes o).length := by
    rw [hencodable]
    constructor
    · intro h
      have hparts := fun o ho => (alike_iff o).mp (h o ((hmem o).mp ho))
      exact ⟨⟨fun o ho => (hparts o ho).1, fun o ho => (hparts o ho).2.1⟩,
        fun o ho => (hparts o ho).2.2⟩
    · rintro ⟨⟨hwords, hbytes⟩, hannounced⟩ o ho
      have ho' := (hmem o).mpr ho
      exact (alike_iff o).mpr ⟨hwords o ho', hbytes o ho', hannounced o ho'⟩
  rw [hall]
  constructor
  · rintro ⟨header, datagram, t', hencode, hdatagram, htype', heq⟩
    obtain ⟨hs, rfl⟩ := (encode_ok_iff s header).mp hencode
    refine ⟨hs, ?_⟩
    rw [htype] at htype'
    cases htype'
    rw [hserialize] at hdatagram
    rw [← Except.ok.inj hdatagram] at heq
    have hbody := List.append_cancel_right (List.append_cancel_left heq)
    rw [raws_same m.options s hsame] at hbody
    have hraw := (hencodable.mp hs).2
    exact (optionsBytes_eq_wire_iff 0 _ hlength fun o ho => (hraw o ho).trans (by omega)).mp hbody
  · rintro ⟨hs, hannounced⟩
    have hraw := (hencodable.mp hs).2
    have hbody := (optionsBytes_eq_wire_iff 0 _ hlength
      fun o ho => (hraw o ho).trans (by omega)).mpr hannounced
    refine ⟨_, _, t, (encode_ok_iff s _).mpr ⟨hs, rfl⟩, hserialize, htype, ?_⟩
    rw [raws_same m.options s hsame, ← hbody]
    rfl

def samplePath : CoapOption := ⟨OptionRegistry.uriPath, .str "temp".toList, rfl, rfl⟩

def sampleGet : Message :=
  { Message.new .request with
    type := some .CON
    code := some Codes.get
    mid := some 7
    options := ⟨[samplePath], List.pairwise_singleton _ _⟩ }

def sampleHeader : HeaderOptions.Options :=
  HeaderOptions.Options.new.addOption ⟨11, .stringOption "temp".toList, rfl⟩

theorem sampleGet_same : Same sampleGet.options sampleHeader := by
  intro number
  have hheader := getOption_addOption HeaderOptions.Options.new number
    ⟨11, .stringOption "temp".toList, rfl⟩
  rw [sampleHeader, hheader]
  unfold ofNumber sampleGet
  rw [List.filter_cons]
  by_cases hnumber : 11 = number
  · subst hnumber
    rfl
  · have hother : ¬ samplePath.number = number := hnumber
    rw [if_neg (by simpa using hother), if_neg hnumber]
    rfl

theorem agree_iff_alike_sample :
    Agree sampleGet sampleHeader ↔ ∀ o ∈ sampleGet.options.toList, Alike o :=
  agree_iff_alike sampleGet sampleHeader
    ⟨⟨.CON, rfl⟩, by decide, by decide, by decide⟩
    (fun o ho => by
      rw [List.mem_singleton.mp ho]
      exact ⟨trivial, by decide⟩)
    sampleGet_same

end BubotCoap.CodecAgreement
