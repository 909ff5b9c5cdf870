import BubotCoap.Truncation
import BubotCoap.UdpRoundTrip

set_option autoImplicit false

namespace BubotCoap.OptionSequences
open PythonData Defines Options Messages Serializer OptionWire DeserializeErrors Truncation

/-- An option as it stands on the wire. -/
structure RawOption where
  number : ℕ
  value : Bytes
  number_le : number ≤ 65535
  length_le : value.length ≤ 65804

/-- The bytes that complete the nibble of a delta or a length. -/
def extension (v : ℕ) : Bytes :=
  if v ≤ 12 then [] else if v ≤ 268 then [UInt8.ofNat (v - 13)] else BigEndian.bytes 2 (v - 269)

/-- The byte of the two nibbles and what completes them. -/
def headBytes (delta length : ℕ) : Bytes :=
  UInt8.ofNat (nibble delta * 16 + nibble length) :: extension delta ++ extension length

def rawWire (last : ℕ) (r : RawOption) : Bytes :=
  headBytes (r.number - last) r.value.length ++ r.value

def rawsWire (last : ℕ) : List RawOption → Bytes
  | [] => []
  | r :: rs => rawWire last r ++ rawsWire r.number rs

def payloadWire : Option Bytes → Bytes
  | none => []
  | some p => 255 :: p

def RawOption.registered (r : RawOption) : Bool := (OptionRegistry.find? r.number).isSome

instance (number : ℕ) : Decidable (Elective number) :=
  inferInstanceAs (Decidable (number < 65536 ∧ number % 2 = 0))

/-- What a list of options has to fulfil besides the ranges of its members. -/
structure Valid (raws : List RawOption) : Prop where
  sorted : raws.Pairwise fun a b => a.number ≤ b.number
  once : raws.Pairwise fun a b => a.number = b.number →
    ∀ item, OptionRegistry.find? a.number = some item → item.repeatable = true
  text : ∀ r ∈ raws, ∀ item, OptionRegistry.find? r.number = some item →
    item.valueType = .STRING → r.value ≠ [] ∧ ∃ t, encodeUtf8 t = r.value

/-- The stored value: an integer is the big-endian number of the bytes, a text the one they
encode, any other value the bytes themselves. -/
def Stored (type : ValueType) (wire : Bytes) (v : Value) : Prop :=
  match type with
  | .INTEGER => v = .int (BigEndian.value wire)
  | .STRING => ∃ t, v = .str t ∧ encodeUtf8 t = wire
  | _ => v = .bytes wire

def Carries (o : CoapOption) (r : RawOption) : Prop :=
  o.number = r.number ∧ Stored o.item.valueType r.value o.stored

theorem extended_extension (v : ℕ) (rest : Bytes) (h : v ≤ 65804) :
    Extended (nibble v) (extension v ++ rest) v (extension v).length := by
  unfold nibble extension
  split_ifs with h₁ h₂
  · exact .short v rest h₁
  · have hbyte : (UInt8.ofNat (v - 13)).toNat + 13 = v := by
      rw [UInt8.toNat_ofNat']
      omega
    have hread := Extended.byte (UInt8.ofNat (v - 13)) rest
    rw [hbyte] at hread
    exact hread
  · have hhigh : (UInt8.ofNat ((v - 269) / 256)).toNat = (v - 269) / 256 := by
      rw [UInt8.toNat_ofNat']
      omega
    have hlow : (UInt8.ofNat (v - 269)).toNat = (v - 269) % 256 := UInt8.toNat_ofNat'
    have hread := Extended.word (UInt8.ofNat ((v - 269) / 256)) (UInt8.ofNat (v - 269)) rest
    have hv : (v - 269) / 256 * 256 + (v - 269) % 256 + 269 = v := by omega
    rw [hhigh, hlow, hv] at hread
    exact hread

theorem head_headBytes (delta length : ℕ) (rest : Bytes) (hdelta : delta ≤ 65804)
    (hlength : length ≤ 65804) : Head (headBytes delta length ++ rest) delta length rest := by
  have hd := nibble_lt delta
  have hl := nibble_lt length
  set first := UInt8.ofNat (nibble delta * 16 + nibble length) with hfirst
  have hnat : first.toNat = nibble delta * 16 + nibble length := by
    rw [hfirst, UInt8.toNat_ofNat']
    omega
  have hbytes : headBytes delta length ++ rest =
      first :: (extension delta ++ (extension length ++ rest)) := by
    simp [headBytes, hfirst]
  have hhead := Head.mk first (extension delta ++ (extension length ++ rest)) delta
    (extension delta).length length (extension length).length
    (by rw [hnat, payloadMarker]; omega)
    (by
      rw [show first.toNat / 16 = nibble delta by omega]
      exact extended_extension delta _ hdelta)
    (by
      rw [show first.toNat % 16 = nibble length by omega, List.drop_left]
      exact extended_extension length _ hlength)
  rw [← List.drop_drop, List.drop_left, List.drop_left] at hhead
  rw [hbytes]
  exact hhead

theorem head_rawWire (last : ℕ) (r : RawOption) (rest : Bytes) :
    Head (rawWire last r ++ rest) (r.number - last) r.value.length (r.value ++ rest) := by
  have hnumber := r.number_le
  unfold rawWire
  rw [List.append_assoc]
  exact head_headBytes _ _ _ (by omega) r.length_le

theorem slice_of_drop (values : Bytes) (pos : ℕ) (wire rest : Bytes)
    (hdrop : values.drop pos = wire ++ rest) : slice values pos (pos + wire.length) = wire := by
  unfold slice
  rw [hdrop, Nat.add_sub_cancel_left, List.take_left]

theorem convertToRaw_stored (r : RawOption) (item : OptionItem)
    (hitem : OptionRegistry.find? r.number = some item)
    (htext : item.valueType = .STRING → r.value ≠ [] ∧ ∃ t, encodeUtf8 t = r.value) :
    ∃ v, accepts item.valueType v = true ∧ Stored item.valueType r.value v ∧
      ∀ values pos rest, values.drop pos = r.value ++ rest →
        convertToRaw r.number (readValue item values pos r.value.length) r.value.length =
          .ok v := by
  unfold convertToRaw readValue
  rw [hitem]
  dsimp only
  cases htype : item.valueType with
  | INTEGER =>
    refine ⟨.int (BigEndian.value r.value), rfl, rfl, ?_⟩
    intro values pos rest hdrop
    rw [slice_of_drop values pos r.value rest hdrop]
    by_cases hzero : r.value.length = 0
    · simp [List.length_eq_zero_iff.mp hzero]
    · simp [hzero, BigEndian.foldl_shift_or]
  | STRING =>
    obtain ⟨hne, t, ht⟩ := htext htype
    refine ⟨.str t, rfl, ⟨t, rfl, ht⟩, ?_⟩
    intro values pos rest hdrop
    have hpos : r.value.length ≠ 0 := fun h => hne (List.length_eq_zero_iff.mp h)
    have hdecode : decodeUtf8 r.value = .ok t := by
      rw [← ht]
      exact decodeUtf8_encodeUtf8 t
    rw [slice_of_drop values pos r.value rest hdrop]
    simp [hpos, hdecode, Except.map]
  | OPAQUE =>
    refine ⟨.bytes r.value, rfl, rfl, ?_⟩
    intro values pos rest hdrop
    rw [slice_of_drop values pos r.value rest hdrop]
    by_cases hzero : r.value.length = 0
    · simp [List.length_eq_zero_iff.mp hzero]
    · simp [hzero]
  | UNKNOWN =>
    refine ⟨.bytes r.value, rfl, rfl, ?_⟩
    intro values pos rest hdrop
    rw [slice_of_drop values pos r.value rest hdrop]
    by_cases hzero : r.value.length = 0
    · simp [List.length_eq_zero_iff.mp hzero]
    · simp [hzero]

/-- The round for the option `r` adds `o` to the message. -/
def Decodes (r : RawOption) (o : CoapOption) : Prop :=
  ∀ values pos rest m, values.drop pos = r.value ++ rest →
    optionRound values r.number r.value.length pos m =
      addDecoded m o >>= fun m => .ok ⟨pos + r.value.length, r.number, m⟩

theorem decodes_exists (r : RawOption) (item : OptionItem)
    (hitem : OptionRegistry.find? r.number = some item)
    (htext : item.valueType = .STRING → r.value ≠ [] ∧ ∃ t, encodeUtf8 t = r.value) :
    ∃ o : CoapOption, Carries o r ∧ Decodes r o := by
  have hnumber : item.number = r.number := find?_number r.number item hitem
  obtain ⟨v, haccepts, hstored, hconvert⟩ := convertToRaw_stored r item hitem htext
  set o : CoapOption := ⟨item, v, by rw [hnumber, hitem], haccepts⟩ with ho
  refine ⟨o, ⟨hnumber, hstored⟩, ?_⟩
  intro values pos rest m hdrop
  unfold optionRound
  rw [hitem]
  dsimp only
  rw [hconvert values pos rest hdrop, ok_bind,
    make_eq r.number v o hnumber (setValue_of_accepts _ _ haccepts), ok_bind]

/-- None of the options is refused, and the registered ones are decoded to `os`. -/
inductive Rounds : List RawOption → List CoapOption → Prop
  | done : Rounds [] []
  | known (r : RawOption) (rs : List RawOption) (o : CoapOption) (os : List CoapOption)
    (hr : r.registered = true) (hdecodes : Decodes r o) (hrest : Rounds rs os) : Rounds (r :: rs) (o :: os)
  | skipped (r : RawOption) (rs : List RawOption) (os : List CoapOption)
    (hr : r.registered = false) (helective : Elective r.number) (hrest : Rounds rs os) :
    Rounds (r :: rs) os

theorem rounds_exists (raws : List RawOption)
    (htext : ∀ r ∈ raws, ∀ item, OptionRegistry.find? r.number = some item →
      item.valueType = .STRING → r.value ≠ [] ∧ ∃ t, encodeUtf8 t = r.value)
    (helective : ∀ r ∈ raws, r.registered = false → Elective r.number) :
    ∃ os, Rounds raws os ∧ List.Forall₂ Carries os (raws.filter RawOption.registered) := by
  induction raws with
  | nil => exact ⟨[], .done, .nil⟩
  | cons r rs ih =>
    obtain ⟨os, hos, hall⟩ := ih (fun r' hr' => htext r' (List.mem_cons_of_mem r hr'))
      (fun r' hr' => helective r' (List.mem_cons_of_mem r hr'))
    cases hitem : OptionRegistry.find? r.number with
    | none =>
      have hr : r.registered = false := by
        unfold RawOption.registered
        rw [hitem]
        rfl
      refine ⟨os, .skipped r rs os hr (helective r List.mem_cons_self hr) hos, ?_⟩
      rw [List.filter_cons_of_neg (by rw [hr]; exact Bool.false_ne_true)]
      exact hall
    | some item =>
      have hr : r.registered = true := by
        unfold RawOption.registered
        rw [hitem]
        rfl
      obtain ⟨o, hcarries, hdecodes⟩ :=
        decodes_exists r item hitem (htext r List.mem_cons_self item hitem)
      refine ⟨o :: os, .known r rs o os hr hdecodes hos, ?_⟩
      rw [List.filter_cons_of_pos hr]
      exact .cons hcarries hall

/-- Without the skipped options the others are decoded as before. -/
theorem rounds_filter (raws : List RawOption) (os : List CoapOption) (h : Rounds raws os) :
    Rounds (raws.filter RawOption.registered) os := by
  induction h with
  | done => exact .done
  | known r rs o os hr hdecodes _ ih =>
    rw [List.filter_cons_of_pos hr]
    exact .known r _ o os hr hdecodes ih
  | skipped r rs os hr _ _ ih =>
    rw [List.filter_cons_of_neg (by rw [hr]; exact Bool.false_ne_true)]
    exact ih

theorem numbers_of_carries (os : List CoapOption) (raws : List RawOption)
    (h : List.Forall₂ Carries os raws) :
    os.map CoapOption.number = raws.map RawOption.number := by
  induction h with
  | nil => rfl
  | cons hcarries _ ih => rw [List.map_cons, List.map_cons, hcarries.1, ih]

theorem once_of_carries (os : List CoapOption) (raws : List RawOption)
    (h : List.Forall₂ Carries os raws)
    (honce : raws.Pairwise fun a b => a.number = b.number →
      ∀ item, OptionRegistry.find? a.number = some item → item.repeatable = true) :
    Once os := by
  have hnumbers : (raws.map RawOption.number).Pairwise fun a b => a = b →
      ∀ item, OptionRegistry.find? a = some item → item.repeatable = true :=
    List.pairwise_map.mpr honce
  rw [← numbers_of_carries os raws h, List.pairwise_map] at hnumbers
  refine hnumbers.imp ?_
  intro a b hab hnumber
  exact hab hnumber a.item a.registered

def lastNumber (last : ℕ) (raws : List RawOption) : ℕ :=
  raws.foldl (fun _ r => r.number) last

theorem rawsWire_append (last : ℕ) (xs ys : List RawOption) :
    rawsWire last (xs ++ ys) = rawsWire last xs ++ rawsWire (lastNumber last xs) ys := by
  induction xs generalizing last with
  | nil => rfl
  | cons r xs ih =>
    rw [List.cons_append, rawsWire, ih, rawsWire, List.append_assoc]
    rfl

theorem readFrom_rawWire (r : RawOption) (values : Bytes) (c : Cursor) (rest : Bytes)
    (hdrop : values.drop c.pos = rawWire c.currentOption r ++ rest)
    (hle : c.currentOption ≤ r.number) :
    ∃ p, values.drop p = r.value ++ rest ∧ values.drop (p + r.value.length) = rest ∧
      readFrom values c =
        optionRound values r.number r.value.length p c.message >>= readFrom values := by
  have hhead := head_rawWire c.currentOption r rest
  rw [← hdrop] at hhead
  obtain ⟨p, _, _, hp, hread⟩ := readFrom_head values c _ _ _ hhead
  rw [Nat.add_sub_cancel' hle] at hread
  refine ⟨p, hp, ?_, hread⟩
  rw [← List.drop_drop, hp, List.drop_left]

/-- The message the loop has built behind options none of which is refused. -/
theorem readFrom_raws (raws : List RawOption) (os : List CoapOption) (values : Bytes)
    (c : Cursor) (tail : Bytes) (m : Message)
    (hdrop : values.drop c.pos = rawsWire c.currentOption raws ++ tail)
    (hle : ∀ r ∈ raws, c.currentOption ≤ r.number)
    (hsorted : raws.Pairwise fun a b => a.number ≤ b.number)
    (hround : Rounds raws os) (hadd : os.foldlM addDecoded c.message = .ok m) :
    ∃ p, values.drop p = tail ∧
      readFrom values c = readFrom values ⟨p, lastNumber c.currentOption raws, m⟩ := by
  induction hround generalizing c with
  | done =>
    have hm : c.message = m := Except.ok.inj hadd
    refine ⟨c.pos, hdrop, ?_⟩
    rw [← hm]
    rfl
  | known r rs o os hr hdecodes _ ih =>
    obtain ⟨hfirst, hsorted⟩ := List.pairwise_cons.mp hsorted
    obtain ⟨m₁, hm₁, hadd⟩ := (bind_eq_ok _ _ _).mp hadd
    rw [rawsWire, List.append_assoc] at hdrop
    obtain ⟨p, hp, hnext, hread⟩ :=
      readFrom_rawWire r values c _ hdrop (hle r List.mem_cons_self)
    rw [hdecodes values p _ c.message hp, hm₁, ok_bind, ok_bind] at hread
    obtain ⟨q, hq, hrest⟩ := ih ⟨p + r.value.length, r.number, m₁⟩ hnext hfirst hsorted hadd
    exact ⟨q, hq, hread.trans hrest⟩
  | skipped r rs os hr helective _ ih =>
    obtain ⟨hfirst, hsorted⟩ := List.pairwise_cons.mp hsorted
    rw [rawsWire, List.append_assoc] at hdrop
    obtain ⟨p, hp, hnext, hread⟩ :=
      readFrom_rawWire r values c _ hdrop (hle r List.mem_cons_self)
    have hnone : OptionRegistry.find? r.number = none := by
      unfold RawOption.registered at hr
      rwa [Option.isSome_eq_false_iff, Option.isNone_iff_eq_none] at hr
    rw [optionRound_elective values r.number _ p c.message hnone helective, ok_bind] at hread
    obtain ⟨q, hq, hrest⟩ := ih ⟨p + r.value.length, r.number, c.message⟩ hnext hfirst hsorted hadd
    exact ⟨q, hq, hread.trans hrest⟩

/-- The options and the payload behind the token. -/
def bodyOf (raws : List RawOption) (payload : Option Bytes) : Bytes :=
  rawsWire 0 raws ++ payloadWire payload

theorem readFrom_payloadWire (payload : Option Bytes) (hpayload : payload ≠ some [])
    (values : Bytes) (c : Cursor) (hdrop : values.drop c.pos = payloadWire payload)
    (hnone : c.message.payload = none) :
    readFrom values c = .ok { c.message with payload := payload.map .bytes } := by
  cases payload with
  | none =>
    rw [readFrom_end values c (List.drop_eq_nil_iff.mp hdrop), Option.map_none, ← hnone]
  | some p =>
    have hne : p ≠ [] := fun h => hpayload (congrArg some h)
    exact readFrom_marker values c 255 p hdrop rfl hne

theorem readMessage_bodyOf (raws : List RawOption) (os : List CoapOption)
    (payload : Option Bytes) (base m : Message) (hpayload : payload ≠ some [])
    (hsorted : raws.Pairwise fun a b => a.number ≤ b.number) (hrounds : Rounds raws os)
    (hadd : os.foldlM addDecoded base = .ok m) (hnone : m.payload = none) :
    readMessage (bodyOf raws payload) base = .ok { m with payload := payload.map .bytes } := by
  obtain ⟨p, hp, hread⟩ := readFrom_raws raws os (bodyOf raws payload) ⟨0, 0, base⟩
    (payloadWire payload) m rfl (fun _ _ => Nat.zero_le _) hsorted hrounds hadd
  unfold readMessage
  rw [readLoop_eq_readFrom _ _ _ (by simp), hread,
    readFrom_payloadWire payload hpayload _ _ hp hnone]

theorem foldlM_addDecoded_blank (os : List CoapOption) (base : Message) (honce : Once os)
    (hoptions : base.options = OptionList.empty) :
    ∃ pt, os.foldlM addDecoded base =
      .ok { base with options := ⟨os, honce⟩, payloadType := pt } := by
  have hnil : base.options.toList = [] := by
    rw [hoptions]
    rfl
  have hall : Once (base.options.toList ++ os) := by
    rw [hnil]
    exact honce
  obtain ⟨pt, hadd⟩ := foldlM_addDecoded os base hall
  refine ⟨pt, ?_⟩
  simp only [hadd, hnil, List.nil_append]

theorem readMessage_critical (raws : List RawOption) (payload : Option Bytes) (base : Message)
    (hv : Valid raws) (hoptions : base.options = OptionList.empty)
    (hcritical : ∃ r ∈ raws, r.registered = false ∧ ¬ Elective r.number) :
    ∃ e, readMessage (bodyOf raws payload) base = .error e ∧ Caught e := by
  obtain ⟨r, before, after, hsplit, ⟨hr, hnot⟩, hbefore⟩ :
      ∃ r before after, raws = before ++ r :: after ∧
        (r.registered = false ∧ ¬ Elective r.number) ∧
        ∀ r' ∈ before, r'.registered = false → Elective r'.number := by
    have hfind : (raws.find? fun r => decide (r.registered = false ∧ ¬ Elective r.number)).isSome =
        true := by
      rw [List.find?_isSome]
      obtain ⟨r, hmem, h⟩ := hcritical
      exact ⟨r, hmem, decide_eq_true h⟩
    obtain ⟨r, hr⟩ := Option.isSome_iff_exists.mp hfind
    obtain ⟨h, before, after, hsplit, hbefore⟩ := List.find?_eq_some_iff_append.mp hr
    refine ⟨r, before, after, hsplit, of_decide_eq_true h, ?_⟩
    intro r' hr' hreg
    have := hbefore r' hr'
    simp only [Bool.not_eq_true', decide_eq_false_iff_not, not_and, not_not] at this
    exact this hreg
  subst hsplit
  obtain ⟨os, hrounds, hcarries⟩ := rounds_exists before
    (fun r' hr' => hv.text r' (List.mem_append_left _ hr')) hbefore
  have honce := once_of_carries os _ hcarries
    ((List.pairwise_append.mp hv.once).1.filter _)
  obtain ⟨pt, hadd⟩ := foldlM_addDecoded_blank os base honce hoptions
  obtain ⟨hsorted, hrest, hcross⟩ := List.pairwise_append.mp hv.sorted
  have hbody : bodyOf (before ++ r :: after) payload =
      rawsWire 0 before ++ (rawWire (lastNumber 0 before) r ++
        (rawsWire r.number after ++ payloadWire payload)) := by
    simp [bodyOf, rawsWire_append, rawsWire]
  obtain ⟨p, hp, hread⟩ := readFrom_raws before os (bodyOf (before ++ r :: after) payload)
    ⟨0, 0, base⟩ _ _ hbody (fun _ _ => Nat.zero_le _) hsorted hrounds hadd
  have hle : lastNumber 0 before ≤ r.number := by
    rcases List.eq_nil_or_concat before with rfl | ⟨init, r', rfl⟩
    · exact Nat.zero_le _
    · have hlast : lastNumber 0 (init.concat r') = r'.number := by
        simp [lastNumber, List.concat_eq_append]
      rw [hlast]
      exact hcross r' (by simp) r List.mem_cons_self
  obtain ⟨q, _, _, hround⟩ := readFrom_rawWire r _ ⟨p, lastNumber 0 before, _⟩ _ hp hle
  have hnone : OptionRegistry.find? r.number = none := by
    unfold RawOption.registered at hr
    rwa [Option.isSome_eq_false_iff, Option.isNone_iff_eq_none] at hr
  obtain ⟨e, he, hcaught⟩ := optionRound_refused (bodyOf (before ++ r :: after) payload) r.number
    r.value.length q _ hnone hnot
  refine ⟨e, ?_, hcaught⟩
  unfold readMessage
  rw [readLoop_eq_readFrom _ _ _ (by simp), hread, hround, he]
  rfl

/-- The fixed bytes and the token of a datagram that the header checks let through. -/
structure Header where
  type : MsgType
  code : ℕ
  mid : ℕ
  token : Bytes
  codeOk : CodeOk code
  code_lt : code < 256
  mid_le : mid ≤ 65535
  token_pos : 1 ≤ token.length
  token_le : token.length ≤ 8

def Header.wire (h : Header) : Bytes := UdpRoundTrip.headerWire h.type h.code h.mid h.token

def datagram (h : Header) (raws : List RawOption) (payload : Option Bytes) : Bytes :=
  h.wire ++ bodyOf raws payload

/-- Some option is unknown and of odd number. -/
def Critical (raws : List RawOption) : Prop :=
  ∃ r ∈ raws, r.registered = false ∧ r.number % 2 = 1

/-- The options without the unknown ones of even number. -/
def withoutElective (raws : List RawOption) : List RawOption :=
  raws.filter fun r => r.registered || decide (r.number % 2 = 1)

theorem newMessage_blank (code : ℕ) (h : CodeOk code) :
    ∃ m, SerializerUdp.newMessage code = .ok m ∧ m.options = OptionList.empty ∧
      m.payload = none := by
  obtain ⟨m, hm, _⟩ := (newMessage_spec code).1 h
  refine ⟨m, hm, ?_⟩
  unfold SerializerUdp.newMessage Message.setCode at hm
  dsimp only at hm
  split_ifs at hm
  · rw [← Except.ok.inj hm]
    exact ⟨rfl, rfl⟩
  · rw [← Except.ok.inj hm]
    exact ⟨rfl, rfl⟩
  · rw [← Except.ok.inj hm]
    exact ⟨rfl, rfl⟩

theorem readHeader_wire (h : Header) (rng : Bytes) (source : Address) :
    ∃ base : Message, base.options = OptionList.empty ∧ base.payload = none ∧
      base.type = some h.type ∧ base.mid = some h.mid ∧ base.token = some h.token ∧
      ∀ rest, SerializerUdp.readHeader rng (h.wire ++ rest) source = .ok (base, rest) := by
  obtain ⟨m, hm, hoptions, hpayload⟩ := newMessage_blank h.code h.codeOk
  refine ⟨{ m with
    type := some h.type
    mid := some h.mid
    token := some h.token
    source := some source
    destination := none }, hoptions, hpayload, rfl, rfl, rfl, fun rest => ?_⟩
  have hread := UdpRoundTrip.readHeader_wire h.type h.code h.mid h.token rest rng source m hm
    h.code_lt h.mid_le (by have := h.token_le; omega)
  rw [if_pos (show h.token.length > 0 from h.token_pos)] at hread
  exact hread

theorem valid_filter (raws : List RawOption) (p : RawOption → Bool) (hv : Valid raws) :
    Valid (raws.filter p) where
  sorted := hv.sorted.filter p
  once := hv.once.filter p
  text r hr := hv.text r (List.mem_of_mem_filter hr)

theorem elective_iff (r : RawOption) : Elective r.number ↔ ¬ r.number % 2 = 1 := by
  have := r.number_le
  unfold Elective
  omega

theorem deserialize_critical (h : Header) (raws : List RawOption) (payload : Option Bytes)
    (rng : Bytes) (source : Address) (hv : Valid raws) (hcritical : Critical raws) :
    SerializerUdp.deserialize rng (datagram h raws payload) source =
      .ok (.code Codes.badRequest) := by
  obtain ⟨base, hoptions, _, _, _, _, hread⟩ := readHeader_wire h rng source
  obtain ⟨r, hr, hunknown, hodd⟩ := hcritical
  obtain ⟨e, he, hcaught⟩ := readMessage_critical raws payload base hv hoptions
    ⟨r, hr, hunknown, fun helective => (elective_iff r).mp helective hodd⟩
  unfold SerializerUdp.deserialize datagram
  rw [hread, ok_bind]
  dsimp only
  rw [he]
  rcases hcaught with rfl | rfl | rfl <;> rfl

theorem withoutElective_eq (raws : List RawOption) (h : ¬ Critical raws) :
    withoutElective raws = raws.filter RawOption.registered := by
  apply List.filter_congr
  intro r hr
  cases hreg : r.registered with
  | true => rfl
  | false =>
    have heven : ¬ r.number % 2 = 1 := fun hodd => h ⟨r, hr, hreg, hodd⟩
    simp [heven]

theorem deserialize_accepted (h : Header) (raws : List RawOption) (payload : Option Bytes)
    (rng : Bytes) (source : Address) (hv : Valid raws) (hpayload : payload ≠ some [])
    (hcritical : ¬ Critical raws) :
    ∃ m, SerializerUdp.deserialize rng (datagram h raws payload) source = .ok (.message m) ∧
      SerializerUdp.deserialize rng (datagram h (withoutElective raws) payload) source =
        .ok (.message m) ∧
      List.Forall₂ Carries m.options.toList (raws.filter RawOption.registered) ∧
      m.payload = payload.map .bytes ∧ m.type = some h.type ∧ m.mid = some h.mid ∧
      m.token = some h.token := by
  obtain ⟨base, hoptions, hnone, htype, hmid, htoken, hread⟩ := readHeader_wire h rng source
  obtain ⟨os, hrounds, hcarries⟩ := rounds_exists raws hv.text (by
    intro r hr hunknown
    exact (elective_iff r).mpr fun hodd => hcritical ⟨r, hr, hunknown, hodd⟩)
  have honce := once_of_carries os _ hcarries (hv.once.filter _)
  obtain ⟨pt, hadd⟩ := foldlM_addDecoded_blank os base honce hoptions
  have hbody := readMessage_bodyOf raws os payload base _ hpayload hv.sorted hrounds hadd hnone
  have hfiltered := readMessage_bodyOf (raws.filter RawOption.registered) os payload base _
    hpayload (hv.sorted.filter _) (rounds_filter raws os hrounds) hadd hnone
  refine ⟨{ base with
    options := ⟨os, honce⟩
    payload := payload.map .bytes
    payloadType := pt }, ?_, ?_, hcarries, rfl, htype, hmid, htoken⟩
  · unfold SerializerUdp.deserialize datagram
    rw [hread, ok_bind]
    dsimp only
    rw [hbody]
    rfl
  · rw [withoutElective_eq raws hcritical]
    unfold SerializerUdp.deserialize datagram
    rw [hread, ok_bind]
    dsimp only
    rw [hfiltered]
    rfl

/-- A datagram of arbitrary options is refused for an unknown critical one, and otherwise gives
the registered options in order and the payload; unknown elective options change nothing. -/
theorem deserialize_options (h : Header) (raws : List RawOption) (payload : Option Bytes)
    (rng : Bytes) (source : Address) (hv : Valid raws) (hpayload : payload ≠ some []) :
    (Critical raws → SerializerUdp.deserialize rng (datagram h raws payload) source =
        .ok (.code Codes.badRequest)) ∧
      (¬ Critical raws →
        ∃ m, SerializerUdp.deserialize rng (datagram h raws payload) source = .ok (.message m) ∧
          List.Forall₂ Carries m.options.toList (raws.filter RawOption.registered) ∧
          m.payload = payload.map .bytes ∧ m.type = some h.type ∧ m.mid = some h.mid ∧
          m.token = some h.token) ∧
      SerializerUdp.deserialize rng (datagram h (withoutElective raws) payload) source =
        SerializerUdp.deserialize rng (datagram h raws payload) source := by
  refine ⟨deserialize_critical h raws payload rng source hv, fun hcritical => ?_, ?_⟩
  · obtain ⟨m, hm, _, hrest⟩ :=
      deserialize_accepted h raws payload rng source hv hpayload hcritical
    exact ⟨m, hm, hrest⟩
  · by_cases hcritical : Critical raws
    · have hvalid : Valid (withoutElective raws) := valid_filter raws _ hv
      have hkept : Critical (withoutElective raws) := by
        obtain ⟨r, hr, hunknown, hodd⟩ := hcritical
        exact ⟨r, List.mem_filter.mpr ⟨hr, by simp [hodd]⟩, hunknown, hodd⟩
      rw [deserialize_critical h raws payload rng source hv hcritical,
        deserialize_critical h _ payload rng source hvalid hkept]
    · obtain ⟨m, hm, hfiltered, _⟩ :=
        deserialize_accepted h raws payload rng source hv hpayload hcritical
      rw [hm, hfiltered]

def sampleHeader : Header where
  type := .CON
  code := Codes.get
  mid := 7
  token := [1, 2]
  codeOk := Or.inl (by decide)
  code_lt := by decide
  mid_le := by decide
  token_pos := by decide
  token_le := by decide

/-- A path, an Accept option with a leading zero and an unknown option of even number. -/
def sampleRaws : List RawOption :=
  [⟨11, [97], by decide, by decide⟩, ⟨17, [0, 50], by decide, by decide⟩,
    ⟨2000, [1, 2, 3], by decide, by decide⟩]

theorem sampleRaws_valid : Valid sampleRaws where
  sorted := by decide
  once := by
    have hdistinct : sampleRaws.Pairwise fun a b => a.number ≠ b.number := by decide
    refine hdistinct.imp ?_
    intro a b hne heq
    exact absurd heq hne
  text := by
    intro r hr item hitem htype
    simp only [sampleRaws, List.mem_cons, List.not_mem_nil, or_false] at hr
    rcases hr with rfl | rfl | rfl
    · exact ⟨by decide, ['a'], by decide⟩
    · cases hitem
      cases htype
    · cases hitem

theorem deserialize_options_sample :
    (Critical sampleRaws →
        SerializerUdp.deserialize [] (datagram sampleHeader sampleRaws (some [9])) (['h'], 1) =
          .ok (.code Codes.badRequest)) ∧
      (¬ Critical sampleRaws →
        ∃ m, SerializerUdp.deserialize [] (datagram sampleHeader sampleRaws (some [9])) (['h'], 1) =
            .ok (.message m) ∧
          List.Forall₂ Carries m.options.toList (sampleRaws.filter RawOption.registered) ∧
          m.payload = (some [9]).map .bytes ∧ m.type = some sampleHeader.type ∧
          m.mid = some sampleHeader.mid ∧ m.token = some sampleHeader.token) ∧
      SerializerUdp.deserialize []
          (datagram sampleHeader (withoutElective sampleRaws) (some [9])) (['h'], 1) =
        SerializerUdp.deserialize [] (datagram sampleHeader sampleRaws (some [9])) (['h'], 1) :=
  deserialize_options sampleHeader sampleRaws (some [9]) [] (['h'], 1) sampleRaws_valid
    (by decide)

end BubotCoap.OptionSequences
