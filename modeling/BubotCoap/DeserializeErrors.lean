import BubotCoap.OptionNumbers
import BubotCoap.OptionWire
import BubotCoap.SerializerUdp
import BubotCoap.TcpFraming

set_option autoImplicit false

namespace BubotCoap.DeserializeErrors
open PythonData Defines Options Messages StructPack Serializer OptionWire

/-- The classes the `except` clauses name. -/
def Caught (e : PyErr) : Prop := e = .attributeError ∨ e = .structError ∨ e = .unicodeDecodeError

def Raises {α : Type} (r : Except PyErr α) : Prop := ∃ e, r = .error e ∧ ¬ Caught e

@[simp] theorem not_raises_ok {α : Type} (a : α) : ¬ Raises (Except.ok a : Except PyErr α) := by
  rintro ⟨e, h, _⟩
  cases h

theorem raises_error {α : Type} (e : PyErr) :
    Raises (Except.error e : Except PyErr α) ↔ ¬ Caught e := by
  constructor
  · rintro ⟨e', h, he⟩
    rw [Except.error.inj h]
    exact he
  · intro h
    exact ⟨e, rfl, h⟩

@[simp] theorem not_raises_attributeError {α : Type} :
    ¬ Raises (Except.error .attributeError : Except PyErr α) := by
  simp [raises_error, Caught]

@[simp] theorem not_raises_structError {α : Type} :
    ¬ Raises (Except.error .structError : Except PyErr α) := by
  simp [raises_error, Caught]

@[simp] theorem not_raises_unicodeDecodeError {α : Type} :
    ¬ Raises (Except.error .unicodeDecodeError : Except PyErr α) := by
  simp [raises_error, Caught]

@[simp] theorem raises_indexError {α : Type} :
    Raises (Except.error .indexError : Except PyErr α) := by
  simp [raises_error, Caught]

@[simp] theorem raises_typeError {α : Type} :
    Raises (Except.error .typeError : Except PyErr α) := by
  simp [raises_error, Caught]

theorem raises_bind {α β : Type} (r : Except PyErr α) (f : α → Except PyErr β) :
    Raises (r >>= f) ↔ Raises r ∨ ∃ a, r = .ok a ∧ Raises (f a) := by
  cases r with
  | error e =>
    change Raises (Except.error e) ↔ _
    simp [raises_error]
  | ok a => simp [ok_bind]

/-- A message, or the code of a bad request. -/
def Total (r : Except PyErr Decoded) : Prop :=
  (∃ m, r = .ok (.message m)) ∨ r = .ok (.code Codes.badRequest)

theorem total_badRequestOn (r : Except PyErr Message) : Total (badRequestOn r) ↔ ¬ Raises r := by
  cases r with
  | ok m => simp [badRequestOn, Total]
  | error e => cases e <;> simp [badRequestOn, Total, raises_error, Caught]

/-- The first `n` bytes of `rest` complete the nibble to the value `v`. -/
inductive Extended : ℕ → Bytes → ℕ → ℕ → Prop
  | short (nib : ℕ) (rest : Bytes) (h : nib ≤ 12) : Extended nib rest nib 0
  | byte (x : UInt8) (rest : Bytes) : Extended 13 (x :: rest) (x.toNat + 13) 1
  | word (x y : UInt8) (rest : Bytes) :
    Extended 14 (x :: y :: rest) (x.toNat * 256 + y.toNat + 269) 2

/-- The bytes start with an option's delta and length; `rest` begins with its value. -/
inductive Head : Bytes → ℕ → ℕ → Bytes → Prop
  | mk (first : UInt8) (tail : Bytes) (delta i length j : ℕ) (hfirst : first.toNat ≠ payloadMarker)
    (hdelta : Extended (first.toNat / 16) tail delta i)
    (hlength : Extended (first.toNat % 16) (tail.drop i) length j) :
    Head (first :: tail) delta length (tail.drop (i + j))

/-- The bytes end where the byte of an extended field of one byte should be. -/
inductive CutShort : Bytes → Prop
  | delta (first : UInt8) (h : first.toNat / 16 = 13) : CutShort [first]
  | length (first : UInt8) (tail : Bytes) (delta i : ℕ) (hfirst : first.toNat ≠ payloadMarker)
    (hdelta : Extended (first.toNat / 16) tail delta i) (hend : tail.drop i = [])
    (h : first.toNat % 16 = 13) : CutShort (first :: tail)

def Elective (number : ℕ) : Prop := number < 65536 ∧ number % 2 = 0

/-- Only the value of a text option can be refused. -/
def Readable (item : OptionItem) (value : Bytes) : Prop :=
  item.valueType = .STRING → ∃ t, decodeUtf8 value = .ok t

/-- Behind options that are all accepted, of which `current` is the last number and `seen` are
the numbers added, the bytes end too early or repeat an option. -/
inductive Escapes : ℕ → List ℕ → Bytes → Prop
  | cutShort (current : ℕ) (seen : List ℕ) (bytes : Bytes) (h : CutShort bytes) :
    Escapes current seen bytes
  | repeated (current : ℕ) (seen : List ℕ) (bytes : Bytes) (delta length : ℕ) (rest : Bytes)
    (item : OptionItem) (hhead : Head bytes delta length rest)
    (hitem : OptionRegistry.find? (current + delta) = some item)
    (hvalue : Readable item (rest.take length)) (honce : item.repeatable = false)
    (hseen : current + delta ∈ seen) : Escapes current seen bytes
  | known (current : ℕ) (seen : List ℕ) (bytes : Bytes) (delta length : ℕ) (rest : Bytes)
    (item : OptionItem) (hhead : Head bytes delta length rest)
    (hitem : OptionRegistry.find? (current + delta) = some item)
    (hvalue : Readable item (rest.take length))
    (hnew : item.repeatable = true ∨ current + delta ∉ seen)
    (hrest : Escapes (current + delta) (seen ++ [current + delta]) (rest.drop length)) :
    Escapes current seen bytes
  | skipped (current : ℕ) (seen : List ℕ) (bytes : Bytes) (delta length : ℕ) (rest : Bytes)
    (hhead : Head bytes delta length rest)
    (hitem : OptionRegistry.find? (current + delta) = none)
    (helective : Elective (current + delta))
    (hrest : Escapes (current + delta) seen (rest.drop length)) : Escapes current seen bytes

theorem item_drop (values : Bytes) (pos : ℕ) :
    item values pos =
      match (values.drop pos).head? with
      | some x => .ok x
      | none => .error .indexError := by
  rw [List.head?_drop]
  unfold item
  cases values[pos]? <;> rfl

theorem drop_succ_of_drop (values rest : Bytes) (pos : ℕ) (x : UInt8)
    (h : values.drop pos = x :: rest) : values.drop (pos + 1) = rest := by
  rw [← List.drop_drop, h, List.drop_one, List.tail_cons]

theorem unpackH_drop (values : Bytes) (pos : ℕ) :
    unpackH (slice values pos (pos + 2)) =
      match values.drop pos with
      | x :: y :: _ => .ok (x.toNat * 256 + y.toNat)
      | _ => .error .structError := by
  unfold slice
  rw [Nat.add_sub_cancel_left]
  rcases values.drop pos with _ | ⟨x, _ | ⟨y, rest⟩⟩
  · rfl
  · rfl
  · simp [unpackH, BigEndian.value]

theorem readExtended_eq_ok_iff (nib pos : ℕ) (values : Bytes) (v p : ℕ) :
    readExtended nib pos values = .ok (v, p) ↔
      ∃ i, p = pos + i ∧ Extended nib (values.drop pos) v i := by
  unfold readExtended
  constructor
  · intro h
    split_ifs at h with hshort hbyte hword
    · obtain ⟨rfl, rfl⟩ := Prod.mk.inj (Except.ok.inj h)
      exact ⟨0, rfl, .short nib _ hshort⟩
    · obtain ⟨x, hx, h⟩ := (bind_eq_ok _ _ _).mp h
      obtain ⟨rfl, rfl⟩ := Prod.mk.inj (Except.ok.inj h)
      rw [item_drop] at hx
      cases hrest : values.drop pos with
      | nil =>
        rw [hrest] at hx
        cases hx
      | cons y rest =>
        rw [hrest] at hx
        rw [hbyte, ← Except.ok.inj hx]
        exact ⟨1, rfl, .byte y rest⟩
    · obtain ⟨w, hw, h⟩ := (bind_eq_ok _ _ _).mp h
      obtain ⟨rfl, rfl⟩ := Prod.mk.inj (Except.ok.inj h)
      rw [unpackH_drop] at hw
      rcases hrest : values.drop pos with _ | ⟨x, _ | ⟨y, rest⟩⟩
      · rw [hrest] at hw
        cases hw
      · rw [hrest] at hw
        cases hw
      · rw [hrest] at hw
        rw [hword, ← Except.ok.inj hw]
        exact ⟨2, rfl, .word x y rest⟩
  · rintro ⟨i, rfl, h⟩
    generalize hrest : values.drop pos = rest at h
    cases h with
    | short _ _ h => rw [if_pos h, Nat.add_zero]
    | byte x rest =>
      rw [item_drop, hrest]
      rfl
    | word x y rest =>
      rw [unpackH_drop, hrest]
      rfl

theorem raises_readExtended (nib pos : ℕ) (values : Bytes) :
    Raises (readExtended nib pos values) ↔ nib = 13 ∧ values.drop pos = [] := by
  unfold readExtended
  split_ifs with hshort hbyte hword
  · simp only [not_raises_ok, false_iff]
    omega
  · rw [item_drop, raises_bind]
    cases hrest : values.drop pos <;> simp [hbyte]
  · rw [unpackH_drop, raises_bind, hword]
    rcases values.drop pos with _ | ⟨x, _ | ⟨y, rest⟩⟩ <;> simp
  · simp [hbyte]

theorem high_nibble (x : UInt8) : (x.toNat &&& 0xF0) >>> 4 = x.toNat / 16 := by
  have hlt := x.toNat_lt
  rw [Nat.shiftRight_and_distrib, Nat.shiftRight_eq_div_pow]
  change x.toNat / 16 &&& (2 ^ 4 - 1) = x.toNat / 16
  rw [Nat.and_two_pow_sub_one_eq_mod]
  omega

theorem low_nibble (x : UInt8) : x.toNat &&& 0x0F = x.toNat % 16 :=
  Nat.and_two_pow_sub_one_eq_mod x.toNat 4

theorem readOptionValueLenFromByte_eq_ok_iff (first : UInt8) (pos : ℕ) (values : Bytes)
    (delta length p : ℕ) :
    readOptionValueLenFromByte first.toNat pos values = .ok (delta, length, p) ↔
      ∃ i j, p = pos + (i + j) ∧ Extended (first.toNat / 16) (values.drop pos) delta i ∧
        Extended (first.toNat % 16) (values.drop (pos + i)) length j := by
  unfold readOptionValueLenFromByte
  rw [high_nibble, low_nibble]
  simp only [bind_eq_ok, Prod.exists, readExtended_eq_ok_iff]
  constructor
  · rintro ⟨v, q, ⟨i, rfl, hi⟩, l, r, ⟨j, rfl, hj⟩, h⟩
    simp only [Except.ok.injEq, Prod.mk.injEq] at h
    obtain ⟨rfl, rfl, rfl⟩ := h
    exact ⟨i, j, Nat.add_assoc _ _ _, hi, hj⟩
  · rintro ⟨i, j, rfl, hi, hj⟩
    exact ⟨delta, pos + i, ⟨i, rfl, hi⟩, length, pos + i + j, ⟨j, rfl, hj⟩,
      by rw [Nat.add_assoc]⟩

theorem raises_readOptionValueLenFromByte (first : UInt8) (pos : ℕ) (values : Bytes)
    (hfirst : first.toNat ≠ payloadMarker) :
    Raises (readOptionValueLenFromByte first.toNat pos values) ↔
      CutShort (first :: values.drop pos) := by
  unfold readOptionValueLenFromByte
  rw [high_nibble, low_nibble]
  simp only [raises_bind, Prod.exists, readExtended_eq_ok_iff, raises_readExtended,
    not_raises_ok, and_false, exists_false, or_false]
  constructor
  · rintro (⟨h, hnil⟩ | ⟨v, q, ⟨i, rfl, hi⟩, h, hnil⟩)
    · rw [hnil]
      exact .delta first h
    · rw [← List.drop_drop] at hnil
      exact .length first _ v i hfirst hi hnil h
  · intro h
    generalize hrest : values.drop pos = rest at h
    cases h with
    | delta _ h => exact Or.inl ⟨h, rfl⟩
    | length _ _ v i _ hi hnil h =>
      refine Or.inr ⟨v, pos + i, ⟨i, rfl, hi⟩, h, ?_⟩
      rw [← List.drop_drop, hrest, hnil]

/-- What follows once the delta and the length of an option are read. -/
def optionRound (values : Bytes) (number length pos : ℕ) (m : Message) : Except PyErr Cursor :=
  match OptionRegistry.find? number with
  | none =>
    match OptionRegistry.getOptionFlags number with
    | none => .error .structError
    | some (optCritical, _, _) =>
      if optCritical then .error .attributeError else .ok ⟨pos + length, number, m⟩
  | some item => do
    let raw ← convertToRaw number (readValue item values pos length) length
    let option ← CoapOption.make number raw
    let m ← addDecoded m option
    .ok ⟨pos + length, number, m⟩

theorem readOption_eq (values : Bytes) (first : UInt8) (c : Cursor) :
    readOption values first.toNat c =
      readOptionValueLenFromByte first.toNat c.pos values >>= fun r =>
        optionRound values (c.currentOption + r.1) r.2.1 r.2.2 c.message := rfl

def numbers (m : Message) : List ℕ := m.options.toList.map CoapOption.number

/-- The flag is the lowest bit, which the host's byte order leaves in the first byte. -/
theorem critical_eq (number : ℕ) :
    (OptionRegistry.getOptionFlags number).map Prod.fst =
      if number < 65536 then some (decide (number % 2 = 1)) else none := by
  split_ifs with hnumber
  · obtain ⟨nocachekey, hflags, -⟩ := OptionNumbers.getOptionFlags_eq number hnumber
    rw [hflags, Option.map_some, OptionNumbers.isCritical]
    simp only [Nat.and_one_is_mod]
  · unfold OptionRegistry.getOptionFlags OptionRegistry.optByte
    rw [if_neg (by omega), if_neg hnumber]
    rfl

theorem optionRound_elective (values : Bytes) (number length pos : ℕ) (m : Message)
    (h : OptionRegistry.find? number = none) (he : Elective number) :
    optionRound values number length pos m = .ok ⟨pos + length, number, m⟩ := by
  have hflag := critical_eq number
  rw [if_pos he.1] at hflag
  obtain ⟨⟨critical, f⟩, hf, hcritical⟩ := Option.map_eq_some_iff.mp hflag
  have hfalse : critical = false := by
    change critical = _ at hcritical
    rw [hcritical, he.2]
    rfl
  unfold optionRound
  rw [h, hf, hfalse]
  rfl

theorem optionRound_refused (values : Bytes) (number length pos : ℕ) (m : Message)
    (h : OptionRegistry.find? number = none) (he : ¬ Elective number) :
    ∃ e, optionRound values number length pos m = .error e ∧ Caught e := by
  have hflag := critical_eq number
  unfold optionRound
  rw [h]
  split_ifs at hflag with hlt
  · obtain ⟨⟨critical, f⟩, hf, hcritical⟩ := Option.map_eq_some_iff.mp hflag
    have htrue : critical = true := by
      change critical = _ at hcritical
      rw [hcritical, decide_eq_true_eq]
      unfold Elective at he
      omega
    rw [hf, htrue]
    exact ⟨.attributeError, rfl, by simp [Caught]⟩
  · rw [Option.map_eq_none_iff] at hflag
    rw [hflag]
    exact ⟨.structError, rfl, by simp [Caught]⟩

theorem optionRound_readable (values : Bytes) (number length pos : ℕ) (m : Message)
    (item : OptionItem) (h : OptionRegistry.find? number = some item)
    (hvalue : Readable item ((values.drop pos).take length)) :
    ∃ o : CoapOption, o.item = item ∧ o.number = number ∧
      optionRound values number length pos m =
        addDecoded m o >>= fun m => .ok ⟨pos + length, number, m⟩ := by
  have hraw : ∃ raw v, convertToRaw number (readValue item values pos length) length = .ok raw ∧
      setValue item.valueType raw = .ok v := by
    unfold convertToRaw readValue slice
    rw [h, Nat.add_sub_cancel_left]
    dsimp only
    by_cases hzero : length = 0
    · cases hi : item.valueType <;> simp [hzero, setValue, intOf, Except.map]
    · cases hi : item.valueType with
      | STRING =>
        obtain ⟨t, ht⟩ := hvalue hi
        simp [hzero, ht, Except.map, setValue]
      | INTEGER => simp [hzero, setValue, intOf, Except.map]
      | OPAQUE => simp [hzero, setValue]
      | UNKNOWN => simp [hzero, setValue]
  obtain ⟨raw, v, hraw, hv⟩ := hraw
  have hnumber : item.number = number := find?_number number item h
  set o : CoapOption := ⟨item, v, by rw [hnumber, h], accepts_setValue _ _ _ hv⟩ with ho
  refine ⟨o, rfl, hnumber, ?_⟩
  unfold optionRound
  rw [h]
  dsimp only
  rw [hraw, ok_bind, make_eq number raw o hnumber hv, ok_bind]

theorem optionRound_unreadable (values : Bytes) (number length pos : ℕ) (m : Message)
    (item : OptionItem) (h : OptionRegistry.find? number = some item)
    (hvalue : ¬ Readable item ((values.drop pos).take length)) :
    optionRound values number length pos m = .error .unicodeDecodeError := by
  obtain ⟨htype, hnone⟩ := Classical.not_imp.mp hvalue
  have hdecode : decodeUtf8 ((values.drop pos).take length) = .error .unicodeDecodeError := by
    unfold decodeUtf8 at hnone ⊢
    split
    · next t ht =>
      rw [ht] at hnone
      exact absurd ⟨_, rfl⟩ hnone
    · rfl
  have hzero : length ≠ 0 := by
    rintro rfl
    rw [List.take_zero] at hdecode
    have hnil : decodeUtf8 [] = .ok [] := decodeUtf8_encodeUtf8 []
    rw [hnil] at hdecode
    cases hdecode
  have hraw : convertToRaw number (readValue item values pos length) length =
      .error .unicodeDecodeError := by
    unfold convertToRaw readValue slice
    rw [h, Nat.add_sub_cancel_left]
    dsimp only
    rw [if_neg (fun h => hzero h.1), if_neg hzero, if_neg hzero, htype]
    dsimp only
    rw [hdecode]
    rfl
  unfold optionRound
  rw [h]
  dsimp only
  rw [hraw]
  rfl

theorem alreadyIn_iff (os : OptionList) (o : CoapOption) :
    os.alreadyIn o = true ↔ o.number ∈ os.toList.map CoapOption.number := by
  simp only [OptionList.alreadyIn, List.any_eq_true, List.mem_map, decide_eq_true_eq]
  exact exists_congr fun p => and_congr_right fun _ => eq_comm

theorem addDecoded_new (m : Message) (o : CoapOption)
    (h : o.item.repeatable = true ∨ o.number ∉ numbers m) :
    ∃ m', addDecoded m o = .ok m' ∧ numbers m' = numbers m ++ [o.number] := by
  have hcond : o.item.repeatable = true ∨ m.options.alreadyIn o = false := by
    rcases h with h | h
    · exact Or.inl h
    · exact Or.inr (Bool.eq_false_iff.mpr fun hin => h ((alreadyIn_iff _ _).mp hin))
  have hadd : addDecoded m o = .ok (if o.number = OptionRegistry.contentType.number then
      { m with
        options := ⟨m.options.toList ++ [o], OptionList.once_append m.options o hcond⟩
        payloadType := o.value }
      else { m with
        options := ⟨m.options.toList ++ [o], OptionList.once_append m.options o hcond⟩ }) := by
    unfold addDecoded Message.addOption OptionList.add
    rw [dif_pos hcond]
    rfl
  refine ⟨_, hadd, ?_⟩
  unfold numbers
  split <;> simp

theorem addDecoded_repeated (m : Message) (o : CoapOption) (h : o.item.repeatable = false)
    (hin : o.number ∈ numbers m) : addDecoded m o = .error .typeError := by
  have hcond : ¬ (o.item.repeatable = true ∨ m.options.alreadyIn o = false) := by
    rw [h, (alreadyIn_iff _ _).mpr hin]
    simp
  unfold addDecoded Message.addOption OptionList.add
  rw [dif_neg hcond]
  rfl

theorem readStep_option_eq (values : Bytes) (c : Cursor) (first : UInt8) (tail : Bytes)
    (hrest : values.drop c.pos = first :: tail) (hfirst : first.toNat ≠ payloadMarker) :
    readStep values c =
      readOptionValueLenFromByte first.toNat (c.pos + 1) values >>= fun r =>
        optionRound values (c.currentOption + r.1) r.2.1 r.2.2 c.message := by
  have hitem : item values c.pos = .ok first := by
    rw [item_drop, hrest]
    rfl
  unfold readStep
  rw [hitem, ok_bind]
  dsimp only
  rw [if_pos hfirst]
  exact readOption_eq values first { c with pos := c.pos + 1 }

theorem head_iff (values : Bytes) (pos : ℕ) (first : UInt8) (delta length : ℕ) (rest : Bytes)
    (hfirst : first.toNat ≠ payloadMarker) :
    Head (first :: values.drop pos) delta length rest ↔
      ∃ p, readOptionValueLenFromByte first.toNat pos values = .ok (delta, length, p) ∧
        values.drop p = rest := by
  simp only [readOptionValueLenFromByte_eq_ok_iff, ← List.drop_drop]
  constructor
  · rintro ⟨_, _, _, i, _, j, _, hi, hj⟩
    exact ⟨pos + (i + j), ⟨i, j, rfl, hi, hj⟩, by rw [List.drop_drop]⟩
  · rintro ⟨p, ⟨i, j, rfl, hi, hj⟩, rfl⟩
    rw [← List.drop_drop]
    exact .mk first _ delta i length j hfirst hi hj

theorem extended_unique (nib : ℕ) (bytes : Bytes) (v i w j : ℕ) (hv : Extended nib bytes v i)
    (hw : Extended nib bytes w j) : v = w ∧ i = j := by
  cases hv with
  | short _ _ h =>
    cases hw with
    | short => exact ⟨rfl, rfl⟩
    | byte => omega
    | word => omega
  | byte =>
    cases hw with
    | short _ _ h => omega
    | byte => exact ⟨rfl, rfl⟩
  | word =>
    cases hw with
    | short _ _ h => omega
    | word => exact ⟨rfl, rfl⟩

theorem head_unique (bytes : Bytes) (delta length : ℕ) (rest : Bytes) (delta' length' : ℕ)
    (rest' : Bytes) (h : Head bytes delta length rest) (h' : Head bytes delta' length' rest') :
    delta = delta' ∧ length = length' ∧ rest = rest' := by
  cases h with
  | mk first tail _ i _ j _ hi hj =>
    cases h' with
    | mk _ _ _ i' _ j' _ hi' hj' =>
      obtain ⟨rfl, rfl⟩ := extended_unique _ _ _ _ _ _ hi hi'
      obtain ⟨rfl, rfl⟩ := extended_unique _ _ _ _ _ _ hj hj'
      exact ⟨rfl, rfl, rfl⟩

theorem not_head_nil (delta length : ℕ) (rest : Bytes) : ¬ Head [] delta length rest := by
  intro h
  cases h

theorem not_head_marker (first : UInt8) (tail : Bytes) (delta length : ℕ) (rest : Bytes)
    (hfirst : first.toNat = payloadMarker) : ¬ Head (first :: tail) delta length rest := by
  intro h
  cases h
  contradiction

theorem extended_le (nib : ℕ) (bytes : Bytes) (v i : ℕ) (h : Extended nib bytes v i) :
    i ≤ bytes.length := by
  cases h <;> simp

theorem readFrom_head (values : Bytes) (c : Cursor) (delta length : ℕ) (rest : Bytes)
    (hhead : Head (values.drop c.pos) delta length rest) :
    ∃ p, c.pos < p ∧ p ≤ values.length ∧ values.drop p = rest ∧
      readFrom values c =
        optionRound values (c.currentOption + delta) length p c.message >>= readFrom values := by
  cases hrest : values.drop c.pos with
  | nil =>
    rw [hrest] at hhead
    exact absurd hhead (not_head_nil _ _ _)
  | cons first tail =>
    rw [hrest] at hhead
    have hfirst : first.toNat ≠ payloadMarker := fun h => not_head_marker _ _ _ _ _ h hhead
    have hpos : c.pos < values.length := by
      by_contra h
      rw [List.drop_eq_nil_of_le (by omega)] at hrest
      cases hrest
    rw [← drop_succ_of_drop values tail c.pos first hrest] at hhead
    obtain ⟨p, hread, hdrop⟩ := (head_iff values (c.pos + 1) first delta length rest hfirst).mp hhead
    obtain ⟨i, j, rfl, hi, hj⟩ := (readOptionValueLenFromByte_eq_ok_iff _ _ _ _ _ _).mp hread
    have hile := extended_le _ _ _ _ hi
    have hjle := extended_le _ _ _ _ hj
    rw [List.length_drop] at hile hjle
    refine ⟨_, by omega, by omega, hdrop, ?_⟩
    rw [readFrom_step values c hpos, readStep_option_eq values c first tail hrest hfirst, hread,
      ok_bind]

theorem readFrom_marker (values : Bytes) (c : Cursor) (first : UInt8) (tail : Bytes)
    (hrest : values.drop c.pos = first :: tail) (hfirst : first.toNat = payloadMarker)
    (htail : tail ≠ []) :
    readFrom values c = .ok { c.message with payload := some (.bytes tail) } := by
  have hitem : item values c.pos = .ok first := by
    rw [item_drop, hrest]
    rfl
  have hdrop := drop_succ_of_drop values tail c.pos first hrest
  have hlong : ¬ values.length ≤ c.pos + 1 := by
    intro h
    rw [List.drop_eq_nil_of_le h] at hdrop
    exact htail hdrop.symm
  rw [readFrom_step values c (by omega)]
  unfold readStep
  rw [hitem, ok_bind]
  dsimp only
  rw [if_neg (by omega), if_neg hlong, ok_bind, hdrop]
  have hlength := congrArg List.length hdrop
  rw [List.length_drop] at hlength
  exact readFrom_end _ _ (by dsimp only; omega)

theorem readFrom_marker_last (values : Bytes) (c : Cursor) (first : UInt8)
    (hrest : values.drop c.pos = [first]) (hfirst : first.toNat = payloadMarker) :
    readFrom values c = .error .attributeError := by
  have hitem : item values c.pos = .ok first := by
    rw [item_drop, hrest]
    rfl
  have hlength := congrArg List.length hrest
  rw [List.length_drop, List.length_singleton] at hlength
  rw [readFrom_step values c (by omega)]
  unfold readStep
  rw [hitem, ok_bind]
  dsimp only
  rw [if_neg (by omega), if_pos (by omega)]
  rfl

/-- Without a readable head the loop fails, one way or the other. -/
theorem readFrom_no_head (values : Bytes) (c : Cursor) (first : UInt8) (tail : Bytes)
    (hrest : values.drop c.pos = first :: tail) (hfirst : first.toNat ≠ payloadMarker)
    (hhead : ∀ delta length rest, ¬ Head (first :: tail) delta length rest) :
    ∃ e, readFrom values c = .error e := by
  have hpos : c.pos < values.length := by
    by_contra h
    rw [List.drop_eq_nil_of_le (by omega)] at hrest
    cases hrest
  rw [readFrom_step values c hpos, readStep_option_eq values c first tail hrest hfirst]
  cases hread : readOptionValueLenFromByte first.toNat (c.pos + 1) values with
  | error e => exact ⟨e, rfl⟩
  | ok r =>
    obtain ⟨delta, length, p⟩ := r
    have h := (head_iff values (c.pos + 1) first delta length _ hfirst).mpr ⟨p, hread, rfl⟩
    rw [drop_succ_of_drop values tail c.pos first hrest] at h
    exact absurd h (hhead _ _ _)

theorem not_cutShort_head (first : UInt8) (tail : Bytes) (delta length : ℕ) (rest : Bytes)
    (hhead : Head (first :: tail) delta length rest) : ¬ CutShort (first :: tail) := by
  have hfirst : first.toNat ≠ payloadMarker := fun h => not_head_marker _ _ _ _ _ h hhead
  have hread : Raises (readOptionValueLenFromByte first.toNat 0 tail) ↔ CutShort (first :: tail) :=
    raises_readOptionValueLenFromByte first 0 tail hfirst
  obtain ⟨p, hok, _⟩ := (head_iff tail 0 first delta length rest hfirst).mp hhead
  rw [← hread, hok]
  exact not_raises_ok _

theorem not_cutShort_marker (first : UInt8) (tail : Bytes) (hfirst : first.toNat = payloadMarker) :
    ¬ CutShort (first :: tail) := by
  intro h
  cases h with
  | delta _ h =>
    unfold payloadMarker at hfirst
    omega
  | length _ _ _ _ hne => exact hne hfirst

/-- Without a readable head an exception escapes exactly if the head is cut short. -/
theorem raises_no_head (values : Bytes) (c : Cursor) (first : UInt8) (tail : Bytes)
    (hrest : values.drop c.pos = first :: tail) (hfirst : first.toNat ≠ payloadMarker)
    (hhead : ∀ delta length rest, ¬ Head (first :: tail) delta length rest) :
    Raises (readFrom values c) ↔ CutShort (first :: tail) := by
  have hpos : c.pos < values.length := by
    by_contra h
    rw [List.drop_eq_nil_of_le (by omega)] at hrest
    cases hrest
  have htail := drop_succ_of_drop values tail c.pos first hrest
  rw [readFrom_step values c hpos, readStep_option_eq values c first tail hrest hfirst, bind_assoc,
    raises_bind, raises_readOptionValueLenFromByte first (c.pos + 1) values hfirst, htail]
  refine or_iff_left ?_
  rintro ⟨⟨delta, length, p⟩, hread, _⟩
  have h := (head_iff values (c.pos + 1) first delta length _ hfirst).mpr ⟨p, hread, rfl⟩
  rw [htail] at h
  exact hhead _ _ _ h

/-- The turn of the loop for one option, by how it ends. -/
inductive Turn (values : Bytes) (number length pos : ℕ) (m : Message) : Prop
  | skipped (hitem : OptionRegistry.find? number = none) (helective : Elective number)
    (h : optionRound values number length pos m = .ok ⟨pos + length, number, m⟩)
  | refused (e : PyErr) (hitem : OptionRegistry.find? number = none)
    (helective : ¬ Elective number) (hcaught : Caught e)
    (h : optionRound values number length pos m = .error e)
  | unreadable (item : OptionItem) (hitem : OptionRegistry.find? number = some item)
    (hvalue : ¬ Readable item ((values.drop pos).take length))
    (h : optionRound values number length pos m = .error .unicodeDecodeError)
  | added (item : OptionItem) (m' : Message) (hitem : OptionRegistry.find? number = some item)
    (hvalue : Readable item ((values.drop pos).take length))
    (hnew : item.repeatable = true ∨ number ∉ numbers m)
    (hnumbers : numbers m' = numbers m ++ [number])
    (h : optionRound values number length pos m = .ok ⟨pos + length, number, m'⟩)
  | repeated (item : OptionItem) (hitem : OptionRegistry.find? number = some item)
    (hvalue : Readable item ((values.drop pos).take length))
    (hrepeatable : item.repeatable = false) (hin : number ∈ numbers m)
    (h : optionRound values number length pos m = .error .typeError)

theorem turn_cases (values : Bytes) (number length pos : ℕ) (m : Message) :
    Turn values number length pos m := by
  cases hitem : OptionRegistry.find? number with
  | none =>
    by_cases he : Elective number
    · exact .skipped hitem he (optionRound_elective values number length pos m hitem he)
    · obtain ⟨e, hround, hcaught⟩ := optionRound_refused values number length pos m hitem he
      exact .refused e hitem he hcaught hround
  | some item =>
    by_cases hvalue : Readable item ((values.drop pos).take length)
    · obtain ⟨o, hoitem, honumber, hround⟩ :=
        optionRound_readable values number length pos m item hitem hvalue
      by_cases hnew : item.repeatable = true ∨ number ∉ numbers m
      · obtain ⟨m', hadd, hnumbers⟩ := addDecoded_new m o (by rwa [hoitem, honumber])
        rw [hadd, ok_bind] at hround
        exact .added item m' hitem hvalue hnew (by rw [hnumbers, honumber]) hround
      · have hold : item.repeatable = false ∧ number ∈ numbers m := by
          rw [not_or, not_not, Bool.not_eq_true] at hnew
          exact hnew
        rw [addDecoded_repeated m o (by rw [hoitem, hold.1]) (by rw [honumber]; exact hold.2)]
          at hround
        exact .repeated item hitem hvalue hold.1 hold.2 hround
    · exact .unreadable item hitem hvalue
        (optionRound_unreadable values number length pos m item hitem hvalue)

theorem raises_round (values : Bytes) (number length pos : ℕ) (m : Message)
    (ih : ∀ m', Raises (readFrom values ⟨pos + length, number, m'⟩) ↔
      Escapes number (numbers m') ((values.drop pos).drop length)) :
    Raises (optionRound values number length pos m >>= readFrom values) ↔
      (OptionRegistry.find? number = none ∧ Elective number ∧
        Escapes number (numbers m) ((values.drop pos).drop length)) ∨
      ∃ item, OptionRegistry.find? number = some item ∧
        Readable item ((values.drop pos).take length) ∧
        ((item.repeatable = false ∧ number ∈ numbers m) ∨
          ((item.repeatable = true ∨ number ∉ numbers m) ∧
            Escapes number (numbers m ++ [number]) ((values.drop pos).drop length))) := by
  cases turn_cases values number length pos m with
  | skipped hitem helective h =>
    rw [h, ok_bind, ih]
    simp [hitem, helective]
  | refused e hitem helective hcaught h =>
    rw [h]
    simp [hitem, helective, raises_bind, raises_error, hcaught]
  | unreadable item hitem hvalue h =>
    rw [h]
    simp [hitem, hvalue, raises_bind]
  | added item m' hitem hvalue hnew hnumbers h =>
    have hold : ¬ (item.repeatable = false ∧ number ∈ numbers m) := by
      rcases hnew with hrepeatable | hnew
      · simp [hrepeatable]
      · simp [hnew]
    rw [h, ok_bind, ih, hnumbers]
    simp [hitem, hvalue, hnew, hold]
  | repeated item hitem hvalue hrepeatable hin h =>
    rw [h]
    simp [hitem, hvalue, hrepeatable, hin, raises_bind]

theorem raises_readFrom (values : Bytes) (c : Cursor) :
    Raises (readFrom values c) ↔
      Escapes c.currentOption (numbers c.message) (values.drop c.pos) := by
  induction hn : values.length - c.pos using Nat.strong_induction_on generalizing c with
  | _ n ih =>
    cases hrest : values.drop c.pos with
    | nil =>
      rw [readFrom_end values c (List.drop_eq_nil_iff.mp hrest)]
      refine iff_of_false (not_raises_ok _) ?_
      intro h
      cases h with
      | cutShort _ _ _ h => cases h
      | repeated _ _ _ _ _ _ _ h => exact not_head_nil _ _ _ h
      | known _ _ _ _ _ _ _ h => exact not_head_nil _ _ _ h
      | skipped _ _ _ _ _ _ h => exact not_head_nil _ _ _ h
    | cons first tail =>
      by_cases hfirst : first.toNat = payloadMarker
      · refine iff_of_false ?_ ?_
        · -- from the payload marker on there is nothing left to raise
          by_cases htail : tail = []
          · subst htail
            rw [readFrom_marker_last values c first hrest hfirst]
            simp
          · rw [readFrom_marker values c first tail hrest hfirst htail]
            exact not_raises_ok _
        · intro h
          cases h with
          | cutShort _ _ _ h => exact not_cutShort_marker first tail hfirst h
          | repeated _ _ _ _ _ _ _ h => exact not_head_marker _ _ _ _ _ hfirst h
          | known _ _ _ _ _ _ _ h => exact not_head_marker _ _ _ _ _ hfirst h
          | skipped _ _ _ _ _ _ h => exact not_head_marker _ _ _ _ _ hfirst h
      · by_cases hhead : ∃ delta length rest, Head (first :: tail) delta length rest
        · obtain ⟨delta, length, rest, hhead⟩ := hhead
          obtain ⟨p, hlt, hle, rfl, hread⟩ :=
            readFrom_head values c delta length rest (by rwa [hrest])
          have hih : ∀ m', Raises (readFrom values ⟨p + length, c.currentOption + delta, m'⟩) ↔
              Escapes (c.currentOption + delta) (numbers m') ((values.drop p).drop length) := by
            intro m'
            rw [List.drop_drop]
            exact ih (values.length - (p + length)) (by omega) ⟨_, _, m'⟩ rfl
          rw [hread, raises_round _ _ _ _ _ hih]
          constructor
          · rintro (⟨hnone, he, h⟩ | ⟨item, hitem, hvalue, ⟨hrep, hin⟩ | ⟨hnew, h⟩⟩)
            · exact .skipped _ _ _ delta length _ hhead hnone he h
            · exact .repeated _ _ _ delta length _ item hhead hitem hvalue hrep hin
            · exact .known _ _ _ delta length _ item hhead hitem hvalue hnew h
          · intro h
            cases h with
            | cutShort _ _ _ h => exact absurd h (not_cutShort_head first tail _ _ _ hhead)
            | repeated _ _ _ delta' length' rest' item hhead' hitem hvalue hrep hin =>
              obtain ⟨rfl, rfl, rfl⟩ := head_unique _ _ _ _ _ _ _ hhead hhead'
              exact Or.inr ⟨item, hitem, hvalue, Or.inl ⟨hrep, hin⟩⟩
            | known _ _ _ delta' length' rest' item hhead' hitem hvalue hnew h =>
              obtain ⟨rfl, rfl, rfl⟩ := head_unique _ _ _ _ _ _ _ hhead hhead'
              exact Or.inr ⟨item, hitem, hvalue, Or.inr ⟨hnew, h⟩⟩
            | skipped _ _ _ delta' length' rest' hhead' hnone he h =>
              obtain ⟨rfl, rfl, rfl⟩ := head_unique _ _ _ _ _ _ _ hhead hhead'
              exact Or.inl ⟨hnone, he, h⟩
        · have hnone : ∀ delta length rest, ¬ Head (first :: tail) delta length rest :=
            fun delta length rest h => hhead ⟨delta, length, rest, h⟩
          rw [raises_no_head values c first tail hrest hfirst hnone]
          constructor
          · exact .cutShort _ _ _
          · intro h
            cases h with
            | cutShort _ _ _ h => exact h
            | repeated _ _ _ _ _ _ _ h => exact absurd h (hnone _ _ _)
            | known _ _ _ _ _ _ _ h => exact absurd h (hnone _ _ _)
            | skipped _ _ _ _ _ _ h => exact absurd h (hnone _ _ _)

theorem raises_readMessage (values : Bytes) (m : Message) :
    Raises (readMessage values m) ↔ Escapes 0 (numbers m) values := by
  unfold readMessage
  rw [readLoop_eq_readFrom _ _ _ (by simp), raises_readFrom]
  rfl

/-- A message object can be made for the code: it is registered, or of neither class. -/
def CodeOk (code : ℕ) : Prop :=
  code ∈ Codes.list ∨ (isRequest code = false ∧ isResponse code = false)

/-- A header that is accepted and options that are not. -/
inductive UdpEscapes : Bytes → Prop
  | mk (first code b₂ b₃ : UInt8) (tail : Bytes) (hversion : first.toNat / 64 = version)
    (hcode : CodeOk code.toNat) (hbody : Escapes 0 [] (tail.drop (first.toNat % 16))) :
    UdpEscapes (first :: code :: b₂ :: b₃ :: tail)

theorem newMessage_spec (code : ℕ) :
    (CodeOk code → ∃ m, SerializerUdp.newMessage code = .ok m ∧ numbers m = []) ∧
      (¬ CodeOk code → SerializerUdp.newMessage code = .error .attributeError) := by
  unfold CodeOk SerializerUdp.newMessage Message.setCode
  by_cases hlist : code ∈ Codes.list
  · simp only [hlist, if_true, true_or, forall_const, not_true_eq_false, false_implies, and_true]
    split_ifs
    · exact ⟨_, rfl, rfl⟩
    · exact ⟨_, rfl, rfl⟩
    · exact ⟨_, rfl, rfl⟩
  · simp only [hlist, if_false, false_or]
    cases isRequest code <;> cases isResponse code <;> simp
    rfl

theorem version_bits (x : UInt8) : (x.toNat &&& 0xC0) >>> 6 = x.toNat / 64 := by
  have hlt := x.toNat_lt
  rw [Nat.shiftRight_and_distrib, Nat.shiftRight_eq_div_pow]
  change x.toNat / 64 &&& (2 ^ 2 - 1) = x.toNat / 64
  rw [Nat.and_two_pow_sub_one_eq_mod]
  omega

theorem type_bits (x : UInt8) : ∃ t, MsgType.ofNat? ((x.toNat &&& 0x30) >>> 4) = some t := by
  have hlt : (x.toNat &&& 0x30) >>> 4 < 4 := by
    rw [Nat.shiftRight_and_distrib]
    exact Nat.and_lt_two_pow (n := 2) _ (by decide)
  have key : ∀ n < 4, (MsgType.ofNat? n).isSome = true := by decide
  exact Option.isSome_iff_exists.mp (key _ hlt)

theorem udp_readHeader_ok (rng : Bytes) (source : Address) (first code b₂ b₃ : UInt8)
    (tail : Bytes) (hversion : first.toNat / 64 = version) (hcode : CodeOk code.toNat) :
    ∃ m, SerializerUdp.readHeader rng (first :: code :: b₂ :: b₃ :: tail) source =
      .ok (m, tail.drop (first.toNat % 16)) ∧ numbers m = [] := by
  obtain ⟨m, hm, hnumbers⟩ := (newMessage_spec code.toNat).1 hcode
  obtain ⟨t, ht⟩ := type_bits first
  have hmid : ¬ ((BigEndian.value [b₂, b₃] : ℕ) : ℤ) > 65536 := by
    have h₂ := b₂.toNat_lt
    have h₃ := b₃.toNat_lt
    simp only [BigEndian.value, List.foldl_cons, List.foldl_nil]
    omega
  have hdrop : (first :: code :: b₂ :: b₃ :: tail).drop (4 + first.toNat % 16) =
      tail.drop (first.toNat % 16) := by
    rw [Nat.add_comm]
    rfl
  unfold SerializerUdp.readHeader unpackBBH
  simp only [ok_bind, hm, Message.setVersion, version_bits, hversion, if_true, Message.setType,
    ht, Message.setMid, hmid, if_false, low_nibble, hdrop]
  by_cases htoken : first.toNat % 16 > 0
  · have hshort : ¬ (slice (first :: code :: b₂ :: b₃ :: tail) 4
        (4 + first.toNat % 16)).length > 256 := by
      unfold slice
      rw [List.length_take]
      omega
    simp only [htoken, if_true, Message.setToken, hshort, if_false, ok_bind]
    exact ⟨_, rfl, hnumbers⟩
  · simp only [htoken, if_false, Message.setToken, ok_bind]
    exact ⟨_, rfl, hnumbers⟩

theorem udp_readHeader_refused (rng : Bytes) (source : Address) (datagram : Bytes)
    (h : ∀ first code b₂ b₃ tail, datagram = first :: code :: b₂ :: b₃ :: tail →
      ¬ (first.toNat / 64 = version ∧ CodeOk code.toNat)) :
    ∃ e, SerializerUdp.readHeader rng datagram source = .error e ∧ Caught e := by
  unfold SerializerUdp.readHeader unpackBBH
  split
  · next first code b₂ b₃ tail =>
    have hrefused := h first code b₂ b₃ tail rfl
    rw [ok_bind]
    dsimp only
    by_cases hcode : CodeOk code.toNat
    · obtain ⟨m, hm, _⟩ := (newMessage_spec code.toNat).1 hcode
      have hversion : ¬ first.toNat / 64 = version := fun hv => hrefused ⟨hv, hcode⟩
      simp only [hm, ok_bind, Message.setVersion, version_bits, hversion, if_false]
      exact ⟨.attributeError, rfl, by simp [Caught]⟩
    · rw [(newMessage_spec code.toNat).2 hcode]
      exact ⟨.attributeError, rfl, by simp [Caught]⟩
  · exact ⟨.structError, rfl, by simp [Caught]⟩

theorem udp_total_iff (rng datagram : Bytes) (source : Address) :
    Total (SerializerUdp.deserialize rng datagram source) ↔ ¬ UdpEscapes datagram := by
  unfold SerializerUdp.deserialize
  rw [total_badRequestOn, not_iff_not, raises_bind]
  by_cases h : ∃ first code b₂ b₃ tail, datagram = first :: code :: b₂ :: b₃ :: tail ∧
      first.toNat / 64 = version ∧ CodeOk code.toNat
  · obtain ⟨first, code, b₂, b₃, tail, rfl, hversion, hcode⟩ := h
    obtain ⟨m, hm, hnumbers⟩ := udp_readHeader_ok rng source first code b₂ b₃ tail hversion hcode
    rw [hm]
    simp only [not_raises_ok, Except.ok.injEq, false_or, exists_eq_left', raises_readMessage,
      hnumbers]
    constructor
    · intro hbody
      exact .mk first code b₂ b₃ tail hversion hcode hbody
    · rintro ⟨⟩
      assumption
  · obtain ⟨e, he, hcaught⟩ := udp_readHeader_refused rng source datagram (by
      intro first code b₂ b₃ tail heq hok
      exact h ⟨first, code, b₂, b₃, tail, heq, hok⟩)
    rw [he]
    simp only [raises_error, hcaught, not_true_eq_false, reduceCtorEq, false_and, exists_false,
      or_false, false_iff]
    rintro ⟨⟩
    exact h ⟨_, _, _, _, _, rfl, by assumption, by assumption⟩

/-- The token is announced as too long, or the code is accepted and the options are not. -/
inductive TcpEscapes (frame : Bytes) : Prop
  | token (offset tkl l : ℕ)
    (hsize : SerializerTcp.extractMessageSize frame = some (offset, tkl, l)) (h : 8 < tkl)
  | body (offset tkl l : ℕ) (code : UInt8)
    (hsize : SerializerTcp.extractMessageSize frame = some (offset, tkl, l))
    (hcode : frame[offset - 1]? = some code) (hlist : code.toNat ∈ Codes.list)
    (hbody : Escapes 0 [] (frame.drop (offset + tkl)))

theorem extractMessageSize_offset (frame : Bytes) (offset tkl l : ℕ)
    (h : SerializerTcp.extractMessageSize frame = some (offset, tkl, l)) : 2 ≤ offset := by
  unfold SerializerTcp.extractMessageSize at h
  split at h
  · cases h
  · dsimp only at h
    split_ifs at h
    · have := (Prod.mk.inj (Option.some.inj h)).1
      omega
    · have := (Prod.mk.inj (Option.some.inj h)).1
      omega

theorem tcp_total_iff (rng frame : Bytes) (source : Address)
    (hframe : TcpFraming.frameSize frame = some frame.length) :
    Total (SerializerTcp.deserialize rng frame source) ↔ ¬ TcpEscapes frame := by
  obtain ⟨offset, tkl, l, hsize, hlength⟩ := (TcpFraming.frameSize_eq_some_iff _ _).mp hframe
  have hoffset := extractMessageSize_offset frame offset tkl l hsize
  have hsame : ∀ offset' tkl' l', SerializerTcp.extractMessageSize frame =
      some (offset', tkl', l') → offset' = offset ∧ tkl' = tkl := by
    intro offset' tkl' l' h
    rw [hsize] at h
    simp only [Option.some.injEq, Prod.mk.injEq] at h
    exact ⟨h.1.symm, h.2.1.symm⟩
  unfold SerializerTcp.deserialize
  rw [total_badRequestOn, not_iff_not, raises_bind]
  unfold SerializerTcp.readHeader
  rw [hsize]
  dsimp only
  by_cases htkl : tkl > 8
  · rw [if_pos htkl]
    simp only [raises_typeError, true_or, true_iff]
    exact .token offset tkl l hsize htkl
  · rw [if_neg htkl]
    obtain ⟨code, hcode⟩ : ∃ code, frame[offset - 1]? = some code :=
      ⟨_, List.getElem?_eq_getElem (by omega)⟩
    have hitem : item frame (offset - 1) = .ok code := by
      unfold item
      rw [hcode]
    have hshort : ¬ (slice frame offset (offset + tkl)).length > 256 := by
      unfold slice
      rw [List.length_take]
      omega
    rw [hitem, ok_bind]
    by_cases hlist : code.toNat ∈ Codes.list
    · simp only [Message.setCode, hlist, if_true, ok_bind, Message.setToken, hshort, if_false,
        not_raises_ok, false_or, Except.ok.injEq, exists_eq_left', raises_readMessage]
      constructor
      · intro hbody
        exact .body offset tkl l code hsize hcode hlist hbody
      · intro h
        cases h with
        | token _ _ _ hsize' h =>
          obtain ⟨rfl, rfl⟩ := hsame _ _ _ hsize'
          exact absurd h htkl
        | body _ _ _ _ hsize' _ _ hbody =>
          obtain ⟨rfl, rfl⟩ := hsame _ _ _ hsize'
          exact hbody
    · simp only [Message.setCode, hlist, if_false]
      refine iff_of_false ?_ ?_
      · rintro (h | ⟨a, h, _⟩)
        · exact not_raises_attributeError h
        · cases h
      · intro h
        cases h with
        | token _ _ _ hsize' h =>
          obtain ⟨rfl, rfl⟩ := hsame _ _ _ hsize'
          exact htkl h
        | body _ _ _ code' hsize' hcode' hlist' =>
          obtain ⟨rfl, rfl⟩ := hsame _ _ _ hsize'
          rw [hcode, Option.some.injEq] at hcode'
          exact hlist (hcode' ▸ hlist')

/-- Both deserializers return a message or the code of a bad request except on the bytes
described. -/
theorem deserialize_total_iff (rng datagram frame : Bytes) (source : Address)
    (hframe : TcpFraming.frameSize frame = some frame.length) :
    (Total (SerializerUdp.deserialize rng datagram source) ↔ ¬ UdpEscapes datagram) ∧
      (Total (SerializerTcp.deserialize rng frame source) ↔ ¬ TcpEscapes frame) :=
  ⟨udp_total_iff rng datagram source, tcp_total_iff rng frame source hframe⟩

theorem deserialize_total_iff_sample :
    (Total (SerializerUdp.deserialize [] [0x40, 1, 0, 7, 0xB1, 97] (['h'], 1)) ↔
        ¬ UdpEscapes [0x40, 1, 0, 7, 0xB1, 97]) ∧
      (Total (SerializerTcp.deserialize [] [0x21, 1, 9, 0xB1, 97] (['h'], 1)) ↔
        ¬ TcpEscapes [0x21, 1, 9, 0xB1, 97]) :=
  deserialize_total_iff [] [0x40, 1, 0, 7, 0xB1, 97] [0x21, 1, 9, 0xB1, 97] (['h'], 1)
    (by decide +kernel)

/-- A missing extended field, a second Accept option and a long token. -/
theorem not_deserialize_total :
    (¬ Total (SerializerUdp.deserialize [] [0x40, 1, 0, 0, 0xD0] (['h'], 1))) ∧
      (¬ Total (SerializerUdp.deserialize [] [0x40, 1, 0, 0, 0xD1, 4, 0, 0x01, 0]
        (['h'], 1))) ∧
      TcpFraming.frameSize (9 :: 1 :: List.replicate 9 0) = some 11 ∧
      ¬ Total (SerializerTcp.deserialize [] (9 :: 1 :: List.replicate 9 0) (['h'], 1)) := by
  have hindex : SerializerUdp.deserialize [] [0x40, 1, 0, 0, 0xD0] (['h'], 1) =
      .error .indexError := by decide +kernel
  have hrepeat : SerializerUdp.deserialize [] [0x40, 1, 0, 0, 0xD1, 4, 0, 0x01, 0] (['h'], 1) =
      .error .typeError := by decide +kernel
  have htoken : SerializerTcp.deserialize [] (9 :: 1 :: List.replicate 9 0) (['h'], 1) =
      .error .typeError := by decide +kernel
  rw [hindex, hrepeat, htoken]
  simp only [Total, reduceCtorEq, exists_false, or_false, not_false_eq_true, true_and, and_true]
  decide +kernel

end BubotCoap.DeserializeErrors
