import BubotCoap.Utils

set_option autoImplicit false

/-!
# Option values by type

`messages/optiontypes.py`: the four kinds of option values with their encoders
and decoders. Integers and blocks go through a packed word of four bytes whose
leading zeros are stripped.
-/
namespace BubotCoap.OptionTypes
open PythonData Utils

/-- `more` is a flag or an integer, which the encoder multiplies. -/
structure BlockwiseTuple where
  blockNumber : ℕ
  more : ℕ
  sizeExponent : ℕ
  deriving DecidableEq, Repr

def BlockwiseTuple.size (v : BlockwiseTuple) : ℕ := 2 ^ (v.sizeExponent + 4)

def BlockwiseTuple.start (v : BlockwiseTuple) : ℕ := v.blockNumber * v.size

def BlockwiseTuple.asInteger (v : BlockwiseTuple) : ℕ :=
  (v.blockNumber <<< 4) + v.more * 0x08 + v.sizeExponent

def BlockwiseTuple.ofInteger (asInteger : ℕ) : BlockwiseTuple where
  blockNumber := asInteger >>> 4
  more := if asInteger &&& 0x08 = 0 then 0 else 1
  sizeExponent := asInteger &&& 0x07

/-- The classes of options. -/
inductive Format where
  | stringOption
  | opaqueOption
  | uintOption
  | blockOption
  deriving DecidableEq, Repr

inductive OptionValue where
  | stringOption (value : Text)
  | opaqueOption (value : Bytes)
  | uintOption (value : ℕ)
  | blockOption (value : BlockwiseTuple)
  deriving DecidableEq, Repr

def OptionValue.format : OptionValue → Format
  | .stringOption _ => .stringOption
  | .opaqueOption _ => .opaqueOption
  | .uintOption _ => .uintOption
  | .blockOption _ => .blockOption

/-- `struct.pack("!L", value)`. -/
def packLong (value : ℕ) : Except PyErr Bytes :=
  if value < 256 ^ 4 then .ok (BigEndian.bytes 4 value) else .error .structError

/-- `rawdata.lstrip(bytes([0]))`. -/
def lstrip (rawdata : Bytes) : Bytes := rawdata.dropWhile fun b => b == 0

def packInteger (value : ℕ) : Except PyErr Bytes := (packLong value).map lstrip

def OptionValue.encode : OptionValue → Except PyErr Bytes
  | .stringOption value => .ok (encodeUtf8 value)
  | .opaqueOption value => .ok value
  | .uintOption value => packInteger value
  | .blockOption value => packInteger value.asInteger

def Format.decode (rawdata : Bytes) : Format → Except PyErr OptionValue
  | .stringOption => (decodeUtf8 rawdata).map .stringOption
  | .opaqueOption => .ok (.opaqueOption rawdata)
  | .uintOption => .ok (.uintOption (BigEndian.value rawdata))
  | .blockOption => .ok (.blockOption (.ofInteger (BigEndian.value rawdata)))

theorem decode_format (format : Format) (rawdata : Bytes) (v : OptionValue)
    (h : format.decode rawdata = .ok v) : v.format = format := by
  cases format
  case stringOption =>
    simp only [Format.decode, Except.map] at h
    split at h
    · cases h
    · cases h
      rfl
  all_goals
    cases h
    rfl

section Integers
variable (n : ℕ)

theorem asInteger_ofInteger : (BlockwiseTuple.ofInteger n).asInteger = n := by
  have hmore : n &&& 0x08 = 8 * (n / 8 % 2) := by
    rw [show (0x08 : ℕ) = 2 ^ 3 from rfl, Nat.and_two_pow, Nat.testBit_eq_decide_div_mod_eq]
    rcases Nat.mod_two_eq_zero_or_one (n / 8) with h | h <;> simp [h]
  have hsize : n &&& 0x07 = n % 8 := Nat.and_two_pow_sub_one_eq_mod n 3
  have hnumber : n >>> 4 = n / 16 := Nat.shiftRight_eq_div_pow n 4
  unfold BlockwiseTuple.ofInteger BlockwiseTuple.asInteger
  dsimp only
  rw [hnumber, hsize, hmore, Nat.shiftLeft_eq]
  split_ifs <;> omega

theorem lstrip_eq (rawdata : Bytes) :
    lstrip rawdata = BigEndian.bytes (byteLen (BigEndian.value rawdata))
      (BigEndian.value rawdata) := by
  induction rawdata with
  | nil => rfl
  | cons b rest ih =>
    by_cases hb : b = 0
    · subst hb
      have hvalue : BigEndian.value (0 :: rest) = BigEndian.value rest := by
        rw [BigEndian.value_cons]
        simp
      rw [hvalue, ← ih]
      rfl
    · have hpos : 0 < b.toNat := Nat.pos_of_ne_zero fun h => hb (UInt8.toNat_inj.mp h)
      have hlow : 256 ^ rest.length ≤ BigEndian.value (b :: rest) := by
        rw [BigEndian.value_cons]
        exact Nat.le_add_right_of_le (Nat.le_mul_of_pos_left _ hpos)
      have hwidth : byteLen (BigEndian.value (b :: rest)) = (b :: rest).length := by
        have hup := (byteLen_le_iff _ _).mpr (BigEndian.value_lt (b :: rest))
        have hmin := (byteLen_le_iff (BigEndian.value (b :: rest)) rest.length).not.mpr
          (Nat.not_lt.mpr hlow)
        rw [List.length_cons] at hup ⊢
        omega
      rw [hwidth, BigEndian.bytes_value]
      exact List.dropWhile_cons_of_neg (by simpa using hb)

theorem packInteger_eq :
    packInteger n =
      if n < 256 ^ 4 then .ok (BigEndian.bytes (byteLen n) n) else .error .structError := by
  unfold packInteger packLong
  split_ifs with h
  · rw [Except.map, lstrip_eq, BigEndian.value_bytes 4 n h]
  · rfl

end Integers

section Values

/-- The fields of a block that its integer keeps apart. -/
def BlockwiseTuple.InRange (v : BlockwiseTuple) : Prop := v.more ≤ 1 ∧ v.sizeExponent ≤ 7

instance (v : BlockwiseTuple) : Decidable v.InRange := inferInstanceAs (Decidable (_ ∧ _))

theorem inRange_ofInteger (n : ℕ) : (BlockwiseTuple.ofInteger n).InRange := by
  constructor
  · unfold BlockwiseTuple.ofInteger
    dsimp only
    split_ifs <;> omega
  · exact Nat.and_le_right

theorem ofInteger_asInteger_iff (v : BlockwiseTuple) :
    BlockwiseTuple.ofInteger v.asInteger = v ↔ v.InRange := by
  constructor
  · intro h
    rw [← h]
    exact inRange_ofInteger _
  · rintro ⟨hmore, hsize⟩
    have hsum := asInteger_ofInteger v.asInteger
    obtain ⟨hmore', hsize'⟩ := inRange_ofInteger v.asInteger
    generalize BlockwiseTuple.ofInteger v.asInteger = w at hsum hmore' hsize'
    obtain ⟨a, b, c⟩ := v
    obtain ⟨a', b', c'⟩ := w
    simp only [BlockwiseTuple.asInteger, Nat.shiftLeft_eq] at hsum
    dsimp only at hmore hsize hmore' hsize'
    rw [BlockwiseTuple.mk.injEq]
    omega

def OptionValue.InRange : OptionValue → Prop
  | .blockOption value => value.InRange
  | _ => True

instance (v : OptionValue) : Decidable v.InRange := by
  cases v <;> unfold OptionValue.InRange <;> infer_instance

/-- The word that an integer or a block is packed into. -/
def OptionValue.word : OptionValue → ℕ
  | .uintOption value => value
  | .blockOption value => value.asInteger
  | _ => 0

/-- The bytes of a value that is encoded. -/
def OptionValue.data : OptionValue → Bytes
  | .stringOption value => encodeUtf8 value
  | .opaqueOption value => value
  | .uintOption value => BigEndian.bytes (byteLen value) value
  | .blockOption value => BigEndian.bytes (byteLen value.asInteger) value.asInteger

theorem encode_eq (v : OptionValue) :
    v.encode = if v.word < 256 ^ 4 then .ok v.data else .error .structError := by
  cases v with
  | stringOption value => rfl
  | opaqueOption value => rfl
  | uintOption value => exact packInteger_eq value
  | blockOption value => exact packInteger_eq value.asInteger

theorem decode_data_iff (v : OptionValue) : v.format.decode v.data = .ok v ↔ v.InRange := by
  cases v with
  | stringOption value =>
    refine iff_of_true ?_ trivial
    change (decodeUtf8 (encodeUtf8 value)).map OptionValue.stringOption = _
    rw [decodeUtf8_encodeUtf8]
    rfl
  | opaqueOption value => exact iff_of_true rfl trivial
  | uintOption value =>
    refine iff_of_true ?_ trivial
    change Except.ok (OptionValue.uintOption (BigEndian.value (BigEndian.bytes _ value))) = _
    rw [BigEndian.value_bytes _ _ (lt_pow_byteLen value)]
  | blockOption value =>
    change Except.ok (OptionValue.blockOption (.ofInteger (BigEndian.value
      (BigEndian.bytes _ value.asInteger)))) = _ ↔ value.InRange
    rw [BigEndian.value_bytes _ _ (lt_pow_byteLen _), ← ofInteger_asInteger_iff]
    simp

theorem decode_inRange (format : Format) (rawdata : Bytes) (v : OptionValue)
    (h : format.decode rawdata = .ok v) : v.InRange := by
  cases format
  case stringOption =>
    simp only [Format.decode, Except.map] at h
    split at h
    · cases h
    · cases h
      trivial
  case blockOption =>
    cases h
    exact inRange_ofInteger _
  all_goals
    cases h
    trivial

end Values

end BubotCoap.OptionTypes
