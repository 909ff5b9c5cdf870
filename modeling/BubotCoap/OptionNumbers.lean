import BubotCoap.Defines
import BubotCoap.OptionTypes

set_option autoImplicit false

namespace BubotCoap.OptionNumbers
open PythonData Defines OptionTypes

def isCritical (number : ℕ) : Bool := decide (number &&& 0x01 = 0x01)

def isUnsafe (number : ℕ) : Bool := decide (number &&& 0x02 = 0x02)

def isNocachekey (number : ℕ) : Except PyErr Bool :=
  if isUnsafe number then .error .valueError else .ok (decide (number &&& 0x1e = 0x1c))

/-- The numbers whose format is set. -/
def formats : List (ℕ × Format) :=
  [(1, .opaqueOption), (3, .stringOption), (4, .opaqueOption), (7, .uintOption),
    (8, .stringOption), (11, .stringOption), (12, .uintOption), (14, .uintOption),
    (15, .stringOption), (17, .uintOption), (20, .stringOption), (35, .stringOption),
    (39, .stringOption), (60, .uintOption), (23, .blockOption), (27, .blockOption),
    (28, .uintOption), (6, .uintOption), (258, .uintOption), (9, .opaqueOption),
    (252, .opaqueOption), (292, .opaqueOption), (548, .opaqueOption), (2049, .uintOption),
    (2053, .uintOption)]

def format (number : ℕ) : Format := (formats.lookup number).getD .opaqueOption

/-- An option of the class that belongs to its number. -/
structure OptionType where
  number : ℕ
  value : OptionValue
  typed : value.format = format number
  deriving DecidableEq, Repr

/-- `create_option` with bytes to be decoded. -/
def createOption (number : ℕ) (decode : Bytes) : Except PyErr OptionType :=
  match h : (format number).decode decode with
  | .error e => .error e
  | .ok value => .ok ⟨number, value, decode_format _ _ _ h⟩

theorem createOption_ok (number : ℕ) (decode : Bytes) (value : OptionValue)
    (h : (format number).decode decode = .ok value) :
    createOption number decode = .ok ⟨number, value, decode_format _ _ _ h⟩ := by
  unfold createOption
  split
  · next e he =>
    rw [h] at he
    cases he
  · next value' hvalue =>
    rw [h] at hvalue
    cases hvalue
    rfl

theorem createOption_eq_ok_iff (number : ℕ) (decode : Bytes) (o : OptionType) :
    createOption number decode = .ok o ↔
      o.number = number ∧ (format number).decode decode = .ok o.value := by
  constructor
  · intro h
    cases hvalue : (format number).decode decode with
    | error e =>
      unfold createOption at h
      split at h
      · cases h
      · next value hok =>
        rw [hvalue] at hok
        cases hok
    | ok value =>
      rw [createOption_ok number decode value hvalue] at h
      cases h
      exact ⟨rfl, rfl⟩
  · rintro ⟨rfl, h⟩
    rw [createOption_ok o.number decode o.value h]

section Flags

theorem and_low (n m : ℕ) (hm : m < 256) : n % 256 &&& m = n &&& m := by
  have hmask : m = m &&& (2 ^ 8 - 1) := by
    rw [Nat.and_two_pow_sub_one_eq_mod]
    omega
  rw [show n % 256 = n &&& (2 ^ 8 - 1) from (Nat.and_two_pow_sub_one_eq_mod n 8).symm,
    Nat.and_assoc, Nat.and_comm (2 ^ 8 - 1) m, ← hmask]

theorem optByte_and (n b m : ℕ) (h : OptionRegistry.optByte n = some b) (hm : m < 256) :
    b &&& m = n &&& m := by
  unfold OptionRegistry.optByte at h
  split_ifs at h
  · cases h
    rfl
  · cases h
    exact and_low n m hm

/-- The two tables of flags agree on every number that the registry's can look at. Only one of
them asks for the cache key of an option that is not safe to forward. -/
theorem getOptionFlags_eq (n : ℕ) (h : n < 65536) :
    ∃ nocachekey, OptionRegistry.getOptionFlags n = some (isCritical n, isUnsafe n, nocachekey) ∧
      isNocachekey n = if isUnsafe n then .error .valueError else .ok nocachekey := by
  obtain ⟨b, hb⟩ : ∃ b, OptionRegistry.optByte n = some b := by
    unfold OptionRegistry.optByte
    split_ifs
    · exact ⟨_, rfl⟩
    · exact ⟨_, rfl⟩
  have hbit : ∀ m, m = 1 ∨ m = 2 → (n &&& m > 0 ↔ n &&& m = m) := by
    intro m hm
    rcases hm with rfl | rfl
    · rw [Nat.and_one_is_mod]
      omega
    · rw [show (2 : ℕ) = 2 ^ 1 from rfl, Nat.and_two_pow]
      cases n.testBit 1 <;> simp
  refine ⟨decide (n &&& 0x1e = 0x1c), ?_, rfl⟩
  unfold OptionRegistry.getOptionFlags isCritical isUnsafe
  rw [hb, Option.map_some, optByte_and n b _ hb (by decide), optByte_and n b _ hb (by decide),
    optByte_and n b _ hb (by decide)]
  simp only [hbit 1 (Or.inl rfl), hbit 2 (Or.inr rfl)]

end Flags

end BubotCoap.OptionNumbers
