import BubotCoap.BigEndian
import BubotCoap.PythonData
import Mathlib.Data.Nat.Size

set_option autoImplicit false

namespace BubotCoap.Utils
open PythonData

inductive HashArg where
  | str (t : Text)
  | int (n : ℤ)
  | bytes (b : Bytes)
  | other
  deriving DecidableEq, Repr

/-- Keys of the exchange tables: a hashed text, or for multicast the bare id. Hashing is taken
as injective, so a hashed key is its text. -/
inductive Key where
  | hash (text : Text)
  | mid (mid : Option ℤ)
  | token (token : Option Bytes)
  deriving DecidableEq, Repr

def renderArg : HashArg → Text
  | .str t => lower t
  | .int n => lower (integerText n)
  | .bytes b => hexlify b
  | .other => []

/-- Convert each argument to a lower case string, appended, then hash. -/
def strAppendHash (args : List HashArg) : Key := .hash (args.flatMap renderArg)

/-- A message id or token as it is passed to `str_append_hash`; `None` adds nothing. -/
def midArg : Option ℤ → HashArg
  | some n => .int n
  | none => .other

def tokenArg : Option Bytes → HashArg
  | some b => .bytes b
  | none => .other

def key (address : Text × ℕ) (id : HashArg) : Key :=
  strAppendHash [.str address.1, .int address.2, id]

/-- The loop of `byte_len`; `fuel` bounds the number of shifts. -/
def byteLenLoop : ℕ → ℕ → ℕ → ℕ
  | 0, _, length => length
  | fuel + 1, intType, length =>
    if intType = 0 then length else byteLenLoop fuel (intType >>> 1) (length + 1)

def byteLen (intType : ℕ) : ℕ :=
  let length := byteLenLoop intType intType 0
  if length > 0 then
    if length % 8 ≠ 0 then length / 8 + 1 else length / 8
  else length

/-- Number, more-flag and size of a block option value; masking `None` is a type error. -/
def parseBlockwise : Value → Except PyErr (ℕ × ℕ × ℕ)
  | .int value =>
    let length := byteLen value
    if length = 1 then
      .ok ((value &&& 0xF0) >>> 4, (value &&& 0x08) >>> 3, 2 ^ ((value &&& 0x07) + 4))
    else if length = 2 then
      .ok ((value &&& 0xFFF0) >>> 4, (value &&& 0x0008) >>> 3, 2 ^ ((value &&& 0x0007) + 4))
    else
      .ok ((value &&& 0xFFFFF0) >>> 4, (value &&& 0x000008) >>> 3,
        2 ^ ((value &&& 0x000007) + 4))
  | _ => .error .typeError

theorem byteLenLoop_eq (fuel n length : ℕ) (h : n ≤ fuel) :
    byteLenLoop fuel n length = length + n.size := by
  induction fuel generalizing n length with
  | zero =>
    have : n = 0 := by omega
    simp [this, byteLenLoop]
  | succ fuel ih =>
    by_cases hn : n = 0
    · simp [hn, byteLenLoop]
    · have hshift : n >>> 1 ≤ fuel := by
        rw [Nat.shiftRight_eq_div_pow]
        omega
      have hsize : n.size = (n >>> 1).size + 1 := by
        conv_lhs => rw [← Nat.bit_testBit_zero_shiftRight_one n]
        apply Nat.size_bit
        rw [Nat.bit_testBit_zero_shiftRight_one]
        exact hn
      rw [byteLenLoop, if_neg hn, ih _ _ hshift, hsize]
      omega

theorem byteLen_eq (n : ℕ) : byteLen n = (n.size + 7) / 8 := by
  unfold byteLen
  rw [byteLenLoop_eq n n 0 le_rfl, Nat.zero_add]
  dsimp only
  split
  · split <;> omega
  · omega

theorem byteLen_le_iff (n k : ℕ) : byteLen n ≤ k ↔ n < 256 ^ k := by
  have hpow : (256 : ℕ) ^ k = 2 ^ (8 * k) := by rw [pow_mul]; norm_num
  rw [byteLen_eq, hpow, ← Nat.size_le]
  omega

theorem lt_pow_byteLen (n : ℕ) : n < 256 ^ byteLen n := (byteLen_le_iff n _).mp le_rfl

theorem byteLen_eq_zero_iff (n : ℕ) : byteLen n = 0 ↔ n = 0 := by
  have h := byteLen_le_iff n 0
  rw [pow_zero] at h
  omega

end BubotCoap.Utils
