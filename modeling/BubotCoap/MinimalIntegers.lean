import BubotCoap.OptionWire
import Mathlib.Order.Bounds.Basic

set_option autoImplicit false

namespace BubotCoap.MinimalIntegers
open PythonData Utils Serializer OptionWire

/-- The double nearest to a natural number; of two, the one with the even significand. -/
def nearestDouble (n : ℕ) : ℕ :=
  let shift := n.size - 53
  let significand := n >>> shift
  let rest := n % 2 ^ shift
  let up := 2 ^ shift < 2 * rest ∨ (2 ^ shift = 2 * rest ∧ significand % 2 = 1)
  (if up then significand + 1 else significand) <<< shift

theorem nearestDouble_eq (n : ℕ) (h : n < 2 ^ 53) : nearestDouble n = n := by
  have hshift : n.size - 53 = 0 := by
    have := Nat.size_le.mpr h
    omega
  unfold nearestDouble
  rw [hshift]
  simp [Nat.mod_one]

/-- `byte_len` with the division as it is written. Dividing a double by eight is exact, so
`int(length / 8)` is the rounded length divided by eight. -/
def byteLenRounded (intType : ℕ) : ℕ :=
  let length := byteLenLoop intType intType 0
  if length > 0 then
    if length % 8 ≠ 0 then nearestDouble length / 8 + 1 else nearestDouble length / 8
  else length

theorem byteLenRounded_eq (n : ℕ) (h : n.size < 2 ^ 53) : byteLenRounded n = byteLen n := by
  have hloop : byteLenLoop n n 0 = n.size := by rw [byteLenLoop_eq n n 0 le_rfl, Nat.zero_add]
  unfold byteLenRounded byteLen
  rw [hloop]
  dsimp only
  rw [nearestDouble_eq n.size h]

theorem byteLen_isLeast (n : ℕ) : IsLeast {k | n < 256 ^ k} (byteLen n) := by
  constructor
  · exact lt_pow_byteLen n
  · intro k hk
    exact (byteLen_le_iff n k).mpr hk

theorem bytes_head (n : ℕ) (h : 0 < n) :
    ∃ first rest, BigEndian.bytes (byteLen n) n = first :: rest ∧ first ≠ 0 := by
  have hpos : byteLen n ≠ 0 := (byteLen_eq_zero_iff n).not.mpr (by omega)
  cases hbytes : BigEndian.bytes (byteLen n) n with
  | nil =>
    have hlength := BigEndian.bytes_length (byteLen n) n
    rw [hbytes] at hlength
    exact absurd hlength.symm hpos
  | cons first rest =>
    refine ⟨first, rest, rfl, ?_⟩
    rintro rfl
    have hvalue : BigEndian.value (0 :: rest) = n := by
      rw [← hbytes]
      exact BigEndian.value_bytes _ n (lt_pow_byteLen n)
    have hrest : BigEndian.value rest = n := hvalue
    have hlength : rest.length + 1 = byteLen n := by
      rw [← BigEndian.bytes_length (byteLen n) n, hbytes, List.length_cons]
    have hlt : n < 256 ^ rest.length := by
      rw [← hrest]
      exact BigEndian.value_lt rest
    have := (byteLen_le_iff n rest.length).mpr hlt
    omega

theorem foldl_words (bs : List UInt8) :
    (bs.map UInt8.toNat).foldl (fun value b => (value <<< 8) ||| b) 0 = BigEndian.value bs := by
  rw [List.foldl_map]
  exact BigEndian.foldl_shift_or bs

/-- An integer is split into the fewest words of one byte that hold it, and read back from them. -/
theorem minimal_words (n : ℕ) (h : n.size < 2 ^ 53) :
    IsLeast {k | n < 256 ^ k} (byteLenRounded n) ∧
    ∃ words, intToWords n (byteLenRounded n) 8 = .ok words ∧
      words.length = byteLenRounded n ∧ (∀ word ∈ words, word ≤ 255) ∧
      (0 < n → ∃ first rest, words = first :: rest ∧ first ≠ 0) ∧
      words.foldl (fun value b => (value <<< 8) ||| b) 0 = n := by
  rw [byteLenRounded_eq n h]
  refine ⟨byteLen_isLeast n, _, intToWords_byteLen n, ?_, ?_, ?_, ?_⟩
  · rw [List.length_map, BigEndian.bytes_length]
  · intro word hword
    obtain ⟨b, _, rfl⟩ := List.mem_map.mp hword
    have := b.toNat_lt
    omega
  · intro hpos
    obtain ⟨first, rest, hbytes, hne⟩ := bytes_head n hpos
    refine ⟨first.toNat, rest.map UInt8.toNat, by rw [hbytes, List.map_cons], ?_⟩
    intro hzero
    exact hne (UInt8.toNat_inj.mp hzero)
  · rw [foldl_words]
    exact BigEndian.value_bytes _ n (lt_pow_byteLen n)

theorem minimal_words_boundary :
    Nat.size 65536 < 2 ^ 53 ∧ byteLenRounded 65536 = 3 ∧
      ∃ words, intToWords 65536 (byteLenRounded 65536) 8 = .ok words ∧
        words.foldl (fun value b => (value <<< 8) ||| b) 0 = 65536 := by
  have hsize : Nat.size 65536 < 2 ^ 53 := by decide +kernel
  obtain ⟨_, words, hwords, _, _, _, hfold⟩ := minimal_words 65536 hsize
  exact ⟨hsize, by decide +kernel, words, hwords, hfold⟩

end BubotCoap.MinimalIntegers
