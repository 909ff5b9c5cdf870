import BubotCoap.LowerCase
import Mathlib.Algebra.Group.Nat.Defs
import Mathlib.Data.List.Basic

set_option autoImplicit false

namespace BubotCoap.PythonData

abbrev Bytes := List UInt8

abbrev Text := List Char

/-- The exception classes by which handlers tell failures apart. -/
inductive PyErr where
  | attributeError
  | typeError
  | valueError
  | overflowError
  | keyError
  | indexError
  | assertionError
  | structError
  | unicodeDecodeError
  | notImplementedError
  deriving DecidableEq, Repr

/-- A dynamically typed attribute. Integers are the non-negative ones. -/
inductive Value where
  | none
  | int (n : ℕ)
  | bytes (b : Bytes)
  | str (t : Text)
  deriving DecidableEq, Repr

/-- `xs[i:j]` for non-negative bounds: a bound past the end is cut, not an error. -/
def slice {α : Type*} (xs : List α) (i j : ℕ) : List α := (xs.drop i).take (j - i)

/-- `xs[i]` on a sequence. -/
def item {α : Type*} (xs : List α) (i : ℕ) : Except PyErr α :=
  match xs[i]? with
  | some x => .ok x
  | none => .error .indexError

/-- `n.to_bytes(1, "big")` and the other fixed widths fail on larger numbers. -/
def fits (width n : ℕ) : Except PyErr Unit :=
  if n < 256 ^ width then .ok () else .error .overflowError

def encodeUtf8 (t : Text) : Bytes := t.flatMap String.utf8EncodeChar

/-- `bytes.decode("utf-8")`. -/
def decodeUtf8 (b : Bytes) : Except PyErr Text :=
  match b.toByteArray.utf8Decode? with
  | some cs => .ok cs.toList
  | none => .error .unicodeDecodeError

def hexDigit (n : ℕ) : Char := Nat.digitChar n

/-- `binascii.hexlify`: two lower-case digits a byte. -/
def hexlify (b : Bytes) : Text :=
  b.flatMap fun x => [hexDigit (x.toNat / 16), hexDigit (x.toNat % 16)]

/-- `str(n)` for a non-negative integer. -/
def decimal (n : ℕ) : Text := Nat.toDigits 10 n

/-- `str(n)`. -/
def integerText : ℤ → Text
  | .ofNat n => decimal n
  | .negSucc n => '-' :: decimal (n + 1)

/-- `str.lower`. -/
def lower (t : Text) : Text := LowerCase.lowerLoop [] t

/-- One byte of `repr(b)` between the given quotes. -/
def reprByte (quote : Char) (x : UInt8) : Text :=
  let n := x.toNat
  if n = 92 then ['\\', '\\']
  else if n = quote.toNat then ['\\', quote]
  else if n = 9 then ['\\', 't']
  else if n = 10 then ['\\', 'n']
  else if n = 13 then ['\\', 'r']
  else if 32 ≤ n ∧ n < 127 then [Char.ofNat n]
  else ['\\', 'x', hexDigit (n / 16), hexDigit (n % 16)]

/-- `str(b)` of a byte string is its literal: single quotes, unless the string
holds a single quote and no double one. -/
def reprBytes (b : Bytes) : Text :=
  let quote := if 39 ∈ b ∧ 34 ∉ b then '"' else '\''
  ['b', quote] ++ b.flatMap (reprByte quote) ++ [quote]

theorem ok_bind {ε α β : Type} (a : α) (f : α → Except ε β) : (Except.ok a >>= f) = f a := rfl

theorem bind_eq_ok {ε α β : Type} (x : Except ε α) (f : α → Except ε β) (b : β) :
    (x >>= f) = .ok b ↔ ∃ a, x = .ok a ∧ f a = .ok b := by
  cases x with
  | error e => simp [bind, Except.bind]
  | ok a => simp [bind, Except.bind]

theorem slice_append {α : Type*} (xs ys zs : List α) (i n : ℕ) (hi : xs.length = i)
    (hn : ys.length = n) : slice (xs ++ (ys ++ zs)) i (i + n) = ys := by
  subst hi hn
  simp [slice]

theorem item_append {α : Type*} (xs zs : List α) (y : α) (i : ℕ) (hi : xs.length = i) :
    item (xs ++ y :: zs) i = .ok y := by
  subst hi
  simp [item]

theorem utf8Encode_eq (t : Text) : t.utf8Encode = (encodeUtf8 t).toByteArray := rfl

theorem decodeUtf8_encodeUtf8 (t : Text) : decodeUtf8 (encodeUtf8 t) = .ok t := by
  unfold decodeUtf8
  rw [← utf8Encode_eq, List.utf8Decode?_utf8Encode]

theorem encodeUtf8_of_decodeUtf8 (b : Bytes) (t : Text) (h : decodeUtf8 b = .ok t) :
    encodeUtf8 t = b := by
  unfold decodeUtf8 at h
  split at h
  · next cs hcs =>
    cases h
    have hsome : b.toByteArray.utf8Decode?.isSome := by rw [hcs]; rfl
    have hbytes : cs.toList.utf8Encode = b.toByteArray := by
      have hget := ByteArray.utf8Encode_get_utf8Decode? (b := b.toByteArray) (h := hsome)
      simpa only [hcs, Option.get_some] using hget
    rw [utf8Encode_eq] at hbytes
    exact List.toByteArray_inj.mp hbytes
  · cases h

def IsAscii (t : Text) : Prop := ∀ c ∈ t, c.toNat < 128

instance (t : Text) : Decidable (IsAscii t) :=
  List.decidableBAll _ t

theorem lower_ascii (t : Text) (h : IsAscii t) : lower t = t.map Char.toLower :=
  LowerCase.lowerLoop_ascii [] t h

theorem encodeUtf8_cons_length (c : Char) (t : Text) :
    (encodeUtf8 (c :: t)).length = c.utf8Size + (encodeUtf8 t).length := by
  have happ : encodeUtf8 (c :: t) = String.utf8EncodeChar c ++ encodeUtf8 t := rfl
  rw [happ, List.length_append, String.length_utf8EncodeChar]

theorem length_le_encodeUtf8 (t : Text) : t.length ≤ (encodeUtf8 t).length := by
  induction t with
  | nil => exact Nat.le_refl 0
  | cons c t ih =>
    have hc := Char.utf8Size_pos c
    rw [encodeUtf8_cons_length, List.length_cons]
    omega

/-- A text has as many bytes as characters exactly if every character is ASCII. -/
theorem encodeUtf8_length_eq_iff (t : Text) : (encodeUtf8 t).length = t.length ↔ IsAscii t := by
  induction t with
  | nil => exact iff_of_true rfl fun c hc => absurd hc List.not_mem_nil
  | cons c t ih =>
    have hpos := Char.utf8Size_pos c
    have hle := length_le_encodeUtf8 t
    have hone : c.utf8Size = 1 ↔ c.toNat < 128 := by
      rw [Char.utf8Size_eq_one_iff, UInt32.le_iff_toNat_le]
      exact Nat.lt_succ_iff.symm
    have hcons : IsAscii (c :: t) ↔ c.toNat < 128 ∧ IsAscii t := List.forall_mem_cons
    rw [encodeUtf8_cons_length, List.length_cons, hcons, ← hone, ← ih]
    omega

theorem encodeUtf8_length_of_ascii (t : Text) (h : IsAscii t) :
    (encodeUtf8 t).length = t.length := (encodeUtf8_length_eq_iff t).mpr h

end BubotCoap.PythonData
