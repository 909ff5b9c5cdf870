import BubotCoap.OrderedDict
import BubotCoap.Utils

set_option autoImplicit false

namespace BubotCoap.ExchangeKeys
open PythonData Utils OrderedDict

/-- The text all keys of an endpoint start with. -/
def endpointText (e : Text × ℕ) : Text := renderArg (.str e.1) ++ renderArg (.int e.2)

/-- Message ids of two bytes, tokens the setter accepts, or no id at all. -/
def ValidId : HashArg → Prop
  | .int n => 0 ≤ n ∧ n ≤ 65535
  | .bytes b => b.length ≤ 256
  | .other => True
  | .str _ => False

def IsHex (t : Text) : Prop := ∀ c ∈ t, ∃ n < 16, c = hexDigit n

theorem key_eq_iff (e₁ e₂ : Text × ℕ) (id₁ id₂ : HashArg) :
    key e₁ id₁ = key e₂ id₂ ↔
      endpointText e₁ ++ renderArg id₁ = endpointText e₂ ++ renderArg id₂ := by
  simp [key, strAppendHash, endpointText]

theorem hexDigit_injective (m n : ℕ) (hm : m < 16) (hn : n < 16) (h : hexDigit m = hexDigit n) :
    m = n := by
  have key : ∀ m < 16, ∀ n < 16, hexDigit m = hexDigit n → m = n := by decide
  exact key m hm n hn h

theorem hexlify_cons (x : UInt8) (b : Bytes) :
    hexlify (x :: b) = hexDigit (x.toNat / 16) :: hexDigit (x.toNat % 16) :: hexlify b := rfl

theorem hexlify_injective (b c : Bytes) (h : hexlify b = hexlify c) : b = c := by
  induction b generalizing c with
  | nil =>
    cases c with
    | nil => rfl
    | cons y c => exact absurd h (by rw [hexlify_cons]; exact (List.cons_ne_nil _ _).symm)
  | cons x b ih =>
    cases c with
    | nil => exact absurd h (by rw [hexlify_cons]; exact List.cons_ne_nil _ _)
    | cons y c =>
      rw [hexlify_cons, hexlify_cons, List.cons.injEq, List.cons.injEq] at h
      obtain ⟨hhigh, hlow, htail⟩ := h
      have hx := x.toNat_lt
      have hy := y.toNat_lt
      have h₁ := hexDigit_injective _ _ (by omega) (by omega) hhigh
      have h₂ := hexDigit_injective _ _ (by omega) (by omega) hlow
      have hxy : x = y := UInt8.toNat_inj.mp (by omega)
      rw [hxy, ih c htail]

theorem hexlify_isHex (b : Bytes) : IsHex (hexlify b) := by
  intro c hc
  obtain ⟨x, _, hx⟩ := List.mem_flatMap.mp hc
  have := x.toNat_lt
  simp only [List.mem_cons, List.not_mem_nil, or_false] at hx
  rcases hx with rfl | rfl
  · exact ⟨x.toNat / 16, by omega, rfl⟩
  · exact ⟨x.toNat % 16, by omega, rfl⟩

theorem hexlify_length (b : Bytes) : (hexlify b).length = 2 * b.length := by
  induction b with
  | nil => rfl
  | cons x b ih =>
    rw [hexlify_cons, List.length_cons, List.length_cons, List.length_cons, ih]
    omega

theorem exists_hexlify (k : ℕ) (t : Text) (h : IsHex t) (hlen : t.length = 2 * k) :
    ∃ b : Bytes, hexlify b = t ∧ b.length = k := by
  induction k generalizing t with
  | zero =>
    have : t = [] := List.length_eq_zero_iff.mp (by omega)
    exact ⟨[], by rw [this]; rfl, rfl⟩
  | succ k ih =>
    match t, hlen with
    | c :: d :: t, hlen =>
      obtain ⟨m, hm, hc⟩ := h c (by simp)
      obtain ⟨n, hn, hd⟩ := h d (by simp)
      obtain ⟨b, hb, hbk⟩ := ih t (fun e he => h e (by simp [he])) (by
        simp only [List.length_cons] at hlen
        omega)
      have hbyte : (UInt8.ofNat (16 * m + n)).toNat = 16 * m + n := by
        rw [UInt8.toNat_ofNat']
        omega
      refine ⟨UInt8.ofNat (16 * m + n) :: b, ?_, by rw [List.length_cons, hbk]⟩
      rw [hexlify_cons, hbyte, hb, hc, hd]
      have h₁ : (16 * m + n) / 16 = m := by omega
      have h₂ : (16 * m + n) % 16 = n := by omega
      rw [h₁, h₂]

theorem digit_cases (c : Char) (h : c.isDigit = true) : ∃ n < 10, c = hexDigit n := by
  have hdigit : ∀ n < 10, (hexDigit n).toNat = 48 + n := by decide
  rw [Char.isDigit, Bool.and_eq_true, decide_eq_true_eq, decide_eq_true_eq] at h
  have hlow : 48 ≤ c.toNat := UInt32.le_iff_toNat_le.mp h.1
  have hhigh : c.toNat ≤ 57 := UInt32.le_iff_toNat_le.mp h.2
  refine ⟨c.toNat - 48, by omega, ?_⟩
  apply Char.ext
  apply UInt32.toNat_inj.mp
  change c.toNat = (hexDigit (c.toNat - 48)).toNat
  rw [hdigit _ (by omega)]
  omega

theorem integerText_cases (z : ℤ) (c : Char) (h : c ∈ integerText z) :
    c = '-' ∨ ∃ k < 10, c = hexDigit k := by
  have hdecimal : ∀ n, c ∈ decimal n → ∃ k < 10, c = hexDigit k := fun n hc =>
    digit_cases c (Nat.isDigit_of_mem_toDigits (by omega) (by omega) hc)
  cases z with
  | ofNat n => exact Or.inr (hdecimal n h)
  | negSucc n =>
    rcases List.mem_cons.mp h with rfl | h
    · exact Or.inl rfl
    · exact Or.inr (hdecimal (n + 1) h)

theorem renderArg_int (z : ℤ) : renderArg (.int z) = integerText z := by
  have hdigits : ∀ k < 10, (hexDigit k).toNat < 128 ∧ (hexDigit k).toLower = hexDigit k := by
    decide
  have hsame : ∀ c ∈ integerText z, c.toNat < 128 ∧ c.toLower = c := by
    intro c hc
    rcases integerText_cases z c hc with rfl | ⟨k, hk, rfl⟩
    · decide
    · exact hdigits k hk
  change lower (integerText z) = integerText z
  rw [lower_ascii _ fun c hc => (hsame c hc).1, List.map_congr_left (g := id), List.map_id]
  exact fun c hc => (hsame c hc).2

theorem renderArg_nat (n : ℕ) : renderArg (.int n) = decimal n := renderArg_int n

theorem decimal_isHex (n : ℕ) : IsHex (decimal n) := by
  intro c hc
  obtain ⟨k, hk, hck⟩ := digit_cases c (Nat.isDigit_of_mem_toDigits (by omega) (by omega) hc)
  exact ⟨k, by omega, hck⟩

theorem decimal_injective (m n : ℕ) (h : decimal m = decimal n) : m = n := by
  have := congrArg (fun t => Nat.ofDigitChars 10 t 0) h
  simpa only [decimal, Nat.ofDigitChars_ten_toDigits] using this

theorem integerText_injective (m n : ℤ) (h : integerText m = integerText n) : m = n := by
  have hminus : ∀ k < 10, hexDigit k ≠ '-' := by decide
  have hsign : ∀ k t, decimal k ≠ '-' :: t := by
    intro k t hk
    have hmem : '-' ∈ Nat.toDigits 10 k := by
      change '-' ∈ decimal k
      rw [hk]
      exact List.mem_cons_self
    obtain ⟨d, hd, hc⟩ := digit_cases '-' (Nat.isDigit_of_mem_toDigits (by omega) (by omega) hmem)
    exact hminus d hd hc.symm
  cases m with
  | ofNat m =>
    cases n with
    | ofNat n => exact congrArg Int.ofNat (decimal_injective m n h)
    | negSucc n => exact absurd h (hsign m _)
  | negSucc m =>
    cases n with
    | ofNat n => exact absurd h.symm (hsign n _)
    | negSucc n =>
      have hsame := decimal_injective _ _ (List.cons.inj h).2
      rw [Nat.succ.inj hsame]

theorem integerText_ne_nil (z : ℤ) : renderArg (.int z) ≠ [] := by
  rw [renderArg_int]
  cases z with
  | ofNat n => exact Nat.toDigits_ne_nil
  | negSucc n => exact List.cons_ne_nil _ _

theorem renderArg_isHex (id : HashArg) (h : ValidId id) :
    IsHex (renderArg id) ∧ (renderArg id).length ≤ 512 := by
  cases id with
  | str t => exact h.elim
  | other => exact ⟨by simp [IsHex, renderArg], by simp [renderArg]⟩
  | int n =>
    obtain ⟨hpos, hle⟩ : 0 ≤ n ∧ n ≤ 65535 := h
    lift n to ℕ using hpos
    have hlen : (decimal n).length ≤ 5 :=
      (Nat.length_toDigits_le_iff (by omega) (by omega)).mpr (by omega)
    rw [renderArg_nat]
    exact ⟨decimal_isHex n, by omega⟩
  | bytes b =>
    have hlen : b.length ≤ 256 := h
    rw [renderArg]
    exact ⟨hexlify_isHex b, by rw [hexlify_length]; omega⟩

/-- Different tokens of an endpoint, and different message ids, have different keys. -/
structure Separated (e : Text × ℕ) : Prop where
  tokens : ∀ t₁ t₂ : Bytes, key e (.bytes t₁) = key e (.bytes t₂) → t₁ = t₂
  mids : ∀ m₁ m₂ : ℤ, key e (.int m₁) = key e (.int m₂) → m₁ = m₂

/-- The text of one endpoint is that of the other with at most 512 more hexadecimal digits. -/
def Overlap (e₁ e₂ : Text × ℕ) : Prop :=
  ∃ s, IsHex s ∧ s.length ≤ 512 ∧
    (endpointText e₁ = endpointText e₂ ++ s ∨ endpointText e₂ = endpointText e₁ ++ s)

theorem clash_of_continuation (e₁ e₂ : Text × ℕ) (s : Text) (hs : IsHex s)
    (hlen : s.length ≤ 512) (h : endpointText e₁ = endpointText e₂ ++ s) :
    ∃ id₁ id₂, ValidId id₁ ∧ ValidId id₂ ∧ key e₁ id₁ = key e₂ id₂ := by
  by_cases heven : s.length % 2 = 0
  · obtain ⟨b, hb, hblen⟩ := exists_hexlify (s.length / 2) s hs (by omega)
    refine ⟨.other, .bytes b, trivial, ?_, ?_⟩
    · change b.length ≤ 256
      omega
    · rw [key_eq_iff, h, renderArg, renderArg, hb, List.append_nil]
  · -- one more digit, that of message id 0, makes the number of digits even
    have hzero : renderArg (.int 0) = ['0'] := by decide
    have hs' : IsHex (s ++ ['0']) := by
      intro c hc
      rcases List.mem_append.mp hc with hc | hc
      · exact hs c hc
      · exact ⟨0, by omega, by rw [List.mem_singleton.mp hc]; rfl⟩
    obtain ⟨b, hb, hblen⟩ := exists_hexlify ((s.length + 1) / 2) (s ++ ['0']) hs' (by
      rw [List.length_append, List.length_singleton]
      omega)
    refine ⟨.int 0, .bytes b, ?_, ?_, ?_⟩
    · exact ⟨by omega, by omega⟩
    · change b.length ≤ 256
      omega
    · rw [key_eq_iff, h, hzero, renderArg, hb, List.append_assoc]

theorem continuation_of_clash (e₁ e₂ : Text × ℕ) (id₁ id₂ : HashArg) (h₁ : ValidId id₁)
    (h₂ : ValidId id₂) (h : key e₁ id₁ = key e₂ id₂) : Overlap e₁ e₂ := by
  rw [key_eq_iff] at h
  obtain ⟨hhex₁, hlen₁⟩ := renderArg_isHex id₁ h₁
  obtain ⟨hhex₂, hlen₂⟩ := renderArg_isHex id₂ h₂
  rcases List.append_eq_append_iff.mp h with ⟨s, hs, hr⟩ | ⟨s, hs, hr⟩
  · rw [hr] at hhex₁ hlen₁
    rw [List.length_append] at hlen₁
    exact ⟨s, fun c hc => hhex₁ c (List.mem_append_left _ hc), by omega, Or.inr hs⟩
  · rw [hr] at hhex₂ hlen₂
    rw [List.length_append] at hlen₂
    exact ⟨s, fun c hc => hhex₂ c (List.mem_append_left _ hc), by omega, Or.inl hs⟩

theorem overlap_iff (e₁ e₂ : Text × ℕ) :
    Overlap e₁ e₂ ↔ ∃ id₁ id₂, ValidId id₁ ∧ ValidId id₂ ∧ key e₁ id₁ = key e₂ id₂ := by
  constructor
  · rintro ⟨s, hs, hlen, h | h⟩
    · exact clash_of_continuation e₁ e₂ s hs hlen h
    · obtain ⟨id₂, id₁, h₂, h₁, heq⟩ := clash_of_continuation e₂ e₁ s hs hlen h
      exact ⟨id₁, id₂, h₁, h₂, heq.symm⟩
  · rintro ⟨id₁, id₂, h₁, h₂, heq⟩
    exact continuation_of_clash e₁ e₂ id₁ id₂ h₁ h₂ heq

theorem separated (e : Text × ℕ) : Separated e := by
  refine ⟨?_, ?_⟩
  · intro t₁ t₂ h
    rw [key_eq_iff] at h
    exact hexlify_injective t₁ t₂ (List.append_cancel_left h)
  · intro m₁ m₂ h
    rw [key_eq_iff] at h
    have hrender := List.append_cancel_left h
    rw [renderArg_int, renderArg_int] at hrender
    exact integerText_injective m₁ m₂ hrender

end BubotCoap.ExchangeKeys
