import BubotCoap.FallibleState
import BubotCoap.OptionNumbers
import BubotCoap.OptionSequences
import BubotCoap.OrderedDict

set_option autoImplicit false

/-!
# Header options

`messages/options.py`: the options of a message under their numbers, and the
codec that writes and reads all of them. Its errors on reading are raised as an
exception that cannot be built from a text alone, so what escapes is a type error.
-/
namespace BubotCoap.HeaderOptions
open PythonData OptionTypes OptionNumbers OptionWire OptionSequences DeserializeErrors OrderedDict
  StableSort FallibleState

def readExtendedFieldValue (value : ℕ) (rawdata : Bytes) : Except PyErr (ℕ × Bytes) :=
  if value < 13 then .ok (value, rawdata)
  else if value = 13 then
    match rawdata with
    | b :: rest => .ok (b.toNat + 13, rest)
    | [] => .error .typeError
  else if value = 14 then
    if rawdata.length < 2 then .error .typeError
    else .ok (BigEndian.value (rawdata.take 2) + 269, rawdata.drop 2)
  else .error .typeError

def writeExtendedFieldValue (value : ℕ) : Except PyErr (ℕ × Bytes) :=
  if value < 13 then .ok (value, [])
  else if value < 269 then .ok (13, BigEndian.bytes 1 (value - 13))
  else if value < 65804 then .ok (14, BigEndian.bytes 2 (value - 269))
  else .error .valueError

/-- The options under their numbers, those of one number in the order they were added. -/
structure Options where
  dict : Dict ℕ (List OptionType)
  filed : ∀ number os, dict.get? number = some os → os ≠ [] ∧ ∀ o ∈ os, o.number = number

namespace Options

def new : Options := ⟨Dict.empty, fun number os h => by cases h⟩

def getOption (s : Options) (number : ℕ) : List OptionType := (s.dict.get? number).getD []

theorem number_of_mem (s : Options) (number : ℕ) (o : OptionType) (h : o ∈ s.getOption number) :
    o.number = number := by
  unfold getOption at h
  cases hget : s.dict.get? number with
  | none =>
    rw [hget] at h
    cases h
  | some os =>
    rw [hget] at h
    exact (s.filed number os hget).2 o h

def addOption (s : Options) (o : OptionType) : Options where
  dict := s.dict.insert o.number (s.getOption o.number ++ [o])
  filed := by
    intro number os h
    rw [Dict.get?_insert] at h
    split_ifs at h with hnumber
    · cases h
      refine ⟨by simp, fun p hp => ?_⟩
      rcases List.mem_append.mp hp with hp | hp
      · rw [hnumber]
        exact s.number_of_mem o.number p hp
      · rw [List.mem_singleton.mp hp, hnumber]
    · exact s.filed number os h

/-- The number of the first of the options. -/
def firstNumber (os : List OptionType) : ℕ := (os.head?.map OptionType.number).getD 0

def optionList (s : Options) : List OptionType :=
  (sortBy firstNumber (s.dict.entries.map Prod.snd)).flatten

def encodeOption (currentOptNum : ℕ) (option : OptionType) : Except PyErr Bytes := do
  let optiondata ← option.value.encode
  let (delta, extendedDelta) ← writeExtendedFieldValue (option.number - currentOptNum)
  let (length, extendedLength) ← writeExtendedFieldValue optiondata.length
  .ok (UInt8.ofNat (((delta &&& 0x0F) <<< 4) + (length &&& 0x0F)) :: extendedDelta ++
    extendedLength ++ optiondata)

def encodeFrom (currentOptNum : ℕ) : List OptionType → Except PyErr Bytes
  | [] => .ok []
  | option :: options => do
    let data ← encodeOption currentOptNum option
    let rest ← encodeFrom option.number options
    .ok (data ++ rest)

def encode (s : Options) : Except PyErr Bytes := encodeFrom 0 s.optionList

/-- Two sets of options are compared by what they are encoded to. -/
def eq (s other : Options) : Except PyErr Bool := do
  let a ← s.encode
  let b ← other.encode
  .ok (decide (a = b))

/-- One option of the header: the option number so far goes up by the delta. -/
def decodeOption (optionNumber : ℕ) (first : UInt8) (rawdata : Bytes) :
    Except PyErr (OptionType × Bytes) := do
  let dllen := first.toNat
  let (delta, rawdata) ← readExtendedFieldValue ((dllen &&& 0xF0) >>> 4) rawdata
  let (length, rawdata) ← readExtendedFieldValue (dllen &&& 0x0F) rawdata
  if rawdata.length < length then .error .typeError
  else do
    let option ← createOption (optionNumber + delta) (rawdata.take length)
    .ok (option, rawdata.drop length)

/-- The loop of `decode`; every option takes at least one byte. -/
def decodeLoop : ℕ → ℕ → Bytes → Action PyErr Options Bytes
  | 0, _, _ => pure []
  | _, _, [] => pure []
  | fuel + 1, optionNumber, first :: rawdata =>
    if first = 0xFF then pure rawdata
    else do
      let (option, rawdata) ← Action.ofExcept (decodeOption optionNumber first rawdata)
      Action.modify fun s => s.addOption option
      decodeLoop fuel option.number rawdata

/-- Fills the options with those at the beginning of the bytes and returns the body. -/
def decode (rawdata : Bytes) : Action PyErr Options Bytes := decodeLoop rawdata.length 0 rawdata

end Options

/-- An option on the wire: its number and the bytes of its value. -/
abbrev Raw := ℕ × Bytes

def wire (last : ℕ) : List Raw → Bytes
  | [] => []
  | r :: rs => headBytes (r.1 - last) r.2.length ++ (r.2 ++ wire r.1 rs)

/-- The numbers go up, by no more than the limit, which no value is longer than. -/
def Spaced (limit last : ℕ) : List Raw → Prop
  | [] => True
  | r :: rs => last ≤ r.1 ∧ r.1 - last ≤ limit ∧ r.2.length ≤ limit ∧ Spaced limit r.1 rs

/-- What follows the options: nothing, or the marker and the body. -/
inductive Ends : Bytes → Bytes → Prop
  | done : Ends [] []
  | marker (body : Bytes) : Ends (0xFF :: body) body

def Made (o : OptionType) (r : Raw) : Prop := createOption r.1 r.2 = .ok o

section Fields

theorem writeExtendedFieldValue_eq (v : ℕ) :
    writeExtendedFieldValue v =
      if v < 65804 then .ok (nibble v, extension v) else .error .valueError := by
  unfold writeExtendedFieldValue nibble extension
  by_cases h₁ : v < 13
  · rw [if_pos h₁, if_pos (by omega), if_pos (by omega), if_pos (by omega)]
  · rw [if_neg h₁]
    by_cases h₂ : v < 269
    · rw [if_pos h₂, if_pos (by omega), if_neg (by omega), if_pos (by omega), if_neg (by omega),
        if_pos (by omega)]
      rfl
    · rw [if_neg h₂, if_neg (show ¬ v ≤ 12 by omega), if_neg (show ¬ v ≤ 268 by omega),
        if_neg (show ¬ v ≤ 12 by omega), if_neg (show ¬ v ≤ 268 by omega)]

theorem readExtendedFieldValue_iff (nib : ℕ) (rawdata : Bytes) (v : ℕ) (rest : Bytes) :
    readExtendedFieldValue nib rawdata = .ok (v, rest) ↔
      ∃ i, Extended nib rawdata v i ∧ rest = rawdata.drop i := by
  constructor
  · intro h
    unfold readExtendedFieldValue at h
    split_ifs at h with h₁ h₂ h₃ h₄
    · cases h
      exact ⟨0, .short nib rawdata (by omega), rfl⟩
    · subst h₂
      cases rawdata with
      | nil => cases h
      | cons b tail =>
        cases h
        exact ⟨1, .byte b _, rfl⟩
    · subst h₃
      cases h
      match rawdata, h₄ with
      | x :: y :: tail, _ =>
        have hvalue : BigEndian.value [x, y] = x.toNat * 256 + y.toNat := by
          simp [BigEndian.value]
        refine ⟨2, ?_, rfl⟩
        rw [List.take_succ_cons, List.take_succ_cons, List.take_zero, hvalue]
        exact .word x y tail
      | [_], h => simp at h
      | [], h => simp at h
  · rintro ⟨i, hextended, rfl⟩
    unfold readExtendedFieldValue
    cases hextended with
    | short _ _ h => rw [if_pos (by omega), List.drop_zero]
    | byte x tail => rfl
    | word x y tail => simp [BigEndian.value]

theorem extended_wire (nib : ℕ) (rawdata : Bytes) (v i : ℕ) (h : Extended nib rawdata v i) :
    nib = nibble v ∧ v ≤ 65804 ∧ rawdata = extension v ++ rawdata.drop i := by
  cases h with
  | short _ _ h =>
    have hv : nibble nib = nib := if_pos h
    have hext : extension nib = [] := if_pos h
    rw [hv, hext]
    exact ⟨rfl, by omega, rfl⟩
  | byte x tail =>
    have hx := x.toNat_lt
    have hv : nibble (x.toNat + 13) = 13 := by
      unfold nibble
      rw [if_neg (by omega), if_pos (by omega)]
    have hext : extension (x.toNat + 13) = [x] := by
      unfold extension
      rw [if_neg (by omega), if_pos (by omega), Nat.add_sub_cancel, UInt8.ofNat_toNat]
    rw [hv, hext]
    exact ⟨rfl, by omega, rfl⟩
  | word x y tail =>
    have hx := x.toNat_lt
    have hy := y.toNat_lt
    have hv : nibble (x.toNat * 256 + y.toNat + 269) = 14 := by
      unfold nibble
      rw [if_neg (by omega), if_neg (by omega)]
    have hext : extension (x.toNat * 256 + y.toNat + 269) = [x, y] := by
      have hvalue : x.toNat * 256 + y.toNat = BigEndian.value [x, y] := by simp [BigEndian.value]
      unfold extension
      rw [if_neg (by omega), if_neg (by omega), Nat.add_sub_cancel, hvalue]
      exact BigEndian.bytes_value [x, y]
    rw [hv, hext]
    exact ⟨rfl, by omega, rfl⟩

/-- The form of a delta and a length is unique. -/
theorem head_wire (rawdata : Bytes) (delta length : ℕ) (rest : Bytes)
    (h : Head rawdata delta length rest) :
    rawdata = headBytes delta length ++ rest ∧ delta ≤ 65804 ∧ length ≤ 65804 := by
  cases h with
  | mk first tail _ i _ j _ hdelta hlength =>
    obtain ⟨hd, hdle, htail⟩ := extended_wire _ _ _ _ hdelta
    obtain ⟨hl, hlle, hdrop⟩ := extended_wire _ _ _ _ hlength
    have hfirst : UInt8.ofNat (nibble delta * 16 + nibble length) = first := by
      apply UInt8.toNat_inj.mp
      have := first.toNat_lt
      rw [← hd, ← hl, UInt8.toNat_ofNat']
      omega
    refine ⟨?_, hdle, hlle⟩
    unfold headBytes
    rw [hfirst, List.cons_append, List.cons_append, List.append_assoc, ← List.drop_drop, ← hdrop,
      ← htail]

end Fields

section Decoder

theorem decodeOption_ok_iff (optionNumber : ℕ) (first : UInt8) (tail : Bytes) (o : OptionType)
    (rest : Bytes) (hfirst : first ≠ 0xFF) :
    Options.decodeOption optionNumber first tail = .ok (o, rest) ↔
      ∃ delta length body, Head (first :: tail) delta length body ∧ length ≤ body.length ∧
        createOption (optionNumber + delta) (body.take length) = .ok o ∧
        rest = body.drop length := by
  have hmarker : first.toNat ≠ Defines.payloadMarker := by
    intro h
    exact hfirst (UInt8.toNat_inj.mp h)
  have hhigh : (first.toNat &&& 0xF0) >>> 4 = first.toNat / 16 := high_nibble first
  have hlow : first.toNat &&& 0x0F = first.toNat % 16 := Nat.and_two_pow_sub_one_eq_mod _ 4
  unfold Options.decodeOption
  dsimp only
  rw [hhigh, hlow]
  constructor
  · intro h
    obtain ⟨⟨delta, raw⟩, hdelta, h⟩ := (bind_eq_ok _ _ _).mp h
    obtain ⟨⟨length, body⟩, hlength, h⟩ := (bind_eq_ok _ _ _).mp h
    obtain ⟨i, hi, rfl⟩ := (readExtendedFieldValue_iff _ _ _ _).mp hdelta
    obtain ⟨j, hj, rfl⟩ := (readExtendedFieldValue_iff _ _ _ _).mp hlength
    dsimp only at h
    split_ifs at h with hcut
    obtain ⟨option, hoption, h⟩ := (bind_eq_ok _ _ _).mp h
    cases h
    refine ⟨delta, length, tail.drop (i + j), .mk first tail delta i length j hmarker hi hj, ?_⟩
    rw [← List.drop_drop]
    exact ⟨Nat.not_lt.mp hcut, hoption, rfl⟩
  · rintro ⟨delta, length, body, hhead, hcut, hoption, rfl⟩
    cases hhead with
    | mk _ _ _ i _ j _ hi hj =>
      rw [(readExtendedFieldValue_iff _ _ _ _).mpr ⟨i, hi, rfl⟩, ok_bind]
      dsimp only
      rw [(readExtendedFieldValue_iff _ _ _ _).mpr ⟨j, hj, rfl⟩, ok_bind]
      dsimp only
      rw [List.drop_drop, if_neg (Nat.not_lt.mpr hcut), hoption, ok_bind]

theorem wire_cons_head (last : ℕ) (r : Raw) (rs : List Raw) (tail : Bytes)
    (hdelta : r.1 - last ≤ 65804) (hlength : r.2.length ≤ 65804) :
    Head (wire last (r :: rs) ++ tail) (r.1 - last) r.2.length (r.2 ++ (wire r.1 rs ++ tail)) := by
  have hhead := head_headBytes (r.1 - last) r.2.length (r.2 ++ (wire r.1 rs ++ tail)) hdelta hlength
  rw [wire, List.append_assoc, List.append_assoc]
  exact hhead

theorem decodeLoop_wire (fuel last : ℕ) (raws : List Raw) (os : List OptionType)
    (tail body : Bytes) (s : Options) (hspaced : Spaced 65804 last raws)
    (hmade : List.Forall₂ Made os raws) (hends : Ends tail body)
    (hfuel : (wire last raws ++ tail).length ≤ fuel) :
    Options.decodeLoop fuel last (wire last raws ++ tail) s =
      (.ok body, os.foldl Options.addOption s) := by
  induction hmade generalizing fuel last s with
  | nil =>
    change Options.decodeLoop fuel last tail s = (.ok body, s)
    cases hends with
    | done => cases fuel <;> rfl
    | marker body =>
      cases fuel with
      | zero => simp [wire] at hfuel
      | succ fuel => rfl
  | @cons o r os raws hr hrest ih =>
    obtain ⟨hlast, hdelta, hlength, hspaced⟩ := hspaced
    have hhead := wire_cons_head last r raws tail hdelta hlength
    have hlen : (wire r.1 raws ++ tail).length < (wire last (r :: raws) ++ tail).length := by
      rw [wire, headBytes]
      simp only [List.append_assoc, List.cons_append, List.length_cons, List.length_append]
      omega
    cases hwire : wire last (r :: raws) ++ tail with
    | nil =>
      rw [hwire] at hhead
      exact absurd hhead (not_head_nil _ _ _)
    | cons first rest =>
      rw [hwire] at hhead hlen hfuel
      have hfirst : first ≠ 0xFF := by
        rintro rfl
        exact not_head_marker _ _ _ _ _ rfl hhead
      have hnumber : last + (r.1 - last) = r.1 := by omega
      have hoption : Options.decodeOption last first rest = .ok (o, wire r.1 raws ++ tail) := by
        refine (decodeOption_ok_iff last first rest o _ hfirst).mpr
          ⟨_, _, _, hhead, by simp, ?_, by rw [List.drop_left]⟩
        rw [hnumber, List.take_left]
        exact hr
      cases fuel with
      | zero => simp at hfuel
      | succ fuel =>
        have hnext := ih fuel r.1 (s.addOption o) hspaced
          (by rw [List.length_cons] at hfuel hlen; omega)
        have ho : o.number = r.1 := ((createOption_eq_ok_iff _ _ _).mp hr).1
        rw [Options.decodeLoop, if_neg hfirst, hoption]
        change Options.decodeLoop fuel o.number (wire r.1 raws ++ tail) (s.addOption o) = _
        rw [ho]
        exact hnext

theorem wire_of_decodeLoop (fuel last : ℕ) (rawdata body : Bytes) (s s' : Options)
    (hfuel : rawdata.length ≤ fuel) (h : Options.decodeLoop fuel last rawdata s = (.ok body, s')) :
    ∃ raws os tail, rawdata = wire last raws ++ tail ∧ Ends tail body ∧ Spaced 65804 last raws ∧
      List.Forall₂ Made os raws ∧ s' = os.foldl Options.addOption s := by
  induction fuel generalizing last rawdata s with
  | zero =>
    have hnil : rawdata = [] := List.length_eq_zero_iff.mp (by omega)
    cases h
    exact ⟨[], [], [], hnil, .done, trivial, .nil, rfl⟩
  | succ fuel ih =>
    cases rawdata with
    | nil =>
      cases h
      exact ⟨[], [], [], rfl, .done, trivial, .nil, rfl⟩
    | cons first tail =>
      by_cases hfirst : first = 0xFF
      · rw [Options.decodeLoop, if_pos hfirst] at h
        cases h
        exact ⟨[], [], first :: body, rfl, hfirst ▸ .marker body, trivial, .nil, rfl⟩
      · rw [Options.decodeLoop, if_neg hfirst] at h
        cases hoption : Options.decodeOption last first tail with
        | error e =>
          rw [hoption] at h
          cases h
        | ok r =>
          obtain ⟨o, rest⟩ := r
          rw [hoption] at h
          change Options.decodeLoop fuel o.number rest (s.addOption o) = _ at h
          obtain ⟨delta, length, value, hhead, hcut, hcreate, rfl⟩ :=
            (decodeOption_ok_iff last first tail o rest hfirst).mp hoption
          obtain ⟨hwire, hdelta, hlength⟩ := head_wire _ _ _ _ hhead
          have hnumber := ((createOption_eq_ok_iff _ _ _).mp hcreate).1
          have hshort : (value.drop length).length ≤ fuel := by
            have hbytes := congrArg List.length hwire
            rw [headBytes] at hbytes
            simp only [List.cons_append, List.length_cons, List.length_append] at hbytes hfuel
            rw [List.length_drop]
            omega
          obtain ⟨raws, os, end', hrest, hends, hspaced, hmade, hs'⟩ := ih _ _ _ hshort h
          have hvalue : (value.take length).length = length := List.length_take_of_le hcut
          refine ⟨(last + delta, value.take length) :: raws, o :: os, end', ?_, hends, ?_,
            .cons hcreate hmade, hs'⟩
          · rw [wire, List.append_assoc, List.append_assoc]
            dsimp only
            rw [hvalue, Nat.add_sub_cancel_left, ← hnumber, ← hrest, List.take_append_drop]
            exact hwire
          · refine ⟨Nat.le_add_right _ _, ?_, ?_, ?_⟩
            · dsimp only
              omega
            · dsimp only
              omega
            · dsimp only
              rw [← hnumber]
              exact hspaced

/-- Exactly the well-formed sequences of options are decoded, each option to the value of its
bytes, and the body is what stands behind the marker. -/
theorem decode_iff (rawdata body : Bytes) (s s' : Options) :
    Options.decode rawdata s = (.ok body, s') ↔
      ∃ raws os tail, rawdata = wire 0 raws ++ tail ∧ Ends tail body ∧ Spaced 65804 0 raws ∧
        List.Forall₂ Made os raws ∧ s' = os.foldl Options.addOption s := by
  constructor
  · exact wire_of_decodeLoop rawdata.length 0 rawdata body s s' le_rfl
  · rintro ⟨raws, os, tail, rfl, hends, hspaced, hmade, rfl⟩
    exact decodeLoop_wire _ 0 raws os tail body s hspaced hmade hends le_rfl

end Decoder

end BubotCoap.HeaderOptions
