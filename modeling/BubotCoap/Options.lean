import BubotCoap.Defines
import BubotCoap.Utils

set_option autoImplicit false

/-!
# Options

`messages/option.py`. An option belongs to an entry of the registry, and its
stored value has the shape the value setter leaves behind for that entry.
-/
namespace BubotCoap.Options
open PythonData Defines Utils

/-- The values the setter can store for an option of the given type. -/
def accepts : ValueType → Value → Bool
  | .INTEGER, .int _ => true
  | .STRING, .str _ => true
  | .OPAQUE, .bytes _ => true
  | .OPAQUE, .none => true
  | .UNKNOWN, _ => true
  | _, _ => false

structure CoapOption where
  item : OptionItem
  stored : Value
  registered : OptionRegistry.find? item.number = some item
  typed : accepts item.valueType stored = true
  deriving DecidableEq, Repr

def CoapOption.number (o : CoapOption) : ℕ := o.item.number

def CoapOption.name (o : CoapOption) : String := o.item.name

/-- `int(value)`; of text, plain decimal digits. -/
def intOf : Value → Except PyErr ℕ
  | .int n => .ok n
  | .none => .error .typeError
  | .str t => intOfText t
  | .bytes b => intOfText (b.map fun x => Char.ofNat x.toNat)
where
  intOfText (t : Text) : Except PyErr ℕ :=
    if t ≠ [] ∧ t.all Char.isDigit then
      .ok (t.foldl (fun n c => 10 * n + (c.toNat - '0'.toNat)) 0)
    else .error .valueError

/-- `str(value)`. -/
def strOf : Value → Text
  | .str t => t
  | .int n => decimal n
  | .none => "None".toList
  | .bytes b => reprBytes b

def setValue (type : ValueType) (value : Value) : Except PyErr Value :=
  match type, value with
  | .INTEGER, value => (intOf value).map .int
  | .STRING, value => .ok (.str (strOf value))
  | .OPAQUE, .str t => .ok (.bytes (encodeUtf8 t))
  | .OPAQUE, .int _ => .error .typeError
  | .OPAQUE, value => .ok value
  | .UNKNOWN, value => .ok value

theorem accepts_setValue (type : ValueType) (value v : Value) (h : setValue type value = .ok v) :
    accepts type v = true := by
  cases type
  case INTEGER =>
    simp only [setValue, Except.map] at h
    split at h
    · exact absurd h (by simp)
    · rw [← Except.ok.inj h]
      rfl
  all_goals cases value <;> simp [setValue] at h <;> subst h <;> rfl

/-- Setting the number and then the value of a fresh option. -/
def CoapOption.make (number : ℕ) (value : Value) : Except PyErr CoapOption :=
  match h : OptionRegistry.find? number with
  | none => .error .keyError
  | some item =>
    match hv : setValue item.valueType value with
    | .error e => .error e
    | .ok v =>
      .ok ⟨item, v, by rw [find?_number number item h, h], accepts_setValue _ _ _ hv⟩

/-- The value property: an integer that is zero reads as the registry's default. -/
def CoapOption.value (o : CoapOption) : Value :=
  match o.stored with
  | .int n =>
    if o.item.valueType = .INTEGER then
      if byteLen n > 0 then .int n
      else
        match o.item.default with
        | some d => .int d
        | none => .none
    else .int n
  | v => v

/-- The length property counts bytes of integers and byte strings, and characters of text. -/
def CoapOption.length (o : CoapOption) : ℕ :=
  match o.stored with
  | .int n => byteLen n
  | .none => 0
  | .bytes b => b.length
  | .str t => t.length

theorem number_le (o : CoapOption) : o.number ≤ 65524 := find?_le _ _ o.registered

theorem setValue_of_accepts (type : ValueType) (v : Value) (h : accepts type v = true) :
    setValue type v = .ok v := by
  cases type <;> cases v <;> simp [accepts] at h <;> rfl

theorem make_eq (number : ℕ) (value : Value) (o : CoapOption) (hnum : o.number = number)
    (hval : setValue o.item.valueType value = .ok o.stored) :
    CoapOption.make number value = .ok o := by
  have hreg : OptionRegistry.find? number = some o.item := by
    rw [← hnum]
    exact o.registered
  unfold CoapOption.make
  split
  · next h => simp [hreg] at h
  · next item h =>
    have hitem : item = o.item := Option.some.inj (h.symm.trans hreg)
    subst hitem
    split
    · next e he => simp [hval] at he
    · next v hv =>
      have : v = o.stored := Except.ok.inj (hv.symm.trans hval)
      simp only [this]

theorem make_stored (o : CoapOption) : CoapOption.make o.number o.stored = .ok o :=
  make_eq o.number o.stored o rfl (setValue_of_accepts _ _ o.typed)

end BubotCoap.Options
