import BubotCoap.OptionAccess
import Mathlib.Data.List.Infix

set_option autoImplicit false

/-!
# The log line of a message

`line_print` and `decode_payload` of `messages/message.py`. The line is kept as
its parts, since joining them cannot fail.
-/
namespace BubotCoap.Rendering
open PythonData Defines Utils Options Messages OptionAccess

/-- The exceptions of receiving a message, with those that belong to no modelled class: a
`RuntimeError`, which the receivers catch, the decoding error of the CBOR library, and the error of
a future that already has a result. -/
inductive Failure where
  | raised (e : PyErr)
  | runtimeError
  | decodeError
  | invalidStateError
  deriving DecidableEq, Repr

/-- What is not in the repository: `cbor2.loads`, the `str` of its objects, and the number of
digits above which the interpreter refuses to write an integer, 0 for none. -/
structure Platform where
  Object : Type
  loads : Bytes → Except Failure Object
  str : Object → Except Failure Text
  maxStrDigits : ℕ

/-- A platform without the CBOR library's objects. -/
def plainPlatform : Platform := ⟨Unit, fun _ => .error .decodeError, fun _ => .ok [], 4300⟩

variable (P : Platform)

def Short (n : ℕ) : Prop := P.maxStrDigits = 0 ∨ (decimal n).length ≤ P.maxStrDigits

instance (n : ℕ) : Decidable (Short P n) := inferInstanceAs (Decidable (_ ∨ _))

/-- `"{value}".format(value=value)`. -/
def formatValue : Value → Except Failure Text
  | .int n => if Short P n then .ok (decimal n) else .error (.raised .valueError)
  | v => .ok (strOf v)

/-- `'Block' in name`. -/
def isBlock (o : CoapOption) : Bool := decide ("Block".toList <:+: o.name.toList)

def formatBlock (block : ℕ × ℕ × ℕ) : Text :=
  "(".toList ++ decimal block.1 ++ ", ".toList ++ decimal block.2.1 ++ ", ".toList ++
    decimal block.2.2 ++ ")".toList

def optionLine (o : CoapOption) : Except Failure (String × Text) :=
  if isBlock o then
    ((parseBlockwise o.value).mapError .raised).map fun block => (o.name, formatBlock block)
  else (formatValue P o.value).map fun text => (o.name, text)

inductive Content where
  | payload (p : Payload)
  | text (t : Text)
  | object (x : P.Object)

def strContent : Content P → Except Failure Text
  | .payload (.bytes b) => .ok (reprBytes b)
  | .payload (.str t) => .ok t
  | .text t => .ok t
  | .object x => P.str x

def cborLoads : Payload → Except Failure (Content P)
  | .bytes [] => .ok (.payload (.bytes []))
  | .bytes b => (P.loads b).map .object
  | .str [] => .ok (.payload (.str []))
  | .str _ => .error (.raised .typeError)

def stringDecode : Payload → Except Failure (Content P)
  | .bytes [] => .ok (.text [])
  | .bytes b => ((decodeUtf8 b).mapError .raised).map .text
  | .str [] => .ok (.text [])
  | .str _ => .error (.raised .attributeError)

def decoder (contentType : Value) : Option (Payload → Except Failure (Content P)) :=
  if contentType = .int 0 then some (stringDecode P)
  else if contentType = .int 60 ∨ contentType = .int 10000 then some (cborLoads P)
  else none

/-- A `KeyError` may come from the table or from the decoder. -/
def decodePayload (contentType : Value) (payload : Payload) : Except Failure (Content P) :=
  match decoder P contentType with
  | none => .ok (.payload payload)
  | some decode =>
    match decode payload with
    | .error (.raised .keyError) => .ok (.payload payload)
    | result => result

/-- What follows the options. -/
inductive Shown where
  | noPayload
  | block (length : ℕ)
  | start (text : Text) (length : ℕ)
  deriving DecidableEq, Repr

def payloadLine (m : Message) : Except Failure Shown :=
  match m.payload with
  | none => .ok .noPayload
  | some payload =>
    if m.options.toList.any isBlock then .ok (.block payload.length)
    else do
      let content ← decodePayload P m.contentType payload
      let text ← strContent P content
      .ok (.start (slice text 0 20) payload.length)

structure Line where
  source : Option Address
  destination : Option Address
  type : Option MsgType
  mid : Option ℤ
  code : ℕ
  token : Option Text
  options : List (String × Text)
  payload : Shown
  deriving DecidableEq

def linePrint (m : Message) : Except Failure Line :=
  let code := m.code.getD Codes.empty
  if code ∈ Codes.list then do
    let options ← m.options.toList.mapM (optionLine P)
    let payload ← payloadLine P m
    .ok ⟨m.source, m.destination, m.type, m.mid, code, m.token.map hexlify, options, payload⟩
  else .error (.raised .keyError)

/-- Rendering leaves the code of an empty message behind. -/
def printed (m : Message) : Message := { m with code := some (m.code.getD Codes.empty) }

theorem printed_coded (m : Message) (h : m.code ≠ none) : printed m = m := by
  obtain ⟨code, hcode⟩ := Option.ne_none_iff_exists'.mp h
  unfold printed
  rw [hcode, Option.getD_some, ← hcode]

/-! What can be rendered. -/

def Writable (o : CoapOption) : Prop :=
  if o.number = OptionRegistry.block1.number ∨ o.number = OptionRegistry.block2.number then
    o.stored ≠ .int 0
  else ∀ n, o.value = .int n → Short P n

/-- Text has to be UTF-8, and an object one that the CBOR library reads and writes out. -/
structure Legible (contentType : Value) (payload : Payload) : Prop where
  text : contentType = .int 0 →
    payload.length = 0 ∨ ∃ b t, payload = .bytes b ∧ decodeUtf8 b = .ok t
  object : contentType = .int 60 ∨ contentType = .int 10000 →
    payload.length = 0 ∨ ∃ b, payload = .bytes b ∧ (P.loads b = .error (.raised .keyError) ∨
      ∃ x t, P.loads b = .ok x ∧ P.str x = .ok t)

structure Printable (m : Message) : Prop where
  code : m.code.getD Codes.empty ∈ Codes.list
  option : ∀ o ∈ m.options.toList, Writable P o
  payload : ∀ payload, m.payload = some payload →
    (∀ o ∈ m.options.toList, o.number ≠ OptionRegistry.block1.number ∧
      o.number ≠ OptionRegistry.block2.number) → Legible P m.contentType payload

theorem Printable.congr (m m' : Message) (h : Printable P m) (hcode : m'.code = m.code)
    (hoptions : m'.options = m.options) (hpayload : m'.payload = m.payload) :
    Printable P m' := by
  have htype : m'.contentType = m.contentType := by
    unfold Message.contentType Message.getOption
    rw [hoptions]
  refine ⟨?_, ?_, ?_⟩
  · rw [hcode]
    exact h.code
  · rw [hoptions]
    exact h.option
  · rw [hpayload, hoptions, htype]
    exact h.payload

theorem printable_congr (m m' : Message) (hcode : m'.code = m.code)
    (hoptions : m'.options = m.options) (hpayload : m'.payload = m.payload) :
    Printable P m' ↔ Printable P m :=
  ⟨fun h => Printable.congr P m' m h hcode.symm hoptions.symm hpayload.symm,
    fun h => Printable.congr P m m' h hcode hoptions hpayload⟩

theorem isBlock_iff (o : CoapOption) :
    isBlock o = true ↔
      o.number = OptionRegistry.block1.number ∨ o.number = OptionRegistry.block2.number := by
  have key : ∀ p ∈ OptionRegistry.list, "Block".toList <:+: p.2.name.toList ↔
      p.2.number = OptionRegistry.block1.number ∨
        p.2.number = OptionRegistry.block2.number := by decide +kernel
  have hdecide : isBlock o = true ↔ "Block".toList <:+: o.name.toList := decide_eq_true_iff
  exact hdecide.trans (key _ (mem_list_of_find? _ _ o.registered))

/-- Both block options hold integers, and have no default for zero. -/
theorem block_value (o : CoapOption) (h : isBlock o = true) :
    ∃ n, o.stored = .int n ∧ o.value = if n = 0 then .none else .int n := by
  have key : ∀ p ∈ OptionRegistry.list,
      (p.2.number = OptionRegistry.block1.number ∨ p.2.number = OptionRegistry.block2.number) →
        p.2.valueType = .INTEGER ∧ p.2.default = none := by decide
  obtain ⟨htype, hdefault⟩ := key _ (mem_list_of_find? _ _ o.registered) ((isBlock_iff o).mp h)
  dsimp only at htype hdefault
  have htyped := o.typed
  rw [htype] at htyped
  cases hs : o.stored with
  | int n =>
    refine ⟨n, rfl, ?_⟩
    have hzero := byteLen_eq_zero_iff n
    unfold CoapOption.value
    rw [hs]
    dsimp only
    rw [if_pos htype, hdefault]
    by_cases hn : n = 0
    · rw [if_neg (by omega), if_pos hn]
    · rw [if_pos (by omega), if_neg hn]
  | none =>
    rw [hs] at htyped
    cases htyped
  | bytes b =>
    rw [hs] at htyped
    cases htyped
  | str t =>
    rw [hs] at htyped
    cases htyped

theorem map_ok_iff {ε α β : Type} (x : Except ε α) (f : α → β) :
    (∃ b, x.map f = .ok b) ↔ ∃ a, x = .ok a := by
  cases x with
  | error e => simp [Except.map]
  | ok a => simp [Except.map]

theorem mapM_ok_iff {ε α β : Type} (f : α → Except ε β) (xs : List α) :
    (∃ ys, xs.mapM f = .ok ys) ↔ ∀ x ∈ xs, ∃ y, f x = .ok y := by
  induction xs with
  | nil => simp [pure, Except.pure]
  | cons x xs ih =>
    rw [List.mapM_cons, List.forall_mem_cons, ← ih]
    constructor
    · rintro ⟨ys, h⟩
      obtain ⟨y, hy, h⟩ := (bind_eq_ok _ _ _).mp h
      obtain ⟨rest, hrest, _⟩ := (bind_eq_ok _ _ _).mp h
      exact ⟨⟨y, hy⟩, ⟨rest, hrest⟩⟩
    · rintro ⟨⟨y, hy⟩, ⟨rest, hrest⟩⟩
      exact ⟨y :: rest, by rw [hy, ok_bind, hrest]; rfl⟩

theorem formatValue_ok_iff (v : Value) :
    (∃ t, formatValue P v = .ok t) ↔ ∀ n, v = .int n → Short P n := by
  cases v with
  | int n =>
    unfold formatValue
    by_cases h : Short P n
    · simp [h]
    · simp [h]
  | none => simp [formatValue]
  | bytes b => simp [formatValue]
  | str t => simp [formatValue]

theorem optionLine_ok_iff (o : CoapOption) :
    (∃ line, optionLine P o = .ok line) ↔ Writable P o := by
  unfold optionLine Writable
  by_cases hblock : isBlock o = true
  · obtain ⟨n, hstored, hvalue⟩ := block_value o hblock
    rw [if_pos hblock, if_pos ((isBlock_iff o).mp hblock), map_ok_iff, hstored, hvalue]
    by_cases hn : n = 0
    · simp [hn, parseBlockwise, Except.mapError]
    · rw [if_neg hn, parseBlockwise_int]
      simp [hn, Except.mapError]
  · rw [if_neg hblock, if_neg (fun h => hblock ((isBlock_iff o).mpr h)), map_ok_iff]
    exact formatValue_ok_iff P o.value

theorem any_isBlock_iff (m : Message) :
    m.options.toList.any isBlock = false ↔
      ∀ o ∈ m.options.toList, o.number ≠ OptionRegistry.block1.number ∧
        o.number ≠ OptionRegistry.block2.number := by
  rw [List.any_eq_false]
  refine forall₂_congr ?_
  intro o _
  rw [isBlock_iff, not_or]

/-- The text of a payload, before it is cut. -/
def payloadText (contentType : Value) (payload : Payload) : Except Failure Text :=
  decodePayload P contentType payload >>= strContent P

theorem payloadText_string (payload : Payload) :
    (∃ t, payloadText P (.int 0) payload = .ok t) ↔
      payload.length = 0 ∨ ∃ b t, payload = .bytes b ∧ decodeUtf8 b = .ok t := by
  have hdecoder : decoder P (.int 0) = some (stringDecode P) := if_pos rfl
  unfold payloadText decodePayload
  rw [hdecoder]
  dsimp only
  cases payload with
  | str t =>
    cases t with
    | nil => simp [stringDecode, ok_bind, strContent, Payload.length]
    | cons c t => simp [stringDecode, Payload.length, bind, Except.bind]
  | bytes b =>
    cases b with
    | nil => simp [stringDecode, ok_bind, strContent, Payload.length]
    | cons x b =>
      have hdecode : ∀ e, decodeUtf8 (x :: b) = .error e → e = .unicodeDecodeError := by
        intro e he
        unfold decodeUtf8 at he
        split at he
        · cases he
        · exact (Except.error.inj he).symm
      cases hd : decodeUtf8 (x :: b) with
      | error e =>
        simp [stringDecode, Payload.length, hd, hdecode e hd, Except.mapError, Except.map, bind,
          Except.bind]
      | ok t =>
        simp [stringDecode, Payload.length, hd, Except.mapError, Except.map, ok_bind, strContent]

theorem payloadText_cbor (contentType : Value) (payload : Payload)
    (h : contentType = .int 60 ∨ contentType = .int 10000) :
    (∃ t, payloadText P contentType payload = .ok t) ↔
      payload.length = 0 ∨ ∃ b, payload = .bytes b ∧ (P.loads b = .error (.raised .keyError) ∨
        ∃ x t, P.loads b = .ok x ∧ P.str x = .ok t) := by
  have hdecoder : decoder P contentType = some (cborLoads P) := by
    rcases h with rfl | rfl
    · rfl
    · rfl
  unfold payloadText decodePayload
  rw [hdecoder]
  dsimp only
  cases payload with
  | str t =>
    cases t with
    | nil => simp [cborLoads, ok_bind, strContent, Payload.length]
    | cons c t => simp [cborLoads, Payload.length, bind, Except.bind]
  | bytes b =>
    cases b with
    | nil => simp [cborLoads, ok_bind, strContent, Payload.length]
    | cons x b =>
      simp only [cborLoads, Payload.length, List.length_cons, Payload.bytes.injEq]
      cases hd : P.loads (x :: b) with
      | error e =>
        by_cases he : e = .raised .keyError
        · subst he
          simp [hd, Except.map, ok_bind, strContent]
        · simp [he, hd, Except.map, bind, Except.bind]
      | ok object =>
        simp [hd, Except.map, ok_bind, strContent]

theorem payloadText_ok_iff (contentType : Value) (payload : Payload) :
    (∃ t, payloadText P contentType payload = .ok t) ↔ Legible P contentType payload := by
  by_cases hzero : contentType = .int 0
  · subst hzero
    rw [payloadText_string]
    exact ⟨fun h => ⟨fun _ => h, by simp⟩, fun h => h.text rfl⟩
  · by_cases hcbor : contentType = .int 60 ∨ contentType = .int 10000
    · rw [payloadText_cbor P contentType payload hcbor]
      exact ⟨fun h => ⟨fun h0 => absurd h0 hzero, fun _ => h⟩, fun h => h.object hcbor⟩
    · have hdecoder : decoder P contentType = none := by
        rw [decoder, if_neg hzero, if_neg hcbor]
      refine iff_of_true ?_ ⟨fun h => absurd h hzero, fun h => absurd h hcbor⟩
      unfold payloadText decodePayload
      rw [hdecoder]
      cases payload with
      | bytes b => exact ⟨_, rfl⟩
      | str t => exact ⟨_, rfl⟩

theorem payloadLine_ok_iff (m : Message) :
    (∃ shown, payloadLine P m = .ok shown) ↔
      ∀ payload, m.payload = some payload →
        (∀ o ∈ m.options.toList, o.number ≠ OptionRegistry.block1.number ∧
          o.number ≠ OptionRegistry.block2.number) → Legible P m.contentType payload := by
  unfold payloadLine
  cases hp : m.payload with
  | none => simp
  | some payload =>
    dsimp only
    simp only [Option.some.injEq, forall_eq', ← any_isBlock_iff, ← payloadText_ok_iff]
    by_cases hblock : m.options.toList.any isBlock = true
    · simp [hblock]
    · rw [if_neg hblock]
      have hfalse := (Bool.not_eq_true _).mp hblock
      simp only [hfalse, forall_const]
      unfold payloadText
      constructor
      · rintro ⟨shown, h⟩
        obtain ⟨content, hcontent, h⟩ := (bind_eq_ok _ _ _).mp h
        obtain ⟨text, htext, _⟩ := (bind_eq_ok _ _ _).mp h
        exact ⟨text, by rw [hcontent, ok_bind, htext]⟩
      · rintro ⟨text, h⟩
        obtain ⟨content, hcontent, htext⟩ := (bind_eq_ok _ _ _).mp h
        exact ⟨_, by rw [hcontent, ok_bind, htext, ok_bind]⟩

theorem linePrint_ok_iff (m : Message) : (∃ line, linePrint P m = .ok line) ↔ Printable P m := by
  unfold linePrint
  dsimp only
  by_cases hcode : m.code.getD Codes.empty ∈ Codes.list
  · rw [if_pos hcode]
    constructor
    · rintro ⟨line, h⟩
      obtain ⟨options, hoptions, h⟩ := (bind_eq_ok _ _ _).mp h
      obtain ⟨shown, hshown, _⟩ := (bind_eq_ok _ _ _).mp h
      refine ⟨hcode, ?_, (payloadLine_ok_iff P m).mp ⟨shown, hshown⟩⟩
      intro o ho
      exact (optionLine_ok_iff P o).mp ((mapM_ok_iff _ _).mp ⟨options, hoptions⟩ o ho)
    · intro h
      obtain ⟨options, hoptions⟩ := (mapM_ok_iff (optionLine P) m.options.toList).mpr
        fun o ho => (optionLine_ok_iff P o).mpr (h.option o ho)
      obtain ⟨shown, hshown⟩ := (payloadLine_ok_iff P m).mpr h.payload
      exact ⟨_, by rw [hoptions, ok_bind, hshown, ok_bind]⟩
  · rw [if_neg hcode]
    constructor
    · rintro ⟨line, h⟩
      cases h
    · intro h
      exact absurd h.code hcode

/-- The counter of a resource is written out like any other number. -/
theorem printable_observe (m : Message) (v : ℕ) (h : Printable P m) (hv : Short P v) :
    Printable P (replace m OptionRegistry.observe v rfl rfl) := by
  refine ⟨h.code, fun o ho => ?_, fun p hp hblocks => ?_⟩
  · rcases mem_replace m OptionRegistry.observe v rfl rfl o ho with hold | rfl
    · exact h.option o hold
    · have hnumber : (intOption OptionRegistry.observe v rfl rfl).number =
          OptionRegistry.observe.number := rfl
      unfold Writable
      rw [hnumber, if_neg (by decide), observe_value]
      intro n hn
      cases hn
      exact hv
  · have htype : (replace m OptionRegistry.observe v rfl rfl).contentType = m.contentType :=
      contentType_congr _ _ (ofNumber_replace_of_ne m OptionRegistry.observe v rfl rfl _
        (by decide))
    rw [htype]
    refine h.payload p hp fun o ho => ?_
    by_cases hobserve : o.number = OptionRegistry.observe.number
    · rw [hobserve]
      decide
    · have hmem : o ∈ ofNumber o.number (replace m OptionRegistry.observe v rfl rfl).options := by
        rw [ofNumber_replace_of_ne m OptionRegistry.observe v rfl rfl o.number hobserve]
        exact List.mem_filter.mpr ⟨ho, decide_eq_true rfl⟩
      exact hblocks o (List.mem_of_mem_filter hmem)

end BubotCoap.Rendering
