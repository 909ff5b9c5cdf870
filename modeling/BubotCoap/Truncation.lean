import BubotCoap.DeserializeErrors

set_option autoImplicit false

namespace BubotCoap.Truncation
open PythonData Defines Options Messages Serializer OptionWire DeserializeErrors

/-- Options the loop goes through, `current` being the last number and `seen` the numbers added,
up to the end or a payload. Nothing is asked of the length of a value. -/
inductive Accepts : ℕ → List ℕ → Bytes → Prop
  | done (current : ℕ) (seen : List ℕ) : Accepts current seen []
  | payload (current : ℕ) (seen : List ℕ) (first : UInt8) (tail : Bytes)
    (hfirst : first.toNat = payloadMarker) (htail : tail ≠ []) :
    Accepts current seen (first :: tail)
  | known (current : ℕ) (seen : List ℕ) (bytes : Bytes) (delta length : ℕ) (rest : Bytes)
    (item : OptionItem) (hhead : Head bytes delta length rest)
    (hitem : OptionRegistry.find? (current + delta) = some item)
    (hvalue : Readable item (rest.take length))
    (hnew : item.repeatable = true ∨ current + delta ∉ seen)
    (hrest : Accepts (current + delta) (seen ++ [current + delta]) (rest.drop length)) :
    Accepts current seen bytes
  | skipped (current : ℕ) (seen : List ℕ) (bytes : Bytes) (delta length : ℕ) (rest : Bytes)
    (hhead : Head bytes delta length rest)
    (hitem : OptionRegistry.find? (current + delta) = none)
    (helective : Elective (current + delta))
    (hrest : Accepts (current + delta) seen (rest.drop length)) : Accepts current seen bytes

/-- Every option has all the bytes of its value. -/
inductive OptionsInside : Bytes → Prop
  | done : OptionsInside []
  | payload (first : UInt8) (tail : Bytes) (hfirst : first.toNat = payloadMarker) :
    OptionsInside (first :: tail)
  | option (bytes : Bytes) (delta length : ℕ) (rest : Bytes)
    (hhead : Head bytes delta length rest) (hvalue : length ≤ rest.length)
    (hrest : OptionsInside (rest.drop length)) : OptionsInside bytes

/-- The bytes end inside the announced value of an option. -/
inductive EndsInValue : Bytes → Prop
  | here (bytes : Bytes) (delta length : ℕ) (rest : Bytes)
    (hhead : Head bytes delta length rest) (hcut : rest.length < length) : EndsInValue bytes
  | later (bytes : Bytes) (delta length : ℕ) (rest : Bytes)
    (hhead : Head bytes delta length rest) (hvalue : length ≤ rest.length)
    (hrest : EndsInValue (rest.drop length)) : EndsInValue bytes

def tokenLength (datagram : Bytes) : ℕ := (datagram.headD 0).toNat % 16

def body (datagram : Bytes) : Bytes := datagram.drop (4 + tokenLength datagram)

def EndsInToken (datagram : Bytes) : Prop :=
  4 ≤ datagram.length ∧ datagram.length < 4 + tokenLength datagram

/-- All that the header and the options announce lies inside the datagram. -/
structure Inside (datagram : Bytes) : Prop where
  tokenLength : tokenLength datagram ≤ 8
  header : 4 ≤ datagram.length
  token : 4 + Truncation.tokenLength datagram ≤ datagram.length
  options : OptionsInside (body datagram)

theorem not_endsInValue (bytes : Bytes) (h : OptionsInside bytes) : ¬ EndsInValue bytes := by
  induction h with
  | done =>
    intro hends
    cases hends with
    | here _ _ _ _ hhead => exact not_head_nil _ _ _ hhead
    | later _ _ _ _ hhead => exact not_head_nil _ _ _ hhead
  | payload first tail hfirst =>
    intro hends
    cases hends with
    | here _ _ _ _ hhead => exact not_head_marker _ _ _ _ _ hfirst hhead
    | later _ _ _ _ hhead => exact not_head_marker _ _ _ _ _ hfirst hhead
  | option bytes delta length rest hhead hvalue hrest ih =>
    intro hends
    cases hends with
    | here _ _ _ _ hhead' hcut =>
      obtain ⟨-, rfl, rfl⟩ := head_unique _ _ _ _ _ _ _ hhead hhead'
      omega
    | later _ _ _ _ hhead' _ hends =>
      obtain ⟨-, rfl, rfl⟩ := head_unique _ _ _ _ _ _ _ hhead hhead'
      exact ih hends

theorem inside_or_endsInValue (current : ℕ) (seen : List ℕ) (bytes : Bytes)
    (h : Accepts current seen bytes) : OptionsInside bytes ∨ EndsInValue bytes := by
  have hoption : ∀ bytes delta length rest, Head bytes delta length rest →
      OptionsInside (rest.drop length) ∨ EndsInValue (rest.drop length) →
      OptionsInside bytes ∨ EndsInValue bytes := by
    intro bytes delta length rest hhead hrest
    by_cases hvalue : length ≤ rest.length
    · rcases hrest with hrest | hrest
      · exact Or.inl (.option bytes delta length rest hhead hvalue hrest)
      · exact Or.inr (.later bytes delta length rest hhead hvalue hrest)
    · exact Or.inr (.here bytes delta length rest hhead (by omega))
  induction h with
  | done => exact Or.inl .done
  | payload _ _ first tail hfirst _ => exact Or.inl (.payload first tail hfirst)
  | known _ _ bytes delta length rest _ hhead _ _ _ _ ih =>
    exact hoption bytes delta length rest hhead ih
  | skipped _ _ bytes delta length rest hhead _ _ _ ih =>
    exact hoption bytes delta length rest hhead ih

def Succeeds {α : Type} (r : Except PyErr α) : Prop := ∃ a, r = .ok a

theorem succeeds_bind {α β : Type} (r : Except PyErr α) (f : α → Except PyErr β) :
    Succeeds (r >>= f) ↔ ∃ a, r = .ok a ∧ Succeeds (f a) := by
  unfold Succeeds
  simp only [bind_eq_ok]
  constructor
  · rintro ⟨b, a, ha, hb⟩
    exact ⟨a, ha, b, hb⟩
  · rintro ⟨a, ha, b, hb⟩
    exact ⟨b, a, ha, hb⟩

theorem succeeds_error {α : Type} (e : PyErr) : ¬ Succeeds (Except.error e : Except PyErr α) := by
  rintro ⟨a, h⟩
  cases h

/-- One option and all that comes behind it, `ih` being about the latter. -/
theorem succeeds_round (values : Bytes) (number length pos : ℕ) (m : Message)
    (ih : ∀ m', Succeeds (readFrom values ⟨pos + length, number, m'⟩) ↔
      Accepts number (numbers m') ((values.drop pos).drop length)) :
    Succeeds (optionRound values number length pos m >>= readFrom values) ↔
      (OptionRegistry.find? number = none ∧ Elective number ∧
        Accepts number (numbers m) ((values.drop pos).drop length)) ∨
      ∃ item, OptionRegistry.find? number = some item ∧
        Readable item ((values.drop pos).take length) ∧
        (item.repeatable = true ∨ number ∉ numbers m) ∧
        Accepts number (numbers m ++ [number]) ((values.drop pos).drop length) := by
  cases turn_cases values number length pos m with
  | skipped hitem helective h =>
    rw [h, ok_bind, ih]
    simp [hitem, helective]
  | refused e hitem helective _ h =>
    rw [h]
    simp [hitem, helective, succeeds_bind]
  | unreadable item hitem hvalue h =>
    rw [h]
    simp [hitem, hvalue, succeeds_bind]
  | added item m' hitem hvalue hnew hnumbers h =>
    rw [h, ok_bind, ih, hnumbers]
    simp [hitem, hvalue, hnew]
  | repeated item hitem hvalue hrepeatable hin h =>
    rw [h]
    simp [hitem, hrepeatable, hin, succeeds_bind]

theorem succeeds_readFrom (values : Bytes) (c : Cursor) :
    Succeeds (readFrom values c) ↔
      Accepts c.currentOption (numbers c.message) (values.drop c.pos) := by
  induction hn : values.length - c.pos using Nat.strong_induction_on generalizing c with
  | _ n ih =>
    cases hrest : values.drop c.pos with
    | nil =>
      rw [readFrom_end values c (List.drop_eq_nil_iff.mp hrest)]
      exact iff_of_true ⟨_, rfl⟩ (.done _ _)
    | cons first tail =>
      by_cases hfirst : first.toNat = payloadMarker
      · by_cases htail : tail = []
        · subst htail
          refine iff_of_false ?_ ?_
          · rw [readFrom_marker_last values c first hrest hfirst]
            exact succeeds_error _
          · intro h
            cases h with
            | payload _ _ _ _ _ h => exact h rfl
            | known _ _ _ _ _ _ _ hhead => exact not_head_marker _ _ _ _ _ hfirst hhead
            | skipped _ _ _ _ _ _ hhead => exact not_head_marker _ _ _ _ _ hfirst hhead
        · rw [readFrom_marker values c first tail hrest hfirst htail]
          exact iff_of_true ⟨_, rfl⟩ (.payload _ _ first tail hfirst htail)
      · by_cases hhead : ∃ delta length rest, Head (first :: tail) delta length rest
        · obtain ⟨delta, length, rest, hhead⟩ := hhead
          obtain ⟨p, hlt, hle, rfl, hread⟩ :=
            readFrom_head values c delta length rest (by rwa [hrest])
          have hih : ∀ m', Succeeds (readFrom values ⟨p + length, c.currentOption + delta, m'⟩) ↔
              Accepts (c.currentOption + delta) (numbers m') ((values.drop p).drop length) := by
            intro m'
            rw [List.drop_drop]
            exact ih (values.length - (p + length)) (by omega) ⟨_, _, m'⟩ rfl
          rw [hread, succeeds_round _ _ _ _ _ hih]
          constructor
          · rintro (⟨hnone, he, h⟩ | ⟨item, hitem, hvalue, hnew, h⟩)
            · exact .skipped _ _ _ delta length _ hhead hnone he h
            · exact .known _ _ _ delta length _ item hhead hitem hvalue hnew h
          · intro h
            cases h with
            | payload _ _ _ _ h => exact absurd h hfirst
            | known _ _ _ delta' length' rest' item hhead' hitem hvalue hnew h =>
              obtain ⟨rfl, rfl, rfl⟩ := head_unique _ _ _ _ _ _ _ hhead hhead'
              exact Or.inr ⟨item, hitem, hvalue, hnew, h⟩
            | skipped _ _ _ delta' length' rest' hhead' hnone he h =>
              obtain ⟨rfl, rfl, rfl⟩ := head_unique _ _ _ _ _ _ _ hhead hhead'
              exact Or.inl ⟨hnone, he, h⟩
        · obtain ⟨e, he⟩ := readFrom_no_head values c first tail hrest hfirst
            (fun delta length rest h => hhead ⟨delta, length, rest, h⟩)
          rw [he]
          refine iff_of_false (succeeds_error e) ?_
          intro h
          cases h with
          | payload _ _ _ _ h => exact hfirst h
          | known _ _ _ _ _ _ _ h => exact hhead ⟨_, _, _, h⟩
          | skipped _ _ _ _ _ _ h => exact hhead ⟨_, _, _, h⟩

/-- A header that is accepted. -/
inductive HeaderOk : Bytes → Prop
  | mk (first code b₂ b₃ : UInt8) (tail : Bytes) (hversion : first.toNat / 64 = version)
    (hcode : CodeOk code.toNat) : HeaderOk (first :: code :: b₂ :: b₃ :: tail)

theorem body_cons (first code b₂ b₃ : UInt8) (tail : Bytes) :
    body (first :: code :: b₂ :: b₃ :: tail) = tail.drop (first.toNat % 16) := by
  unfold body tokenLength
  rw [Nat.add_comm]
  rfl

theorem returns_message_iff (rng datagram : Bytes) (source : Address) :
    (∃ m, SerializerUdp.deserialize rng datagram source = .ok (.message m)) ↔
      HeaderOk datagram ∧ Accepts 0 [] (body datagram) := by
  have hmessage : ∀ r : Except PyErr Message,
      (∃ m, badRequestOn r = .ok (.message m)) ↔ Succeeds r := by
    intro r
    cases r with
    | ok m => exact iff_of_true ⟨m, rfl⟩ ⟨m, rfl⟩
    | error e =>
      refine iff_of_false ?_ (succeeds_error e)
      rintro ⟨m, h⟩
      cases e <;> cases h
  unfold SerializerUdp.deserialize
  rw [hmessage, succeeds_bind]
  by_cases hheader : HeaderOk datagram
  · cases hheader with
    | mk first code b₂ b₃ tail hversion hcode =>
      obtain ⟨m, hm, hnumbers⟩ := udp_readHeader_ok rng source first code b₂ b₃ tail hversion hcode
      have hread : Succeeds (readMessage (tail.drop (first.toNat % 16)) m) ↔
          Accepts 0 [] (tail.drop (first.toNat % 16)) := by
        unfold readMessage
        rw [readLoop_eq_readFrom _ _ _ (by simp), succeeds_readFrom, hnumbers]
        rfl
      simp only [hm, Except.ok.injEq, exists_eq_left', hread, body_cons]
      exact (and_iff_right (HeaderOk.mk first code b₂ b₃ tail hversion hcode)).symm
  · obtain ⟨e, he, _⟩ := udp_readHeader_refused rng source datagram (by
      rintro first code b₂ b₃ tail rfl ⟨hversion, hcode⟩
      exact hheader (.mk first code b₂ b₃ tail hversion hcode))
    rw [he]
    simp [hheader]

theorem udpEscapes_iff (datagram : Bytes) :
    UdpEscapes datagram ↔ HeaderOk datagram ∧ Escapes 0 [] (body datagram) := by
  constructor
  · rintro ⟨first, code, b₂, b₃, tail, hversion, hcode, hbody⟩
    rw [body_cons]
    exact ⟨.mk first code b₂ b₃ tail hversion hcode, hbody⟩
  · rintro ⟨⟨first, code, b₂, b₃, tail, hversion, hcode⟩, hbody⟩
    rw [body_cons] at hbody
    exact .mk first code b₂ b₃ tail hversion hcode hbody

/-- What is asked: an accepted datagram holds all it announces, and one that ends inside a token
or an announced value is answered with the code of a bad request. -/
def NotTruncated (rng datagram : Bytes) (source : Address) : Prop :=
  (∀ m, SerializerUdp.deserialize rng datagram source = .ok (.message m) → Inside datagram) ∧
    (EndsInToken datagram ∨ EndsInValue (body datagram) →
      SerializerUdp.deserialize rng datagram source = .ok (.code Codes.badRequest))

/-- Behind an accepted header, bytes that are short or announce too long a token, and that
contain nothing the loop refuses for another reason. -/
structure Tolerated (datagram : Bytes) : Prop where
  header : HeaderOk datagram
  malformed :
    datagram.length < 4 + tokenLength datagram ∨
    8 < tokenLength datagram ∧ Accepts 0 [] (body datagram) ∨
    EndsInValue (body datagram) ∧ (Accepts 0 [] (body datagram) ∨ Escapes 0 [] (body datagram))

theorem four_le (datagram : Bytes) (h : HeaderOk datagram) : 4 ≤ datagram.length := by
  cases h
  simp

/-- The deserializer keeps truncated messages out exactly outside these datagrams. -/
theorem notTruncated_iff (rng datagram : Bytes) (source : Address) :
    NotTruncated rng datagram source ↔ ¬ Tolerated datagram := by
  have haccepts := returns_message_iff rng datagram source
  have htotal := udp_total_iff rng datagram source
  rw [udpEscapes_iff] at htotal
  have hcut : datagram.length < 4 + tokenLength datagram → Accepts 0 [] (body datagram) := by
    intro hshort
    have hnil : body datagram = [] := List.drop_eq_nil_of_le (by omega)
    rw [hnil]
    exact .done 0 []
  constructor
  · rintro ⟨hinside, hrefused⟩ ⟨hheader, hmalformed⟩
    have haccepted : Accepts 0 [] (body datagram) → Inside datagram := by
      intro h
      obtain ⟨m, hm⟩ := haccepts.mpr ⟨hheader, h⟩
      exact hinside m hm
    rcases hmalformed with hshort | ⟨hlong, h⟩ | ⟨hends, h | h⟩
    · exact absurd (haccepted (hcut hshort)).token (by omega)
    · exact absurd (haccepted h).tokenLength (by omega)
    · exact not_endsInValue _ (haccepted h).options hends
    · exact htotal.mp (Or.inr (hrefused (Or.inr hends))) ⟨hheader, h⟩
  · intro hnot
    constructor
    · intro m hm
      obtain ⟨hheader, hbody⟩ := haccepts.mp ⟨m, hm⟩
      refine ⟨?_, four_le datagram hheader, ?_, ?_⟩
      · by_contra hlong
        exact hnot ⟨hheader, Or.inr (Or.inl ⟨by omega, hbody⟩)⟩
      · by_contra hshort
        exact hnot ⟨hheader, Or.inl (by omega)⟩
      · rcases inside_or_endsInValue 0 [] _ hbody with h | h
        · exact h
        · exact absurd ⟨hheader, Or.inr (Or.inr ⟨h, Or.inl hbody⟩)⟩ hnot
    · intro hends
      have hquiet : ∀ h : Accepts 0 [] (body datagram) ∨ Escapes 0 [] (body datagram),
          ¬ HeaderOk datagram := by
        intro h hheader
        rcases hends with ⟨_, hshort⟩ | hvalue
        · exact hnot ⟨hheader, Or.inl hshort⟩
        · exact hnot ⟨hheader, Or.inr (Or.inr ⟨hvalue, h⟩)⟩
      rcases htotal.mpr (fun h => hquiet (Or.inr h.2) h.1) with ⟨m, hm⟩ | hcode
      · obtain ⟨hheader, hbody⟩ := haccepts.mp ⟨m, hm⟩
        exact absurd hheader (hquiet (Or.inl hbody))
      · exact hcode

/-- An If-Match option that announces eight bytes and has one, a token of four bytes that has
one, and a token of nine bytes. -/
theorem not_notTruncated :
    ¬ NotTruncated [] [0x40, 1, 0, 7, 0x18, 0xAA] (['h'], 1) ∧
      ¬ NotTruncated [] [0x44, 1, 0, 7, 0xAA] (['h'], 1) ∧
      ¬ NotTruncated [] [0x49, 1, 0, 7, 1, 2, 3, 4, 5, 6, 7, 8, 9] (['h'], 1) := by
  have hvalue : SerializerUdp.deserialize [] [0x40, 1, 0, 7, 0x18, 0xAA] (['h'], 1) ≠
      .ok (.code Codes.badRequest) := by decide +kernel
  have htoken : SerializerUdp.deserialize [] [0x44, 1, 0, 7, 0xAA] (['h'], 1) ≠
      .ok (.code Codes.badRequest) := by decide +kernel
  have hlong : ∃ m, SerializerUdp.deserialize [] [0x49, 1, 0, 7, 1, 2, 3, 4, 5, 6, 7, 8, 9]
      (['h'], 1) = .ok (.message m) :=
    (returns_message_iff _ _ _).mpr
      ⟨.mk 0x49 1 0 7 _ (by decide) (Or.inl (by decide)), .done 0 []⟩
  refine ⟨fun h => hvalue (h.2 (Or.inr ?_)), fun h => htoken (h.2 (Or.inl ?_)), fun h => ?_⟩
  · have hhead : Head [0x18, 0xAA] 1 8 [0xAA] :=
      .mk 0x18 [0xAA] 1 0 8 0 (by decide) (.short 1 _ (by decide)) (.short 8 _ (by decide))
    exact .here _ 1 8 [0xAA] hhead (by decide)
  · exact ⟨by decide, by decide⟩
  · obtain ⟨m, hm⟩ := hlong
    exact absurd (h.1 m hm).tokenLength (by decide)

end BubotCoap.Truncation
