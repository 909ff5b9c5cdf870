import BubotCoap.OptionAccess
import BubotCoap.TextOptions

set_option autoImplicit false

namespace BubotCoap.IntegerOptions
open PythonData Defines Utils Options Messages OptionAccess StableSort Serializer OptionWire
  TextOptions

/-- The header fits its fields, and every option has as many bytes as its length announces. -/
structure Sendable (m : Message) : Prop where
  type : ∃ t, m.type = some t
  code : m.code.getD 0 ∈ Codes.list
  mid : 0 ≤ m.mid.getD 0 ∧ m.mid.getD 0 ≤ 65535
  token : (m.token.getD []).length ≤ 15
  options : ∀ o ∈ m.options.toList, Framed o

theorem deserialize_serialize_options (rng : Bytes) (source : Address) (m : Message)
    (h : Sendable m) :
    ∃ datagram m', SerializerUdp.serialize m = .ok datagram ∧
      SerializerUdp.deserialize rng datagram source = .ok (.message m') ∧
      m'.options.toList = (asSortedList m.options).map arrived := by
  obtain ⟨t, htype⟩ := h.type
  have hlt := UdpRoundTrip.code_lt _ h.code
  obtain ⟨mid, hmid⟩ := Int.eq_ofNat_of_zero_le h.mid.1
  have hm : mid ≤ 65535 := by
    have hle := h.mid.2
    omega
  have hser := UdpRoundTrip.serialize_getD m t (m.code.getD 0) mid (m.token.getD []) htype rfl hmid
    rfl hlt hm h.token fun o ho => (h.options o ho).toEmitted
  obtain ⟨base, hbase, hoptions, hnone⟩ := OptionSequences.newMessage_blank _ (Or.inl h.code)
  have hhead := UdpRoundTrip.readHeader_wire t _ _ (m.token.getD []) (bodyWire m) rng source base
    hbase hlt hm h.token
  obtain ⟨m', hread, hall⟩ := readMessage_framed m
    { base with
      type := some t
      mid := some (mid : ℤ)
      token := some (if (m.token.getD []).length > 0 then m.token.getD [] else rng)
      source := some source
      destination := none } h.options hoptions hnone
  refine ⟨_, m', hser, ?_, hall⟩
  unfold SerializerUdp.deserialize
  change Serializer.badRequestOn (SerializerUdp.readHeader rng
    (UdpRoundTrip.headerWire t (m.code.getD 0) mid (m.token.getD []) ++ bodyWire m)
    source >>= fun x => readMessage x.2 x.1) = _
  rw [hhead, ok_bind]
  dsimp only
  rw [hread]
  rfl

theorem ofNumber_arrived (number : ℕ) (os os' : OptionList)
    (h : os'.toList = (asSortedList os).map arrived) :
    ofNumber number os' = (ofNumber number os).map arrived := by
  have hstable := (sortBy_stable CoapOption.number os.toList).stable number
  unfold ofNumber
  rw [h, List.filter_map, ← hstable]
  rfl

section
variable (item : OptionItem) (n : ℕ) (h : OptionRegistry.find? item.number = some item)
  (hi : item.valueType = .INTEGER)

@[simp] theorem arrived_intOption : arrived (intOption item n h hi) = intOption item n h hi := by
  unfold arrived intOption
  rw [CoapOption.mk.injEq]
  refine ⟨rfl, ?_⟩
  change arrivedValue item.valueType (.int n) = .int n
  rw [hi]
  rfl

theorem framed_intOption (hn : byteLen n ≤ 65804) : Framed (intOption item n h hi) := by
  refine ⟨⟨?_, hn⟩, BigEndian.bytes_length _ _⟩
  unfold Emits intOption
  rw [hi]
  trivial

theorem intOption_value_iff :
    (intOption item n h hi).value = .int n ↔ n ≠ 0 ∨ item.default = some 0 := by
  by_cases hn : n = 0
  · subst hn
    rw [intOption_value_zero item h hi]
    cases item.default with
    | none => simp
    | some d => simp
  · exact iff_of_true (intOption_value item n h hi hn) (Or.inl hn)

theorem make_int : CoapOption.make item.number (.int n) = .ok (intOption item n h hi) :=
  make_stored (intOption item n h hi)

end

theorem repeatable_of_integer (item : OptionItem)
    (h : OptionRegistry.find? item.number = some item) (hi : item.valueType = .INTEGER) :
    item.repeatable = false := by
  have key : ∀ p ∈ OptionRegistry.list, p.2.valueType = .INTEGER → p.2.repeatable = false := by
    decide
  exact key _ (mem_list_of_find? _ _ h) hi

theorem ofNumber_of_mem (os : OptionList) (o : CoapOption) (ho : o ∈ os.toList)
    (hrep : o.item.repeatable = false) : ofNumber o.number os = [o] := by
  have hmem : o ∈ ofNumber o.number os := List.mem_filter.mpr ⟨ho, by simp⟩
  have hnumber : ∀ p ∈ ofNumber o.number os, p.number = o.number := fun p hp =>
    of_decide_eq_true (List.mem_filter.mp hp).2
  have honce : Once (ofNumber o.number os) := os.once.sublist List.filter_sublist
  generalize ofNumber o.number os = ps at hmem hnumber honce ⊢
  obtain ⟨before, after, rfl⟩ := List.append_of_mem hmem
  have hbefore : before = [] := by
    refine List.eq_nil_iff_forall_not_mem.mpr fun p hp => ?_
    have hpo := (List.pairwise_append.mp honce).2.2 p hp o List.mem_cons_self
    have hsame := hnumber p (List.mem_append_left _ hp)
    have hitem : some p.item = some o.item := by
      rw [← p.registered, ← o.registered]
      exact congrArg _ hsame
    rw [Option.some.inj hitem, hrep] at hpo
    exact absurd (hpo hsame) (by decide)
  have hafter : after = [] := by
    refine List.eq_nil_iff_forall_not_mem.mpr fun p hp => ?_
    have hop := (List.pairwise_cons.mp (List.pairwise_append.mp honce).2.1).1 p hp
    have hsame := hnumber p (List.mem_append_right _ (List.mem_cons_of_mem o hp))
    rw [hrep] at hop
    exact absurd (hop hsame.symm) (by decide)
  rw [hbefore, hafter]
  rfl

/-- What `get` reads from the message that a peer decodes, whatever the peer's address and the
token it would generate. -/
def Arrives {α : Type} (m : Message) (get : Message → Except PyErr α) (v : α) : Prop :=
  ∀ (rng : Bytes) (source : Address), ∃ datagram m', SerializerUdp.serialize m = .ok datagram ∧
    SerializerUdp.deserialize rng datagram source = .ok (.message m') ∧ get m' = .ok v

/-- What is read from integer options only is read at the peer as it is here. -/
theorem arrives_of_ofNumber {α : Type} (item : OptionItem) (n : ℕ)
    (h : OptionRegistry.find? item.number = some item) (hi : item.valueType = .INTEGER)
    (m : Message) (get : Message → Except PyErr α) (v : α) (hsend : Sendable m)
    (hm : ofNumber item.number m.options = [intOption item n h hi])
    (hget : ∀ m', ofNumber item.number m'.options = [intOption item n h hi] → get m' = .ok v) :
    Arrives m get v := by
  intro rng source
  obtain ⟨datagram, m', hser, hdes, hall⟩ := deserialize_serialize_options rng source m hsend
  refine ⟨datagram, m', hser, hdes, hget m' ?_⟩
  rw [ofNumber_arrived item.number m.options m'.options hall, hm, List.map_singleton,
    arrived_intOption]

/-- The values of the options of a number. -/
def valuesOf (number : ℕ) (m : Message) : Except PyErr (List Value) :=
  .ok ((ofNumber number m.options).map CoapOption.value)

/-- `Response.max_age`: of several options the last decides. -/
def maxAge (response : Message) : Except PyErr ℕ :=
  response.options.toList.foldlM
    (fun value o =>
      if o.number = OptionRegistry.maxAge.number then intOf o.value else pure value)
    (OptionRegistry.maxAge.default.getD 0)

/-- `response.max_age = value`. -/
def setMaxAge (response : Message) (value : ℕ) : Except PyErr Message :=
  (response.delOptionByNumber OptionRegistry.maxAge.number).addNew OptionRegistry.maxAge
    (.int value)

theorem maxAge_eq (response : Message) (n : ℕ)
    (h : ofNumber OptionRegistry.maxAge.number response.options =
      [intOption OptionRegistry.maxAge n rfl rfl]) :
    maxAge response = intOf (intOption OptionRegistry.maxAge n rfl rfl).value := by
  have hfold : maxAge response =
      (ofNumber OptionRegistry.maxAge.number response.options).foldlM
        (fun _ o => intOf o.value) (OptionRegistry.maxAge.default.getD 0) := by
    unfold maxAge ofNumber
    rw [List.foldlM_filter]
    simp
  rw [hfold, h, List.foldlM_cons]
  cases intOf (intOption OptionRegistry.maxAge n rfl rfl).value <;> rfl

/-- The option reads back the number it was set to, at once and at the peer of every message that
carries it. -/
structure ReadsBack (item : OptionItem) (n : ℕ) : Prop where
  option : ∃ o, CoapOption.make item.number (.int n) = .ok o ∧ o.value = .int n
  peer : ∀ o, CoapOption.make item.number (.int n) = .ok o → ∀ m : Message,
    o ∈ m.options.toList → Sendable m → Arrives m (valuesOf item.number) [.int n]

/-- So does the maximum age, on every response. -/
def MaxAgeReadsBack (n : ℕ) : Prop :=
  ∀ response, ∃ response', setMaxAge response n = .ok response' ∧
    maxAge response' = .ok n ∧ (Sendable response' → Arrives response' maxAge n)

theorem readsBack_iff (item : OptionItem) (n : ℕ)
    (h : OptionRegistry.find? item.number = some item) (hi : item.valueType = .INTEGER) :
    ReadsBack item n ↔ n ≠ 0 ∨ item.default = some 0 := by
  have hmake := make_int item n h hi
  have hvalue := intOption_value_iff item n h hi
  constructor
  · intro hback
    obtain ⟨o, ho, hv⟩ := hback.option
    rw [hmake] at ho
    rw [← Except.ok.inj ho] at hv
    exact hvalue.mp hv
  · intro hcond
    refine ⟨⟨_, hmake, hvalue.mpr hcond⟩, ?_⟩
    intro o ho m hmem hsend
    rw [hmake] at ho
    rw [← Except.ok.inj ho] at hmem
    have honly := ofNumber_of_mem m.options _ hmem (repeatable_of_integer item h hi)
    refine arrives_of_ofNumber item n h hi m _ _ hsend honly fun m' hm' => ?_
    unfold valuesOf
    rw [hm', List.map_singleton, hvalue.mpr hcond]

theorem maxAgeReadsBack_iff (n : ℕ) : MaxAgeReadsBack n ↔ n ≠ 0 := by
  have hset : ∀ response, setMaxAge response n =
      .ok (replace response OptionRegistry.maxAge n rfl rfl) := fun response =>
    addNew_delete response OptionRegistry.maxAge n rfl rfl
  have hself : ∀ response : Message, ofNumber OptionRegistry.maxAge.number
      (replace response OptionRegistry.maxAge n rfl rfl).options =
        [intOption OptionRegistry.maxAge n rfl rfl] := fun response =>
    ofNumber_replace_self response OptionRegistry.maxAge n rfl rfl
  constructor
  · intro hback hn
    obtain ⟨response', hr, hread, -⟩ := hback (Message.new .response)
    rw [hset] at hr
    rw [← Except.ok.inj hr, maxAge_eq _ n (hself _), hn,
      intOption_value_zero OptionRegistry.maxAge rfl rfl] at hread
    exact absurd (Except.ok.inj hread) (by decide)
  · intro hn response
    have hread : ∀ m : Message, ofNumber OptionRegistry.maxAge.number m.options =
        [intOption OptionRegistry.maxAge n rfl rfl] → maxAge m = .ok n := by
      intro m hm
      rw [maxAge_eq m n hm, intOption_value OptionRegistry.maxAge n rfl rfl hn]
      rfl
    exact ⟨_, hset response, hread _ (hself response), fun hsend =>
      arrives_of_ofNumber OptionRegistry.maxAge n rfl rfl _ _ _ hsend (hself response) hread⟩

/-- Every integer option reads back what it was set to, except for a zero where the registry has
another default or none; of the maximum age this is every zero. -/
theorem integer_readsBack_iff (item : OptionItem) (n : ℕ)
    (h : OptionRegistry.find? item.number = some item) (hi : item.valueType = .INTEGER) :
    (ReadsBack item n ↔ n ≠ 0 ∨ item.default = some 0) ∧ (MaxAgeReadsBack n ↔ n ≠ 0) :=
  ⟨readsBack_iff item n h hi, maxAgeReadsBack_iff n⟩

theorem integer_readsBack_contentType :
    (ReadsBack OptionRegistry.contentType 0 ↔
        0 ≠ 0 ∨ OptionRegistry.contentType.default = some 0) ∧ (MaxAgeReadsBack 0 ↔ 0 ≠ 0) :=
  integer_readsBack_iff OptionRegistry.contentType 0 rfl rfl

/-- A maximum age of zero reads as sixty. -/
theorem not_readsBack_maxAge : ¬ ReadsBack OptionRegistry.maxAge 0 ∧ ¬ MaxAgeReadsBack 0 := by
  constructor
  · intro hback
    obtain ⟨o, ho, hv⟩ := hback.option
    rw [make_int OptionRegistry.maxAge 0 rfl rfl] at ho
    rw [← Except.ok.inj ho] at hv
    exact absurd hv (by decide)
  · intro hback
    exact (maxAgeReadsBack_iff 0).mp hback rfl

/-- `set` stores a block option on `m` that `get` reads as `(num, more, size)`, and reads so at the
peer. -/
def BlockReadsBack (set : Message → ℕ → ℕ → ℕ → Except PyErr Message)
    (get : Message → Except PyErr (Option (ℕ × ℕ × ℕ))) (m : Message) (num more size : ℕ) :
    Prop :=
  ∃ m', set m num more size = .ok m' ∧ get m' = .ok (some (num, more, size)) ∧
    (Sendable m → Arrives m' get (some (num, more, size)))

section
variable (item : OptionItem) (h : OptionRegistry.find? item.number = some item)
  (hi : item.valueType = .INTEGER) (m : Message)

theorem sendable_push (n : ℕ) (hfree : ofNumber item.number m.options = [])
    (hn : byteLen n ≤ 65804) (hsend : Sendable m) :
    Sendable { m with options := push m.options (intOption item n h hi) hfree } := by
  refine ⟨hsend.type, hsend.code, hsend.mid, hsend.token, fun o ho => ?_⟩
  change o ∈ m.options.toList ++ [intOption item n h hi] at ho
  rcases List.mem_append.mp ho with hold | hnew
  · exact hsend.options o hold
  · rw [List.mem_singleton.mp hnew]
    exact framed_intOption item n h hi hn

variable (num more e : ℕ) (hm : more ≤ 1) (he : e ≤ 6)

include hm he in
theorem byteLen_blockValue (hnum : num < 2 ^ 20) :
    byteLen (Message.blockValue num more (2 ^ (e + 4))) ≤ 65804 := by
  have hlt : Message.blockValue num more (2 ^ (e + 4)) < 256 ^ 3 := by
    rw [blockValue_two_pow num more e hm he]
    omega
  exact ((byteLen_le_iff _ 3).mpr hlt).trans (by decide)

include h hi hm he in
theorem blockReadsBack_iff (set : Message → ℕ → ℕ → ℕ → Except PyErr Message)
    (get : Message → Except PyErr (Option (ℕ × ℕ × ℕ)))
    (hset : ∀ m num more size,
      set m num more size = m.addNew item (.int (Message.blockValue num more size)))
    (hget : ∀ m, get m = m.block item.number) (hdefault : item.default = none)
    (hnum : num < 2 ^ 20) (hfree : ∀ o ∈ m.options.toList, o.number ≠ item.number) :
    BlockReadsBack set get m num more (2 ^ (e + 4)) ↔
      ¬ (num = 0 ∧ more = 0 ∧ 2 ^ (e + 4) = 16) := by
  have hnil : ofNumber item.number m.options = [] :=
    List.filter_eq_nil_iff.mpr fun o ho => by simpa using hfree o ho
  have hadd := (hset m num more (2 ^ (e + 4))).trans (addNew_int m item _ h hi hnil)
  have honly := ofNumber_push m.options
    (intOption item (Message.blockValue num more (2 ^ (e + 4))) h hi) hnil
  have hsixteen : 2 ^ (e + 4) = 16 ↔ e = 0 := by
    constructor
    · intro heq
      have hexp := Nat.pow_right_injective (le_refl 2) (heq.trans (by decide : 16 = 2 ^ (0 + 4)))
      omega
    · rintro rfl
      decide
  constructor
  · rintro ⟨m', hm', hread, -⟩ ⟨hzero, hmore, hsize⟩
    have hcode : Message.blockValue num more (2 ^ (e + 4)) = 0 := by
      rw [blockValue_two_pow num more e hm he, hzero, hmore, hsixteen.mp hsize]
    rw [hadd] at hm'
    have hmasked := block_eq_error item m' _ h hi hdefault hcode
      (by rw [← Except.ok.inj hm']; exact honly)
    rw [hget, hmasked] at hread
    cases hread
  · intro hcond
    have hpos : 16 * num + 8 * more + e ≠ 0 := by
      rw [hsixteen] at hcond
      omega
    have hread : ∀ m' : Message, ofNumber item.number m'.options =
        [intOption item (Message.blockValue num more (2 ^ (e + 4))) h hi] →
          get m' = .ok (some (num, more, 2 ^ (e + 4))) := by
      intro m' hm'
      have hblock := block_eq_some item m' num more e h hi hm he hpos hm'
      rwa [Nat.mod_eq_of_lt hnum, ← hget] at hblock
    refine ⟨_, hadd, hread _ honly, fun hsend => ?_⟩
    have hsend' := sendable_push item h hi m _ hnil (byteLen_blockValue num more e hm he hnum) hsend
    exact arrives_of_ofNumber item _ h hi _ _ _ hsend' honly hread

end

/-- The accessors of both block options are inverse, except for block 0 of size 16 that is the
last. -/
theorem block_readsBack_iff (m : Message) (num more size : ℕ) (hnum : num < 2 ^ 20)
    (hm : more = 0 ∨ more = 1) (hsize : size ∈ [16, 32, 64, 128, 256, 512, 1024]) :
    ((∀ o ∈ m.options.toList, o.number ≠ OptionRegistry.block1.number) →
        (BlockReadsBack Message.setBlock1 Message.block1 m num more size ↔
          ¬ (num = 0 ∧ more = 0 ∧ size = 16))) ∧
      ((∀ o ∈ m.options.toList, o.number ≠ OptionRegistry.block2.number) →
        (BlockReadsBack Message.setBlock2 Message.block2 m num more size ↔
          ¬ (num = 0 ∧ more = 0 ∧ size = 16))) := by
  have hmore : more ≤ 1 := by omega
  have key : ∀ size ∈ [16, 32, 64, 128, 256, 512, 1024], ∃ e ≤ 6, size = 2 ^ (e + 4) := by decide
  obtain ⟨e, he, rfl⟩ := key size hsize
  exact ⟨blockReadsBack_iff OptionRegistry.block1 rfl rfl m num more e hmore he _ _
      (fun _ _ _ _ => rfl) (fun _ => rfl) rfl hnum,
    blockReadsBack_iff OptionRegistry.block2 rfl rfl m num more e hmore he _ _
      (fun _ _ _ _ => rfl) (fun _ => rfl) rfl hnum⟩

theorem block_readsBack_large :
    ((∀ o ∈ (Message.new .request).options.toList, o.number ≠ OptionRegistry.block1.number) →
        (BlockReadsBack Message.setBlock1 Message.block1 (Message.new .request) 5 1 1024 ↔
          ¬ (5 = 0 ∧ 1 = 0 ∧ 1024 = 16))) ∧
      ((∀ o ∈ (Message.new .request).options.toList, o.number ≠ OptionRegistry.block2.number) →
        (BlockReadsBack Message.setBlock2 Message.block2 (Message.new .request) 5 1 1024 ↔
          ¬ (5 = 0 ∧ 1 = 0 ∧ 1024 = 16))) :=
  block_readsBack_iff (Message.new .request) 5 1 1024 (by decide) (Or.inr rfl) (by decide)

/-- The last block of a body of at most sixteen bytes, set on a new message. -/
theorem not_block_readsBack :
    ¬ BlockReadsBack Message.setBlock1 Message.block1 (Message.new .request) 0 0 16 ∧
      ¬ BlockReadsBack Message.setBlock2 Message.block2 (Message.new .request) 0 0 16 := by
  have hnone : ∀ number, ∀ o ∈ (Message.new .request).options.toList, o.number ≠ number := by
    intro number o ho
    cases ho
  have hfirst := blockReadsBack_iff OptionRegistry.block1 rfl rfl (Message.new .request) 0 0 0
    (by decide) (by decide) Message.setBlock1 Message.block1 (fun _ _ _ _ => rfl) (fun _ => rfl)
    rfl (by decide) (hnone _)
  have hsecond := blockReadsBack_iff OptionRegistry.block2 rfl rfl (Message.new .request) 0 0 0
    (by decide) (by decide) Message.setBlock2 Message.block2 (fun _ _ _ _ => rfl) (fun _ => rfl)
    rfl (by decide) (hnone _)
  exact ⟨fun hback => hfirst.mp hback (by decide), fun hback => hsecond.mp hback (by decide)⟩

end BubotCoap.IntegerOptions
