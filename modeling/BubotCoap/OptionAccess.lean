import BubotCoap.Messages

set_option autoImplicit false

namespace BubotCoap.OptionAccess
open PythonData Defines Utils Options Messages

/-- The options of one number, in their order. -/
def ofNumber (number : ℕ) (os : OptionList) : List CoapOption :=
  os.toList.filter fun o => o.number = number

@[simp] theorem ofNumber_delete_self (number : ℕ) (os : OptionList) :
    ofNumber number (os.delete number) = [] := by
  simp [ofNumber, OptionList.delete, List.filter_filter]

theorem ofNumber_delete_of_ne (n number : ℕ) (os : OptionList) (h : n ≠ number) :
    ofNumber n (os.delete number) = ofNumber n os := by
  unfold ofNumber OptionList.delete
  rw [List.filter_filter]
  apply List.filter_congr
  intro o _
  by_cases hn : o.number = n
  · simp [hn, h]
  · simp [hn]

def push (os : OptionList) (o : CoapOption) (h : ofNumber o.number os = []) : OptionList :=
  ⟨os.toList ++ [o], os.once_append o (Or.inr (by
    rw [OptionList.alreadyIn, List.any_eq_false]
    intro p hp
    have := List.filter_eq_nil_iff.mp h p hp
    simpa [eq_comm] using this))⟩

theorem add_push (os : OptionList) (o : CoapOption) (h : ofNumber o.number os = []) :
    os.add o = .ok (push os o h) := by
  have hnew : os.alreadyIn o = false := by
    rw [OptionList.alreadyIn, List.any_eq_false]
    intro p hp
    have := List.filter_eq_nil_iff.mp h p hp
    simpa [eq_comm] using this
  unfold OptionList.add
  rw [dif_pos (Or.inr hnew)]
  rfl

theorem ofNumber_push (os : OptionList) (o : CoapOption) (h : ofNumber o.number os = []) :
    ofNumber o.number (push os o h) = [o] := by
  change (os.toList ++ [o]).filter _ = [o]
  rw [List.filter_append]
  change ofNumber o.number os ++ _ = [o]
  rw [h]
  simp

theorem ofNumber_push_of_ne (n : ℕ) (os : OptionList) (o : CoapOption)
    (h : ofNumber o.number os = []) (hne : n ≠ o.number) :
    ofNumber n (push os o h) = ofNumber n os := by
  change (os.toList ++ [o]).filter _ = _
  rw [List.filter_append]
  simp [ofNumber, Ne.symm hne]

def intOption (item : OptionItem) (v : ℕ) (h : OptionRegistry.find? item.number = some item)
    (hi : item.valueType = .INTEGER) : CoapOption :=
  ⟨item, .int v, h, by rw [hi]; rfl⟩

theorem intOption_value (item : OptionItem) (v : ℕ)
    (h : OptionRegistry.find? item.number = some item) (hi : item.valueType = .INTEGER)
    (hv : v ≠ 0) : (intOption item v h hi).value = .int v := by
  have hpos : byteLen v > 0 := by
    have := (byteLen_eq_zero_iff v).not.mpr hv
    omega
  unfold CoapOption.value intOption
  dsimp only
  rw [if_pos hi, if_pos hpos]

theorem intOption_value_zero (item : OptionItem)
    (h : OptionRegistry.find? item.number = some item) (hi : item.valueType = .INTEGER) :
    (intOption item 0 h hi).value = (item.default.map Value.int).getD .none := by
  unfold CoapOption.value intOption
  dsimp only
  rw [if_pos hi, if_neg (by decide)]
  cases item.default with
  | none => rfl
  | some d => rfl

theorem addNew_int (m : Message) (item : OptionItem) (v : ℕ)
    (h : OptionRegistry.find? item.number = some item) (hi : item.valueType = .INTEGER)
    (hfree : ofNumber item.number m.options = []) :
    m.addNew item (.int v) =
      .ok { m with options := push m.options (intOption item v h hi) hfree } := by
  have hmake : CoapOption.make item.number (.int v) = .ok (intOption item v h hi) :=
    make_stored (intOption item v h hi)
  unfold Message.addNew Message.addOption
  rw [hmake, ok_bind, add_push m.options (intOption item v h hi) hfree]
  rfl

theorem addNew_ok (m m' : Message) (item : OptionItem) (v : Value)
    (h : m.addNew item v = .ok m') : m' = { m with options := m'.options } := by
  unfold Message.addNew Message.addOption at h
  obtain ⟨o, _, h⟩ := (bind_eq_ok _ _ _).mp h
  cases hadd : m.options.add o with
  | error e =>
    rw [hadd] at h
    exact absurd h (by simp [Except.map])
  | ok os =>
    rw [hadd] at h
    rw [← Except.ok.inj h]

theorem block_eq (number : ℕ) (m : Message) :
    m.block number =
      (ofNumber number m.options).foldlM (fun _ o => some <$> parseBlockwise o.value) none := by
  unfold Message.block ofNumber
  rw [List.foldlM_filter]
  simp

theorem name_eq_iff (o : CoapOption) (item : OptionItem)
    (h : OptionRegistry.find? item.number = some item) :
    o.name = item.name ↔ o.number = item.number := by
  have key : ∀ p ∈ OptionRegistry.list, ∀ q ∈ OptionRegistry.list,
      p.2.name = q.2.name ↔ p.2.number = q.2.number := by decide
  exact key _ (mem_list_of_find? _ _ o.registered) _ (mem_list_of_find? _ _ h)

theorem getOption_eq (m : Message) (item : OptionItem)
    (h : OptionRegistry.find? item.number = some item) :
    m.getOption item = (ofNumber item.number m.options).head?.map CoapOption.value := by
  unfold Message.getOption ofNumber
  rw [List.head?_filter]
  congr 2
  funext o
  simp only [name_eq_iff o item h]

theorem contentType_ne_none (m : Message) : m.contentType ≠ .none := by
  unfold Message.contentType
  rw [getOption_eq m OptionRegistry.contentType (by decide)]
  cases hoptions : ofNumber OptionRegistry.contentType.number m.options with
  | nil => exact Value.noConfusion
  | cons o rest =>
    have hnumber : o.number = OptionRegistry.contentType.number := by
      have hmem : o ∈ ofNumber OptionRegistry.contentType.number m.options := by
        rw [hoptions]
        exact List.mem_cons_self
      exact of_decide_eq_true (List.mem_filter.mp hmem).2
    have hitem : o.item = OptionRegistry.contentType := by
      have hregistered := o.registered
      rw [show o.item.number = OptionRegistry.contentType.number from hnumber] at hregistered
      exact (Option.some.inj hregistered).symm
    have htyped := o.typed
    rw [hitem] at htyped
    change o.value ≠ .none
    unfold CoapOption.value
    rw [hitem]
    cases hstored : o.stored with
    | int n =>
      dsimp only
      rw [if_pos (show OptionRegistry.contentType.valueType = .INTEGER from rfl)]
      split <;> exact Value.noConfusion
    | _ =>
      rw [hstored] at htyped
      cases htyped

theorem parseBlockwise_int (v : ℕ) :
    parseBlockwise (.int v) = .ok (v / 16 % 2 ^ 20, v / 8 % 2, 2 ^ (v % 8 + 4)) := by
  have hmore : (v &&& 8) >>> 3 = v / 8 % 2 := by
    rw [Nat.shiftRight_and_distrib, Nat.shiftRight_eq_div_pow]
    exact Nat.and_two_pow_sub_one_eq_mod _ 1
  have hsize : v &&& 7 = v % 8 := Nat.and_two_pow_sub_one_eq_mod v 3
  have hnum : ∀ k, (v &&& ((2 ^ k - 1) <<< 4)) >>> 4 = v / 16 % 2 ^ k := by
    intro k
    rw [Nat.shiftRight_and_distrib, Nat.shiftRight_eq_div_pow, Nat.shiftLeft_shiftRight]
    exact Nat.and_two_pow_sub_one_eq_mod _ k
  unfold parseBlockwise
  dsimp only
  split_ifs with h₁ h₂
  · have hlt := (byteLen_le_iff v 1).mp h₁.le
    rw [hmore, hsize, show (0xF0 : ℕ) = (2 ^ 4 - 1) <<< 4 from rfl, hnum,
      Nat.mod_eq_of_lt (b := 2 ^ 4) (by omega), Nat.mod_eq_of_lt (b := 2 ^ 20) (by omega)]
  · have hlt := (byteLen_le_iff v 2).mp h₂.le
    rw [hmore, hsize, show (0xFFF0 : ℕ) = (2 ^ 12 - 1) <<< 4 from rfl, hnum,
      Nat.mod_eq_of_lt (b := 2 ^ 12) (by omega), Nat.mod_eq_of_lt (b := 2 ^ 20) (by omega)]
  · rw [hmore, hsize, show (0xFFFFF0 : ℕ) = (2 ^ 20 - 1) <<< 4 from rfl, hnum]

theorem szx_lt (size : ℕ) : Message.szx size < 7 := by
  unfold Message.szx
  split_ifs <;> omega

theorem blockValue_eq (num more size : ℕ) (h : more ≤ 1) :
    Message.blockValue num more size = 16 * num + 8 * more + Message.szx size := by
  have hlt := szx_lt size
  unfold Message.blockValue
  rw [Nat.or_assoc, ← Nat.shiftLeft_add_eq_or_of_lt (i := 3) (by omega) more,
    ← Nat.shiftLeft_add_eq_or_of_lt (i := 4) (by rw [Nat.shiftLeft_eq]; omega) num,
    Nat.shiftLeft_eq, Nat.shiftLeft_eq]
  omega

/-- The sizes from 16 to 1024 have the exponents 0 to 6. -/
theorem szx_two_pow (e : ℕ) (he : e ≤ 6) : Message.szx (2 ^ (e + 4)) = e := by
  have key : ∀ e ≤ 6, Message.szx (2 ^ (e + 4)) = e := by decide
  exact key e he

theorem blockValue_two_pow (num more e : ℕ) (hm : more ≤ 1) (he : e ≤ 6) :
    Message.blockValue num more (2 ^ (e + 4)) = 16 * num + 8 * more + e := by
  rw [blockValue_eq num more _ hm, szx_two_pow e he]

/-- Only the last twenty bits of the number are read back. -/
theorem parseBlockwise_blockValue (num more e : ℕ) (hm : more ≤ 1) (he : e ≤ 6) :
    parseBlockwise (.int (Message.blockValue num more (2 ^ (e + 4)))) =
      .ok (num % 2 ^ 20, more, 2 ^ (e + 4)) := by
  rw [parseBlockwise_int, blockValue_two_pow num more e hm he]
  have h₁ : (16 * num + 8 * more + e) / 16 = num := by omega
  have h₂ : (16 * num + 8 * more + e) / 8 % 2 = more := by omega
  have h₃ : (16 * num + 8 * more + e) % 8 = e := by omega
  rw [h₁, h₂, h₃]

theorem block_eq_some (item : OptionItem) (m : Message) (num more e : ℕ)
    (hreg : OptionRegistry.find? item.number = some item) (hi : item.valueType = .INTEGER)
    (hm : more ≤ 1) (he : e ≤ 6) (hpos : 16 * num + 8 * more + e ≠ 0)
    (h : ofNumber item.number m.options =
      [intOption item (Message.blockValue num more (2 ^ (e + 4))) hreg hi]) :
    m.block item.number = .ok (some (num % 2 ^ 20, more, 2 ^ (e + 4))) := by
  have hv : Message.blockValue num more (2 ^ (e + 4)) ≠ 0 := by
    rw [blockValue_two_pow num more e hm he]
    exact hpos
  rw [block_eq, h, List.foldlM_cons, intOption_value item _ hreg hi hv,
    parseBlockwise_blockValue num more e hm he]
  rfl

theorem block_eq_error (item : OptionItem) (m : Message) (value : ℕ)
    (h : OptionRegistry.find? item.number = some item) (hi : item.valueType = .INTEGER)
    (hdefault : item.default = none) (hvalue : value = 0)
    (hm : ofNumber item.number m.options = [intOption item value h hi]) :
    m.block item.number = .error .typeError := by
  subst hvalue
  rw [block_eq, hm, List.foldlM_cons, intOption_value_zero item h hi, hdefault]
  rfl

theorem block_eq_none (number : ℕ) (m : Message) (h : ofNumber number m.options = []) :
    m.block number = .ok none := by
  rw [block_eq, h]
  rfl

theorem block_congr (number : ℕ) (m m' : Message)
    (h : ofNumber number m.options = ofNumber number m'.options) :
    m.block number = m'.block number := by
  rw [block_eq, block_eq, h]

theorem contentType_congr (m m' : Message)
    (h : ofNumber OptionRegistry.contentType.number m.options =
      ofNumber OptionRegistry.contentType.number m'.options) : m.contentType = m'.contentType := by
  unfold Message.contentType
  rw [getOption_eq m OptionRegistry.contentType rfl, getOption_eq m' OptionRegistry.contentType rfl,
    h]

section
variable (m : Message) (item : OptionItem) (v : ℕ)
  (h : OptionRegistry.find? item.number = some item) (hi : item.valueType = .INTEGER)

/-- The message with an integer option in place of those of its number. -/
def replace : Message :=
  { m with
    options := push (m.options.delete item.number) (intOption item v h hi)
      (ofNumber_delete_self item.number m.options) }

theorem addNew_delete :
    (m.delOptionByNumber item.number).addNew item (.int v) = .ok (replace m item v h hi) :=
  addNew_int (m.delOptionByNumber item.number) item v h hi _

theorem ofNumber_replace_self :
    ofNumber item.number (replace m item v h hi).options = [intOption item v h hi] :=
  ofNumber_push _ (intOption item v h hi) (ofNumber_delete_self item.number m.options)

theorem ofNumber_replace_of_ne (n : ℕ) (hne : n ≠ item.number) :
    ofNumber n (replace m item v h hi).options = ofNumber n m.options := by
  have hpush := ofNumber_push_of_ne n _ (intOption item v h hi)
    (ofNumber_delete_self item.number m.options) hne
  exact hpush.trans (ofNumber_delete_of_ne n item.number m.options hne)

end

theorem observe_registered :
    OptionRegistry.find? OptionRegistry.observe.number = some OptionRegistry.observe := rfl

theorem observe_integer : OptionRegistry.observe.valueType = .INTEGER := rfl

theorem setObserve_eq (m : Message) (v : ℕ) :
    m.setObserve (.int v) = .ok (replace m OptionRegistry.observe v rfl rfl) :=
  addNew_delete m OptionRegistry.observe v rfl rfl

theorem setSize1_delSize1 (m : Message) (v : ℕ) :
    m.delSize1.setSize1 v = .ok (replace m OptionRegistry.size1 v rfl rfl) :=
  addNew_delete m OptionRegistry.size1 v rfl rfl

theorem setSize2_delSize2 (m : Message) (v : ℕ) :
    m.delSize2.setSize2 v = .ok (replace m OptionRegistry.size2 v rfl rfl) :=
  addNew_delete m OptionRegistry.size2 v rfl rfl

theorem observe_congr (m m' : Message) (h : ofNumber OptionRegistry.observe.number m.options =
    ofNumber OptionRegistry.observe.number m'.options) : m.observe = m'.observe := by
  unfold ofNumber at h
  unfold Message.observe
  rw [← List.head?_filter, ← List.head?_filter, h]

theorem observe_value (v : ℕ) : (intOption OptionRegistry.observe v rfl rfl).value = .int v := by
  by_cases hv : v = 0
  · subst hv
    exact intOption_value_zero OptionRegistry.observe rfl rfl
  · exact intOption_value OptionRegistry.observe v rfl rfl hv

theorem observe_replace (m : Message) (v : ℕ) :
    (replace m OptionRegistry.observe v rfl rfl).observe = some (.int v) := by
  have hstored := ofNumber_replace_self m OptionRegistry.observe v rfl rfl
  unfold ofNumber at hstored
  unfold Message.observe
  rw [← List.head?_filter, hstored, List.head?_cons, Option.map_some, observe_value]

theorem mem_replace (m : Message) (item : OptionItem) (v : ℕ)
    (h : OptionRegistry.find? item.number = some item) (hi : item.valueType = .INTEGER)
    (o : CoapOption) (ho : o ∈ (replace m item v h hi).options.toList) :
    o ∈ m.options.toList ∨ o = intOption item v h hi := by
  change o ∈ (m.options.delete item.number).toList ++ [intOption item v h hi] at ho
  rcases List.mem_append.mp ho with hold | hnew
  · exact Or.inl (List.mem_of_mem_filter hold)
  · exact Or.inr (List.mem_singleton.mp hnew)

def withBlock1 (m : Message) (num more size : ℕ) : Message :=
  replace m OptionRegistry.block1 (Message.blockValue num more size) rfl rfl

def withBlock2 (m : Message) (num more size : ℕ) : Message :=
  replace m OptionRegistry.block2 (Message.blockValue num more size) rfl rfl

theorem setBlock1_delBlock1 (m : Message) (num more size : ℕ) :
    m.delBlock1.setBlock1 num more size = .ok (withBlock1 m num more size) :=
  addNew_delete m OptionRegistry.block1 _ rfl rfl

theorem delBlock1_setPayload (m : Message) (p : Option Payload) :
    m.delBlock1.setPayload p = (m.setPayload p).delBlock1 := rfl

theorem setBlock2_delBlock2 (m : Message) (num more size : ℕ) :
    m.delBlock2.setBlock2 num more size = .ok (withBlock2 m num more size) :=
  addNew_delete m OptionRegistry.block2 _ rfl rfl

theorem block_replace (m : Message) (item : OptionItem) (num more size : ℕ)
    (h : OptionRegistry.find? item.number = some item) (hi : item.valueType = .INTEGER)
    (hm : more ≤ 1) (hnum : num ≠ 0) :
    (replace m item (Message.blockValue num more size) h hi).block item.number =
      .ok (some (num % 2 ^ 20, more, 2 ^ (Message.szx size + 4))) := by
  have hszx := szx_lt size
  have hvalue := blockValue_eq num more size hm
  have hv : Message.blockValue num more size ≠ 0 := by omega
  have h₁ : Message.blockValue num more size / 16 = num := by omega
  have h₂ : Message.blockValue num more size / 8 % 2 = more := by omega
  have h₃ : Message.blockValue num more size % 8 = Message.szx size := by omega
  rw [block_eq, ofNumber_replace_self, List.foldlM_cons, intOption_value item _ h hi hv,
    parseBlockwise_int, h₁, h₂, h₃]
  rfl

theorem parseBlockwise_lt (v : Value) (num more size : ℕ)
    (h : parseBlockwise v = .ok (num, more, size)) : num < 2 ^ 20 ∧ more ≤ 1 := by
  cases v with
  | int v =>
    rw [parseBlockwise_int, Except.ok.injEq, Prod.mk.injEq, Prod.mk.injEq] at h
    omega
  | _ => cases h

theorem block_read (number : ℕ) (m : Message) (block : Option (ℕ × ℕ × ℕ))
    (h : m.block number = .ok block) :
    (block = none ∧ ofNumber number m.options = []) ∨
      ∃ b o, block = some b ∧ o ∈ ofNumber number m.options ∧ parseBlockwise o.value = .ok b := by
  rw [block_eq] at h
  generalize ofNumber number m.options = os at h ⊢
  cases os using List.reverseRecOn with
  | nil =>
    cases h
    exact Or.inl ⟨rfl, rfl⟩
  | append_singleton os o =>
    rw [List.foldlM_append] at h
    cases hfold : os.foldlM (fun _ o => some <$> parseBlockwise o.value)
        (none : Option (ℕ × ℕ × ℕ)) with
    | error e =>
      rw [hfold] at h
      cases h
    | ok value =>
      rw [hfold] at h
      cases hparse : parseBlockwise o.value with
      | error e => simp [hparse, Bind.bind, Except.bind] at h
      | ok b =>
        simp [hparse, Bind.bind, Except.bind] at h
        cases h
        exact Or.inr ⟨b, o, rfl, by simp, hparse⟩

theorem ofNumber_of_block_none (number : ℕ) (m : Message) (h : m.block number = .ok none) :
    ofNumber number m.options = [] := by
  rcases block_read number m none h with ⟨-, hnil⟩ | ⟨b, o, hsome, -⟩
  · exact hnil
  · cases hsome

theorem block_parsed (number : ℕ) (m : Message) (b : ℕ × ℕ × ℕ)
    (h : m.block number = .ok (some b)) : ∃ v, parseBlockwise v = .ok b := by
  rcases block_read number m (some b) h with ⟨hnone, -⟩ | ⟨b', o, hsome, -, hparse⟩
  · cases hnone
  · cases hsome
    exact ⟨_, hparse⟩

theorem block_lt (number : ℕ) (m : Message) (num more size : ℕ)
    (h : m.block number = .ok (some (num, more, size))) : num < 2 ^ 20 ∧ more ≤ 1 := by
  obtain ⟨v, hparse⟩ := block_parsed number m _ h
  exact parseBlockwise_lt v num more size hparse

theorem block_size (number : ℕ) (m : Message) (num more size : ℕ)
    (h : m.block number = .ok (some (num, more, size))) : ∃ e, size = 2 ^ (e + 4) := by
  obtain ⟨v, hparse⟩ := block_parsed number m _ h
  cases v with
  | int v =>
    rw [parseBlockwise_int, Except.ok.injEq, Prod.mk.injEq, Prod.mk.injEq] at hparse
    exact ⟨v % 8, hparse.2.2.symm⟩
  | _ => cases hparse

theorem block1_withBlock1 (m : Message) (num more e : ℕ) (hm : more ≤ 1) (he : e ≤ 6)
    (hpos : 16 * num + 8 * more + e ≠ 0) :
    (withBlock1 m num more (2 ^ (e + 4))).block1 =
      .ok (some (num % 2 ^ 20, more, 2 ^ (e + 4))) :=
  block_eq_some OptionRegistry.block1 _ num more e rfl rfl hm he hpos
    (ofNumber_replace_self m OptionRegistry.block1 _ rfl rfl)

theorem block2_withBlock2 (m : Message) (num more e : ℕ) (hm : more ≤ 1) (he : e ≤ 6)
    (hpos : 16 * num + 8 * more + e ≠ 0) :
    (withBlock2 m num more (2 ^ (e + 4))).block2 =
      .ok (some (num % 2 ^ 20, more, 2 ^ (e + 4))) :=
  block_eq_some OptionRegistry.block2 _ num more e rfl rfl hm he hpos
    (ofNumber_replace_self m OptionRegistry.block2 _ rfl rfl)

theorem block1_withBlock1_max (m : Message) (num more : ℕ) (hm : more ≤ 1) (h : num < 2 ^ 20) :
    (withBlock1 m num more maxPayload).block1 = .ok (some (num, more, maxPayload)) := by
  have hblock := block1_withBlock1 m num more 6 hm le_rfl (by omega)
  rwa [Nat.mod_eq_of_lt h] at hblock

theorem block2_withBlock2_max (m : Message) (num more : ℕ) (hm : more ≤ 1) :
    (withBlock2 m num more maxPayload).block2 = .ok (some (num % 2 ^ 20, more, maxPayload)) :=
  block2_withBlock2 m num more 6 hm le_rfl (by omega)

theorem block_replace_ne_none (m : Message) (item : OptionItem) (v : ℕ)
    (h : OptionRegistry.find? item.number = some item) (hi : item.valueType = .INTEGER) :
    (replace m item v h hi).block item.number ≠ .ok none := by
  intro hnone
  have hnil := ofNumber_of_block_none item.number _ hnone
  rw [ofNumber_replace_self] at hnil
  cases hnil

theorem block2_asked (m : Message) (num more size : ℕ) :
    (withBlock2 m num more size).block2 ≠ .ok none :=
  block_replace_ne_none m OptionRegistry.block2 _ rfl rfl

theorem block2_withBlock1 (m : Message) (num more size : ℕ) :
    (withBlock1 m num more size).block2 = m.block2 :=
  block_congr _ _ _ (ofNumber_replace_of_ne m OptionRegistry.block1 _ rfl rfl _ (by decide))

theorem block1_withBlock2 (m : Message) (num more size : ℕ) :
    (withBlock2 m num more size).block1 = m.block1 :=
  block_congr _ _ _ (ofNumber_replace_of_ne m OptionRegistry.block2 _ rfl rfl _ (by decide))

theorem contentType_withBlock1 (m : Message) (num more size : ℕ) :
    (withBlock1 m num more size).contentType = m.contentType :=
  contentType_congr _ _ (ofNumber_replace_of_ne m OptionRegistry.block1 _ rfl rfl _ (by decide))

theorem contentType_withBlock2 (m : Message) (num more size : ℕ) :
    (withBlock2 m num more size).contentType = m.contentType :=
  contentType_congr _ _ (ofNumber_replace_of_ne m OptionRegistry.block2 _ rfl rfl _ (by decide))

end BubotCoap.OptionAccess
