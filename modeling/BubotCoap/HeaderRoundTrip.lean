import BubotCoap.HeaderOptions

set_option autoImplicit false

namespace BubotCoap.HeaderRoundTrip
open PythonData Utils OptionTypes OptionNumbers OptionWire OptionSequences DeserializeErrors
  OrderedDict StableSort FallibleState HeaderOptions

/-- The option as it is written. -/
def raw (o : OptionType) : Raw := (o.number, o.value.data)

section Encoder

theorem encodeOption_ok_iff (last : ℕ) (o : OptionType) (bytes : Bytes) :
    Options.encodeOption last o = .ok bytes ↔
      o.value.word < 256 ^ 4 ∧ o.number - last ≤ 65803 ∧ o.value.data.length ≤ 65803 ∧
        bytes = headBytes (o.number - last) o.value.data.length ++ o.value.data := by
  unfold Options.encodeOption
  rw [encode_eq]
  by_cases hword : o.value.word < 256 ^ 4
  · rw [if_pos hword, ok_bind, writeExtendedFieldValue_eq, writeExtendedFieldValue_eq]
    by_cases hdelta : o.number - last < 65804
    · rw [if_pos hdelta, ok_bind]
      dsimp only
      by_cases hlength : o.value.data.length < 65804
      · rw [if_pos hlength, ok_bind]
        dsimp only
        have hd := nibble_lt (o.number - last)
        have hl := nibble_lt o.value.data.length
        have hhead : ((nibble (o.number - last) &&& 0x0F) <<< 4) +
            (nibble o.value.data.length &&& 0x0F) =
              nibble (o.number - last) * 16 + nibble o.value.data.length := by
          have hmask : ∀ n < 15, n &&& 0x0F = n := by decide
          rw [hmask _ hd, hmask _ hl, Nat.shiftLeft_eq]
        rw [hhead, Except.ok.injEq]
        constructor
        · intro h
          exact ⟨hword, by omega, by omega, h.symm⟩
        · rintro ⟨-, -, -, h⟩
          exact h.symm
      · rw [if_neg hlength]
        exact iff_of_false (fun h => by cases h) fun h => hlength (by omega)
    · rw [if_neg hdelta]
      exact iff_of_false (fun h => by cases h) fun h => hdelta (by omega)
  · rw [if_neg hword]
    exact iff_of_false (fun h => by cases h) fun h => hword h.1

theorem encodeFrom_ok_iff (last : ℕ) (os : List OptionType) (bytes : Bytes)
    (hlast : ∀ o ∈ os, last ≤ o.number) (hsorted : os.Pairwise fun a b => a.number ≤ b.number) :
    Options.encodeFrom last os = .ok bytes ↔
      (∀ o ∈ os, o.value.word < 256 ^ 4) ∧ Spaced 65803 last (os.map raw) ∧
        bytes = wire last (os.map raw) := by
  induction os generalizing last bytes with
  | nil =>
    change Except.ok [] = Except.ok bytes ↔ _
    rw [Except.ok.injEq]
    constructor
    · rintro rfl
      exact ⟨fun o ho => absurd ho List.not_mem_nil, trivial, rfl⟩
    · rintro ⟨-, -, rfl⟩
      rfl
  | cons o os ih =>
    obtain ⟨hfirst, hrest⟩ := List.pairwise_cons.mp hsorted
    rw [List.forall_mem_cons]
    constructor
    · intro h
      obtain ⟨data, hdata, h⟩ := (bind_eq_ok _ _ _).mp h
      obtain ⟨tail, htail, h⟩ := (bind_eq_ok _ _ _).mp h
      cases h
      obtain ⟨hword, hdelta, hlength, rfl⟩ := (encodeOption_ok_iff last o data).mp hdata
      obtain ⟨hwords, hspaced, rfl⟩ := (ih o.number tail hfirst hrest).mp htail
      refine ⟨⟨hword, hwords⟩, ⟨hlast o List.mem_cons_self, hdelta, hlength, hspaced⟩, ?_⟩
      rw [List.append_assoc]
      rfl
    · rintro ⟨⟨hword, hwords⟩, ⟨-, hdelta, hlength, hspaced⟩, rfl⟩
      have hdata := (encodeOption_ok_iff last o _).mpr ⟨hword, hdelta, hlength, rfl⟩
      have htail := (ih o.number _ hfirst hrest).mpr ⟨hwords, hspaced, rfl⟩
      unfold Options.encodeFrom
      rw [hdata, ok_bind, htail, ok_bind, List.append_assoc]
      rfl

end Encoder

section Order
variable (s : Options) (n : ℕ)

theorem getOption_addOption (o : OptionType) :
    (s.addOption o).getOption n = s.getOption n ++ if o.number = n then [o] else [] := by
  unfold Options.addOption
  rw [Options.getOption, Dict.get?_insert]
  by_cases h : n = o.number
  · rw [if_pos h, if_pos h.symm, h]
    rfl
  · rw [if_neg h, if_neg fun heq => h heq.symm, List.append_nil]
    rfl

theorem getOption_foldl (os : List OptionType) :
    (os.foldl Options.addOption s).getOption n =
      s.getOption n ++ os.filter fun o => o.number = n := by
  induction os generalizing s with
  | nil => simp
  | cons o os ih =>
    rw [List.foldl_cons, ih, getOption_addOption, List.append_assoc, List.filter_cons]
    by_cases h : o.number = n <;> simp [h]

/-- A list of options that all have the number of the first. -/
def Uniform (os : List OptionType) : Prop := ∀ o ∈ os, o.number = Options.firstNumber os

theorem firstNumber_eq (os : List OptionType) (number : ℕ) (hne : os ≠ [])
    (h : ∀ o ∈ os, o.number = number) : Options.firstNumber os = number := by
  cases os with
  | nil => exact absurd rfl hne
  | cons o os => exact h o List.mem_cons_self

theorem uniform_entries (os : List OptionType) (h : os ∈ s.dict.entries.map Prod.snd) :
    Uniform os := by
  obtain ⟨⟨number, os'⟩, hmem, rfl⟩ := List.mem_map.mp h
  obtain ⟨hne, hnumber⟩ := s.filed number os' ((s.dict.mem_entries_iff number os').mp hmem)
  intro o ho
  rw [firstNumber_eq os' number hne hnumber]
  exact hnumber o ho

theorem filter_flatten (groups : List (List OptionType)) (h : ∀ os ∈ groups, Uniform os) :
    (groups.flatten.filter fun o => o.number = n) =
      (groups.filter fun os => Options.firstNumber os = n).flatten := by
  induction groups with
  | nil => rfl
  | cons os groups ih =>
    obtain ⟨hos, hgroups⟩ := List.forall_mem_cons.mp h
    rw [List.flatten_cons, List.filter_append, ih hgroups, List.filter_cons]
    by_cases hn : Options.firstNumber os = n
    · have hall : os.filter (fun o => o.number = n) = os := by
        refine List.filter_eq_self.mpr fun o ho => ?_
        rw [hos o ho, hn, decide_eq_true rfl]
      rw [hall, if_pos (decide_eq_true hn), List.flatten_cons]
    · have hnone : os.filter (fun o => o.number = n) = [] := by
        refine List.filter_eq_nil_iff.mpr fun o ho => ?_
        rw [hos o ho, decide_eq_true_iff]
        exact hn
      rw [hnone, if_neg (by simpa using hn), List.nil_append]

theorem flatten_entries :
    ((s.dict.entries.map Prod.snd).filter fun os => Options.firstNumber os = n).flatten =
      s.getOption n := by
  obtain ⟨⟨entries, nodup⟩, filed⟩ := s
  change ((entries.map Prod.snd).filter fun os => Options.firstNumber os = n).flatten =
    (find n entries).getD []
  have hfiled : ∀ e ∈ entries, Options.firstNumber e.2 = e.1 := by
    intro e he
    obtain ⟨hne, hnumber⟩ := filed e.1 e.2 (find_eq_some_of_mem e.1 e.2 entries nodup he)
    exact firstNumber_eq e.2 e.1 hne hnumber
  clear filed
  induction entries with
  | nil => rfl
  | cons e entries ih =>
    obtain ⟨hnew, hnodup⟩ := List.nodup_cons.mp nodup
    obtain ⟨he, hentries⟩ := List.forall_mem_cons.mp hfiled
    rw [List.map_cons, List.filter_cons, he, find]
    by_cases hn : n = e.1
    · have hrest : ((entries.map Prod.snd).filter
          fun os => Options.firstNumber os = n) = [] := by
        refine List.filter_eq_nil_iff.mpr fun os hos => ?_
        obtain ⟨e', he', rfl⟩ := List.mem_map.mp hos
        rw [hentries e' he', decide_eq_true_iff]
        intro heq
        exact hnew (List.mem_map.mpr ⟨e', he', heq.trans hn⟩)
      rw [if_pos (decide_eq_true hn.symm), if_pos hn, hrest]
      simp
    · rw [if_neg (by simpa using fun heq => hn heq.symm), if_neg hn]
      exact ih hnodup hentries

theorem optionList_filter :
    (s.optionList.filter fun o => o.number = n) = s.getOption n := by
  have huniform : ∀ os ∈ sortBy Options.firstNumber (s.dict.entries.map Prod.snd), Uniform os :=
    fun os hos => uniform_entries s os ((mem_sortBy _ _ _).mp hos)
  unfold Options.optionList
  rw [filter_flatten n _ huniform, (sortBy_stable _ _).stable, flatten_entries]

theorem optionList_sorted : s.optionList.Pairwise fun a b => a.number ≤ b.number := by
  have huniform : ∀ os ∈ sortBy Options.firstNumber (s.dict.entries.map Prod.snd), Uniform os :=
    fun os hos => uniform_entries s os ((mem_sortBy _ _ _).mp hos)
  unfold Options.optionList
  refine List.pairwise_flatten.mpr ⟨?_, ?_⟩
  · intro os hos
    refine List.pairwise_of_forall_mem_list fun a ha b hb => ?_
    rw [huniform os hos a ha, huniform os hos b hb]
  · refine (sortBy_sorted _ _).imp_of_mem ?_
    intro os os' hos hos' hle a ha b hb
    rw [huniform os hos a ha, huniform os' hos' b hb]
    exact hle

theorem optionList_eq_iff (t : Options) :
    s.optionList = t.optionList ↔ ∀ number, s.getOption number = t.getOption number := by
  constructor
  · intro h number
    rw [← optionList_filter, ← optionList_filter, h]
  · intro h
    refine eq_of_sorted OptionType.number _ _ (optionList_sorted s) (optionList_sorted t) ?_
    intro number
    rw [optionList_filter, optionList_filter, h]

end Order

/-- The integers fit into a word, and no number is more than a step behind the one before. -/
structure Encodable (s : Options) : Prop where
  words : ∀ o ∈ s.optionList, o.value.word < 256 ^ 4
  spaced : Spaced 65803 0 (s.optionList.map raw)

theorem encode_ok_iff (s : Options) (bytes : Bytes) :
    s.encode = .ok bytes ↔ Encodable s ∧ bytes = wire 0 (s.optionList.map raw) := by
  unfold Options.encode
  rw [encodeFrom_ok_iff 0 s.optionList bytes (fun _ _ => Nat.zero_le _) (optionList_sorted s)]
  constructor
  · rintro ⟨hwords, hspaced, hbytes⟩
    exact ⟨⟨hwords, hspaced⟩, hbytes⟩
  · rintro ⟨⟨hwords, hspaced⟩, hbytes⟩
    exact ⟨hwords, hspaced, hbytes⟩

theorem spaced_mono (limit limit' last : ℕ) (raws : List Raw) (hle : limit ≤ limit')
    (h : Spaced limit last raws) : Spaced limit' last raws := by
  induction raws generalizing last with
  | nil => trivial
  | cons r raws ih =>
    obtain ⟨hlast, hdelta, hlength, hrest⟩ := h
    exact ⟨hlast, hdelta.trans hle, hlength.trans hle, ih r.1 hrest⟩

theorem made_raw_iff (o : OptionType) : Made o (raw o) ↔ o.value.InRange := by
  rw [← decode_data_iff, o.typed]
  change createOption o.number o.value.data = .ok o ↔ _
  rw [createOption_eq_ok_iff]
  exact and_iff_right rfl

/-- The options come back, with any body behind them. -/
def ReadsBack (s : Options) : Prop :=
  ∃ bytes, s.encode = .ok bytes ∧ ∀ body, ∃ s',
    Options.decode (bytes ++ 0xFF :: body) Options.new = (.ok body, s') ∧
      ∀ number, s'.getOption number = s.getOption number

theorem wire_unique (last : ℕ) (raws raws' : List Raw) (tail tail' body body' : Bytes)
    (h : Spaced 65804 last raws) (h' : Spaced 65804 last raws') (hends : Ends tail body)
    (hends' : Ends tail' body') (heq : wire last raws ++ tail = wire last raws' ++ tail') :
    raws = raws' ∧ tail = tail' := by
  have hmarker : ∀ (tail body : Bytes) delta length rest, Ends tail body →
      ¬ Head tail delta length rest := by
    intro tail body delta length rest hends
    cases hends with
    | done => exact not_head_nil _ _ _
    | marker body => exact not_head_marker _ _ _ _ _ rfl
  induction raws generalizing last raws' with
  | nil =>
    cases raws' with
    | nil => exact ⟨rfl, heq⟩
    | cons r' raws' =>
      have hhead := wire_cons_head last r' raws' tail' h'.2.1 h'.2.2.1
      rw [← heq] at hhead
      exact absurd hhead (hmarker _ _ _ _ _ hends)
  | cons r raws ih =>
    have hhead := wire_cons_head last r raws tail h.2.1 h.2.2.1
    cases raws' with
    | nil =>
      rw [heq] at hhead
      exact absurd hhead (hmarker _ _ _ _ _ hends')
    | cons r' raws' =>
      have hhead' := wire_cons_head last r' raws' tail' h'.2.1 h'.2.2.1
      rw [← heq] at hhead'
      obtain ⟨hdelta, hlength, hrest⟩ := head_unique _ _ _ _ _ _ _ hhead hhead'
      obtain ⟨hvalue, hrest⟩ := List.append_inj hrest hlength
      have hnumber : r.1 = r'.1 := by
        have := h.1
        have := h'.1
        omega
      have hr : r = r' := Prod.ext hnumber hvalue
      subst hr
      obtain ⟨hraws, htail⟩ := ih r.1 raws' h.2.2.2 h'.2.2.2 hrest
      exact ⟨by rw [hraws], htail⟩

theorem forall₂_unique (os os' : List OptionType) (raws : List Raw)
    (h : List.Forall₂ Made os raws) (h' : List.Forall₂ Made os' raws) : os = os' := by
  induction h generalizing os' with
  | nil =>
    cases h'
    rfl
  | cons hmade _ ih =>
    cases h' with
    | cons hmade' hrest =>
      rw [ih _ hrest, Except.ok.inj (hmade.symm.trans hmade')]

theorem numbers_of_made (os : List OptionType) (raws : List Raw) (h : List.Forall₂ Made os raws) :
    os.map OptionType.number = raws.map Prod.fst := by
  induction h with
  | nil => rfl
  | cons hmade _ ih =>
    rw [List.map_cons, List.map_cons, ih, ((createOption_eq_ok_iff _ _ _).mp hmade).1]

theorem made_optionList (s : Options) (hrange : ∀ o ∈ s.optionList, o.value.InRange) :
    List.Forall₂ Made s.optionList (s.optionList.map raw) := by
  refine List.forall₂_map_right_iff.mpr (List.forall₂_same.mpr fun o ho => ?_)
  exact (made_raw_iff o).mpr (hrange o ho)

/-- Options come back exactly if they can be encoded and their blocks are in range. -/
theorem options_readsBack_iff (s : Options) :
    ReadsBack s ↔ Encodable s ∧ ∀ o ∈ s.optionList, o.value.InRange := by
  constructor
  · rintro ⟨bytes, hencode, hdecode⟩
    obtain ⟨hencodable, rfl⟩ := (encode_ok_iff s bytes).mp hencode
    refine ⟨hencodable, ?_⟩
    obtain ⟨s', hs', hsame⟩ := hdecode []
    obtain ⟨raws, os, tail, heq, hends, hspaced, hmade, rfl⟩ := (decode_iff _ _ _ _).mp hs'
    obtain ⟨rfl, -⟩ := wire_unique 0 _ raws _ tail [] []
      (spaced_mono _ _ _ _ (by omega) hencodable.spaced) hspaced (.marker []) hends heq
    have hnumbers : os.map OptionType.number = s.optionList.map OptionType.number := by
      have hfst := numbers_of_made os _ hmade
      rw [List.map_map] at hfst
      exact hfst
    have hos : os = s.optionList := by
      refine eq_of_sorted OptionType.number _ _ ?_ (optionList_sorted s) fun number => ?_
      · have hsorted := List.pairwise_map.mpr (optionList_sorted s)
        rw [← hnumbers] at hsorted
        exact List.pairwise_map.mp hsorted
      · have hnumber := hsame number
        rw [getOption_foldl] at hnumber
        rw [optionList_filter, ← hnumber]
        rfl
    subst hos
    have hsame := List.forall₂_same.mp (List.forall₂_map_right_iff.mp hmade)
    exact fun o ho => (made_raw_iff o).mp (hsame o ho)
  · rintro ⟨hencodable, hrange⟩
    refine ⟨_, (encode_ok_iff s _).mpr ⟨hencodable, rfl⟩, fun body => ?_⟩
    refine ⟨_, (decode_iff _ _ _ _).mpr ⟨_, _, _, rfl, .marker body,
      spaced_mono _ _ _ _ (by omega) hencodable.spaced, made_optionList s hrange, rfl⟩,
      fun number => ?_⟩
    rw [getOption_foldl, optionList_filter]
    rfl

section Acceptance

/-- The bytes are options in the wire format and a body, the texts among the values valid. -/
structure WellFormed (rawdata : Bytes) (raws : List Raw) (tail body : Bytes) : Prop where
  bytes : rawdata = wire 0 raws ++ tail
  ends : Ends tail body
  spaced : Spaced 65804 0 raws
  text : ∀ r ∈ raws, format r.1 = .stringOption → ∃ t, encodeUtf8 t = r.2

theorem made_exists_iff (r : Raw) :
    (∃ o, Made o r) ↔ (format r.1 = .stringOption → ∃ t, encodeUtf8 t = r.2) := by
  have hcreate : (∃ o, Made o r) ↔ ∃ v, (format r.1).decode r.2 = .ok v := by
    constructor
    · rintro ⟨o, ho⟩
      exact ⟨o.value, ((createOption_eq_ok_iff _ _ _).mp ho).2⟩
    · rintro ⟨v, hv⟩
      exact ⟨_, createOption_ok r.1 r.2 v hv⟩
  rw [hcreate]
  cases hformat : format r.1 with
  | stringOption =>
    constructor
    · rintro ⟨v, hv⟩ -
      simp only [Format.decode, Except.map] at hv
      split at hv
      · cases hv
      · next t ht => exact ⟨t, encodeUtf8_of_decodeUtf8 r.2 t ht⟩
    · intro h
      obtain ⟨t, ht⟩ := h rfl
      refine ⟨.stringOption t, ?_⟩
      rw [← ht, Format.decode, decodeUtf8_encodeUtf8]
      rfl
  | opaqueOption => exact iff_of_true ⟨_, rfl⟩ (by simp)
  | uintOption => exact iff_of_true ⟨_, rfl⟩ (by simp)
  | blockOption => exact iff_of_true ⟨_, rfl⟩ (by simp)

theorem forall₂_made_exists (raws : List Raw) (h : ∀ r ∈ raws, ∃ o, Made o r) :
    ∃ os, List.Forall₂ Made os raws := by
  induction raws with
  | nil => exact ⟨[], .nil⟩
  | cons r raws ih =>
    obtain ⟨⟨o, ho⟩, hrest⟩ := List.forall_mem_cons.mp h
    obtain ⟨os, hos⟩ := ih hrest
    exact ⟨o :: os, .cons ho hos⟩

theorem made_of_forall₂ (os : List OptionType) (raws : List Raw) (h : List.Forall₂ Made os raws) :
    ∀ r ∈ raws, ∃ o, Made o r := by
  induction h with
  | nil => exact fun r hr => absurd hr List.not_mem_nil
  | cons hmade _ ih => exact List.forall_mem_cons.mpr ⟨⟨_, hmade⟩, ih⟩

theorem forall₂_filter (os : List OptionType) (raws : List Raw) (h : List.Forall₂ Made os raws)
    (n : ℕ) : List.Forall₂ Made (os.filter fun o => o.number = n)
      (raws.filter fun r => r.1 = n) := by
  induction h with
  | nil => exact .nil
  | cons hmade _ ih =>
    have hnumber := ((createOption_eq_ok_iff _ _ _).mp hmade).1
    rw [List.filter_cons, List.filter_cons, hnumber]
    split_ifs
    · exact .cons hmade ih
    · exact ih

/-- What is decoded is well formed, and all that is well formed is decoded: under every number the
options are those of the wire, in their order. -/
theorem decode_accepts_iff (rawdata body : Bytes) :
    ((∃ s, Options.decode rawdata Options.new = (.ok body, s)) ↔
      ∃ raws tail, WellFormed rawdata raws tail body) ∧
    ∀ s raws tail, Options.decode rawdata Options.new = (.ok body, s) →
      WellFormed rawdata raws tail body → ∀ number,
        List.Forall₂ Made (s.getOption number) (raws.filter fun r => r.1 = number) := by
  refine ⟨⟨?_, ?_⟩, ?_⟩
  · rintro ⟨s, h⟩
    obtain ⟨raws, os, tail, hwire, hends, hspaced, hmade, -⟩ := (decode_iff _ _ _ _).mp h
    exact ⟨raws, tail, hwire, hends, hspaced,
      fun r hr => (made_exists_iff r).mp (made_of_forall₂ os raws hmade r hr)⟩
  · rintro ⟨raws, tail, hwire, hends, hspaced, htext⟩
    obtain ⟨os, hos⟩ := forall₂_made_exists raws fun r hr => (made_exists_iff r).mpr (htext r hr)
    exact ⟨_, (decode_iff _ _ _ _).mpr ⟨raws, os, tail, hwire, hends, hspaced, hos, rfl⟩⟩
  · rintro s raws tail h ⟨hwire, hends, hspaced, -⟩ number
    obtain ⟨raws', os, tail', hwire', hends', hspaced', hmade, rfl⟩ := (decode_iff _ _ _ _).mp h
    obtain ⟨rfl, -⟩ := wire_unique 0 raws raws' tail tail' body body hspaced hspaced' hends hends'
      (hwire.symm.trans hwire')
    rw [getOption_foldl]
    exact forall₂_filter os raws hmade number

end Acceptance

section Equality
variable (s t : Options)

theorem wire_inj (raws raws' : List Raw) (h : Spaced 65804 0 raws) (h' : Spaced 65804 0 raws')
    (heq : wire 0 raws = wire 0 raws') : raws = raws' := by
  refine (wire_unique 0 raws raws' [] [] [] [] h h' .done .done ?_).1
  rw [heq]

/-- Comparing what options are encoded to compares, for every number, the options of it in their
order. -/
theorem eq_iff_same (hs : ∀ o ∈ s.optionList, o.value.InRange)
    (ht : ∀ o ∈ t.optionList, o.value.InRange) :
    Options.eq s t = .ok true ↔
      Encodable s ∧ ∀ number, s.getOption number = t.getOption number := by
  rw [← optionList_eq_iff]
  unfold Options.eq
  constructor
  · intro h
    obtain ⟨a, ha, h⟩ := (bind_eq_ok _ _ _).mp h
    obtain ⟨b, hb, h⟩ := (bind_eq_ok _ _ _).mp h
    obtain ⟨hencodable, rfl⟩ := (encode_ok_iff s a).mp ha
    obtain ⟨hencodable', rfl⟩ := (encode_ok_iff t b).mp hb
    have hwire := of_decide_eq_true (Except.ok.inj h)
    have hraws := wire_inj _ _ (spaced_mono _ _ _ _ (by omega) hencodable.spaced)
      (spaced_mono _ _ _ _ (by omega) hencodable'.spaced) hwire
    refine ⟨hencodable, forall₂_unique _ _ _ (made_optionList s hs) ?_⟩
    rw [hraws]
    exact made_optionList t ht
  · rintro ⟨hencodable, hlist⟩
    have hencode := (encode_ok_iff s _).mpr ⟨hencodable, rfl⟩
    have hencode' : t.encode = .ok (wire 0 (s.optionList.map raw)) := by
      unfold Options.encode
      rw [← hlist]
      exact hencode
    rw [hencode, ok_bind, hencode', ok_bind, decide_eq_true rfl]

def sampleOptions : Options :=
  (Options.new.addOption ⟨23, .blockOption ⟨2, 1, 6⟩, rfl⟩).addOption ⟨12, .uintOption 50, rfl⟩

theorem eq_iff_same_sample :
    Options.eq sampleOptions sampleOptions = .ok true ↔ Encodable sampleOptions ∧
      ∀ number, sampleOptions.getOption number = sampleOptions.getOption number :=
  eq_iff_same sampleOptions sampleOptions (by decide) (by decide)

end Equality

section Canonical

/-- An integer of at most four bytes without a leading zero, or any other value. -/
def Canonical (r : Raw) : Prop :=
  format r.1 = .uintOption ∨ format r.1 = .blockOption →
    r.2.length ≤ 4 ∧ r.2.head? ≠ some 0

instance (r : Raw) : Decidable (Canonical r) := inferInstanceAs (Decidable (_ → _))

theorem bytes_minimal_iff (b : Bytes) :
    BigEndian.bytes (byteLen (BigEndian.value b)) (BigEndian.value b) = b ↔ b.head? ≠ some 0 := by
  rw [← lstrip_eq]
  cases b with
  | nil => exact iff_of_true rfl (by simp)
  | cons x b =>
    by_cases hx : x = 0
    · subst hx
      refine iff_of_false ?_ (by simp)
      intro h
      have hle : (lstrip b).length ≤ b.length := (List.dropWhile_sublist _).length_le
      have hlength := congrArg List.length h
      change (lstrip b).length = b.length + 1 at hlength
      omega
    · refine iff_of_true (List.dropWhile_cons_of_neg (by simpa using hx)) ?_
      simpa using hx

theorem canonical_integer (b : Bytes) :
    (BigEndian.value b < 256 ^ 4 ∧
        BigEndian.bytes (byteLen (BigEndian.value b)) (BigEndian.value b) = b) ↔
      b.length ≤ 4 ∧ b.head? ≠ some 0 := by
  rw [bytes_minimal_iff, and_congr_left_iff]
  intro hhead
  have hlength : byteLen (BigEndian.value b) = b.length := by
    conv_rhs => rw [← (bytes_minimal_iff b).mpr hhead]
    rw [BigEndian.bytes_length]
  rw [← byteLen_le_iff, hlength]

theorem data_of_made_iff (o : OptionType) (r : Raw) (h : Made o r) :
    (o.value.word < 256 ^ 4 ∧ raw o = r) ↔ Canonical r := by
  obtain ⟨hnumber, hdecode⟩ := (createOption_eq_ok_iff _ _ _).mp h
  have hraw : raw o = r ↔ o.value.data = r.2 := by
    constructor
    · intro heq
      rw [← heq]
      rfl
    · intro heq
      exact Prod.ext hnumber heq
  rw [hraw]
  unfold Canonical
  cases hformat : format r.1 with
  | stringOption =>
    rw [hformat] at hdecode
    simp only [Format.decode, Except.map] at hdecode
    split at hdecode
    · cases hdecode
    · next t ht =>
      rw [← Except.ok.inj hdecode]
      exact iff_of_true ⟨(by decide : 0 < 256 ^ 4), encodeUtf8_of_decodeUtf8 r.2 t ht⟩ (by simp)
  | opaqueOption =>
    rw [hformat] at hdecode
    rw [← Except.ok.inj hdecode]
    exact iff_of_true ⟨(by decide : 0 < 256 ^ 4), rfl⟩ (by simp)
  | uintOption =>
    rw [hformat] at hdecode
    rw [← Except.ok.inj hdecode]
    refine (canonical_integer r.2).trans ?_
    simp
  | blockOption =>
    rw [hformat] at hdecode
    rw [← Except.ok.inj hdecode]
    have hinteger := asInteger_ofInteger (BigEndian.value r.2)
    change ((BlockwiseTuple.ofInteger _).asInteger < 256 ^ 4 ∧
      BigEndian.bytes (byteLen (BlockwiseTuple.ofInteger _).asInteger)
        (BlockwiseTuple.ofInteger _).asInteger = r.2) ↔ _
    rw [hinteger]
    refine (canonical_integer r.2).trans ?_
    simp

theorem raws_of_made_iff (os : List OptionType) (raws : List Raw) (h : List.Forall₂ Made os raws) :
    ((∀ o ∈ os, o.value.word < 256 ^ 4) ∧ os.map raw = raws) ↔ ∀ r ∈ raws, Canonical r := by
  induction h with
  | nil => simp
  | @cons o r os raws hmade _ ih =>
    rw [List.forall_mem_cons, List.forall_mem_cons, ← ih, ← data_of_made_iff o r hmade,
      List.map_cons, List.cons.injEq]
    tauto

theorem optionList_decoded (last : ℕ) (os : List OptionType) (raws : List Raw)
    (h : List.Forall₂ Made os raws) (hspaced : Spaced 65804 last raws) :
    (os.foldl Options.addOption Options.new).optionList = os := by
  have hsorted : ∀ last, Spaced 65804 last raws →
      (∀ r ∈ raws, last ≤ r.1) ∧ raws.Pairwise fun a b => a.1 ≤ b.1 := by
    clear h hspaced
    induction raws with
    | nil => exact fun _ _ => ⟨fun r hr => absurd hr List.not_mem_nil, .nil⟩
    | cons r raws ih =>
      rintro last ⟨hlast, -, -, hrest⟩
      obtain ⟨hfirst, hpairs⟩ := ih r.1 hrest
      refine ⟨List.forall_mem_cons.mpr ⟨hlast, fun r' hr' => hlast.trans (hfirst r' hr')⟩, ?_⟩
      exact .cons hfirst hpairs
  refine eq_of_sorted OptionType.number _ _ (optionList_sorted _) ?_ fun number => ?_
  · have hraws := List.pairwise_map.mpr (hsorted last hspaced).2
    rw [← numbers_of_made os raws h] at hraws
    exact List.pairwise_map.mp hraws
  · rw [optionList_filter, getOption_foldl]
    rfl

theorem inRange_of_made (os : List OptionType) (raws : List Raw) (h : List.Forall₂ Made os raws) :
    ∀ o ∈ os, o.value.InRange := by
  induction h with
  | nil => simp
  | cons hmade _ ih =>
    obtain ⟨-, hdecode⟩ := (createOption_eq_ok_iff _ _ _).mp hmade
    exact List.forall_mem_cons.mpr ⟨decode_inRange _ _ _ hdecode, ih⟩

/-- Decoded options come back again as soon as they can be encoded. -/
theorem decoded_readsBack_iff (rawdata body : Bytes) (s : Options)
    (h : Options.decode rawdata Options.new = (.ok body, s)) : ReadsBack s ↔ Encodable s := by
  obtain ⟨raws, os, tail, -, -, hspaced, hmade, rfl⟩ := (decode_iff _ _ _ _).mp h
  rw [options_readsBack_iff, optionList_decoded 0 os raws hmade hspaced]
  exact and_iff_left (inRange_of_made os raws hmade)

/-- Decoded options are encoded to the bytes they were decoded from exactly if these can be
written, without a delta or a length of the largest size, and hold canonical integers. -/
theorem reencoded_iff (rawdata body : Bytes) (s : Options)
    (h : Options.decode rawdata Options.new = (.ok body, s)) :
    (∃ header tail, s.encode = .ok header ∧ rawdata = header ++ tail ∧ Ends tail body) ↔
      ∃ raws tail, rawdata = wire 0 raws ++ tail ∧ Ends tail body ∧ Spaced 65803 0 raws ∧
        ∀ r ∈ raws, Canonical r := by
  obtain ⟨raws, os, tail, hwire, hends, hspaced, hmade, rfl⟩ := (decode_iff _ _ _ _).mp h
  have hlist := optionList_decoded 0 os raws hmade hspaced
  constructor
  · rintro ⟨header, tail', hencode, heq, hends'⟩
    obtain ⟨⟨hwords, hfits⟩, rfl⟩ := (encode_ok_iff _ _).mp hencode
    rw [hlist] at hwords hfits heq
    have hsame : os.map raw = raws := (wire_unique 0 _ _ _ _ _ _
      (spaced_mono _ _ _ _ (by omega) hfits) hspaced hends' hends (heq.symm.trans hwire)).1
    rw [hsame] at hfits
    exact ⟨raws, tail, hwire, hends, hfits, (raws_of_made_iff os raws hmade).mp ⟨hwords, hsame⟩⟩
  · rintro ⟨raws', tail', heq, hends', hfits, hcanonical⟩
    have hsame : raws' = raws := (wire_unique 0 _ _ _ _ _ _
      (spaced_mono _ _ _ _ (by omega) hfits) hspaced hends' hends (heq.symm.trans hwire)).1
    subst hsame
    obtain ⟨hwords, hraws⟩ := (raws_of_made_iff os raws' hmade).mpr hcanonical
    refine ⟨wire 0 raws', tail, (encode_ok_iff _ _).mpr ⟨⟨?_, ?_⟩, ?_⟩, hwire, hends⟩
    · rw [hlist]
      exact hwords
    · rw [hlist, hraws]
      exact hfits
    · rw [hlist, hraws]

theorem reencoded_iff_sample :
    (∃ header tail, (Options.decode [0xC1, 0x32, 0xFF, 1] Options.new).2.encode = .ok header ∧
      [0xC1, 0x32, 0xFF, 1] = header ++ tail ∧ Ends tail [1]) ↔
      ∃ raws tail, [0xC1, 0x32, 0xFF, 1] = wire 0 raws ++ tail ∧ Ends tail [1] ∧
        Spaced 65803 0 raws ∧ ∀ r ∈ raws, Canonical r :=
  reencoded_iff [0xC1, 0x32, 0xFF, 1] [1] _ rfl

end Canonical

end BubotCoap.HeaderRoundTrip
