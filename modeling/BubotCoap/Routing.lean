import BubotCoap.RequestLayer
import BubotCoap.TextOptions
import BubotCoap.UriPaths

set_option autoImplicit false

namespace BubotCoap.Routing
open PythonData Defines Options Messages Serializer OptionWire OptionAccess OrderedDict Resources
  ResourceTree UriPaths TextOptions

variable {ω : Type}

/-- The receiver of the request finds this resource. -/
def Reaches (app : Application ω) (rng : Bytes) (source : Address) (m : Message) (rid : ℕ) :
    Prop :=
  ∃ bytes m', SerializerUdp.serialize m = .ok bytes ∧
    SerializerUdp.deserialize rng bytes source = .ok (.message m') ∧
    app.root.get? (RequestLayer.requestPath m') = some rid

/-- A text in the place where it is decoded: an empty one is printed as an empty byte string. -/
def arrivedText (t : Text) : Text := if t = [] then reprBytes [] else t

section Segments

/-- Paths made of segments, as the tree has them for its keys. -/
def joined (segments : List Text) : Text := '/' :: ['/'].intercalate segments

theorem joined_inj (ss ss' : List Text) (hs : ∀ s ∈ ss, '/' ∉ s) (hs' : ∀ s ∈ ss', '/' ∉ s)
    (hne : ss ≠ []) (hne' : ss' ≠ []) (h : joined ss = joined ss') : ss = ss' := by
  rw [← List.splitOn_intercalate '/' hs hne, ← List.splitOn_intercalate '/' hs' hne',
    (List.cons.inj h).2]

theorem notMem_of_mem_splitOn (c : Char) (t s : Text) (h : s ∈ t.splitOn c) : c ∉ s := by
  induction t generalizing s with
  | nil =>
    rw [List.splitOn_nil, List.mem_singleton] at h
    rw [h]
    exact List.not_mem_nil
  | cons x t ih =>
    rw [List.splitOn_cons_eq_if_modifyHead] at h
    split_ifs at h with hx
    · rcases List.mem_cons.mp h with rfl | h
      · exact List.not_mem_nil
      · exact ih s h
    · obtain ⟨first, later, hsplit⟩ := List.exists_cons_of_ne_nil (List.splitOn_ne_nil c t)
      rw [hsplit] at h ih
      rcases List.mem_cons.mp h with rfl | h
      · rw [List.mem_cons, not_or]
        refine ⟨?_, ih first List.mem_cons_self⟩
        rintro rfl
        simp at hx
      · exact ih s (List.mem_cons_of_mem first h)

theorem sublist_of_mem_splitOn (c : Char) (t s : Text) (h : s ∈ t.splitOn c) : s.Sublist t := by
  induction t generalizing s with
  | nil =>
    rw [List.splitOn_nil, List.mem_singleton] at h
    rw [h]
  | cons x t ih =>
    rw [List.splitOn_cons_eq_if_modifyHead] at h
    split_ifs at h with hx
    · rcases List.mem_cons.mp h with rfl | h
      · exact List.nil_sublist _
      · exact (ih s h).cons x
    · obtain ⟨first, later, hsplit⟩ := List.exists_cons_of_ne_nil (List.splitOn_ne_nil c t)
      rw [hsplit] at h ih
      rcases List.mem_cons.mp h with rfl | h
      · exact (ih first List.mem_cons_self).cons_cons x
      · exact (ih s (List.mem_cons_of_mem first h)).cons x

/-- Cutting a text at a question mark cuts the segment in which it stands. -/
theorem splitOn_through (a b : Text) :
    ∃ before last c after, a.splitOn '/' = before ++ [last] ∧
      (a ++ '?' :: b).splitOn '/' = before ++ (last ++ '?' :: c) :: after := by
  induction a with
  | nil =>
    obtain ⟨c, after, hsplit⟩ := List.exists_cons_of_ne_nil (List.splitOn_ne_nil '/' b)
    refine ⟨[], [], c, after, rfl, ?_⟩
    rw [List.nil_append, List.splitOn_cons_eq_if_modifyHead, hsplit]
    rfl
  | cons x a ih =>
    obtain ⟨before, last, c, after, hleft, hright⟩ := ih
    rw [List.cons_append, List.splitOn_cons_eq_if_modifyHead, List.splitOn_cons_eq_if_modifyHead,
      hleft, hright]
    split_ifs with hx
    · exact ⟨[] :: before, last, c, after, rfl, rfl⟩
    · cases before with
      | nil => exact ⟨[], x :: last, c, after, rfl, rfl⟩
      | cons s before => exact ⟨(x :: s) :: before, last, c, after, rfl, rfl⟩

theorem joined_cons_cons (s s' : Text) (ss : List Text) :
    joined (s :: s' :: ss) = '/' :: s ++ joined (s' :: ss) := by
  unfold joined
  rw [List.intercalate_cons_cons]
  simp

theorem joined_singleton (s : Text) : joined [s] = '/' :: s := by
  unfold joined
  rw [List.intercalate_singleton]

theorem mem_grow_iff (before first : Text) (later : List Text) (k : Text) :
    k ∈ grow before (first :: later) ↔
      ∃ n, n ≤ later.length ∧ k = before ++ joined (first :: later.take n) := by
  induction later generalizing before first with
  | nil =>
    change k ∈ [before ++ '/' :: first] ↔ _
    rw [List.mem_singleton]
    constructor
    · rintro rfl
      exact ⟨0, le_rfl, by rw [List.take_zero, joined_singleton]⟩
    · rintro ⟨n, hn, rfl⟩
      rw [List.take_nil, joined_singleton]
  | cons second later ih =>
    rw [grow, List.mem_cons, ih]
    constructor
    · rintro (rfl | ⟨n, hn, rfl⟩)
      · exact ⟨0, Nat.zero_le _, by rw [List.take_zero, joined_singleton]⟩
      · refine ⟨n + 1, Nat.succ_le_succ hn, ?_⟩
        rw [List.take_succ_cons, joined_cons_cons, List.append_assoc]
    · rintro ⟨n, hn, rfl⟩
      cases n with
      | zero => exact Or.inl (by rw [List.take_zero, joined_singleton])
      | succ n =>
        refine Or.inr ⟨n, Nat.le_of_succ_le_succ hn, ?_⟩
        rw [List.take_succ_cons, joined_cons_cons, List.append_assoc]

theorem fullPath_eq (path : Text) : fullPath path = joined (segments path) := by
  have hfold : ∀ (before first : Text) (later : List Text),
      (first :: later).foldl (fun actualPath p => actualPath ++ '/' :: p) before =
        before ++ joined (first :: later) := by
    intro before first later
    induction later generalizing before first with
    | nil => rw [joined_singleton, List.foldl_cons, List.foldl_nil]
    | cons second later ih =>
      rw [List.foldl_cons, ih, joined_cons_cons, List.append_assoc]
  obtain ⟨first, later, hsegments⟩ :=
    List.exists_cons_of_ne_nil (List.splitOn_ne_nil '/' (strip path))
  have hsegments' : segments path = first :: later := hsegments
  unfold fullPath
  rw [hsegments', hfold]
  rfl

theorem mem_prefixes (path k : Text) (h : k ∈ prefixes path) :
    ∃ n, 0 < n ∧ n ≤ (segments path).length ∧ k = joined ((segments path).take n) := by
  obtain ⟨first, later, hsegments⟩ :=
    List.exists_cons_of_ne_nil (List.splitOn_ne_nil '/' (strip path))
  have hsegments' : segments path = first :: later := hsegments
  unfold prefixes at h
  rw [hsegments'] at h ⊢
  obtain ⟨n, hn, rfl⟩ := (mem_grow_iff [] first later k).mp h
  exact ⟨n + 1, Nat.succ_pos n, Nat.succ_le_succ hn, rfl⟩

end Segments

section Arrival

theorem strOf_arrived (o : CoapOption) (h : o.item.valueType = .STRING) :
    strOf (arrived o).value = arrivedText (strOf o.value) := by
  obtain ⟨item, stored, registered, typed⟩ := o
  dsimp only at h
  cases stored with
  | str t =>
    unfold arrived
    simp only [h]
    cases t with
    | nil => rfl
    | cons c t => rfl
  | none =>
    rw [h] at typed
    cases typed
  | int n =>
    rw [h] at typed
    cases typed
  | bytes b =>
    rw [h] at typed
    cases typed

theorem texts_arrived (i : TextItem) (m m' : Message)
    (h : m'.options.toList = (asSortedList m.options).map arrived) :
    texts i m' = (texts i m).map arrivedText := by
  have hnumber : ofNumber i.item.number m'.options =
      (ofNumber i.item.number m.options).map arrived := by
    have hstable := (StableSort.sortBy_stable CoapOption.number m.options.toList).stable
      i.item.number
    unfold ofNumber
    rw [h, List.filter_map, ← hstable]
    rfl
  rw [texts_eq, texts_eq, hnumber, List.map_map, List.map_map]
  refine List.map_congr_left fun o ho => ?_
  have ho' : o.item.number = i.item.number := of_decide_eq_true (List.mem_filter.mp ho).2
  have hitem : o.item = i.item := by
    have hreg := o.registered
    rw [ho', i.registered] at hreg
    exact (Option.some.inj hreg).symm
  exact strOf_arrived o (hitem ▸ i.text)

theorem framed_text (i : TextItem) (t : Text) (hascii : IsAscii t) (hlength : t.length ≤ 65804) :
    Framed (textOption i t) := by
  refine ⟨⟨?_, hlength⟩, encodeUtf8_length_of_ascii t hascii⟩
  unfold Emits textOption
  dsimp only
  rw [i.text]
  trivial

theorem forall_pushTexts (P : CoapOption → Prop) (i : TextItem) (m : Message) (ts : List Text)
    (hm : ∀ o ∈ m.options.toList, P o) (hts : ∀ t ∈ ts, P (textOption i t)) :
    ∀ o ∈ (pushTexts i m ts).options.toList, P o := by
  intro o ho
  rw [toList_pushTexts] at ho
  rcases List.mem_append.mp ho with ho | ho
  · exact hm o ho
  · obtain ⟨t, ht, rfl⟩ := List.mem_map.mp ho
    exact hts t ht

theorem mem_of_queryPart (path query : Text) (h : queryPart path = some query) :
    query ∈ (strip path).splitOn '?' := List.mem_of_getElem? h

theorem pathPart_mem (path : Text) : pathPart path ∈ (strip path).splitOn '?' := by
  unfold pathPart
  obtain ⟨first, later, hsplit⟩ :=
    List.exists_cons_of_ne_nil (List.splitOn_ne_nil '?' (strip path))
  rw [hsplit]
  exact List.mem_cons_self

theorem strip_sublist (path : Text) : (strip path).Sublist path :=
  ((List.rdropWhile_prefix (· == '/') _).sublist).trans (List.dropWhile_sublist _)

theorem framed_withPath (m : Message) (path : Text) (hm : ∀ o ∈ m.options.toList, Framed o)
    (hascii : IsAscii path) (hlength : path.length ≤ 65804) :
    ∀ o ∈ (withPath m path).options.toList, Framed o := by
  have hpiece : ∀ (i : TextItem) (c : Char) (part : Text), part ∈ (strip path).splitOn '?' →
      ∀ t ∈ part.splitOn c, Framed (textOption i t) := by
    intro i c part hpart t ht
    have hsub := ((sublist_of_mem_splitOn c part t ht).trans
      (sublist_of_mem_splitOn '?' (strip path) part hpart)).trans (strip_sublist path)
    exact framed_text i t (fun x hx => hascii x (hsub.subset hx)) (hsub.length_le.trans hlength)
  have hpushed := forall_pushTexts Framed .uriPath m ((pathPart path).splitOn '/') hm
    (hpiece .uriPath '/' _ (pathPart_mem path))
  unfold withPath
  cases hquery : queryPart path with
  | none => exact hpushed
  | some query =>
    refine forall_pushTexts Framed .uriQuery _ _ (fun o ho => ?_)
      (hpiece .uriQuery '&' query (mem_of_queryPart path query hquery))
    exact hpushed o (List.mem_of_mem_filter ho)

theorem carried_withPath (m : Message) (path : Text) (hm : Carried m)
    (hframed : ∀ o ∈ (withPath m path).options.toList, Framed o) : Carried (withPath m path) := by
  have hfields : ∀ (i : TextItem) (m : Message) (ts : List Text),
      pushTexts i m ts = { m with options := (pushTexts i m ts).options } := by
    intro i m ts
    induction ts generalizing m with
    | nil => rfl
    | cons t ts ih =>
      have hnext := ih (pushText i m t)
      rw [pushTexts, List.foldl_cons]
      rw [pushTexts] at hnext
      rw [hnext]
      rfl
  have hsame : withPath m path = { m with options := (withPath m path).options } := by
    unfold withPath
    cases queryPart path with
    | none => exact hfields _ _ _
    | some query =>
      dsimp only
      rw [hfields .uriQuery]
      unfold Message.delOptionByNumber
      rw [hfields .uriPath]
  refine ⟨?_, ?_, ?_, ?_, fun o ho => ⟨(hframed o ho).emits, ?_⟩⟩
  · rw [hsame]
    exact hm.type
  · rw [hsame]
    exact hm.code
  · rw [hsame]
    exact hm.mid
  · rw [hsame]
    exact hm.token
  · rw [(hframed o ho).announced]
    exact (hframed o ho).length_le

end Arrival

section Lookup
variable (path : Text)

theorem arrived_eq_iff (ts : List Text) : ts.map arrivedText = ts ↔ [] ∉ ts := by
  have hne : reprBytes [] ≠ [] := by decide
  constructor
  · intro h hmem
    exact hne (List.map_inj_left.mp (h.trans (List.map_id ts).symm) [] hmem)
  · intro h
    refine (List.map_congr_left fun t ht => ?_).trans (List.map_id ts)
    refine if_neg ?_
    rintro rfl
    exact h ht

theorem pathPart_eq (h : '?' ∉ strip path) : pathPart path = strip path := by
  unfold pathPart
  rw [List.splitOn_eq_singleton h]
  rfl

/-- The path that arrives is among the keys that were registered only if it is the whole path. -/
theorem arrived_of_mem_prefixes
    (h : joined (((pathPart path).splitOn '/').map arrivedText) ∈ prefixes path) :
    '?' ∉ strip path ∧ [] ∉ segments path := by
  obtain ⟨n, hpos, hn, hkey⟩ := mem_prefixes path _ h
  have hslash : ∀ s ∈ ((pathPart path).splitOn '/').map arrivedText, '/' ∉ s := by
    intro s hs
    obtain ⟨t, ht, rfl⟩ := List.mem_map.mp hs
    unfold arrivedText
    split_ifs
    · decide
    · exact notMem_of_mem_splitOn '/' _ t ht
  have hsegments : ∀ s ∈ (segments path).take n, '/' ∉ s :=
    fun s hs => notMem_of_mem_splitOn '/' _ s (List.mem_of_mem_take hs)
  have hsame := joined_inj _ _ hslash hsegments (by simp) (by
    rw [ne_eq, List.take_eq_nil_iff, not_or]
    exact ⟨by omega, List.splitOn_ne_nil '/' (strip path)⟩) hkey
  have hquestion : '?' ∉ strip path := by
    intro hmem
    obtain ⟨a, b, hstrip, ha⟩ := List.eq_append_cons_of_mem hmem
    have hpart : pathPart path = a := by
      unfold pathPart
      rw [hstrip, List.splitOn_append_cons_self_of_not_mem ha]
      rfl
    obtain ⟨before, last, c, after, hleft, hright⟩ := splitOn_through a b
    rw [hpart, hleft] at hsame
    have hsegs : segments path = before ++ (last ++ '?' :: c) :: after := by
      unfold segments
      rw [hstrip, hright]
    have hlength := congrArg List.length hsame
    rw [List.length_map, List.length_append, List.length_singleton, List.length_take,
      Nat.min_eq_left hn] at hlength
    rw [hsegs, ← hlength, List.take_append, List.map_append] at hsame
    have htail := List.append_inj_right hsame (by
      rw [List.length_map, List.length_take]
      omega)
    simp only [Nat.add_sub_cancel_left, List.take_succ_cons, List.take_zero, List.map_cons,
      List.map_nil, List.cons.injEq, and_true] at htail
    have hlast : '?' ∉ arrivedText last := by
      unfold arrivedText
      split_ifs
      · decide
      · intro hin
        have hmem' : last ∈ a.splitOn '/' := by
          rw [hleft]
          simp
        exact ha ((sublist_of_mem_splitOn '/' a last hmem').subset hin)
    rw [htail] at hlast
    simp at hlast
  refine ⟨hquestion, ?_⟩
  rw [pathPart_eq path hquestion] at hsame
  change (segments path).map arrivedText = _ at hsame
  have hlength := congrArg List.length hsame
  rw [List.length_map, List.length_take] at hlength
  rw [List.take_of_length_le (by omega)] at hsame
  exact (arrived_eq_iff _).mp hsame

end Lookup

/-- A resource that is added under a path is reached by a request for this path exactly if there
is no question mark in it and none of its segments is empty. -/
theorem request_reaches_iff (app : Application ω) (rid : ℕ) (path : Text) (m : Message)
    (rng : Bytes) (source : Address) (hnew : ∀ k, app.root.get? k ≠ some rid)
    (hfree : app.root.get? (fullPath path) = none) (hm : Carried m)
    (hframed : ∀ o ∈ m.options.toList, Framed o) (hblank : texts .uriPath m = [])
    (hascii : IsAscii path) (hlength : path.length ≤ 65804) :
    ∃ m', setUriPath m path = .ok m' ∧
      (Reaches (addResource path rid app) rng source m' rid ↔
        '?' ∉ strip path ∧ [] ∉ segments path) := by
  have hall := framed_withPath m path hframed hascii hlength
  obtain ⟨bytes, m', hserialize, hdeserialize, hoptions⟩ :=
    udp_decoded rng source (withPath m path) (carried_withPath m path hm hall) hall
  have hpath : RequestLayer.requestPath m' =
      joined (((pathPart path).splitOn '/').map arrivedText) := by
    unfold RequestLayer.requestPath joined
    rw [uriPath_eq, texts_arrived _ _ _ hoptions, texts_withPath, hblank, List.nil_append]
  have hreaches : Reaches (addResource path rid app) rng source (withPath m path) rid ↔
      (addResource path rid app).root.get?
        (joined (((pathPart path).splitOn '/').map arrivedText)) = some rid := by
    constructor
    · rintro ⟨bytes', m'', hserialize', hdeserialize', hget⟩
      rw [hserialize] at hserialize'
      cases hserialize'
      rw [hdeserialize] at hdeserialize'
      cases hdeserialize'
      rwa [hpath] at hget
    · intro hget
      rw [← hpath] at hget
      exact ⟨bytes, m', hserialize, hdeserialize, hget⟩
  refine ⟨withPath m path, setUriPath_eq m path, hreaches.trans ?_⟩
  rw [get?_addResource]
  constructor
  · intro h
    split_ifs at h with hmissing
    · exact arrived_of_mem_prefixes path (List.mem_filter.mp hmissing).1
    · exact absurd h (hnew _)
  · rintro ⟨hquestion, hempty⟩
    have hkey : joined (((pathPart path).splitOn '/').map arrivedText) = fullPath path := by
      rw [pathPart_eq path hquestion, fullPath_eq]
      exact congrArg joined ((arrived_eq_iff _).mpr hempty)
    rw [hkey, if_pos]
    exact List.mem_filter.mpr ⟨fullPath_mem_prefixes path, decide_eq_true hfree⟩

def sampleGet : Message :=
  { Message.new .request with
    type := some .CON
    code := some Codes.get
    mid := some 7
    token := some [1] }

theorem request_reaches_sample :
    ∃ m', setUriPath sampleGet "sensors/temp".toList = .ok m' ∧
      (Reaches (addResource "sensors/temp".toList 1
          (initial (fun _ => Resource.new true true false) ())) [] (['h'], 1) m' 1 ↔
        '?' ∉ strip "sensors/temp".toList ∧ [] ∉ segments "sensors/temp".toList) := by
  refine request_reaches_iff _ 1 "sensors/temp".toList sampleGet [] (['h'], 1) ?_ (by decide)
    ⟨⟨.CON, rfl⟩, ⟨Codes.get, by decide, rfl⟩, ⟨7, by decide, rfl⟩, by decide, ?_⟩ ?_ (by decide)
    (by decide) (by decide)
  · intro k hk
    unfold initial at hk
    rw [Dict.get?_insert, Dict.get?_empty] at hk
    split_ifs at hk
    cases hk
  · intro o ho
    cases ho
  · intro o ho
    cases ho

end BubotCoap.Routing
