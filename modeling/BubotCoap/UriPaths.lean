import BubotCoap.Discovery
import BubotCoap.OptionAccess
import BubotCoap.ResourceTree

set_option autoImplicit false

namespace BubotCoap.UriPaths
open PythonData Defines Options Messages OptionAccess ResourceTree

/-- The options that are texts and may be repeated. -/
inductive TextItem where
  | uriPath
  | uriQuery
  | locationPath
  | locationQuery

namespace TextItem

def item : TextItem → OptionItem
  | uriPath => OptionRegistry.uriPath
  | uriQuery => OptionRegistry.uriQuery
  | locationPath => OptionRegistry.locationPath
  | locationQuery => OptionRegistry.locationQuery

theorem registered (i : TextItem) : OptionRegistry.find? i.item.number = some i.item := by
  cases i <;> rfl

theorem text (i : TextItem) : i.item.valueType = .STRING := by cases i <;> rfl

theorem repeatable (i : TextItem) : i.item.repeatable = true := by cases i <;> rfl

end TextItem

/-- One option for each of the texts. -/
def addTexts (i : TextItem) (m : Message) (ts : List Text) : Except PyErr Message :=
  ts.foldlM (fun m t => m.addNew i.item (.str t)) m

/-- The texts of the options of one number. -/
def texts (i : TextItem) (m : Message) : List Text :=
  m.options.toList.filterMap fun o =>
    if o.number = i.item.number then some (strOf o.value) else none

/-- The setter of `uri_query`. -/
def setUriQuery (m : Message) (value : Text) : Except PyErr Message :=
  addTexts .uriQuery (m.delOptionByNumber OptionRegistry.uriQuery.number) (value.splitOn '&')

/-- The setter of `uri_path`: what follows a question mark, up to the next one, is the query. -/
def setUriPath (m : Message) (path : Text) : Except PyErr Message := do
  let tmp := (strip path).splitOn '?'
  let m ← addTexts .uriPath m ((tmp.headD []).splitOn '/')
  match tmp[1]? with
  | some query => setUriQuery m query
  | none => .ok m

/-- The getter of `location_path`. -/
def locationPath (m : Message) : Text := ['/'].intercalate (texts .locationPath m)

/-- The setter of `location_path`, which leaves the query alone. -/
def setLocationPath (m : Message) (path : Text) : Except PyErr Message :=
  addTexts .locationPath m ((((strip path).splitOn '?').headD []).splitOn '/')

/-- The getter of `location_query`: the list of the options, not joined. -/
def locationQuery (m : Message) : List Text := texts .locationQuery m

/-- The setter of `location_query`. -/
def setLocationQuery (m : Message) (value : Text) : Except PyErr Message :=
  addTexts .locationQuery (m.delOptionByNumber OptionRegistry.locationQuery.number)
    (value.splitOn '&')

section Options
variable (i : TextItem)

def textOption (t : Text) : CoapOption := ⟨i.item, .str t, i.registered, by rw [i.text]; rfl⟩

def pushText (m : Message) (t : Text) : Message :=
  { m with options := ⟨m.options.toList ++ [textOption i t],
      m.options.once_append (textOption i t) (Or.inl i.repeatable)⟩ }

def pushTexts (m : Message) (ts : List Text) : Message := ts.foldl (pushText i) m

theorem addNew_text (m : Message) (t : Text) :
    m.addNew i.item (.str t) = .ok (pushText i m t) := by
  have hmake : CoapOption.make i.item.number (.str t) = .ok (textOption i t) :=
    make_stored (textOption i t)
  have hadd : m.options.add (textOption i t) = .ok (pushText i m t).options :=
    dif_pos (Or.inl i.repeatable)
  unfold Message.addNew
  rw [hmake, ok_bind, Message.addOption, hadd]
  rfl

theorem addTexts_eq (m : Message) (ts : List Text) :
    addTexts i m ts = .ok (pushTexts i m ts) := by
  induction ts generalizing m with
  | nil => rfl
  | cons t ts ih =>
    rw [addTexts, List.foldlM_cons, addNew_text, ok_bind]
    exact ih (pushText i m t)

theorem toList_pushTexts (m : Message) (ts : List Text) :
    (pushTexts i m ts).options.toList = m.options.toList ++ ts.map (textOption i) := by
  induction ts generalizing m with
  | nil => exact (List.append_nil _).symm
  | cons t ts ih =>
    have hnext := ih (pushText i m t)
    rw [pushTexts, List.foldl_cons]
    rw [pushTexts] at hnext
    rw [hnext, List.map_cons, List.append_cons]
    rfl

theorem texts_eq (m : Message) :
    texts i m = (ofNumber i.item.number m.options).map fun o => strOf o.value := by
  unfold texts ofNumber
  rw [← List.filterMap_eq_map, List.filterMap_filter]
  congr 1
  funext o
  by_cases h : o.number = i.item.number <;> simp [h]

theorem strOf_textOption (t : Text) : strOf (textOption i t).value = t := rfl

theorem texts_pushTexts_self (m : Message) (ts : List Text) :
    texts i (pushTexts i m ts) = texts i m ++ ts := by
  have hnumber : ∀ t, (textOption i t).number = i.item.number := fun _ => rfl
  unfold texts
  rw [toList_pushTexts, List.filterMap_append, List.filterMap_map]
  congr 1
  induction ts with
  | nil => rfl
  | cons t ts ih =>
    rw [List.filterMap_cons, ih, Function.comp_apply, if_pos (hnumber t), strOf_textOption]

theorem texts_pushTexts_of_ne (j : TextItem) (m : Message) (ts : List Text)
    (h : i.item.number ≠ j.item.number) : texts i (pushTexts j m ts) = texts i m := by
  have hnumber : ∀ t, ¬ (textOption j t).number = i.item.number := fun _ heq => h heq.symm
  unfold texts
  rw [toList_pushTexts, List.filterMap_append, List.filterMap_map]
  have hnone : (ts.filterMap ((fun o : CoapOption =>
      if o.number = i.item.number then some (strOf o.value) else none) ∘ textOption j)) = [] := by
    refine List.filterMap_eq_nil_iff.mpr fun t _ => ?_
    rw [Function.comp_apply, if_neg (hnumber t)]
  rw [hnone, List.append_nil]

theorem texts_delete_self (m : Message) : texts i (m.delOptionByNumber i.item.number) = [] := by
  rw [texts_eq]
  change (ofNumber i.item.number (m.options.delete i.item.number)).map _ = []
  rw [ofNumber_delete_self]
  rfl

theorem texts_delete_of_ne (m : Message) (n : ℕ) (h : i.item.number ≠ n) :
    texts i (m.delOptionByNumber n) = texts i m := by
  rw [texts_eq, texts_eq]
  change (ofNumber i.item.number (m.options.delete n)).map _ = _
  rw [ofNumber_delete_of_ne _ _ _ h]

end Options

section Accessors
variable (m : Message)

theorem dropLast_flatMap (ts : List Text) :
    (ts.flatMap fun t => t ++ ['/']).dropLast = ['/'].intercalate ts := by
  induction ts with
  | nil => rfl
  | cons t ts ih =>
    cases ts with
    | nil => simp
    | cons u ts =>
      have hne : ((u :: ts).flatMap fun t => t ++ ['/']) ≠ [] := by simp
      rw [List.flatMap_cons, List.dropLast_append_of_ne_nil hne, ih, List.intercalate_cons_cons]

theorem uriPath_eq : m.uriPath = ['/'].intercalate (texts .uriPath m) := by
  rw [← dropLast_flatMap]
  unfold Message.uriPath texts
  congr 1
  induction m.options.toList with
  | nil => rfl
  | cons o os ih =>
    rw [List.flatMap_cons, List.filterMap_cons, ih]
    by_cases h : o.number = OptionRegistry.uriPath.number
    · have h' : o.number = TextItem.uriPath.item.number := h
      rw [if_pos h, if_pos h', List.flatMap_cons]
    · have h' : ¬ o.number = TextItem.uriPath.item.number := h
      rw [if_neg h, if_neg h', List.nil_append]

theorem uriQuery_eq : Discovery.uriQuery m = ['&'].intercalate (texts .uriQuery m) := rfl

theorem setUriQuery_eq (value : Text) :
    setUriQuery m value = .ok (pushTexts .uriQuery
      (m.delOptionByNumber OptionRegistry.uriQuery.number) (value.splitOn '&')) :=
  addTexts_eq _ _ _

/-- The path of a text and the query behind it. -/
def pathPart (path : Text) : Text := ((strip path).splitOn '?').headD []

def queryPart (path : Text) : Option Text := ((strip path).splitOn '?')[1]?

/-- The message with the options of the path, and with those of the query if there is one. -/
def withPath (path : Text) : Message :=
  let m := pushTexts .uriPath m ((pathPart path).splitOn '/')
  match queryPart path with
  | some query => pushTexts .uriQuery (m.delOptionByNumber OptionRegistry.uriQuery.number)
      (query.splitOn '&')
  | none => m

theorem setUriPath_eq (path : Text) : setUriPath m path = .ok (withPath m path) := by
  unfold setUriPath withPath
  dsimp only
  rw [addTexts_eq, ok_bind]
  unfold queryPart pathPart
  cases ((strip path).splitOn '?')[1]? with
  | none => rfl
  | some query => exact setUriQuery_eq _ query

theorem texts_withPath (path : Text) :
    texts .uriPath (withPath m path) = texts .uriPath m ++ (pathPart path).splitOn '/' := by
  have hne : TextItem.uriPath.item.number ≠ TextItem.uriQuery.item.number := by decide
  unfold withPath
  cases queryPart path with
  | none => exact texts_pushTexts_self _ _ _
  | some query =>
    dsimp only
    rw [texts_pushTexts_of_ne _ _ _ _ hne]
    exact (texts_delete_of_ne .uriPath _ _ hne).trans (texts_pushTexts_self _ _ _)

theorem queries_withPath (path : Text) :
    texts .uriQuery (withPath m path) =
      (queryPart path).elim (texts .uriQuery m) fun query => query.splitOn '&' := by
  have hne : TextItem.uriQuery.item.number ≠ TextItem.uriPath.item.number := by decide
  unfold withPath
  cases queryPart path with
  | none => exact texts_pushTexts_of_ne _ _ _ _ hne
  | some query =>
    dsimp only
    rw [texts_pushTexts_self]
    exact congrArg (· ++ query.splitOn '&') (texts_delete_self .uriQuery _)

theorem uriPath_withPath (path : Text) (h : texts .uriPath m = []) :
    (withPath m path).uriPath = pathPart path := by
  rw [uriPath_eq, texts_withPath, h, List.nil_append, List.intercalate_splitOn]

theorem uriQuery_withPath (path : Text) :
    Discovery.uriQuery (withPath m path) = (queryPart path).getD (Discovery.uriQuery m) := by
  rw [uriQuery_eq, queries_withPath, uriQuery_eq]
  cases queryPart path with
  | none => rfl
  | some query => exact List.intercalate_splitOn '&'

theorem ofNumber_pushTexts_of_ne (i : TextItem) (n : ℕ) (ts : List Text)
    (h : n ≠ i.item.number) :
    ofNumber n (pushTexts i m ts).options = ofNumber n m.options := by
  have hnone : (ts.map (textOption i)).filter (fun o => o.number = n) = [] := by
    refine List.filter_eq_nil_iff.mpr fun o ho => ?_
    obtain ⟨t, -, rfl⟩ := List.mem_map.mp ho
    rw [decide_eq_true_eq]
    exact fun heq => h heq.symm
  unfold ofNumber
  rw [toList_pushTexts, List.filter_append, hnone, List.append_nil]

theorem ofNumber_withPath (path : Text) (n : ℕ) (hpath : n ≠ OptionRegistry.uriPath.number)
    (hquery : n ≠ OptionRegistry.uriQuery.number) :
    ofNumber n (withPath m path).options = ofNumber n m.options := by
  unfold withPath
  cases queryPart path with
  | none => exact ofNumber_pushTexts_of_ne _ _ _ _ hpath
  | some query =>
    dsimp only
    rw [ofNumber_pushTexts_of_ne _ _ _ _ hquery]
    exact (ofNumber_delete_of_ne _ _ _ hquery).trans (ofNumber_pushTexts_of_ne _ _ _ _ hpath)

end Accessors

section Assignments

/-- What the request has as its path and query. -/
def uriText (m : Message) : Text :=
  if texts .uriQuery m = [] then m.uriPath else m.uriPath ++ '?' :: Discovery.uriQuery m

theorem count_strip_le (path : Text) : (strip path).count '?' ≤ path.count '?' := by
  have hsub : (strip path).Sublist path :=
    ((List.rdropWhile_prefix (· == '/') _).sublist).trans (List.dropWhile_sublist _)
  exact hsub.count_le '?'

/-- The part before the first question mark, and the one behind it up to the next. -/
theorem split_question (t : Text) :
    (t.count '?' = 0 ∧ t.splitOn '?' = [t]) ∨
      ∃ a b rest, t.splitOn '?' = a :: b :: rest ∧ a.count '?' = 0 ∧ b.count '?' = 0 ∧
        (rest = [] → t = a ++ '?' :: b) ∧ (rest ≠ [] → 2 ≤ t.count '?') := by
  by_cases ht : '?' ∈ t
  · obtain ⟨a, c, rfl, ha⟩ := List.eq_append_cons_of_mem ht
    rw [List.splitOn_append_cons_self_of_not_mem ha]
    have hza := List.count_eq_zero_of_not_mem ha
    refine Or.inr ?_
    by_cases hc : '?' ∈ c
    · obtain ⟨b, d, rfl, hb⟩ := List.eq_append_cons_of_mem hc
      rw [List.splitOn_append_cons_self_of_not_mem hb]
      refine ⟨a, b, _, rfl, hza, List.count_eq_zero_of_not_mem hb, ?_, fun _ => ?_⟩
      · exact fun hnil => absurd hnil (List.splitOn_ne_nil '?' d)
      · rw [List.count_append, List.count_cons_self, List.count_append, List.count_cons_self]
        omega
    · rw [List.splitOn_eq_singleton hc]
      exact ⟨a, c, [], rfl, hza, List.count_eq_zero_of_not_mem hc, fun _ => rfl,
        fun h => absurd rfl h⟩
  · exact Or.inl ⟨List.count_eq_zero_of_not_mem ht, List.splitOn_eq_singleton ht⟩

/-- A text is read back as it was set exactly if no slash stands at either of its ends and at most
one question mark in it. -/
theorem uri_readsBack_iff (m : Message) (path : Text) (hpath : texts .uriPath m = [])
    (hquery : texts .uriQuery m = []) :
    ∃ m', setUriPath m path = .ok m' ∧
      (uriText m' = path ↔ strip path = path ∧ path.count '?' ≤ 1) := by
  refine ⟨withPath m path, setUriPath_eq m path, ?_⟩
  have hcount := count_strip_le path
  unfold uriText
  rw [uriPath_withPath m path hpath, uriQuery_withPath, queries_withPath]
  unfold pathPart queryPart
  rcases split_question (strip path) with ⟨hzero, hsplit⟩ | ⟨a, b, rest, hsplit, ha, hb, hab, hmore⟩
  · rw [hsplit]
    change (if texts .uriQuery m = [] then strip path else _) = path ↔ _
    rw [if_pos hquery]
    constructor
    · intro heq
      refine ⟨heq, ?_⟩
      rw [← heq, hzero]
      exact Nat.zero_le 1
    · exact fun h => h.1
  · rw [hsplit]
    change (if b.splitOn '&' = [] then a else a ++ '?' :: b) = path ↔ _
    rw [if_neg (List.splitOn_ne_nil '&' b)]
    constructor
    · intro heq
      have hone : path.count '?' = 1 := by
        rw [← heq, List.count_append, List.count_cons_self, ha, hb]
      have hrest : rest = [] := by
        by_contra hne
        have := hmore hne
        omega
      exact ⟨(hab hrest).trans heq, by omega⟩
    · rintro ⟨hstrip, hle⟩
      have hrest : rest = [] := by
        by_contra hne
        have := hmore hne
        rw [hstrip] at this
        omega
      rw [← hab hrest, hstrip]

theorem intercalate_append (xs ys : List Text) (hxs : xs ≠ []) (hys : ys ≠ []) :
    ['/'].intercalate (xs ++ ys) = ['/'].intercalate xs ++ '/' :: ['/'].intercalate ys := by
  induction xs with
  | nil => exact absurd rfl hxs
  | cons x xs ih =>
    cases xs with
    | nil =>
      obtain ⟨y, ys', rfl⟩ := List.exists_cons_of_ne_nil hys
      simp [List.intercalate_cons_cons]
    | cons x' xs =>
      have hrest := ih (List.cons_ne_nil _ _)
      rw [List.cons_append, List.cons_append, List.intercalate_cons_cons, ← List.cons_append, hrest,
        List.intercalate_cons_cons]
      simp

theorem intercalate_flatMap (ts : List Text) :
    ['/'].intercalate (ts.flatMap fun t => t.splitOn '/') = ['/'].intercalate ts := by
  induction ts with
  | nil => rfl
  | cons t ts ih =>
    cases ts with
    | nil =>
      rw [List.flatMap_cons, List.flatMap_nil, List.append_nil, List.intercalate_splitOn,
        List.intercalate_singleton]
    | cons u ts =>
      have hne : ((u :: ts).flatMap fun t => t.splitOn '/') ≠ [] := by
        rw [List.flatMap_cons]
        exact List.append_ne_nil_of_left_ne_nil (List.splitOn_ne_nil '/' u) _
      rw [List.flatMap_cons, intercalate_append _ _ (List.splitOn_ne_nil '/' t) hne, ih,
        List.intercalate_splitOn, List.intercalate_cons_cons]
      simp

/-- Paths that are set one after the other are joined, and the last query replaces the others. -/
theorem assigned_paths (m : Message) (paths : List Text) (h : texts .uriPath m = []) :
    ∃ m', paths.foldlM setUriPath m = .ok m' ∧
      m'.uriPath = ['/'].intercalate (paths.map pathPart) ∧
      Discovery.uriQuery m' = (paths.filterMap queryPart).getLast?.getD (Discovery.uriQuery m) ∧
      ∀ n, n ≠ OptionRegistry.uriPath.number → n ≠ OptionRegistry.uriQuery.number →
        ofNumber n m'.options = ofNumber n m.options := by
  have hrun : ∀ (paths : List Text) (m : Message),
      paths.foldlM setUriPath m = .ok (paths.foldl withPath m) ∧
      texts .uriPath (paths.foldl withPath m) =
        texts .uriPath m ++ (paths.map pathPart).flatMap (fun t => t.splitOn '/') ∧
      Discovery.uriQuery (paths.foldl withPath m) =
        (paths.filterMap queryPart).getLast?.getD (Discovery.uriQuery m) ∧
      ∀ n, n ≠ OptionRegistry.uriPath.number → n ≠ OptionRegistry.uriQuery.number →
        ofNumber n (paths.foldl withPath m).options = ofNumber n m.options := by
    intro paths
    induction paths with
    | nil => exact fun m => ⟨rfl, (List.append_nil _).symm, rfl, fun _ _ _ => rfl⟩
    | cons path paths ih =>
      intro m
      obtain ⟨hfold, htexts, hquery, hothers⟩ := ih (withPath m path)
      refine ⟨?_, ?_, ?_, fun n hpath hquery => ?_⟩
      · rw [List.foldlM_cons, setUriPath_eq, ok_bind, hfold]
        rfl
      · rw [List.foldl_cons, htexts, texts_withPath, List.map_cons, List.flatMap_cons,
          List.append_assoc]
      · rw [List.foldl_cons, hquery, uriQuery_withPath, List.filterMap_cons]
        cases hpart : queryPart path with
        | none => rfl
        | some query =>
          cases hlater : paths.filterMap queryPart with
          | nil => rfl
          | cons q qs =>
            rw [List.getLast?_cons_cons, List.getLast?_cons]
            rfl
      · exact (hothers n hpath hquery).trans (ofNumber_withPath m path n hpath hquery)
  obtain ⟨hfold, htexts, hquery, hothers⟩ := hrun paths m
  refine ⟨_, hfold, ?_, hquery, hothers⟩
  rw [uriPath_eq, htexts, h, List.nil_append, intercalate_flatMap]

theorem uri_readsBack_sample :
    ∃ m', setUriPath (Message.new .request) "sensors/temp?unit=C".toList = .ok m' ∧
      (uriText m' = "sensors/temp?unit=C".toList ↔
        strip "sensors/temp?unit=C".toList = "sensors/temp?unit=C".toList ∧
          "sensors/temp?unit=C".toList.count '?' ≤ 1) :=
  uri_readsBack_iff (Message.new .request) "sensors/temp?unit=C".toList rfl rfl

theorem assigned_paths_sample :
    ∃ m', ["a?x".toList, "b".toList].foldlM setUriPath (Message.new .request) = .ok m' ∧
      m'.uriPath = ['/'].intercalate (["a?x".toList, "b".toList].map pathPart) ∧
      Discovery.uriQuery m' = (["a?x".toList, "b".toList].filterMap queryPart).getLast?.getD
        (Discovery.uriQuery (Message.new .request)) ∧
      ∀ n, n ≠ OptionRegistry.uriPath.number → n ≠ OptionRegistry.uriQuery.number →
        ofNumber n m'.options = ofNumber n (Message.new .request).options :=
  assigned_paths (Message.new .request) ["a?x".toList, "b".toList] rfl

end Assignments

end BubotCoap.UriPaths
