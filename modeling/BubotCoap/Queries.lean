import BubotCoap.OptionAccess
import BubotCoap.OrderedDict
import Mathlib.Data.List.Infix

set_option autoImplicit false

/-!
# Query dictionaries

The accessors of `Request.query` in `messages/request.py`. The setter writes one
option for each value of each key, and the getter groups the values by their keys.
-/
namespace BubotCoap.Queries
open PythonData Defines Options Messages OptionAccess OrderedDict

abbrev Query := Dict Text (List Text)

/-- `key, value = text.split('=')`. -/
def splitPair (text : Text) : Except PyErr (Text × Text) :=
  match text.splitOn '=' with
  | [key, value] => .ok (key, value)
  | _ => .error .valueError

/-- What one option adds. The list of a key is begun where the key is no part of the value. -/
def addPair (result : Query) (text : Text) : Except PyErr Query := do
  let (key, value) ← splitPair text
  let result := if key <:+: value then result else result.insert key []
  match result.get? key with
  | none => .error .keyError
  | some values => .ok (result.insert key (values ++ [value]))

def query (m : Message) : Except PyErr Query :=
  m.options.toList.foldlM
    (fun result o =>
      if o.number = OptionRegistry.uriQuery.number then addPair result (strOf o.value)
      else .ok result)
    Dict.empty

def pairText (key elem : Text) : Text := key ++ '=' :: elem

def setQuery (m : Message) (value : Query) : Except PyErr Message :=
  value.entries.foldlM
    (fun m (entry : Text × List Text) =>
      entry.2.foldlM
        (fun m elem => m.addNew OptionRegistry.uriQuery (.str (pairText entry.1 elem))) m)
    (m.delOptionByNumber OptionRegistry.uriQuery.number)

theorem splitPair_pairText (key elem : Text) (hkey : '=' ∉ key) (helem : '=' ∉ elem) :
    splitPair (pairText key elem) = .ok (key, elem) := by
  unfold splitPair pairText
  rw [List.splitOn_append_cons_self, List.splitOn_eq_singleton hkey,
    List.splitOn_eq_singleton helem]
  rfl

section Setter

def queryOption (text : Text) : CoapOption := ⟨OptionRegistry.uriQuery, .str text, rfl, rfl⟩

def push (m : Message) (text : Text) : Message :=
  { m with options := ⟨m.options.toList ++ [queryOption text],
      m.options.once_append (queryOption text) (Or.inl rfl)⟩ }

theorem addNew_query (m : Message) (text : Text) :
    m.addNew OptionRegistry.uriQuery (.str text) = .ok (push m text) := by
  have hmake : CoapOption.make OptionRegistry.uriQuery.number (.str text) =
      .ok (queryOption text) := make_stored (queryOption text)
  unfold Message.addNew
  rw [hmake, ok_bind]
  rfl

/-- The texts of the options that the setter writes. -/
def texts (entries : List (Text × List Text)) : List Text :=
  entries.flatMap fun entry => entry.2.map (pairText entry.1)

theorem addValues_eq (m : Message) (key : Text) (values : List Text) :
    values.foldlM (fun m elem => m.addNew OptionRegistry.uriQuery (.str (pairText key elem))) m =
      .ok ((values.map (pairText key)).foldl push m) := by
  induction values generalizing m with
  | nil => rfl
  | cons value values ih =>
    rw [List.foldlM_cons, addNew_query, ok_bind, ih]
    rfl

theorem setQuery_eq (m : Message) (value : Query) :
    setQuery m value = .ok ((texts value.entries).foldl push
      (m.delOptionByNumber OptionRegistry.uriQuery.number)) := by
  unfold setQuery
  generalize m.delOptionByNumber OptionRegistry.uriQuery.number = m
  generalize value.entries = entries
  induction entries generalizing m with
  | nil => rfl
  | cons entry entries ih =>
    rw [List.foldlM_cons, addValues_eq, ok_bind, ih]
    simp only [texts, List.flatMap_cons, List.foldl_append]

theorem ofNumber_push_query (m : Message) (text : Text) :
    ofNumber OptionRegistry.uriQuery.number (push m text).options =
      ofNumber OptionRegistry.uriQuery.number m.options ++ [queryOption text] := by
  change (m.options.toList ++ [queryOption text]).filter _ = _
  rw [List.filter_append]
  rfl

theorem ofNumber_pushes (m : Message) (ts : List Text) :
    ofNumber OptionRegistry.uriQuery.number (ts.foldl push m).options =
      ofNumber OptionRegistry.uriQuery.number m.options ++ ts.map queryOption := by
  induction ts generalizing m with
  | nil => simp
  | cons t ts ih =>
    rw [List.foldl_cons, ih, ofNumber_push_query, List.append_assoc]
    rfl

end Setter

section Getter

theorem query_eq (m : Message) :
    query m = ((ofNumber OptionRegistry.uriQuery.number m.options).map
      fun o => strOf o.value).foldlM addPair Dict.empty := by
  unfold query ofNumber
  rw [List.foldlM_map, List.foldlM_filter]
  simp only [decide_eq_true_eq]
  rfl

theorem query_setQuery (m m' : Message) (d : Query) (h : setQuery m d = .ok m') :
    query m' = (texts d.entries).foldlM addPair Dict.empty := by
  rw [setQuery_eq] at h
  rw [← Except.ok.inj h, query_eq, ofNumber_pushes]
  change (((ofNumber _ (m.options.delete _)) ++ _).map _).foldlM _ _ = _
  rw [ofNumber_delete_self, List.nil_append, List.map_map]
  congr 1
  exact List.map_id _

variable (key : Text)

/-- The list of a key after more of its values, if it has one before. -/
def regroup (values : List Text) (value : Text) : List Text :=
  if key <:+: value then values ++ [value] else [value]

theorem regroup_ne_nil (values : List Text) (value : Text) : regroup key values value ≠ [] := by
  unfold regroup
  split <;> simp

theorem length_regroup_le (held values : List Text) (h : held ≠ []) :
    (values.foldl (regroup key) held).length ≤ held.length + values.length := by
  induction values generalizing held with
  | nil => exact Nat.le_refl _
  | cons value values ih =>
    have hpos := List.length_pos_of_ne_nil h
    have hstep : (regroup key held value).length ≤ held.length + 1 := by
      unfold regroup
      split
      · rw [List.length_append, List.length_singleton]
      · rw [List.length_singleton]
        omega
    have := ih (regroup key held value) (regroup_ne_nil key held value)
    rw [List.foldl_cons, List.length_cons]
    omega

theorem regroup_eq_iff (held values : List Text) (h : held ≠ []) :
    values.foldl (regroup key) held = held ++ values ↔ ∀ value ∈ values, key <:+: value := by
  induction values generalizing held with
  | nil => simp
  | cons value values ih =>
    rw [List.foldl_cons, List.forall_mem_cons]
    by_cases hin : key <:+: value
    · have hstep : regroup key held value = held ++ [value] := if_pos hin
      have hcons : held ++ value :: values = (held ++ [value]) ++ values := by simp
      rw [hstep, hcons, ih (held ++ [value]) (by simp)]
      exact (and_iff_right hin).symm
    · have hstep : regroup key held value = [value] := if_neg hin
      rw [hstep]
      refine iff_of_false ?_ fun hall => hin hall.1
      intro heq
      have hle := length_regroup_le key [value] values (by simp)
      have hpos := List.length_pos_of_ne_nil h
      rw [heq, List.length_append, List.length_cons, List.length_singleton] at hle
      omega

theorem addPair_eq (result : Query) (value : Text) (hkey : '=' ∉ key) (hvalue : '=' ∉ value) :
    addPair result (pairText key value) =
      if key <:+: value ∧ result.get? key = none then .error .keyError
      else .ok (result.insert key (regroup key ((result.get? key).getD []) value)) := by
  unfold addPair regroup
  rw [splitPair_pairText key value hkey hvalue, ok_bind]
  by_cases hin : key <:+: value
  · cases hget : result.get? key with
    | none => simp [hin, hget]
    | some values => simp [hin, hget]
  · simp [hin]

theorem addValues_held (result : Query) (held values : List Text) (hkey : '=' ∉ key)
    (hvalues : ∀ value ∈ values, '=' ∉ value) (hheld : result.get? key = some held) :
    (values.map (pairText key)).foldlM addPair result =
      .ok (result.insert key (values.foldl (regroup key) held)) := by
  induction values generalizing result held with
  | nil =>
    rw [List.map_nil, List.foldlM_nil, List.foldl_nil, result.insert_of_get? key held hheld]
    rfl
  | cons value values ih =>
    obtain ⟨hvalue, hrest⟩ := List.forall_mem_cons.mp hvalues
    have hfirst : addPair result (pairText key value) =
        .ok (result.insert key (regroup key held value)) := by
      rw [addPair_eq key result value hkey hvalue, hheld]
      exact if_neg fun h => absurd h.2 (by simp)
    rw [List.map_cons, List.foldlM_cons, hfirst, ok_bind,
      ih _ (regroup key held value) hrest (result.get?_insert_self key _), Dict.insert_insert]
    rfl

/-- The key is part of every value but the first. -/
def Regroups : List Text → Prop
  | [] => False
  | first :: later => ¬ key <:+: first ∧ ∀ value ∈ later, key <:+: value

instance (values : List Text) : Decidable (Regroups key values) := by
  cases values <;> unfold Regroups <;> infer_instance

theorem addValues_new (result : Query) (first : Text) (later : List Text) (hkey : '=' ∉ key)
    (hvalues : ∀ value ∈ first :: later, '=' ∉ value) (hnew : result.get? key = none) :
    ((first :: later).map (pairText key)).foldlM addPair result =
      if key <:+: first then .error .keyError
      else .ok (result.insert key (later.foldl (regroup key) [first])) := by
  obtain ⟨hfirst, hlater⟩ := List.forall_mem_cons.mp hvalues
  rw [List.map_cons, List.foldlM_cons, addPair_eq key result first hkey hfirst, hnew]
  by_cases hin : key <:+: first
  · rw [if_pos ⟨hin, rfl⟩, if_pos hin]
    rfl
  · have hbegun : regroup key [] first = [first] := if_neg hin
    rw [if_neg fun h => hin h.1, if_neg hin, ok_bind, Option.getD_none, hbegun,
      addValues_held key _ [first] later hkey hlater (result.get?_insert_self key _),
      Dict.insert_insert]

theorem addValues_cases (result result' : Query) (values : List Text) (hkey : '=' ∉ key)
    (hvalues : ∀ value ∈ values, '=' ∉ value) (hnew : result.get? key = none)
    (h : (values.map (pairText key)).foldlM addPair result = .ok result') :
    (values = [] ∧ result' = result) ∨
    ∃ first later, values = first :: later ∧ ¬ key <:+: first ∧
      result' = result.insert key (later.foldl (regroup key) [first]) := by
  cases values with
  | nil => exact Or.inl ⟨rfl, (Except.ok.inj h).symm⟩
  | cons first later =>
    rw [addValues_new key result first later hkey hvalues hnew] at h
    by_cases hin : key <:+: first
    · rw [if_pos hin] at h
      cases h
    · rw [if_neg hin] at h
      exact Or.inr ⟨first, later, rfl, hin, (Except.ok.inj h).symm⟩

end Getter

section Entries

/-- Neither the key nor a value holds the sign that separates them. -/
def Separable (entry : Text × List Text) : Prop := '=' ∉ entry.1 ∧ ∀ value ∈ entry.2, '=' ∉ value

instance (entry : Text × List Text) : Decidable (Separable entry) :=
  inferInstanceAs (Decidable (_ ∧ _))

/-- What the getter has collected before it comes to the given entries. -/
structure Ahead (result : Query) (entries : List (Text × List Text)) : Prop where
  nodup : (entries.map Prod.fst).Nodup
  separable : ∀ entry ∈ entries, Separable entry
  new : ∀ entry ∈ entries, result.get? entry.1 = none

variable (result result' : Query) (entry : Text × List Text) (entries : List (Text × List Text))

theorem Ahead.next (h : Ahead result (entry :: entries)) : Ahead result entries where
  nodup := (List.nodup_cons.mp h.nodup).2
  separable e he := h.separable e (List.mem_cons_of_mem _ he)
  new e he := h.new e (List.mem_cons_of_mem _ he)

theorem Ahead.insert (values : List Text) (h : Ahead result (entry :: entries)) :
    Ahead (result.insert entry.1 values) entries where
  nodup := (List.nodup_cons.mp h.nodup).2
  separable e he := h.separable e (List.mem_cons_of_mem _ he)
  new e he := by
    have hne : e.1 ≠ entry.1 := by
      intro heq
      exact (List.nodup_cons.mp h.nodup).1 (heq ▸ List.mem_map.mpr ⟨e, he, rfl⟩)
    rw [result.get?_insert_of_ne values hne]
    exact h.new e (List.mem_cons_of_mem _ he)

theorem addEntries_regrouped (h : Ahead result entries)
    (hregroups : ∀ entry ∈ entries, Regroups entry.1 entry.2) :
    ∃ result', (texts entries).foldlM addPair result = .ok result' ∧
      result'.entries = result.entries ++ entries := by
  induction entries generalizing result with
  | nil => exact ⟨result, rfl, (List.append_nil _).symm⟩
  | cons entry entries ih =>
    obtain ⟨key, values⟩ := entry
    obtain ⟨hkey, hvalues⟩ := h.separable _ List.mem_cons_self
    have hnew := h.new _ List.mem_cons_self
    obtain ⟨hregroup, hrest⟩ := List.forall_mem_cons.mp hregroups
    cases values with
    | nil => exact absurd hregroup id
    | cons first later =>
      obtain ⟨hbegins, hlater⟩ := hregroup
      have hvalue : later.foldl (regroup key) [first] = first :: later :=
        (regroup_eq_iff key [first] later (by simp)).mpr hlater
      have hstep := addValues_new key result first later hkey hvalues hnew
      rw [if_neg hbegins, hvalue] at hstep
      obtain ⟨result', hfold, hentries⟩ := ih _ (h.insert _ _ _ (first :: later)) hrest
      refine ⟨result', ?_, ?_⟩
      · rw [texts, List.flatMap_cons, List.foldlM_append, hstep, ok_bind]
        exact hfold
      · rw [hentries, result.entries_insert_of_new key _ hnew, List.append_assoc]
        rfl

theorem addEntries_kept (key : Text) (h : Ahead result entries)
    (hfold : (texts entries).foldlM addPair result = .ok result')
    (hkey : key ∉ entries.map Prod.fst) : result'.get? key = result.get? key := by
  induction entries generalizing result with
  | nil => rw [Except.ok.inj hfold]
  | cons entry entries ih =>
    obtain ⟨hne, hother⟩ := (List.mem_cons.not.trans not_or).mp hkey
    obtain ⟨hsign, hvalues⟩ := h.separable _ List.mem_cons_self
    rw [texts, List.flatMap_cons, List.foldlM_append] at hfold
    obtain ⟨middle, hfirst, hrest⟩ := (bind_eq_ok _ _ _).mp hfold
    rcases addValues_cases entry.1 result middle entry.2 hsign hvalues
      (h.new _ List.mem_cons_self) hfirst with ⟨_, rfl⟩ | ⟨first, later, _, _, rfl⟩
    · exact ih middle h.next hrest hother
    · rw [ih _ (h.insert _ _ _ _) hrest hother, result.get?_insert_of_ne _ hne]

theorem regroups_of_addEntries (h : Ahead result entries)
    (hfold : (texts entries).foldlM addPair result = .ok result')
    (hsame : ∀ entry ∈ entries, result'.get? entry.1 = some entry.2) :
    ∀ entry ∈ entries, Regroups entry.1 entry.2 := by
  induction entries generalizing result with
  | nil => exact fun entry hentry => absurd hentry List.not_mem_nil
  | cons entry entries ih =>
    obtain ⟨hentry, hsame⟩ := List.forall_mem_cons.mp hsame
    obtain ⟨hsign, hvalues⟩ := h.separable _ List.mem_cons_self
    have hnew := h.new _ List.mem_cons_self
    have hother := (List.nodup_cons.mp h.nodup).1
    rw [texts, List.flatMap_cons, List.foldlM_append] at hfold
    obtain ⟨middle, hfirst, hrest⟩ := (bind_eq_ok _ _ _).mp hfold
    rw [List.forall_mem_cons]
    rcases addValues_cases entry.1 result middle entry.2 hsign hvalues hnew hfirst with
      ⟨_, rfl⟩ | ⟨first, later, hvalue, hbegins, rfl⟩
    · have hnone := addEntries_kept middle result' entries entry.1 h.next hrest hother
      rw [hentry, hnew] at hnone
      cases hnone
    · have hkept := addEntries_kept _ result' entries entry.1 (h.insert _ _ _ _) hrest hother
      rw [hentry, result.get?_insert_self, hvalue, Option.some_inj] at hkept
      have hlater := (regroup_eq_iff entry.1 [first] later (by simp)).mp hkept.symm
      refine ⟨?_, ih _ (h.insert _ _ _ _) hrest hsame⟩
      rw [hvalue]
      exact ⟨hbegins, hlater⟩

end Entries

/-- The query is set, and reading it gives an equal dictionary. -/
def ReadsBack (m : Message) (d : Query) : Prop :=
  ∃ m' d', setQuery m d = .ok m' ∧ query m' = .ok d' ∧ ∀ key, d'.get? key = d.get? key

theorem ahead_empty (d : Query) (h : ∀ entry ∈ d.entries, Separable entry) :
    Ahead Dict.empty d.entries := ⟨d.nodup, h, fun _ _ => rfl⟩

/-- A query is read back exactly if no key is part of its first value, and each is part of all its
other values. -/
theorem query_readsBack_iff (m : Message) (d : Query) (h : ∀ entry ∈ d.entries, Separable entry) :
    ReadsBack m d ↔ ∀ entry ∈ d.entries, Regroups entry.1 entry.2 := by
  have hahead := ahead_empty d h
  constructor
  · rintro ⟨m', d', hset, hquery, hsame⟩
    rw [query_setQuery m m' d hset] at hquery
    refine regroups_of_addEntries _ d' d.entries hahead hquery fun entry hentry => ?_
    rw [hsame]
    exact (d.mem_entries_iff entry.1 entry.2).mp hentry
  · intro hregroups
    obtain ⟨d', hfold, hentries⟩ := addEntries_regrouped _ d.entries hahead hregroups
    have hsame : d' = d := Dict.eq_of_entries d' d hentries
    refine ⟨_, d', setQuery_eq m d, ?_, fun key => by rw [hsame]⟩
    rw [query_setQuery m _ d (setQuery_eq m d)]
    exact hfold

def sampleQuery : Query :=
  (Dict.empty.insert "if".toList ["sensor".toList, "if.light".toList]).insert "n".toList
    ["7".toList]

theorem query_readsBack_sample : ReadsBack (Message.new .request) sampleQuery :=
  (query_readsBack_iff (Message.new .request) sampleQuery (by decide)).mpr (by decide)

def repeatedQuery : Query := Dict.empty.insert ['a'] [['1'], ['2']]

/-- Of two values of a key only the last is read. -/
theorem not_readsBack_repeated :
    (∀ entry ∈ repeatedQuery.entries, Separable entry ∧ entry.2 ≠ []) ∧
    ¬ ReadsBack (Message.new .request) repeatedQuery := by
  refine ⟨by decide, ?_⟩
  rintro ⟨m', d', hset, hquery, hsame⟩
  rw [query_setQuery _ m' repeatedQuery hset] at hquery
  have hread : ((texts repeatedQuery.entries).foldlM addPair Dict.empty).map
      (fun d => d.get? ['a']) = .ok (some [['2']]) := by rfl
  rw [hquery] at hread
  have hlast : d'.get? ['a'] = some [['2']] := Except.ok.inj hread
  rw [hsame] at hlast
  exact absurd hlast (by decide)

end BubotCoap.Queries
