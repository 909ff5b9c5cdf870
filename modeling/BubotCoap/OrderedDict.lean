import Mathlib.Data.List.Basic
import Mathlib.Data.List.Nodup

set_option autoImplicit false

namespace BubotCoap.OrderedDict

variable {K V : Type*} [DecidableEq K]

def find (k : K) : List (K × V) → Option V
  | [] => none
  | (k', v) :: rest => if k = k' then some v else find k rest

/-- An existing key keeps its place, a new one goes to the end. -/
def put (k : K) (v : V) : List (K × V) → List (K × V)
  | [] => [(k, v)]
  | (k', v') :: rest => if k = k' then (k, v) :: rest else (k', v') :: put k v rest

theorem mem_keys_put (k k' : K) (v : V) (l : List (K × V)) :
    k' ∈ (put k v l).map Prod.fst ↔ k' = k ∨ k' ∈ l.map Prod.fst := by
  induction l with
  | nil => simp [put]
  | cons p rest ih =>
    obtain ⟨q, w⟩ := p
    by_cases h : k = q
    · subst q
      simp [put]
    · simp only [put, h, ↓reduceIte, List.map_cons, List.mem_cons, ih]
      tauto

theorem nodup_put (k : K) (v : V) (l : List (K × V)) (h : (l.map Prod.fst).Nodup) :
    ((put k v l).map Prod.fst).Nodup := by
  induction l with
  | nil => simp [put]
  | cons p rest ih =>
    obtain ⟨q, w⟩ := p
    rw [List.map_cons, List.nodup_cons] at h
    by_cases hk : k = q
    · subst q
      simpa [put] using h
    · simp only [put, hk, ↓reduceIte, List.map_cons, List.nodup_cons]
      refine ⟨?_, ih h.2⟩
      rw [mem_keys_put]
      rintro (e | e)
      · exact hk e.symm
      · exact h.1 e

theorem find_put (k k' : K) (v : V) (l : List (K × V)) :
    find k' (put k v l) = if k' = k then some v else find k' l := by
  induction l with
  | nil => simp [put, find]
  | cons p rest ih =>
    obtain ⟨q, w⟩ := p
    by_cases hk : k = q
    · subst q
      by_cases h : k' = k <;> simp [put, find, h]
    · by_cases h : k' = q
      · subst q
        have hne : k' ≠ k := fun e => hk e.symm
        simp [put, find, hk, hne]
      · simp [put, find, hk, h, ih]

theorem find_filter (p : K → Bool) (k : K) (l : List (K × V)) :
    find k (l.filter fun e => p e.1) = if p k then find k l else none := by
  induction l with
  | nil => simp [find]
  | cons e rest ih =>
    obtain ⟨q, w⟩ := e
    by_cases h : k = q
    · subst q
      cases hp : p k <;> simp [find, hp, ih]
    · cases hp : p q <;> simp [find, hp, h, ih]

theorem put_filter (p : K → Bool) (k : K) (v : V) (l : List (K × V)) (h : p k = true) :
    put k v (l.filter fun e => p e.1) = (put k v l).filter fun e => p e.1 := by
  induction l with
  | nil => simp [put, h]
  | cons e rest ih =>
    obtain ⟨q, w⟩ := e
    by_cases hk : k = q
    · subst q
      simp [put, h]
    · cases hq : p q <;> simp [put, hk, hq, ih]

theorem find_eq_some_of_mem (k : K) (v : V) (l : List (K × V))
    (nodup : (l.map Prod.fst).Nodup) (h : (k, v) ∈ l) : find k l = some v := by
  induction l with
  | nil => simp at h
  | cons e rest ih =>
    obtain ⟨q, w⟩ := e
    rw [List.map_cons, List.nodup_cons] at nodup
    rcases List.mem_cons.mp h with head | tail
    · obtain ⟨rfl, rfl⟩ := Prod.mk.inj head
      simp [find]
    · have hq : k ≠ q := by
        intro e
        exact nodup.1 (e ▸ List.mem_map.mpr ⟨(k, v), tail, rfl⟩)
      simp only [find, hq, ↓reduceIte]
      exact ih nodup.2 tail

theorem put_of_find_none (k : K) (v : V) (l : List (K × V)) (h : find k l = none) :
    put k v l = l ++ [(k, v)] := by
  induction l with
  | nil => rfl
  | cons e rest ih =>
    obtain ⟨q, w⟩ := e
    by_cases hk : k = q
    · simp [find, hk] at h
    · simp only [find, hk, ↓reduceIte] at h
      simp only [put, hk, ↓reduceIte, List.cons_append, ih h]

theorem put_of_find_some (k : K) (v : V) (l : List (K × V)) (h : find k l = some v) :
    put k v l = l := by
  induction l with
  | nil => simp [find] at h
  | cons e rest ih =>
    obtain ⟨q, w⟩ := e
    by_cases hk : k = q
    · simp only [find, hk, ↓reduceIte, Option.some.injEq] at h
      simp [put, hk, h]
    · simp only [find, hk, ↓reduceIte] at h
      simp only [put, hk, ↓reduceIte, ih h]

theorem put_put (k : K) (v w : V) (l : List (K × V)) : put k w (put k v l) = put k w l := by
  induction l with
  | nil => simp [put]
  | cons e rest ih =>
    obtain ⟨q, u⟩ := e
    by_cases hk : k = q
    · simp only [put, hk, ↓reduceIte]
    · simp only [put, hk, ↓reduceIte, ih]

theorem mem_of_find_eq_some (k : K) (v : V) (l : List (K × V)) (h : find k l = some v) :
    (k, v) ∈ l := by
  induction l with
  | nil => simp [find] at h
  | cons e rest ih =>
    obtain ⟨q, w⟩ := e
    by_cases hk : k = q
    · subst q
      simp only [find, ↓reduceIte, Option.some.injEq] at h
      simp [h]
    · simp only [find, hk, ↓reduceIte] at h
      exact List.mem_cons_of_mem _ (ih h)

/-- A dictionary: its entries in insertion order, each key once. -/
structure Dict (K V : Type*) where
  entries : List (K × V)
  nodup : (entries.map Prod.fst).Nodup

namespace Dict

def empty : Dict K V := ⟨[], List.nodup_nil⟩

def get? (d : Dict K V) (k : K) : Option V := find k d.entries

def contains (d : Dict K V) (k : K) : Bool := (d.get? k).isSome

def insert (d : Dict K V) (k : K) (v : V) : Dict K V :=
  ⟨put k v d.entries, nodup_put k v d.entries d.nodup⟩

def keep (d : Dict K V) (p : K → Bool) : Dict K V :=
  ⟨d.entries.filter fun e => p e.1, (List.filter_sublist.map _).nodup d.nodup⟩

def erase (d : Dict K V) (k : K) : Dict K V := d.keep fun k' => !decide (k' = k)

@[simp] theorem get?_empty (k : K) : (empty : Dict K V).get? k = none := rfl

theorem get?_insert (d : Dict K V) (k k' : K) (v : V) :
    (d.insert k v).get? k' = if k' = k then some v else d.get? k' :=
  find_put k k' v d.entries

@[simp] theorem get?_insert_self (d : Dict K V) (k : K) (v : V) :
    (d.insert k v).get? k = some v := by
  simp [get?_insert]

theorem get?_insert_of_ne (d : Dict K V) {k k' : K} (v : V) (h : k' ≠ k) :
    (d.insert k v).get? k' = d.get? k' := by
  simp [get?_insert, h]

theorem get?_keep (d : Dict K V) (p : K → Bool) (k : K) :
    (d.keep p).get? k = if p k then d.get? k else none :=
  find_filter p k d.entries

theorem get?_erase (d : Dict K V) (k k' : K) :
    (d.erase k).get? k' = if k' = k then none else d.get? k' := by
  by_cases h : k' = k <;> simp [erase, get?_keep, h]

@[simp] theorem get?_erase_self (d : Dict K V) (k : K) : (d.erase k).get? k = none := by
  simp [get?_erase]

theorem get?_erase_of_ne (d : Dict K V) {k k' : K} (h : k' ≠ k) :
    (d.erase k).get? k' = d.get? k' := by
  simp [get?_erase, h]

theorem contains_insert (d : Dict K V) (k k' : K) (v : V) :
    (d.insert k v).contains k' = (decide (k' = k) || d.contains k') := by
  unfold contains
  rw [get?_insert]
  by_cases h : k' = k
  · rw [if_pos h, decide_eq_true h]
    rfl
  · rw [if_neg h, decide_eq_false h]
    rfl

theorem contains_erase (d : Dict K V) (k k' : K) :
    (d.erase k).contains k' = (!decide (k' = k) && d.contains k') := by
  unfold contains
  rw [get?_erase]
  by_cases h : k' = k
  · rw [if_pos h, decide_eq_true h]
    rfl
  · rw [if_neg h, decide_eq_false h]
    rfl

theorem mem_entries_iff (d : Dict K V) (k : K) (v : V) :
    (k, v) ∈ d.entries ↔ d.get? k = some v :=
  ⟨find_eq_some_of_mem k v d.entries d.nodup, mem_of_find_eq_some k v d.entries⟩

theorem entries_insert_of_new (d : Dict K V) (k : K) (v : V) (h : d.get? k = none) :
    (d.insert k v).entries = d.entries ++ [(k, v)] :=
  put_of_find_none k v d.entries h

theorem insert_of_get? (d : Dict K V) (k : K) (v : V) (h : d.get? k = some v) :
    d.insert k v = d := by
  have hput : put k v d.entries = d.entries := put_of_find_some k v d.entries h
  simp only [insert, hput]

@[simp] theorem insert_insert (d : Dict K V) (k : K) (v w : V) :
    (d.insert k v).insert k w = d.insert k w := by
  have hput : put k w (put k v d.entries) = put k w d.entries := put_put k v w d.entries
  simp only [insert, hput]

omit [DecidableEq K] in
theorem eq_of_entries (d d' : Dict K V) (h : d.entries = d'.entries) : d = d' := by
  cases d
  cases d'
  cases h
  rfl

theorem get?_keep_of_true (d : Dict K V) (p : K → Bool) (k : K) (h : p k = true) :
    (d.keep p).get? k = d.get? k := by
  rw [get?_keep, if_pos h]

theorem keep_insert (d : Dict K V) (p : K → Bool) (k : K) (v : V) (h : p k = true) :
    (d.keep p).insert k v = (d.insert k v).keep p :=
  eq_of_entries _ _ (put_filter p k v d.entries h)

theorem keep_erase (d : Dict K V) (p : K → Bool) (k : K) :
    (d.keep p).erase k = (d.erase k).keep p := by
  refine eq_of_entries _ _ ?_
  simp only [erase, keep, List.filter_filter, Bool.and_comm]

theorem erase_insert_of_new (d : Dict K V) (k : K) (v : V) (h : d.get? k = none) :
    (d.insert k v).erase k = d := by
  obtain ⟨l, nodup⟩ := d
  have hput : (insert ⟨l, nodup⟩ k v).entries = l ++ [(k, v)] :=
    entries_insert_of_new ⟨l, nodup⟩ k v h
  have hkeep : ∀ e ∈ l, (!decide (e.1 = k)) = true := by
    intro e he
    have hne : e.1 ≠ k := by
      intro heq
      have hget := find_eq_some_of_mem e.1 e.2 l nodup he
      rw [heq] at hget
      exact absurd (h.symm.trans hget) (by simp)
    simp [hne]
  apply eq_of_entries
  change (insert ⟨l, nodup⟩ k v).entries.filter _ = l
  rw [hput, List.filter_append, List.filter_eq_self.mpr hkeep]
  simp

def keys (d : Dict K V) : List K := d.entries.map Prod.fst

theorem mem_keys_iff (d : Dict K V) (k : K) : k ∈ d.keys ↔ d.get? k ≠ none := by
  rw [keys, List.mem_map, Option.ne_none_iff_exists']
  constructor
  · rintro ⟨⟨k', v⟩, hmem, rfl⟩
    exact ⟨v, (d.mem_entries_iff k' v).mp hmem⟩
  · rintro ⟨v, h⟩
    exact ⟨(k, v), (d.mem_entries_iff k v).mpr h, rfl⟩

/-- What is stored at a key, an empty dictionary where there is nothing. -/
def level {L : Type*} (d : Dict K (Dict L V)) (k : K) : Dict L V := (d.get? k).getD ⟨[], .nil⟩

section
variable {E : Type*} (close : V → List E)

/-- What the values hold, one after the other. -/
def collect (d : Dict K V) : List E := d.entries.flatMap fun p => close p.2

theorem collect_insert (d : Dict K V) (k : K) (v : V) (x : E)
    (h : (close v).Perm (((d.get? k).elim [] close) ++ [x])) :
    (collect close (d.insert k v)).Perm (collect close d ++ [x]) := by
  obtain ⟨l, nodup⟩ := d
  change ((put k v l).flatMap _).Perm (l.flatMap _ ++ [x])
  change (close v).Perm ((find k l).elim [] close ++ [x]) at h
  clear nodup
  induction l with
  | nil => simpa [put, find] using h
  | cons p rest ih =>
    obtain ⟨q, w⟩ := p
    by_cases hk : k = q
    · simp only [find, hk, ↓reduceIte, Option.elim_some] at h
      simp only [put, hk, ↓reduceIte, List.flatMap_cons]
      refine (h.append_right _).trans ?_
      rw [List.append_assoc, List.append_assoc]
      exact List.perm_append_comm.append_left _
    · simp only [find, hk, ↓reduceIte] at h
      simp only [put, hk, ↓reduceIte, List.flatMap_cons, List.append_assoc]
      exact (ih h).append_left _

/-- Pops the given keys in turn and closes what is popped. -/
def popEach : List K → Dict K V → List E → Dict K V × List E
  | [], d, closed => (d, closed)
  | k :: ks, d, closed =>
    match d.get? k with
    | some v => popEach ks (d.erase k) (closed ++ close v)
    | none => popEach ks d closed

theorem popEach_keys (d : Dict K V) (closed : List E) :
    popEach close d.keys d closed = (empty, closed ++ collect close d) := by
  obtain ⟨l, nodup⟩ := d
  induction l generalizing closed with
  | nil => simp [keys, popEach, collect, empty]
  | cons p rest ih =>
    obtain ⟨q, w⟩ := p
    have hnodup := List.nodup_cons.mp nodup
    have hget : get? ⟨(q, w) :: rest, nodup⟩ q = some w := by simp [get?, find]
    have herase : erase ⟨(q, w) :: rest, nodup⟩ q = ⟨rest, hnodup.2⟩ := by
      apply eq_of_entries
      have hrest : ∀ e ∈ rest, (!decide (e.1 = q)) = true := by
        intro e he
        have hne : e.1 ≠ q := fun h => hnodup.1 (List.mem_map.mpr ⟨e, he, h⟩)
        simp [hne]
      simp only [erase, keep, List.filter_cons, decide_true, Bool.not_true, Bool.false_eq_true,
        ↓reduceIte]
      exact List.filter_eq_self.mpr hrest
    change popEach close (q :: rest.map Prod.fst) _ closed = _
    rw [popEach, hget]
    dsimp only
    rw [herase]
    refine (ih (closed ++ close w) hnodup.2).trans ?_
    simp only [collect, List.flatMap_cons, List.append_assoc]

end

end Dict

end BubotCoap.OrderedDict
