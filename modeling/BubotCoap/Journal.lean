import Mathlib.Data.List.Basic

set_option autoImplicit false

namespace BubotCoap.Journal

variable {α : Type*}

def entriesOf (n : ℕ) (journal : List (ℕ × α)) : List α :=
  (journal.filter fun e => e.1 = n).map Prod.snd

theorem entriesOf_append (n : ℕ) (journal new : List (ℕ × α)) :
    entriesOf n (journal ++ new) = entriesOf n journal ++ entriesOf n new := by
  unfold entriesOf
  rw [List.filter_append, List.map_append]

theorem entriesOf_eq_nil (n : ℕ) (journal : List (ℕ × α)) (h : ∀ e ∈ journal, e.1 ≠ n) :
    entriesOf n journal = [] := by
  unfold entriesOf
  rw [List.map_eq_nil_iff, List.filter_eq_nil_iff]
  intro e he
  simpa using h e he

theorem entriesOf_stamped (n : ℕ) (new : List α) : entriesOf n (new.map (Prod.mk n)) = new := by
  induction new with
  | nil => rfl
  | cons a new ih =>
    have hcons : entriesOf n ((a :: new).map (Prod.mk n)) =
        a :: entriesOf n (new.map (Prod.mk n)) := by
      simp [entriesOf]
    rw [hcons, ih]

/-- Between the occasions `n` and `n'` the journal has only been added to. -/
def Continues (n n' : ℕ) (journal journal' : List (ℕ × α)) : Prop :=
  ∃ new, journal' = journal ++ new ∧ ∀ e ∈ new, n ≤ e.1 ∧ e.1 < n'

theorem Continues.refl (n : ℕ) (journal : List (ℕ × α)) : Continues n n journal journal :=
  ⟨[], (List.append_nil journal).symm, by simp⟩

theorem continues_stamped (n : ℕ) (journal : List (ℕ × α)) (new : List α) :
    Continues n (n + 1) journal (journal ++ new.map (Prod.mk n)) := by
  refine ⟨_, rfl, ?_⟩
  intro e he
  obtain ⟨a, _, rfl⟩ := List.mem_map.mp he
  exact ⟨Nat.le_refl n, Nat.lt_succ_self n⟩

theorem Continues.trans (n n' n'' : ℕ) (journal journal' journal'' : List (ℕ × α)) (hle : n ≤ n')
    (hle' : n' ≤ n'') (h : Continues n n' journal journal')
    (h' : Continues n' n'' journal' journal'') : Continues n n'' journal journal'' := by
  obtain ⟨new, rfl, hnew⟩ := h
  obtain ⟨new', rfl, hnew'⟩ := h'
  refine ⟨new ++ new', List.append_assoc _ _ _, ?_⟩
  intro e he
  rcases List.mem_append.mp he with h₁ | h₁
  · exact ⟨(hnew e h₁).1, Nat.lt_of_lt_of_le (hnew e h₁).2 hle'⟩
  · exact ⟨Nat.le_trans hle (hnew' e h₁).1, (hnew' e h₁).2⟩

/-- What was recorded on the occasion `n` is all that is ever found under `n`. -/
theorem entriesOf_continued (n n' : ℕ) (before journal' : List (ℕ × α)) (new : List α)
    (hbefore : ∀ e ∈ before, e.1 < n)
    (h : Continues (n + 1) n' (before ++ new.map (Prod.mk n)) journal') :
    entriesOf n journal' = new := by
  obtain ⟨later, rfl, hlater⟩ := h
  rw [entriesOf_append, entriesOf_append,
    entriesOf_eq_nil n before fun e he => Nat.ne_of_lt (hbefore e he),
    entriesOf_eq_nil n later fun e he => Nat.ne_of_gt (hlater e he).1, entriesOf_stamped,
    List.nil_append, List.append_nil]

theorem lt_of_continues (n n' : ℕ) (journal journal' : List (ℕ × α)) (hle : n ≤ n')
    (hbefore : ∀ e ∈ journal, e.1 < n) (h : Continues n n' journal journal') :
    ∀ e ∈ journal', e.1 < n' := by
  obtain ⟨new, rfl, hnew⟩ := h
  intro e he
  rcases List.mem_append.mp he with h₁ | h₁
  · exact Nat.lt_of_lt_of_le (hbefore e h₁) hle
  · exact (hnew e h₁).2

end BubotCoap.Journal
