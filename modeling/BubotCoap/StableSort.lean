import Mathlib.Data.List.Sort

set_option autoImplicit false

namespace BubotCoap.StableSort

variable {α : Type*} (key : α → ℕ)

structure IsStableSort (l s : List α) : Prop where
  sorted : s.Pairwise fun a b => key a ≤ key b
  perm : s.Perm l
  stable : ∀ k, (s.filter fun a => key a = k) = l.filter fun a => key a = k

/-- `sorted(l, key=key)`. -/
def sortBy (l : List α) : List α := l.insertionSort fun a b => key a ≤ key b

instance le_total_key : Std.Total fun a b : α => key a ≤ key b :=
  ⟨fun a b => Nat.le_total (key a) (key b)⟩

instance le_trans_key : IsTrans α fun a b : α => key a ≤ key b := ⟨fun _ _ _ => Nat.le_trans⟩

theorem sortBy_sorted (l : List α) : (sortBy key l).Pairwise fun a b => key a ≤ key b :=
  List.pairwise_insertionSort _ l

theorem sortBy_perm (l : List α) : (sortBy key l).Perm l := List.perm_insertionSort _ l

@[simp] theorem mem_sortBy (l : List α) (a : α) : a ∈ sortBy key l ↔ a ∈ l :=
  (sortBy_perm key l).mem_iff

theorem sortBy_stable (l : List α) : IsStableSort key l (sortBy key l) := by
  refine ⟨sortBy_sorted key l, sortBy_perm key l, ?_⟩
  intro k
  have hpair : (l.filter fun a => key a = k).Pairwise fun a b => key a ≤ key b := by
    apply List.pairwise_of_forall_sublist
    intro a b hab
    have ka := (List.mem_filter.mp (hab.subset List.mem_cons_self)).2
    have kb := (List.mem_filter.mp (hab.subset (List.mem_cons_of_mem _ List.mem_cons_self))).2
    simp only [decide_eq_true_eq] at ka kb
    omega
  have hsub := (List.sublist_insertionSort hpair List.filter_sublist).filter fun a => key a = k
  rw [List.filter_filter] at hsub
  simp only [Bool.and_self] at hsub
  have hlen := ((sortBy_perm key l).filter fun a => key a = k).length_eq
  exact (hsub.eq_of_length hlen.symm).symm

/-- Sorted lists with the same elements of every key, in the same order, are equal: the head of
either is an element of least key, and the first of its key. -/
theorem eq_of_sorted (s s' : List α) (hs : s.Pairwise fun a b => key a ≤ key b)
    (hs' : s'.Pairwise fun a b => key a ≤ key b)
    (h : ∀ k, (s.filter fun a => key a = k) = s'.filter fun a => key a = k) : s = s' := by
  have hmem : ∀ a, a ∈ s ↔ a ∈ s' := by
    intro a
    have hiff : a ∈ (s.filter fun b => key b = key a) ↔
        a ∈ s'.filter fun b => key b = key a := by rw [h]
    simpa using hiff
  induction s generalizing s' with
  | nil =>
    refine (List.eq_nil_iff_forall_not_mem.mpr fun a ha => ?_).symm
    exact List.not_mem_nil ((hmem a).mpr ha)
  | cons a s ih =>
    cases s' with
    | nil => exact absurd ((hmem a).mp List.mem_cons_self) List.not_mem_nil
    | cons b s' =>
      rw [List.pairwise_cons] at hs hs'
      have hab : key a ≤ key b := by
        rcases List.mem_cons.mp ((hmem b).mpr List.mem_cons_self) with heq | hb
        · exact (congrArg key heq).ge
        · exact hs.1 b hb
      have hba : key b ≤ key a := by
        rcases List.mem_cons.mp ((hmem a).mp List.mem_cons_self) with heq | ha
        · exact (congrArg key heq).ge
        · exact hs'.1 a ha
      have hkey : key b = key a := Nat.le_antisymm hba hab
      have hfirst := h (key a)
      rw [List.filter_cons_of_pos (by simp), List.filter_cons_of_pos (by simp [hkey])] at hfirst
      have hhead : a = b := (List.cons.inj hfirst).1
      subst hhead
      have hrest : ∀ k, (s.filter fun c => key c = k) = s'.filter fun c => key c = k := by
        intro k
        have hk := h k
        by_cases hka : key a = k
        · rw [List.filter_cons_of_pos (by simp [hka]), List.filter_cons_of_pos (by simp [hka])] at hk
          exact (List.cons.inj hk).2
        · rwa [List.filter_cons_of_neg (by simp [hka]), List.filter_cons_of_neg (by simp [hka])]
            at hk
      refine congrArg (a :: ·) (ih s' hs.2 hs'.2 hrest fun c => ?_)
      have hiff : c ∈ (s.filter fun b => key b = key c) ↔
          c ∈ s'.filter fun b => key b = key c := by rw [hrest]
      simpa using hiff

/-- How elements of different keys are interleaved is lost. -/
theorem sortBy_congr (l l' : List α)
    (h : ∀ k, (l.filter fun a => key a = k) = l'.filter fun a => key a = k) :
    sortBy key l = sortBy key l' := by
  refine eq_of_sorted key _ _ (sortBy_sorted key l) (sortBy_sorted key l') fun k => ?_
  rw [(sortBy_stable key l).stable, (sortBy_stable key l').stable, h]

end BubotCoap.StableSort
