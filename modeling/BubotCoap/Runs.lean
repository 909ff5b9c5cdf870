import Mathlib.Data.List.Induction

set_option autoImplicit false

namespace BubotCoap.Runs

variable {σ ε : Type*} (step : σ → ε → σ)

def run (s : σ) (events : List ε) : σ := events.foldl step s

@[simp] theorem run_cons (s : σ) (e : ε) (es : List ε) :
    run step s (e :: es) = run step (step s e) es := rfl

theorem run_append (s : σ) (es fs : List ε) :
    run step s (es ++ fs) = run step (run step s es) fs := List.foldl_append

theorem run_concat (s : σ) (es : List ε) (e : ε) :
    run step s (es ++ [e]) = step (run step s es) e := by
  rw [run_append]
  rfl

/-- What holds at the start and is kept by each step of the run holds at its end. The invariant
may speak of the events so far, and each step knows its place in the run. -/
theorem run_induction (I : List ε → σ → Prop) (s : σ) (es : List ε) (start : I [] s)
    (keep : ∀ pre e post, es = pre ++ e :: post → I pre (run step s pre) →
      I (pre ++ [e]) (step (run step s pre) e)) : I es (run step s es) := by
  have hprefix : ∀ pre post, es = pre ++ post → I pre (run step s pre) := by
    intro pre
    induction pre using List.reverseRecOn with
    | nil => exact fun _ _ => start
    | append_singleton pre e ih =>
      intro post h
      have hsplit : es = pre ++ e :: post := by
        rw [h, List.append_assoc]
        rfl
      rw [run_concat]
      exact keep pre e post hsplit (ih (e :: post) hsplit)
  exact hprefix es [] (List.append_nil es).symm

/-- What holds of each event of a run and what came before it, taken from the front. -/
theorem forall_event_cons (Q : List ε → ε → Prop) (x : ε) (xs : List ε) :
    (∀ pre e post, x :: xs = pre ++ e :: post → Q pre e) ↔
      Q [] x ∧ ∀ pre e post, xs = pre ++ e :: post → Q (x :: pre) e := by
  constructor
  · intro h
    refine ⟨h [] x xs rfl, fun pre e post hsplit => ?_⟩
    exact h (x :: pre) e post (by rw [hsplit, List.cons_append])
  · rintro ⟨hfirst, hrest⟩ pre e post hsplit
    cases pre with
    | nil =>
      cases hsplit
      exact hfirst
    | cons y pre =>
      rw [List.cons_append, List.cons.injEq] at hsplit
      obtain ⟨rfl, hxs⟩ := hsplit
      exact hrest pre e post hxs

theorem forall_event_nil (Q : List ε → ε → Prop) :
    ∀ pre e post, [] = pre ++ e :: post → Q pre e := by
  intro pre e post h
  exact absurd h.symm (List.append_ne_nil_of_right_ne_nil pre (List.cons_ne_nil e post))

/-- At the end of the run `P` holds, and has held ever since an event of the kind `made`. -/
def Since (P : σ → Prop) (made : σ → ε → Prop) (s : σ) (es : List ε) : Prop :=
  ∃ pre e post, es = pre ++ e :: post ∧ made (run step s pre) e ∧
    ∀ q r, post = q ++ r → P (run step s (pre ++ e :: q))

/-- What does not hold at the start but at the end has been made true by some event and has held
since. -/
theorem since_of_run (P : σ → Prop) (s : σ) (es : List ε) (start : ¬ P s)
    (final : P (run step s es)) :
    Since step P (fun t e => ¬ P t ∧ P (step t e)) s es := by
  induction es using List.reverseRecOn with
  | nil => exact absurd final start
  | append_singleton es e ih =>
    by_cases hes : P (run step s es)
    · obtain ⟨pre, d, post, rfl, hmade, hsince⟩ := ih hes
      refine ⟨pre, d, post ++ [e], by rw [List.append_assoc, List.cons_append], hmade, ?_⟩
      intro q r hqr
      rcases List.eq_nil_or_concat r with rfl | ⟨r, e', rfl⟩
      · rw [List.append_nil] at hqr
        rwa [← hqr, ← List.cons_append, ← List.append_assoc]
      · rw [List.concat_eq_append, ← List.append_assoc] at hqr
        exact hsince q r (List.append_inj_left' hqr rfl)
    · rw [run_concat] at final
      refine ⟨es, e, [], rfl, ⟨hes, final⟩, ?_⟩
      intro q r hqr
      rw [(List.append_eq_nil_iff.mp hqr.symm).1, run_concat]
      exact final

end BubotCoap.Runs
