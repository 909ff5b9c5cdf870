import Mathlib.Data.List.Flatten
import Mathlib.Data.List.Infix

set_option autoImplicit false

namespace BubotCoap.SelfDelimiting

variable {α : Type*} (size : List α → Option ℕ)

/-- The announced length of `f` is right whatever follows, and known to exceed any part of `f`
that has arrived. -/
structure Frame (f : List α) : Prop where
  whole : ∀ rest, size (f ++ rest) = some f.length
  early : ∀ p q n, f = p ++ q → q ≠ [] → size p = some n → p.length < n

/-- Where more symbols never change an announcement, a word that announces its own length is a
frame. -/
theorem frame_of_stable (f : List α)
    (hstable : ∀ p rest n, size p = some n → size (p ++ rest) = some n)
    (h : size f = some f.length) : Frame size f where
  whole rest := hstable f rest f.length h
  early p q n hf hq hp := by
    have hn := hstable p q n hp
    rw [← hf, h, Option.some.injEq, hf, List.length_append] at hn
    have := List.length_pos_iff.mpr hq
    omega

/-- Two cuttings of one stream agree when one is into frames and every piece of the other
announces its own length. -/
theorem cut_unique (hnil : size [] = none) (fs gs : List (List α)) (hf : ∀ f ∈ fs, Frame size f)
    (hg : ∀ g ∈ gs, size g = some g.length) (h : fs.flatten = gs.flatten) : gs = fs := by
  have hne : ∀ f ∈ fs, f ≠ [] := by
    intro f hmem e
    have := (hf f hmem).whole []
    rw [e, List.append_nil, hnil] at this
    exact absurd this (by simp)
  induction fs generalizing gs with
  | nil =>
    cases gs with
    | nil => rfl
    | cons g gs =>
      have hsize := hg g List.mem_cons_self
      have hempty : g = [] := by
        have := h.symm
        rw [List.flatten_cons, List.flatten_nil, List.append_eq_nil_iff] at this
        exact this.1
      rw [hempty, hnil] at hsize
      exact absurd hsize (by simp)
  | cons f fs ih =>
    have frame := hf f List.mem_cons_self
    cases gs with
    | nil =>
      rw [List.flatten_cons, List.flatten_nil, List.append_eq_nil_iff] at h
      exact absurd h.1 (hne f List.mem_cons_self)
    | cons g gs =>
      have hsize := hg g List.mem_cons_self
      rw [List.flatten_cons, List.flatten_cons] at h
      have heq : g = f := by
        rcases List.append_eq_append_iff.mp h with ⟨a, hga, _⟩ | ⟨c, hfc, _⟩
        · rw [hga, frame.whole a] at hsize
          have hlen := Option.some.inj hsize
          rw [List.length_append] at hlen
          have : a = [] := List.length_eq_zero_iff.mp (by omega)
          rw [hga, this, List.append_nil]
        · by_cases hc : c = []
          · rw [hfc, hc, List.append_nil]
          · have := frame.early g c g.length hfc hc hsize
            omega
      subst heq
      have htail := ih gs (fun k hk => hf k (List.mem_cons_of_mem g hk))
        (fun k hk => hg k (List.mem_cons_of_mem g hk)) (List.append_cancel_left h)
        (fun k hk => hne k (List.mem_cons_of_mem g hk))
      rw [htail]

def next (buf : List α) : Option (List α × List α) :=
  match size buf with
  | none => none
  | some n => if n > buf.length then none else some (buf.take n, buf.drop n)

theorem next_frame (f rest : List α) (h : Frame size f) :
    next size (f ++ rest) = some (f, rest) := by
  unfold next
  rw [h.whole rest]
  simp

theorem next_early (f p q : List α) (h : Frame size f) (hf : f = p ++ q) (hq : q ≠ []) :
    next size p = none := by
  unfold next
  cases hs : size p with
  | none => rfl
  | some n =>
    have := h.early p q n hf hq hs
    simp [this]

/-- The frames of `fs` that lie within the first `n` symbols of their stream. -/
def ends : List (List α) → ℕ → ℕ
  | [], _ => 0
  | f :: fs, n => if f.length ≤ n then ends fs (n - f.length) + 1 else 0

/-- One chunk: buffer it, then take at most one frame. -/
def feed (s : List α × List (List α)) (chunk : List α) : List α × List (List α) :=
  match next size (s.1 ++ chunk) with
  | none => (s.1 ++ chunk, s.2)
  | some (f, rest) => (rest, s.2 ++ [f])

def run (s : List α × List (List α)) (chunks : List (List α)) : List α × List (List α) :=
  chunks.foldl (feed size) s

theorem run_cons (s : List α × List (List α)) (c : List α) (cs : List (List α)) :
    run size s (c :: cs) = run size (feed size s c) cs := rfl

theorem feed_incomplete (s : List α × List (List α)) (chunk : List α)
    (h : next size (s.1 ++ chunk) = none) : feed size s chunk = (s.1 ++ chunk, s.2) := by
  unfold feed
  rw [h]

theorem feed_complete (s : List α × List (List α)) (chunk f rest : List α)
    (h : next size (s.1 ++ chunk) = some (f, rest)) : feed size s chunk = (rest, s.2 ++ [f]) := by
  unfold feed
  rw [h]

theorem feed_frame (buf chunk f rest : List α) (out : List (List α)) (h : Frame size f)
    (heq : buf ++ chunk = f ++ rest) : feed size (buf, out) chunk = (rest, out ++ [f]) := by
  apply feed_complete
  rw [heq]
  exact next_frame size f rest h

theorem feed_early (buf chunk f q : List α) (out : List (List α)) (h : Frame size f)
    (heq : f = buf ++ chunk ++ q) (hq : q ≠ []) :
    feed size (buf, out) chunk = (buf ++ chunk, out) :=
  feed_incomplete size (buf, out) chunk (next_early size f (buf ++ chunk) q h heq hq)

theorem feed_nil (hnil : size [] = none) (out : List (List α)) :
    feed size ([], out) [] = ([], out) := by
  simp [feed, next, hnil]

theorem ends_cons (f : List α) (fs : List (List α)) (n : ℕ) :
    ends (f :: fs) (f.length + n) = ends fs n + 1 := by
  rw [ends, if_pos (by omega), Nat.add_sub_cancel_left]

theorem ends_cons_of_lt (f : List α) (fs : List (List α)) (n : ℕ) (h : n < f.length) :
    ends (f :: fs) n = 0 := by
  rw [ends, if_neg (by omega)]

theorem ends_flatten (fs : List (List α)) : ends fs fs.flatten.length = fs.length := by
  induction fs with
  | nil => rfl
  | cons f fs ih =>
    rw [List.flatten_cons, List.length_append, ends_cons, ih, List.length_cons]

/-- The frames `fs` are all delivered by the chunks `cs` and nothing is left over. -/
def Delivered (s : List α × List (List α)) (cs fs : List (List α)) : Prop :=
  run size s cs = ([], s.2 ++ fs)

/-- Every chunk delivers at most one of the frames that are complete by then. -/
def Paced (n : ℕ) (cs : List (List α)) (complete : ℕ → ℕ) : Prop :=
  n ≤ cs.length ∧ ∀ i < cs.length, n ≤ complete (i + 1) + (cs.length - (i + 1))

theorem delivered_cons_whole (buf c f rest : List α) (fs out cs : List (List α))
    (frame : Frame size f) (heq : buf ++ c = f ++ rest) :
    Delivered size (buf, out) (c :: cs) (f :: fs) ↔ Delivered size (rest, out ++ [f]) cs fs := by
  have hfeed := feed_frame size buf c f rest out frame heq
  unfold Delivered
  rw [run_cons, hfeed]
  simp

theorem delivered_cons_early (buf c f q : List α) (fs out cs : List (List α))
    (frame : Frame size f) (heq : f = buf ++ c ++ q) (hq : q ≠ []) :
    Delivered size (buf, out) (c :: cs) fs ↔ Delivered size (buf ++ c, out) cs fs := by
  have hfeed := feed_early size buf c f q out frame heq hq
  unfold Delivered
  rw [run_cons, hfeed]

theorem paced_cons_whole (n : ℕ) (c : List α) (cs : List (List α)) (complete complete' : ℕ → ℕ)
    (h : ∀ i, complete (i + 1) = complete' i + 1) :
    Paced (n + 1) (c :: cs) complete ↔ Paced n cs complete' := by
  unfold Paced
  simp only [h, List.length_cons]
  constructor
  · rintro ⟨hn, hi⟩
    refine ⟨by omega, ?_⟩
    intro i hlt
    have := hi (i + 1) (by omega)
    omega
  · rintro ⟨hn, hi⟩
    refine ⟨by omega, ?_⟩
    intro i hlt
    cases i with
    | zero => omega
    | succ i =>
      have := hi i (by omega)
      omega

theorem paced_cons_early (n : ℕ) (c : List α) (cs : List (List α)) (complete complete' : ℕ → ℕ)
    (hzero : complete 1 = 0) (h : ∀ i, complete (i + 1) = complete' i) :
    Paced n (c :: cs) complete ↔ Paced n cs complete' := by
  unfold Paced
  simp only [h, List.length_cons]
  constructor
  · rintro ⟨hn, hi⟩
    have hfirst := hi 0 (by omega)
    rw [← h 0, hzero] at hfirst
    refine ⟨by omega, ?_⟩
    intro i hlt
    have := hi (i + 1) (by omega)
    omega
  · rintro ⟨hn, hi⟩
    refine ⟨by omega, ?_⟩
    intro i hlt
    cases i with
    | zero => omega
    | succ i =>
      have := hi i (by omega)
      omega

theorem first_frame_cases (part tail f rest : List α) (h : part ++ tail = f ++ rest) :
    (∃ a, part = f ++ a ∧ rest = a ++ tail) ∨ ∃ q, f = part ++ q ∧ q ≠ [] := by
  rcases List.append_eq_append_iff.mp h with ⟨a, hf, htail⟩ | ⟨a, hpart, hrest⟩
  · by_cases ha : a = []
    · subst ha
      exact Or.inl ⟨[], by simpa using hf.symm, by simpa using htail.symm⟩
    · exact Or.inr ⟨a, hf, ha⟩
  · exact Or.inl ⟨a, hpart, hrest⟩

theorem delivered_nil (hnil : size [] = none) (out cs : List (List α)) (h : cs.flatten = []) :
    Delivered size ([], out) cs [] := by
  induction cs with
  | nil => simp [Delivered, run]
  | cons c cs ih =>
    rw [List.flatten_cons, List.append_eq_nil_iff] at h
    have hrun := ih h.2
    unfold Delivered
    rw [run_cons, h.1, feed_nil size hnil]
    exact hrun

/-- Everything is delivered exactly if there are as many chunks as frames, and after each chunk
no more frames are incomplete than chunks outstanding. -/
theorem delivered_iff (hnil : size [] = none) (cs : List (List α)) (fs out : List (List α))
    (buf : List α) (hf : ∀ f ∈ fs, Frame size f) (h : buf ++ cs.flatten = fs.flatten) :
    Delivered size (buf, out) cs fs ↔
      Paced fs.length cs fun i => ends fs (buf ++ (cs.take i).flatten).length := by
  induction cs generalizing fs out buf with
  | nil =>
    constructor
    · intro hrun
      have hout : out = out ++ fs := congrArg Prod.snd hrun
      have : fs = [] := by simpa using hout
      simp [Paced, this]
    · rintro ⟨hlen, _⟩
      have hfs : fs = [] := List.length_eq_zero_iff.mp (by simpa using hlen)
      have hbuf : buf = [] := by simpa [hfs] using h
      simp [Delivered, run, hfs, hbuf]
  | cons c cs ih =>
    cases fs with
    | nil =>
      rw [List.flatten_nil, List.append_eq_nil_iff] at h
      have hrun := delivered_nil size hnil out (c :: cs) h.2
      rw [h.1]
      exact iff_of_true hrun (by simp [Paced])
    | cons f fs =>
      have frame := hf f List.mem_cons_self
      rw [List.flatten_cons, List.flatten_cons, ← List.append_assoc] at h
      rcases first_frame_cases (buf ++ c) cs.flatten f fs.flatten h with
        ⟨rest, hpart, htail⟩ | ⟨q, hq, hne⟩
      · rw [delivered_cons_whole size buf c f rest fs out cs frame hpart,
          ih fs (out ++ [f]) rest (fun k hk => hf k (List.mem_cons_of_mem f hk)) htail.symm,
          List.length_cons]
        refine (paced_cons_whole fs.length c cs _ _ ?_).symm
        intro i
        rw [List.take_succ_cons, List.flatten_cons, ← List.append_assoc, hpart,
          List.append_assoc, List.length_append, ends_cons]
      · rw [delivered_cons_early size buf c f q (f :: fs) out cs frame hq hne,
          ih (f :: fs) out (buf ++ c) hf (by rw [h, List.flatten_cons])]
        refine (paced_cons_early (f :: fs).length c cs _ _ ?_ ?_).symm
        · apply ends_cons_of_lt
          have := List.length_pos_iff.mpr hne
          rw [hq]
          simpa using this
        · intro i
          rw [List.take_succ_cons, List.flatten_cons, List.append_assoc]

theorem next_stream (hnil : size [] = none) (buf tail f rest : List α) (fs : List (List α))
    (hf : ∀ f ∈ fs, Frame size f) (h : buf ++ tail = fs.flatten)
    (hnext : next size buf = some (f, rest)) :
    ∃ fs', fs = f :: fs' ∧ rest ++ tail = fs'.flatten := by
  cases fs with
  | nil =>
    rw [List.flatten_nil, List.append_eq_nil_iff] at h
    rw [h.1, next, hnil] at hnext
    exact absurd hnext (by simp)
  | cons g fs =>
    have frame := hf g List.mem_cons_self
    rw [List.flatten_cons] at h
    rcases first_frame_cases buf tail g fs.flatten h with ⟨a, hbuf, htail⟩ | ⟨q, hg, hq⟩
    · rw [hbuf, next_frame size g a frame] at hnext
      obtain ⟨rfl, rfl⟩ := Prod.mk.inj (Option.some.inj hnext)
      exact ⟨fs, rfl, htail.symm⟩
    · rw [next_early size g buf q frame hg hq] at hnext
      exact absurd hnext (by simp)

theorem run_prefix (hnil : size [] = none) (cs fs out : List (List α)) (buf tail : List α)
    (hf : ∀ f ∈ fs, Frame size f) (h : buf ++ cs.flatten ++ tail = fs.flatten) :
    ∃ ds rest buf', fs = ds ++ rest ∧ buf' ++ tail = rest.flatten ∧
      run size (buf, out) cs = (buf', out ++ ds) := by
  induction cs generalizing fs out buf with
  | nil => exact ⟨[], fs, buf, rfl, by simpa using h, by simp [run]⟩
  | cons c cs ih =>
    rw [List.flatten_cons, ← List.append_assoc] at h
    rw [run_cons]
    cases hnext : next size (buf ++ c) with
    | none =>
      have hfeed := feed_incomplete size (buf, out) c hnext
      rw [hfeed]
      exact ih fs out (buf ++ c) hf h
    | some r =>
      obtain ⟨f, buf₁⟩ := r
      have hfeed := feed_complete size (buf, out) c f buf₁ hnext
      rw [List.append_assoc] at h
      obtain ⟨fs', rfl, htail⟩ := next_stream size hnil _ _ _ _ fs hf h hnext
      obtain ⟨ds, rest, buf', hds, hbuf, hrun⟩ := ih fs' (out ++ [f]) buf₁
        (fun k hk => hf k (List.mem_cons_of_mem f hk)) (by rw [← htail, List.append_assoc])
      refine ⟨f :: ds, rest, buf', by rw [hds, List.cons_append], hbuf, ?_⟩
      rw [hfeed]
      simpa using hrun

end BubotCoap.SelfDelimiting
