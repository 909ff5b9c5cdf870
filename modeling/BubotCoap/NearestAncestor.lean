import BubotCoap.HandlerCalls

set_option autoImplicit false

namespace BubotCoap.NearestAncestor
open PythonData Defines Messages OrderedDict Resources ResourceLayer Transactions FallibleState
  HandlerCalls

/-- An ancestor by whole path segments. -/
def Ancestor (path q : Text) : Prop := q = ['/'] ∨ q ++ ['/'] <+: path

instance (path q : Text) : Decidable (Ancestor path q) := inferInstanceAs (Decidable (_ ∨ _))

/-- The longest of the registered paths that fit. -/
structure Longest (root : Dict Text ℕ) (Fits : Text → Prop) (q : Text) : Prop where
  registered : root.get? q ≠ none
  fits : Fits q
  longest : ∀ k, root.get? k ≠ none → Fits k → k.length ≤ q.length

section
variable {ω : Type} (handlers : Handlers ω)

/-- What follows the choice of the parent. -/
def handTo (path : Text) (parent : ℕ) : Action Stop (Scene ω) Unit := do
  let s ← Action.get
  if (s.app.resources parent).allowChildren then addResource handlers parent path
  else setCode Codes.methodNotAllowed

end

/-- A request for the path is handed to the resource, and to no other one. -/
structure HandsTo (root : Dict Text ℕ) (path : Text) (rid : ℕ) : Prop where
  handed : ∀ (ω : Type) (handlers : Handlers ω) (s : Scene ω), s.app.root = root →
    createResource handlers path s = handTo handlers path rid s
  only : ∀ (ω : Type) (handlers : Handlers ω) (s : Scene ω), s.app.root = root →
    Calls (fun c => c.resource = rid) s (createResource handlers path s).2

def HandsToNearest (root : Dict Text ℕ) (path : Text) : Prop :=
  ∃ q rid, Longest root (Ancestor path) q ∧ root.get? q = some rid ∧ HandsTo root path rid

/-! The choice among the registered paths. -/

/-- One round of the loop. -/
def longer (best : Option Text × ℕ) (i : Text) : Option Text × ℕ :=
  if i.length > best.2 then (some i, i.length) else best

theorem foldl_longer (paths : List Text) (best : Option Text × ℕ) :
    best.2 ≤ (paths.foldl longer best).2 ∧
      (∀ i ∈ paths, i.length ≤ (paths.foldl longer best).2) ∧
      (paths.foldl longer best = best ∨
        ∃ q ∈ paths, paths.foldl longer best = (some q, q.length)) := by
  induction paths generalizing best with
  | nil => exact ⟨le_rfl, fun _ hi => absurd hi List.not_mem_nil, Or.inl rfl⟩
  | cons p paths ih =>
    obtain ⟨hle, hall, hfound⟩ := ih (longer best p)
    rw [List.foldl_cons]
    have hstep : best.2 ≤ (longer best p).2 ∧ p.length ≤ (longer best p).2 := by
      unfold longer
      split_ifs with h
      · exact ⟨h.le, le_rfl⟩
      · exact ⟨le_rfl, Nat.le_of_not_lt h⟩
    refine ⟨hstep.1.trans hle, fun i hi => ?_, ?_⟩
    · rcases List.mem_cons.mp hi with rfl | hi
      · exact hstep.2.trans hle
      · exact hall i hi
    · rcases hfound with hsame | ⟨q, hq, heq⟩
      · rw [hsame]
        unfold longer
        split_ifs
        · exact Or.inr ⟨p, List.mem_cons_self, rfl⟩
        · exact Or.inl rfl
      · exact Or.inr ⟨q, List.mem_cons_of_mem p hq, heq⟩

theorem longest_spec (paths : List Text) (i : Text) (hi : i ∈ paths) (hne : i ≠ []) :
    ∃ q ∈ paths, longest paths = some q ∧ ∀ k ∈ paths, k.length ≤ q.length := by
  obtain ⟨_, hall, hfound⟩ := foldl_longer paths (none, 0)
  have hlongest : longest paths = (paths.foldl longer (none, 0)).1 := rfl
  rcases hfound with hsame | ⟨q, hq, heq⟩
  · have hlength := hall i hi
    rw [hsame] at hlength
    exact absurd (List.length_eq_zero_iff.mp (Nat.le_zero.mp hlength)) hne
  · refine ⟨q, hq, by rw [hlongest, heq], fun k hk => ?_⟩
    have hlength := hall k hk
    rwa [heq] at hlength

theorem longest_empty (paths : List Text) (h : ∀ i ∈ paths, i = []) : longest paths = none := by
  have hsame : paths.foldl longer (none, 0) = (none, 0) := by
    induction paths with
    | nil => rfl
    | cons p paths ih =>
      rw [List.foldl_cons, h p List.mem_cons_self]
      exact ih fun i hi => h i (List.mem_cons_of_mem p hi)
  exact congrArg Prod.fst hsame

theorem longest_registered (root : Dict Text ℕ) (Fits : Text → Prop) [DecidablePred Fits]
    (hroot : root.get? ['/'] ≠ none) (hfits : Fits ['/']) :
    ∃ q, longest (root.keys.filter fun k => Fits k) = some q ∧ Longest root Fits q := by
  have hmem : ∀ k, k ∈ root.keys.filter (fun k => Fits k) ↔ root.get? k ≠ none ∧ Fits k := by
    intro k
    rw [List.mem_filter, root.mem_keys_iff, decide_eq_true_iff]
  obtain ⟨q, hq, hlongest, hall⟩ := longest_spec _ ['/'] ((hmem ['/']).mpr ⟨hroot, hfits⟩)
    (List.cons_ne_nil _ _)
  rw [hmem] at hq
  exact ⟨q, hlongest, hq.1, hq.2, fun k hk hk' => hall k ((hmem k).mpr ⟨hk, hk'⟩)⟩

theorem Longest.unique (root : Dict Text ℕ) (Fits : Text → Prop) (path q q' : Text)
    (hfits : ∀ k, Fits k → k <+: path) (h : Longest root Fits q)
    (h' : Longest root Fits q') : q = q' :=
  (List.prefix_of_prefix_length_le (hfits q h.fits) (hfits q' h'.fits)
    (h'.longest q h.registered h.fits)).eq_of_length_le
      (h.longest q' h'.registered h'.fits)

/-- What `with_prefix` finds. -/
def fitting (root : Dict Text ℕ) (path : Text) : List Text := root.keys.filter fun k => k <+: path

theorem mem_fitting (root : Dict Text ℕ) (path k : Text) :
    k ∈ fitting root path ↔ root.get? k ≠ none ∧ k <+: path := by
  rw [fitting, List.mem_filter, root.mem_keys_iff, decide_eq_true_iff]

theorem withPrefix_eq (root : Dict Text ℕ) (path : Text) :
    withPrefix root path =
      if fitting root path ≠ [] then .ok (fitting root path) else .error .keyError := by
  have hsame : (root.entries.map Prod.fst).filter (fun k => k.isPrefixOf path) =
      fitting root path :=
    List.filter_congr fun k _ => by rw [Bool.eq_iff_iff, List.isPrefixOf_iff_prefix,
      decide_eq_true_iff]
  unfold withPrefix
  rw [hsame]

theorem createResource_cases (root : Dict Text ℕ) (path : Text) (hnew : root.get? path = none) :
    (∃ q parent, Longest root (fun k => k ≠ [] ∧ k <+: path) q ∧ root.get? q = some parent ∧
      ∀ (ω : Type) (handlers : Handlers ω) (s : Scene ω), s.app.root = root →
        createResource handlers path s = handTo handlers path parent s) ∨
      ((∀ k, root.get? k ≠ none → k <+: path → k = []) ∧
        ∀ (ω : Type) (handlers : Handlers ω) (s : Scene ω), s.app.root = root →
          createResource handlers path s = (.error (.raised .keyError), s)) := by
  have hother : path ∉ fitting root path := fun h => ((mem_fitting root path path).mp h).1 hnew
  by_cases hsome : ∃ i ∈ fitting root path, i ≠ []
  · obtain ⟨i, hi, hne⟩ := hsome
    obtain ⟨q, hq, hlongest, hall⟩ := longest_spec _ i hi hne
    have hfits := (mem_fitting root path q).mp hq
    obtain ⟨parent, hparent⟩ := Option.ne_none_iff_exists'.mp hfits.1
    refine Or.inl ⟨q, parent, ⟨hfits.1, ⟨?_, hfits.2⟩, ?_⟩, hparent, ?_⟩
    · rintro rfl
      exact hne (List.length_eq_zero_iff.mp (Nat.le_zero.mp (hall i hi)))
    · exact fun k hk hk' => hall k ((mem_fitting root path k).mpr ⟨hk, hk'.2⟩)
    · rintro ω handlers s rfl
      unfold createResource handTo
      rw [Action.bind_get, Action.bind_get, withPrefix_eq, if_pos (List.ne_nil_of_mem hi)]
      dsimp only
      rw [if_neg hother, hlongest, Option.bind_some, hparent]
  · have hall : ∀ i ∈ fitting root path, i = [] := by
      intro i hi
      by_contra hne
      exact hsome ⟨i, hi, hne⟩
    refine Or.inr ⟨fun k hk hk' => hall k ((mem_fitting root path k).mpr ⟨hk, hk'⟩), ?_⟩
    rintro ω handlers s rfl
    unfold createResource
    rw [Action.bind_get, withPrefix_eq]
    split_ifs with hfound
    · dsimp only
      rw [if_neg hother, longest_empty _ hall]
      rfl
    · rfl

section
variable (root : Dict Text ℕ) (t : Text) (hroot : root.get? ['/'] ≠ none)

theorem prefix_of_ancestor (k : Text) (h : Ancestor ('/' :: t) k) : k <+: '/' :: t := by
  rcases h with rfl | h
  · exact ⟨t, rfl⟩
  · exact (List.prefix_append k ['/']).trans h

include hroot

theorem exists_nearest : ∃ q, Longest root (Ancestor ('/' :: t)) q := by
  obtain ⟨q, _, hq⟩ := longest_registered root (Ancestor ('/' :: t)) hroot (Or.inl rfl)
  exact ⟨q, hq⟩

theorem createResource_eq (hnew : root.get? ('/' :: t) = none) :
    ∃ q parent, Longest root (· <+: '/' :: t) q ∧ root.get? q = some parent ∧
      ∀ (ω : Type) (handlers : Handlers ω) (s : Scene ω), s.app.root = root →
        createResource handlers ('/' :: t) s = handTo handlers ('/' :: t) parent s := by
  rcases createResource_cases root ('/' :: t) hnew with ⟨q, parent, hq, hparent, heq⟩ | ⟨hnone, _⟩
  · refine ⟨q, parent, ⟨hq.registered, hq.fits.2, fun k hk hk' => ?_⟩, hparent, heq⟩
    by_cases hne : k = []
    · rw [hne]
      exact Nat.zero_le _
    · exact hq.longest k hk ⟨hne, hk'⟩
  · cases hnone ['/'] hroot ⟨t, rfl⟩

end

/-! Which resource is called. -/

theorem makes_handTo {ω : Type} (handlers : Handlers ω) (path : Text) (rid : ℕ) :
    Makes (fun c => c.resource = rid) (handTo handlers path rid) := by
  unfold handTo
  refine makes_bind _ _ _ (makes_get _) fun s => ?_
  split_ifs
  · exact makes_addResource _ handlers rid path (fun _ _ => rfl) fun _ _ => rfl
  · exact makes_setCode _ _

/-- A handler that is called and raises. -/
def raising : Handlers Unit where
  platform := Rendering.plainPlatform
  isAsync _ _ := false
  render _ _ _ _ app := ⟨.raised .valueError, id, app⟩

def opened (root : Dict Text ℕ) : Scene Unit where
  app := ⟨fun _ => Resource.new true true true, root, ()⟩
  calls := []
  transaction := Transaction.new (Message.new .request) 0

theorem handTo_raising (root : Dict Text ℕ) (path : Text) (rid : ℕ) :
    (handTo raising path rid (opened root)).2.calls = [⟨.post, rid, Message.new .request⟩] := rfl

theorem HandsTo.unique (root : Dict Text ℕ) (path : Text) (rid rid' : ℕ)
    (h : HandsTo root path rid) (h' : HandsTo root path rid') : rid = rid' := by
  obtain ⟨calls, hcalls, hall⟩ := h'.only Unit raising (opened root) rfl
  rw [h.handed Unit raising (opened root) rfl, handTo_raising] at hcalls
  have hcalled : calls = [⟨.post, rid, Message.new .request⟩] := hcalls.symm
  exact hall ⟨.post, rid, Message.new .request⟩ (by rw [hcalled]; exact List.mem_singleton_self _)

/-- The nearest ancestor is asked just if it is the resource at the longest registered path with
which the text of the request's path begins. -/
theorem handsToNearest_iff (root : Dict Text ℕ) (t : Text) (hroot : root.get? ['/'] ≠ none)
    (hnew : root.get? ('/' :: t) = none) :
    HandsToNearest root ('/' :: t) ↔
      ∀ q r, Longest root (Ancestor ('/' :: t)) q → Longest root (· <+: '/' :: t) r →
        root.get? q = root.get? r := by
  obtain ⟨r, parent, hr, hparent, heq⟩ := createResource_eq root t hroot hnew
  have hhands : HandsTo root ('/' :: t) parent := by
    refine ⟨heq, fun ω handlers s hs => ?_⟩
    rw [heq ω handlers s hs]
    exact makes_handTo handlers ('/' :: t) parent s
  constructor
  · rintro ⟨q, rid, hq, hrid, hnearest⟩ q' r' hq' hr'
    have hsame := HandsTo.unique root _ rid parent hnearest hhands
    rw [Longest.unique root _ _ q' q (prefix_of_ancestor t) hq' hq,
      Longest.unique root _ _ r' r (fun k hk => hk) hr' hr, hrid, hparent, hsame]
  · intro h
    obtain ⟨q, hq⟩ := exists_nearest root t hroot
    exact ⟨q, parent, hq, by rw [h q r hq hr, hparent], hhands⟩

def sampleRoot : Dict Text ℕ := (Dict.empty.insert "/".toList 0).insert "/a".toList 1

theorem handsToNearest_below :
    HandsToNearest sampleRoot "/a/b".toList ↔
      ∀ q r, Longest sampleRoot (Ancestor "/a/b".toList) q →
        Longest sampleRoot (· <+: "/a/b".toList) r → sampleRoot.get? q = sampleRoot.get? r :=
  handsToNearest_iff sampleRoot "a/b".toList (by decide) (by decide)

/-- `/ab` is not below `/a`, whose resource gets the request. -/
theorem not_handsToNearest :
    sampleRoot.get? ['/'] ≠ none ∧ sampleRoot.get? "/ab".toList = none ∧
      ¬ HandsToNearest sampleRoot "/ab".toList := by
  refine ⟨by decide, by decide, ?_⟩
  rintro ⟨q, rid, hq, hrid, hnearest⟩
  obtain ⟨calls, hcalls, hall⟩ := hnearest.only Unit raising (opened sampleRoot) rfl
  have hcalled : calls = [⟨.post, 1, Message.new .request⟩] := by
    have hrun : (createResource raising "/ab".toList (opened sampleRoot)).2.calls =
        [⟨.post, 1, Message.new .request⟩] := by decide +kernel
    exact hcalls.symm.trans hrun
  have hone : (1 : ℕ) = rid :=
    hall ⟨.post, 1, Message.new .request⟩ (by rw [hcalled]; exact List.mem_singleton_self _)
  rw [← hone, ← sampleRoot.mem_entries_iff] at hrid
  have hpath : q = "/a".toList := by
    rcases List.mem_cons.mp hrid with heq | hmem
    · cases heq
    · exact congrArg Prod.fst (List.mem_singleton.mp hmem)
  have hfits := hq.fits
  rw [hpath] at hfits
  exact absurd hfits (by decide)

end BubotCoap.NearestAncestor
