import BubotCoap.Resources
import BubotCoap.Runs
import Mathlib.Data.List.DropRight

set_option autoImplicit false

namespace BubotCoap.ResourceTree
open PythonData OrderedDict Resources

/-- `path.strip("/")`. -/
def strip (path : Text) : Text := (path.dropWhile (· == '/')).rdropWhile (· == '/')

/-- The values of `actual_path` in the loop over the segments. -/
def grow (actualPath : Text) : List Text → List Text
  | [] => []
  | p :: paths => (actualPath ++ '/' :: p) :: grow (actualPath ++ '/' :: p) paths

def segments (path : Text) : List Text := (strip path).splitOn '/'

def prefixes (path : Text) : List Text := grow [] (segments path)

def fullPath (path : Text) : Text :=
  (segments path).foldl (fun actualPath p => actualPath ++ '/' :: p) []

section
variable {ω : Type}

/-- One round of the loop of `add_resource`. -/
def register (rid : ℕ) (app : Application ω) (actualPath : Text) : Application ω :=
  if app.root.get? actualPath = none then
    { (app.update rid fun r => { r with path := some actualPath }) with
      root := app.root.insert actualPath rid }
  else app

/-- The resource is stored under every path on the way that is not registered yet. -/
def addResource (path : Text) (rid : ℕ) (app : Application ω) : Application ω :=
  (prefixes path).foldl (register rid) app

def removeResource (path : Text) (app : Application ω) : Option ℕ × Application ω :=
  match app.root.get? (fullPath path) with
  | some rid => (some rid, { app with root := app.root.erase (fullPath path) })
  | none => (none, app)

inductive Operation where
  | add (path : Text) (rid : ℕ)
  | remove (path : Text)

def Operation.resource : Operation → Option ℕ
  | .add _ rid => some rid
  | .remove _ => none

def step (app : Application ω) : Operation → Application ω
  | .add path rid => addResource path rid app
  | .remove path => (removeResource path app).2

def root : Resource := { Resource.new false false false with path := some "/".toList }

/-- The tree of a new server, with the resource objects of the application at hand. -/
def initial (resources : ℕ → Resource) (world : ω) : Application ω where
  resources := fun i => if i = 0 then root else resources i
  root := (Dict.empty : Dict Text ℕ).insert "/".toList 0
  world := world

def Consistent (app : Application ω) : Prop :=
  ∀ k rid, app.root.get? k = some rid → (app.resources rid).path = some k

structure SameTree (app app' : Application ω) : Prop where
  root : app.root = app'.root
  resources : ∀ k rid, app'.root.get? k = some rid → app.resources rid = app'.resources rid

variable (resources : ℕ → Resource) (world : ω)

def run (ops : List Operation) : Application ω := Runs.run step (initial resources world) ops

structure PathConsistent (ops : List Operation) : Prop where
  paths : ∀ pre post, ops = pre ++ post → Consistent (run resources world pre)
  once : ∀ pre post, ops = pre ++ post → ∀ k k' rid,
    (run resources world pre).root.get? k = some rid →
      (run resources world pre).root.get? k' = some rid → k = k'
  restored : ∀ pre path rid post, ops = pre ++ .add path rid :: post →
    (run resources world pre).root.get? (fullPath path) = none →
      SameTree (run resources world (pre ++ [.add path rid, .remove path]))
        (run resources world pre)

/-- No two additions are of one object, and none is of the root. -/
structure Distinct (ops : List Operation) : Prop where
  nodup : (ops.filterMap Operation.resource).Nodup
  notRoot : 0 ∉ ops.filterMap Operation.resource

/-- The paths on the way to `path` that are not registered. -/
def missing (path : Text) (app : Application ω) : List Text :=
  (prefixes path).filter fun k => app.root.get? k = none

theorem length_lt_of_mem_grow (actualPath k : Text) (paths : List Text)
    (h : k ∈ grow actualPath paths) : actualPath.length < k.length := by
  induction paths generalizing actualPath with
  | nil => cases h
  | cons p paths ih =>
    have hlength : (actualPath ++ '/' :: p).length = actualPath.length + p.length + 1 := by
      rw [List.length_append, List.length_cons]
      omega
    rcases List.mem_cons.mp h with rfl | h
    · omega
    · have := ih _ h
      omega

theorem nodup_grow (actualPath : Text) (paths : List Text) : (grow actualPath paths).Nodup := by
  induction paths generalizing actualPath with
  | nil => exact List.nodup_nil
  | cons p paths ih =>
    refine List.nodup_cons.mpr ⟨?_, ih _⟩
    intro h
    exact Nat.lt_irrefl _ (length_lt_of_mem_grow _ _ _ h)

theorem foldl_mem_grow (actualPath : Text) (paths : List Text) (h : paths ≠ []) :
    paths.foldl (fun actualPath p => actualPath ++ '/' :: p) actualPath ∈
      grow actualPath paths := by
  induction paths generalizing actualPath with
  | nil => exact absurd rfl h
  | cons p paths ih =>
    rw [List.foldl_cons]
    cases paths with
    | nil => exact List.mem_cons_self
    | cons q paths => exact List.mem_cons_of_mem _ (ih _ (List.cons_ne_nil q paths))

theorem fullPath_mem_prefixes (path : Text) : fullPath path ∈ prefixes path :=
  foldl_mem_grow [] (segments path) (List.splitOn_ne_nil '/' (strip path))

theorem nodup_missing (path : Text) (app : Application ω) : (missing path app).Nodup :=
  (nodup_grow [] (segments path)).filter _

theorem register_new (rid : ℕ) (app : Application ω) (k : Text) (h : app.root.get? k = none) :
    register rid app k =
      { (app.update rid fun r => { r with path := some k }) with root := app.root.insert k rid } :=
  if_pos h

theorem register_known (rid : ℕ) (app : Application ω) (k : Text) (h : app.root.get? k ≠ none) :
    register rid app k = app :=
  if_neg h

theorem get?_register (rid : ℕ) (app : Application ω) (k k' : Text) :
    (register rid app k).root.get? k' =
      if k' = k ∧ app.root.get? k' = none then some rid else app.root.get? k' := by
  by_cases h : app.root.get? k = none
  · rw [register_new rid app k h]
    change (app.root.insert k rid).get? k' = _
    rw [Dict.get?_insert]
    by_cases hk : k' = k
    · simp [hk, h]
    · simp [hk]
  · rw [register_known rid app k h]
    split_ifs with hk
    · exact absurd (hk.1 ▸ hk.2) h
    · rfl

theorem get?_foldl_register (rid : ℕ) (keys : List Text) (app : Application ω) (k : Text) :
    (keys.foldl (register rid) app).root.get? k =
      if k ∈ keys ∧ app.root.get? k = none then some rid else app.root.get? k := by
  induction keys generalizing app with
  | nil => simp
  | cons q keys ih =>
    rw [List.foldl_cons, ih, get?_register]
    by_cases hk : k = q
    · by_cases hnone : app.root.get? k = none <;> simp [← hk, hnone]
    · simp [hk]

theorem get?_addResource (path : Text) (rid : ℕ) (app : Application ω) (k : Text) :
    (addResource path rid app).root.get? k =
      if k ∈ missing path app then some rid else app.root.get? k := by
  rw [addResource, get?_foldl_register]
  simp only [missing, List.mem_filter, decide_eq_true_eq]

theorem foldl_register_filter (rid : ℕ) (keys : List Text) (nodup : keys.Nodup)
    (app : Application ω) :
    keys.foldl (register rid) app =
      (keys.filter fun k => app.root.get? k = none).foldl (register rid) app := by
  induction keys generalizing app with
  | nil => rfl
  | cons q keys ih =>
    obtain ⟨hq, hkeys⟩ := List.nodup_cons.mp nodup
    rw [List.foldl_cons, ih hkeys]
    by_cases hnone : app.root.get? q = none
    · have hfilter : (keys.filter fun k => (register rid app q).root.get? k = none) =
          keys.filter fun k => app.root.get? k = none := by
        refine List.filter_congr fun k hk => ?_
        have hne : k ≠ q := fun heq => hq (heq ▸ hk)
        rw [get?_register, if_neg fun h => hne h.1]
      have hcons : ((q :: keys).filter fun k => app.root.get? k = none) =
          q :: keys.filter fun k => app.root.get? k = none := by simp [hnone]
      rw [hfilter, hcons, List.foldl_cons]
    · have hcons : ((q :: keys).filter fun k => app.root.get? k = none) =
          keys.filter fun k => app.root.get? k = none := by simp [hnone]
      rw [register_known rid app q hnone, hcons]

theorem addResource_eq (path : Text) (rid : ℕ) (app : Application ω) :
    addResource path rid app = (missing path app).foldl (register rid) app :=
  foldl_register_filter rid (prefixes path) (nodup_grow [] (segments path)) app

theorem addResource_cases (path : Text) (rid : ℕ) (app : Application ω)
    (h : (missing path app).length ≤ 1) :
    (missing path app = [] ∧ addResource path rid app = app) ∨
      ∃ k, missing path app = [k] ∧ app.root.get? k = none ∧
        addResource path rid app = register rid app k := by
  rw [addResource_eq]
  generalize hmissing : missing path app = ks at h
  rcases ks with _ | ⟨k, _ | ⟨k', ks⟩⟩
  · exact Or.inl ⟨rfl, rfl⟩
  · have hk : k ∈ missing path app := by rw [hmissing]; exact List.mem_singleton_self k
    exact Or.inr ⟨k, rfl, of_decide_eq_true (List.mem_filter.mp hk).2, rfl⟩
  · rw [List.length_cons, List.length_cons] at h
    omega

theorem consistent_register (rid : ℕ) (app : Application ω) (k : Text) (h : Consistent app)
    (unused : ∀ k', app.root.get? k' ≠ some rid) : Consistent (register rid app k) := by
  by_cases hnone : app.root.get? k = none
  · rw [register_new rid app k hnone]
    intro k' rid' hget
    change (app.root.insert k rid).get? k' = some rid' at hget
    rw [Dict.get?_insert] at hget
    change (if rid' = rid then _ else _ : Resource).path = some k'
    split_ifs at hget with hk
    · cases hget
      rw [if_pos rfl, hk]
    · have hother : rid' ≠ rid := by
        rintro rfl
        exact unused k' hget
      rw [if_neg hother]
      exact h k' rid' hget
  · rw [register_known rid app k hnone]
    exact h

theorem get?_removeResource (path k : Text) (app : Application ω) :
    (removeResource path app).2.root.get? k =
      if k = fullPath path then none else app.root.get? k := by
  unfold removeResource
  cases hget : app.root.get? (fullPath path) with
  | some rid => exact Dict.get?_erase _ _ _
  | none =>
    dsimp only
    split_ifs with hk
    · rw [hk, hget]
    · rfl

theorem removeResource_resources (path : Text) (app : Application ω) :
    (removeResource path app).2.resources = app.resources := by
  unfold removeResource
  cases app.root.get? (fullPath path) <;> rfl

theorem consistent_remove (path : Text) (app : Application ω) (h : Consistent app) :
    Consistent (removeResource path app).2 := by
  intro k rid hget
  rw [get?_removeResource] at hget
  rw [removeResource_resources]
  split_ifs at hget
  exact h k rid hget

variable (resources : ℕ → Resource) (world : ω)

theorem run_concat (ops : List Operation) (op : Operation) :
    run resources world (ops ++ [op]) = step (run resources world ops) op :=
  Runs.run_concat _ _ _ _

theorem used (ops : List Operation) (k : Text) (rid : ℕ)
    (h : (run resources world ops).root.get? k = some rid) :
    rid = 0 ∨ rid ∈ ops.filterMap Operation.resource := by
  induction ops using List.reverseRecOn with
  | nil =>
    change ((Dict.empty : Dict Text ℕ).insert "/".toList 0).get? k = some rid at h
    rw [Dict.get?_insert] at h
    split_ifs at h
    · exact Or.inl (Option.some.inj h).symm
    · cases h
  | append_singleton ops op ih =>
    rw [run_concat] at h
    rw [List.filterMap_append, List.mem_append]
    cases op with
    | add path r =>
      change (addResource path r _).root.get? k = some rid at h
      rw [get?_addResource] at h
      split_ifs at h
      · cases h
        exact Or.inr (Or.inr (by simp [Operation.resource]))
      · rcases ih h with hroot | hmem
        · exact Or.inl hroot
        · exact Or.inr (Or.inl hmem)
    | remove path =>
      change (removeResource path _).2.root.get? k = some rid at h
      rw [get?_removeResource] at h
      split_ifs at h
      rcases ih h with hroot | hmem
      · exact Or.inl hroot
      · exact Or.inr (Or.inl hmem)

theorem Distinct.unused (pre : List Operation) (path : Text) (rid : ℕ) (post : List Operation)
    (h : Distinct (pre ++ .add path rid :: post)) (k : Text) :
    (run resources world pre).root.get? k ≠ some rid := by
  intro hget
  have hnodup := h.nodup
  have hroot := h.notRoot
  rw [List.filterMap_append] at hnodup hroot
  change (pre.filterMap _ ++ rid :: post.filterMap _).Nodup at hnodup
  change 0 ∉ pre.filterMap _ ++ rid :: post.filterMap _ at hroot
  rcases used resources world pre k rid hget with rfl | hmem
  · exact hroot (List.mem_append_right _ List.mem_cons_self)
  · exact (List.nodup_append.mp hnodup).2.2 rid hmem rid List.mem_cons_self rfl

/-- Every addition finds one path missing at most. -/
def OneMissing (ops : List Operation) : Prop :=
  ∀ pre path rid post, ops = pre ++ .add path rid :: post →
    (missing path (run resources world pre)).length ≤ 1

theorem consistent_run (ops : List Operation) (distinct : Distinct ops)
    (h : OneMissing resources world ops) : Consistent (run resources world ops) := by
  refine Runs.run_induction step (fun _ app => Consistent app) (initial resources world) ops ?_ ?_
  · intro k rid hget
    change ((Dict.empty : Dict Text ℕ).insert "/".toList 0).get? k = some rid at hget
    rw [Dict.get?_insert] at hget
    split_ifs at hget with hk
    · cases hget
      rw [hk]
      rfl
    · cases hget
  · intro pre op post hsplit hbefore
    cases op with
    | add path rid =>
      rw [hsplit] at distinct
      have hunused := Distinct.unused resources world pre path rid post distinct
      change Consistent (addResource path rid (run resources world pre))
      rcases addResource_cases path rid (run resources world pre) (h pre path rid post hsplit) with
        ⟨-, heq⟩ | ⟨k, -, -, heq⟩
      · rw [heq]
        exact hbefore
      · rw [heq]
        exact consistent_register rid _ k hbefore hunused
    | remove path => exact consistent_remove path _ hbefore

theorem missing_of_unregistered (path : Text) (app : Application ω)
    (h : app.root.get? (fullPath path) = none) : fullPath path ∈ missing path app :=
  List.mem_filter.mpr ⟨fullPath_mem_prefixes path, decide_eq_true h⟩

theorem sameTree_add_remove (path : Text) (rid : ℕ) (app : Application ω)
    (unused : ∀ k, app.root.get? k ≠ some rid) (h : (missing path app).length ≤ 1)
    (unregistered : app.root.get? (fullPath path) = none) :
    SameTree (removeResource path (addResource path rid app)).2 app := by
  have hmem := missing_of_unregistered path app unregistered
  rcases addResource_cases path rid app h with ⟨hnil, -⟩ | ⟨k, hk, hnone, heq⟩
  · rw [hnil] at hmem
    cases hmem
  · rw [hk] at hmem
    obtain rfl := List.mem_singleton.mp hmem
    rw [heq, register_new rid app _ hnone]
    have hremove : removeResource path
        { (app.update rid fun r => { r with path := some (fullPath path) }) with
          root := app.root.insert (fullPath path) rid } =
        (some rid, { (app.update rid fun r => { r with path := some (fullPath path) }) with
          root := app.root }) := by
      simp only [removeResource, Dict.get?_insert_self, Dict.erase_insert_of_new _ _ _ hnone]
    rw [hremove]
    refine ⟨rfl, fun k' rid' hget => ?_⟩
    have hother : rid' ≠ rid := by
      rintro rfl
      exact unused k' hget
    exact if_neg hother

theorem OneMissing.before (pre post : List Operation)
    (h : OneMissing resources world (pre ++ post)) : OneMissing resources world pre := by
  intro q path rid r hsplit
  exact h q path rid (r ++ post) (by rw [hsplit, List.append_assoc, List.cons_append])

theorem Distinct.before (pre post : List Operation) (h : Distinct (pre ++ post)) :
    Distinct pre := by
  have hnodup := h.nodup
  have hroot := h.notRoot
  rw [List.filterMap_append] at hnodup hroot
  exact ⟨(List.nodup_append.mp hnodup).1, fun hmem => hroot (List.mem_append_left _ hmem)⟩

/-- Which sequences of operations keep the tree consistent with the paths. -/
theorem pathConsistent_iff (ops : List Operation) (distinct : Distinct ops) :
    PathConsistent resources world ops ↔ OneMissing resources world ops := by
  constructor
  · intro h pre path rid post hsplit
    by_contra hlength
    -- two missing paths get the same resource
    have htwo : ∀ k ∈ missing path (run resources world pre),
        (run resources world (pre ++ [.add path rid])).root.get? k = some rid := by
      intro k hk
      rw [run_concat]
      change (addResource path rid _).root.get? k = some rid
      rw [get?_addResource, if_pos hk]
    have hnodup := nodup_missing path (run resources world pre)
    generalize missing path (run resources world pre) = ks at hlength htwo hnodup
    rcases ks with _ | ⟨k, _ | ⟨k', ks⟩⟩
    · exact hlength (Nat.zero_le 1)
    · exact hlength (Nat.le_refl 1)
    · have heq := h.once (pre ++ [.add path rid]) post
        (by rw [hsplit, List.append_assoc, List.singleton_append]) k k' rid
        (htwo k List.mem_cons_self) (htwo k' (List.mem_cons_of_mem _ List.mem_cons_self))
      exact (List.nodup_cons.mp hnodup).1 (heq ▸ List.mem_cons_self)
  · intro h
    have hconsistent : ∀ pre post, ops = pre ++ post → Consistent (run resources world pre) := by
      intro pre post hsplit
      rw [hsplit] at h distinct
      exact consistent_run resources world pre (Distinct.before pre post distinct)
        (OneMissing.before resources world pre post h)
    refine ⟨hconsistent, ?_, ?_⟩
    · intro pre post hsplit k k' rid hk hk'
      have hpath := hconsistent pre post hsplit k rid hk
      rw [hconsistent pre post hsplit k' rid hk'] at hpath
      exact (Option.some.inj hpath).symm
    · intro pre path rid post hsplit hnone
      have hunused := Distinct.unused resources world pre path rid post (hsplit ▸ distinct)
      have hrun : run resources world (pre ++ [.add path rid, .remove path]) =
          (removeResource path (addResource path rid (run resources world pre))).2 :=
        Runs.run_append _ _ _ _
      rw [hrun]
      exact sameTree_add_remove path rid _ hunused (h pre path rid post hsplit) hnone

end

def sampleResources (_ : ℕ) : Resource := Resource.new true true true

def sampleOps : List Operation :=
  [.add "seg1/".toList 1, .add "seg1/seg2/".toList 2, .remove "seg1".toList]

theorem distinct_sampleOps : Distinct sampleOps := ⟨by decide, by decide⟩

theorem pathConsistent_sampleOps : PathConsistent sampleResources () sampleOps := by
  refine (pathConsistent_iff sampleResources () sampleOps distinct_sampleOps).mpr ?_
  intro pre path rid post hsplit
  rcases pre with _ | ⟨a, _ | ⟨b, _ | ⟨c, pre⟩⟩⟩
  · cases hsplit
    decide +kernel
  · cases hsplit
    decide +kernel
  · cases hsplit
  · simp [sampleOps] at hsplit

/-- A resource below a path that is not registered is found under both, with the longer path. -/
theorem not_pathConsistent_nested :
    ¬ ∀ ops : List Operation, Distinct ops → PathConsistent sampleResources () ops := by
  intro h
  have hpaths := (h [.add "a/b".toList 1] ⟨by decide, by decide⟩).paths [.add "a/b".toList 1] [] rfl
  have hpath := hpaths "/a".toList 1 (by decide +kernel)
  exact absurd hpath (by decide +kernel)

end BubotCoap.ResourceTree
