import BubotCoap.ObserveLayer
import BubotCoap.OptionAccess
import BubotCoap.ResourceLayer
import Mathlib.Data.List.Chain

set_option autoImplicit false

namespace BubotCoap.ObserveNumbers
open PythonData Defines Options Messages OptionAccess OrderedDict Transactions Resources
open ResourceLayer ObserveLayer FallibleState

section Counters
variable (window modulus : ℕ)

/-- The second number is the newer one for who compares them in a window. -/
def Newer (v v' : ℕ) : Prop := (v < v' ∧ v' - v < window) ∨ (v' < v ∧ window < v - v')

instance (v v' : ℕ) : Decidable (Newer window v v') := inferInstanceAs (Decidable (_ ∨ _))

/-- A counter that never leaves the window is compared as it stands. -/
theorem newer_iff (v v' : ℕ) (hv : v ≤ window) (hv' : v' < window) :
    Newer window v v' ↔ v < v' := by
  unfold Newer
  omega

/-- The values of a counter that is moved on by the given steps. -/
def counters (c : ℕ) : List ℕ → List ℕ
  | [] => [c]
  | d :: ds => c :: counters ((c + d) % modulus) ds

theorem counters_cons (c : ℕ) (ds : List ℕ) : ∃ rest, counters modulus c ds = c :: rest := by
  cases ds with
  | nil => exact ⟨[], rfl⟩
  | cons d ds => exact ⟨_, rfl⟩

theorem lt_moved_iff (c d : ℕ) (hc : c < modulus) :
    c < (c + d) % modulus ↔ d % modulus ≠ 0 ∧ c + d % modulus < modulus := by
  have hd : d % modulus < modulus := Nat.mod_lt d (by omega)
  have hmoved : (c + d) % modulus = (c + d % modulus) % modulus := by rw [Nat.add_mod_mod]
  rw [hmoved]
  by_cases hwrap : c + d % modulus < modulus
  · rw [Nat.mod_eq_of_lt hwrap]
    omega
  · rw [Nat.mod_eq_sub_mod (by omega), Nat.mod_eq_of_lt (by omega)]
    omega

/-- All steps lead to newer numbers exactly if none is a whole number of rounds, and together they
do not take the counter round. -/
theorem isChain_counters_iff (hwindow : modulus ≤ window) (c : ℕ) (hc : c < modulus)
    (ds : List ℕ) :
    (counters modulus c ds).IsChain (Newer window) ↔
      (∀ d ∈ ds, d % modulus ≠ 0) ∧ c + (ds.map (· % modulus)).sum < modulus := by
  induction ds generalizing c with
  | nil => simpa [counters] using hc
  | cons d ds ih =>
    have hmoved : (c + d) % modulus < modulus := Nat.mod_lt _ (by omega)
    obtain ⟨rest, hrest⟩ := counters_cons modulus ((c + d) % modulus) ds
    have hlt := lt_moved_iff modulus c d hc
    have hsplit : (counters modulus c (d :: ds)).IsChain (Newer window) ↔
        c < (c + d) % modulus ∧
          (counters modulus ((c + d) % modulus) ds).IsChain (Newer window) := by
      rw [counters, hrest, List.isChain_cons_cons, newer_iff window c _ (by omega) (by omega)]
    rw [hsplit, ih _ hmoved, List.forall_mem_cons, List.map_cons, List.sum_cons, hlt]
    constructor
    · rintro ⟨⟨hround, hwrap⟩, hrounds, hsum⟩
      rw [← Nat.add_mod_mod, Nat.mod_eq_of_lt hwrap] at hsum
      exact ⟨⟨hround, hrounds⟩, by omega⟩
    · rintro ⟨⟨hround, hrounds⟩, hsum⟩
      have hwrap : c + d % modulus < modulus := by omega
      refine ⟨⟨hround, hwrap⟩, hrounds, ?_⟩
      rw [← Nat.add_mod_mod, Nat.mod_eq_of_lt hwrap]
      omega

end Counters

section Updates

/-- What the class and its setter keep true of the counter. -/
def Counted (r : Resource) : Prop := r.observeCount < 65000

theorem counted_new (visible observable allowChildren : Bool) :
    Counted (Resource.new visible observable allowChildren) := by
  change 1 < 65000
  decide

theorem counted_setObserveCount (r : Resource) (v : ℕ) : Counted (r.setObserveCount v) :=
  Nat.mod_lt v (by decide)

/-- A resource after a number of updates. -/
def updated (updates : ℕ) (r : Resource) : Resource := Resource.announce^[updates] r

theorem updated_observable (updates : ℕ) (r : Resource) :
    (updated updates r).observable = r.observable := by
  induction updates generalizing r with
  | zero => rfl
  | succ updates ih => exact ih r.announce

theorem updated_observeCount (updates : ℕ) (r : Resource) (h : Counted r) :
    (updated updates r).observeCount = (r.observeCount + updates) % 65000 := by
  induction updates generalizing r with
  | zero => exact (Nat.mod_eq_of_lt h).symm
  | succ updates ih =>
    have hstep : updated (updates + 1) r = updated updates r.announce := rfl
    have hcount : r.announce.observeCount = (r.observeCount + 1) % 65000 := rfl
    rw [hstep, ih r.announce (counted_setObserveCount _ _), hcount, Nat.mod_add_mod]
    congr 1
    omega

theorem counted_updated (updates : ℕ) (r : Resource) (h : Counted r) :
    Counted (updated updates r) := by
  unfold Counted
  rw [updated_observeCount updates r h]
  exact Nat.mod_lt _ (by decide)

variable {ω : Type} (rid : ℕ) (s s' : Scene ω)

theorem acceptChanged_updates (code : ℕ) (response : Message)
    (h : acceptChanged code rid response s = (.ok (), s')) :
    s'.app = s.app.update rid (updated 1) := by
  cases h
  rfl

theorem acceptPut_updates (h : acceptPut rid s = (.ok (), s')) :
    s'.app = s.app.update rid (updated 1) := by
  unfold acceptPut at h
  split at h
  · cases h
  · split at h
    · cases h
    · cases h
      rfl

end Updates

/-- The response of an observer's transaction, which is about to be finalized. -/
structure Notice where
  now : ℚ
  tid : ℕ
  relations : Relations
  transaction : Transaction
  address : Address
  response : Message
  source : transaction.request.source = some address
  related : (relations.get? (relationKey transaction.request address)).isSome = true
  answered : transaction.response = some response
  content : response.code = some Codes.content

/-- The Observe value it is sent with, for the resource that the transaction is on. -/
def Notice.observe (n : Notice) (r : Resource) : Option Value :=
  (sendResponse n.now n.tid r.counter (n.relations, n.transaction)).2.2.response.bind
    Message.observe

theorem Notice.observe_eq (n : Notice) (r : Resource) (h : r.observable = true) :
    n.observe r = some (.int r.observeCount) := by
  obtain ⟨item, hitem⟩ := Option.isSome_iff_exists.mp n.related
  have hcounter : r.counter = some r.observeCount := if_pos h
  unfold Notice.observe sendResponse
  simp only [n.source, hitem, n.answered, n.content, hcounter, setObserve_eq, ↓reduceIte,
    Option.bind_some]
  exact observe_replace n.response r.observeCount

/-- The updates since the notification before, and the notification of what they have come to. -/
structure Round where
  updates : ℕ
  notice : Notice

/-- The Observe values of a notification and of those that follow it. -/
def observed (r : Resource) (notice : Notice) : List Round → List (Option Value)
  | [] => [notice.observe r]
  | round :: rounds =>
    notice.observe r :: observed (updated round.updates r) round.notice rounds

/-- Each notification is newer than the one before it. -/
def InOrder (values : List (Option Value)) : Prop :=
  ∃ numbers : List ℕ, values = numbers.map (fun v => some (.int v)) ∧
    numbers.IsChain (Newer (2 ^ 23))

theorem observed_eq (r : Resource) (notice : Notice) (rounds : List Round)
    (hobservable : r.observable = true) (hcounted : Counted r) :
    observed r notice rounds = (counters 65000 r.observeCount (rounds.map Round.updates)).map
      fun v => some (.int v) := by
  induction rounds generalizing r notice with
  | nil =>
    rw [observed, notice.observe_eq r hobservable]
    rfl
  | cons round rounds ih =>
    have hcount := updated_observeCount round.updates r hcounted
    have hcounted' := counted_updated round.updates r hcounted
    have hobservable' : (updated round.updates r).observable = true :=
      (updated_observable round.updates r).trans hobservable
    rw [observed, notice.observe_eq r hobservable, ih _ _ hobservable' hcounted', hcount]
    rfl

theorem inOrder_map_iff (numbers : List ℕ) :
    InOrder (numbers.map fun v => some (.int v)) ↔ numbers.IsChain (Newer (2 ^ 23)) := by
  constructor
  · rintro ⟨numbers', hmap, hchain⟩
    have hinjective : Function.Injective fun v : ℕ => some (Value.int v) := by
      intro v w h
      cases h
      rfl
    rw [List.map_injective_iff.mpr hinjective hmap]
    exact hchain
  · exact fun hchain => ⟨numbers, rfl, hchain⟩

/-- The notifications of an observable resource are in order exactly if the updates between them do
not take the counter round. -/
theorem notifications_inOrder_iff (r : Resource) (notice : Notice) (rounds : List Round)
    (hobservable : r.observable = true) (hcounted : Counted r) :
    InOrder (observed r notice rounds) ↔
      (∀ round ∈ rounds, round.updates % 65000 ≠ 0) ∧
        r.observeCount + (rounds.map fun round => round.updates % 65000).sum < 65000 := by
  rw [observed_eq r notice rounds hobservable hcounted, inOrder_map_iff,
    isChain_counters_iff (2 ^ 23) 65000 (by decide) r.observeCount hcounted, List.forall_mem_map,
    List.map_map]
  rfl

def sampleResource : Resource := Resource.new true true true

/-- The answer to a GET of a client that is registered without a token. -/
def sampleNotice : Notice where
  now := 0
  tid := 0
  relations :=
    Dict.empty.insert (relationKey (Message.new .request) (['h'], 1)) ⟨0, some 0, true, some 0⟩
  transaction :=
    { Transaction.new { Message.new .request with source := some (['h'], 1) } 0 with
      response := some { Message.new .response with code := some Codes.content } }
  address := (['h'], 1)
  response := { Message.new .response with code := some Codes.content }
  source := rfl
  related := by decide
  answered := rfl
  content := rfl

theorem notifications_inOrder_sample :
    InOrder (observed sampleResource sampleNotice [⟨1, sampleNotice⟩, ⟨2, sampleNotice⟩]) :=
  (notifications_inOrder_iff sampleResource sampleNotice [⟨1, sampleNotice⟩, ⟨2, sampleNotice⟩] rfl
    (counted_new true true true)).mpr ⟨by decide, by decide⟩

/-- After 64998 updates of a new resource the next one takes its counter from 64999 to zero. -/
theorem not_inOrder_wrapped :
    (updated 64998 sampleResource).observable = true ∧ Counted (updated 64998 sampleResource) ∧
    ¬ InOrder (observed (updated 64998 sampleResource) sampleNotice [⟨1, sampleNotice⟩]) := by
  have hcount : (updated 64998 sampleResource).observeCount = 64999 :=
    updated_observeCount 64998 sampleResource (counted_new true true true)
  have hobservable : (updated 64998 sampleResource).observable = true :=
    updated_observable 64998 sampleResource
  have hcounted := counted_updated 64998 sampleResource (counted_new true true true)
  refine ⟨hobservable, hcounted, ?_⟩
  rw [observed_eq _ sampleNotice _ hobservable hcounted, hcount, inOrder_map_iff]
  decide

end BubotCoap.ObserveNumbers
