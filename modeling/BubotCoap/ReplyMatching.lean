import BubotCoap.DuplicateReplies

set_option autoImplicit false

namespace BubotCoap.ReplyMatching
open PythonData Messages OptionAccess OrderedDict Transactions Resources Answering Server Runs
  Journal FreshExecution FreshResponses Piggyback DuplicateReplies
open Deduplication (sampleClient)

variable {ω : Type} (handlers : Handlers ω)

/-- In the run `before` a request of the message id and the token was answered in the transaction,
and nothing has touched its response since. -/
def Kept (s₀ : Server.State ω) (before : List (Timed ω)) (request : Message) (address : Address)
    (tid : ℕ) : Prop :=
  ∃ pre now rng first between, before = pre ++ (now, Event.receive rng first) :: between ∧
    Wired first address ∧ Matches request first ∧
    MessageLayer.duplicateOf first address (run (step handlers) s₀ pre).message = none ∧
    nextTransaction first address (run (step handlers) s₀ pre) = tid ∧
    entriesOf (run (step handlers) s₀ pre).received (run (step handlers) s₀ before).sent ≠ [] ∧
    Untouched handlers (run (step handlers) s₀ pre) (now, .receive rng first) between tid

/-- What the request finds after `before`: no response of another request to be used again. -/
structure Clean (s₀ : Server.State ω) (before : List (Timed ω)) (request : Message)
    (address : Address) : Prop where
  fresh : MessageLayer.duplicateOf request address (run (step handlers) s₀ before).message = none →
    Unbound request address (run (step handlers) s₀ before)
  duplicate : ∀ tid m,
    MessageLayer.duplicateOf request address (run (step handlers) s₀ before).message = some tid →
    ((run (step handlers) s₀ before).transaction tid).completed = true →
    ((run (step handlers) s₀ before).transaction tid).response = some m → Acknowledges m →
    Kept handlers s₀ before request address tid

theorem clean_first (s₀ : Server.State ω) (before : List (Timed ω)) (request : Message)
    (address : Address)
    (hduplicate : MessageLayer.duplicateOf request address
      (run (step handlers) s₀ before).message = none)
    (hanswered : MessageLayer.answered request address
      (run (step handlers) s₀ before).message = none) :
    Clean handlers s₀ before request address where
  fresh := by
    intro _ tid htid
    rw [hanswered] at htid
    cases htid
  duplicate := by
    intro tid m htid
    rw [hduplicate] at htid
    cases htid

variable (startingMid : ℕ) (app : Application ω)

/-- Every reply that acknowledges a request carries its message id and its token. -/
def EachMatched (events : List (Timed ω)) : Prop :=
  ∀ pre now rng request post address,
    events = pre ++ (now, Event.receive rng request) :: post → Wired request address →
    ∀ d ∈ entriesOf (run (step handlers) (State.new startingMid app) pre).received
      (run (step handlers) (State.new startingMid app) events).sent,
      Acknowledges d.message → Matches request d.message

section Receptions
variable (plain : Plain handlers) (pre post : List (Timed ω)) (now : ℚ) (rng : Bytes)
  (request : Message) (address : Address) (hwired : Wired request address)
include plain hwired

theorem fresh_matched (hclean : Clean handlers (State.new startingMid app) pre request address)
    (hfresh : MessageLayer.duplicateOf request address
      (run (step handlers) (State.new startingMid app) pre).message = none) :
    ∀ d ∈ entriesOf (run (step handlers) (State.new startingMid app) pre).received
      (run (step handlers) (State.new startingMid app)
        (pre ++ (now, .receive rng request) :: post)).sent,
      Acknowledges d.message → Matches request d.message := by
  obtain ⟨new, hsent, hnew⟩ := fresh_good handlers rng now request address _ plain hwired hfresh
    (hclean.fresh hfresh)
  rw [entriesOf_reception handlers startingMid app pre post now rng request new hsent]
  exact hnew

end Receptions

/-- What a transaction has kept of the answer to a request matches every request of the message id
and the token. -/
theorem kept_matches (plain : Plain handlers) (before : List (Timed ω)) (request : Message)
    (address : Address) (tid : ℕ) (m : Message)
    (clean : ∀ pre now rng first between, before = pre ++ (now, Event.receive rng first) :: between →
      Wired first address → Clean handlers (State.new startingMid app) pre first address)
    (hkept : Kept handlers (State.new startingMid app) before request address tid)
    (hresponse : ((run (step handlers) (State.new startingMid app) before).transaction tid).response =
      some m) (hack : Acknowledges m) : Matches request m := by
  obtain ⟨pre, now, rng, first, between, hsplit, hwired, hsame, hfresh, rfl, hanswered,
    huntouched⟩ := hkept
  obtain ⟨d, hd⟩ := List.exists_mem_of_ne_nil _ hanswered
  have hstill := still_of_untouched handlers startingMid app pre between [] now rng first address d
    hwired.source hwired.duplicated hfresh (by rw [List.append_nil, ← hsplit]; exact hd) huntouched
  rw [← hsplit] at hstill
  have hm : d.message = m := Option.some.inj (hstill.symm.trans hresponse)
  rw [hsplit] at hd
  have hmatches := fresh_matched handlers startingMid app plain pre between now rng first address
    hwired (clean pre now rng first between hsplit hwired) hfresh d hd (hm ▸ hack)
  rw [hm] at hmatches
  exact ⟨hmatches.1.trans hsame.1, hmatches.2.trans hsame.2⟩

/-- In a run in which no request finds the response of another to be used again, every
acknowledging reply carries the message id and the token of its request. -/
theorem replies_matched (plain : Plain handlers) (events : List (Timed ω))
    (clean : ∀ pre now rng request post address,
      events = pre ++ (now, Event.receive rng request) :: post → Wired request address →
      Clean handlers (State.new startingMid app) pre request address) :
    EachMatched handlers startingMid app events := by
  intro pre now rng request post address hsplit hwired
  have hclean := clean pre now rng request post address hsplit hwired
  cases hduplicate : MessageLayer.duplicateOf request address
      (run (step handlers) (State.new startingMid app) pre).message with
  | none =>
    rw [hsplit]
    exact fresh_matched handlers startingMid app plain pre post now rng request address hwired
      hclean hduplicate
  | some tid =>
    have hresend : ((run (step handlers) (State.new startingMid app) pre).transaction tid).completed =
        true → ∀ m, ((run (step handlers) (State.new startingMid app) pre).transaction tid).response =
        some m → Acknowledges m → Matches request m := by
      intro hcompleted m hresponse hack
      refine kept_matches handlers startingMid app plain pre request address tid m ?_
        (hclean.duplicate tid m hduplicate hcompleted hresponse hack) hresponse hack
      intro pre' now' rng' first between hbefore
      refine clean pre' now' rng' first (between ++ (now, Event.receive rng request) :: post) address ?_
      rw [hsplit, hbefore, List.append_assoc, List.cons_append]
    obtain ⟨new, hsent, hnew⟩ := duplicate_good handlers rng now request address _ tid hwired
      hduplicate hresend
    rw [hsplit, entriesOf_reception handlers startingMid app pre post now rng request new hsent]
    exact hnew

/-- A GET, one under another token, and the first again, which is answered by what was sent. -/
theorem replies_matched_sample : EachMatched sampleHandlers 1 sampleApp sampleRepeat := by
  refine replies_matched sampleHandlers 1 sampleApp sampleHandlers_plain sampleRepeat ?_
  intro pre now rng request post address hsplit hwired
  rcases pre with _ | ⟨e, _ | ⟨e', _ | ⟨e'', pre⟩⟩⟩
  · cases hsplit
    have haddress : address = sampleClient := (Option.some.inj hwired.source).symm
    subst haddress
    exact clean_first _ _ _ _ _ (by decide +kernel) (by decide +kernel)
  · cases hsplit
    have haddress : address = sampleClient := (Option.some.inj hwired.source).symm
    subst haddress
    exact clean_first _ _ _ _ _ (by decide +kernel) (by decide +kernel)
  · cases hsplit
    have haddress : address = sampleClient := (Option.some.inj hwired.source).symm
    subst haddress
    have hduplicate : MessageLayer.duplicateOf (sampleGet 'a' [7] 1) sampleClient
        (run (step sampleHandlers) (State.new 1 sampleApp)
          [(0, .receive [] (sampleGet 'a' [7] 1)), (1, .receive [] (sampleGet 'b' [8] 2))]).message =
        some (nextTransaction (sampleGet 'a' [7] 1) sampleClient (State.new 1 sampleApp)) := by
      decide +kernel
    refine ⟨fun hnone => ?_, fun tid m htid _ _ _ => ?_⟩
    · cases hduplicate.symm.trans hnone
    · cases hduplicate.symm.trans htid
      exact ⟨[], 0, [], sampleGet 'a' [7] 1, [(1, .receive [] (sampleGet 'b' [8] 2))], rfl, hwired,
        ⟨rfl, rfl⟩, by decide +kernel, rfl, by decide +kernel, sampleRepeat_untouched⟩
  · have hlength := congrArg List.length hsplit
    simp [sampleRepeat] at hlength

/-- The second block of a representation is acknowledged under the message id of the first. -/
theorem second_block_mismatched : ¬ EachMatched largeHandlers 1 sampleApp sampleDownload := by
  intro h
  have hwired : Wired (sampleAsk 1 2) sampleClient :=
    ⟨rfl, by simp [sampleAsk, withBlock2, replace, sampleGet],
      by simp [sampleAsk, withBlock2, replace, sampleGet], rfl⟩
  have hmatched := h [(0, .receive [] (sampleAsk 0 1))] 1 [] (sampleAsk 1 2) [] sampleClient rfl
    hwired
  have hfirst : ∃ d ∈ entriesOf
      (run (step largeHandlers) (State.new 1 sampleApp)
        [(0, .receive [] (sampleAsk 0 1))]).received
      (run (step largeHandlers) (State.new 1 sampleApp) sampleDownload).sent,
      Acknowledges d.message ∧ d.message.mid = some 1 := by decide +kernel
  obtain ⟨d, hd, hack, hmid⟩ := hfirst
  have hsecond := (hmatched d hd hack).1
  rw [hmid] at hsecond
  exact absurd hsecond (by decide)

end BubotCoap.ReplyMatching
