import BubotCoap.RejectedRequests

set_option autoImplicit false

namespace BubotCoap.DeleteReports
open PythonData Defines Messages OrderedDict Resources ResourceLayer RejectedRequests Transactions
  FallibleState

variable {ω : Type} (handlers : Handlers ω) (rid : ℕ) (path : Text) (s : Scene ω)

/-- What `render_DELETE` comes back with, at once or through its callback. -/
def answer : Action Stop (Scene ω) Outcome := do
  let ret ← invoke handlers .delete rid true
  separate handlers rid ret

def Replied (code : ℕ) (r : Except Stop Unit × Scene ω) : Prop :=
  r.1 = .ok () ∧ r.2.transaction.response.bind Message.code = some code

/-- The reply says whether the path is gone, the resource is marked if it is, and the other paths
are as the handlers left them. -/
structure Reports : Prop where
  reply : Replied Codes.deleted (deleteResource handlers rid path s) ↔
    (deleteResource handlers rid path s).2.app.root.get? path = none
  marked : (deleteResource handlers rid path s).2.app.root.get? path = none →
    ((deleteResource handlers rid path s).2.app.resources rid).deleted = true
  others : ∀ k, k ≠ path → (deleteResource handlers rid path s).2.app.root.get? k =
    (answer handlers rid s).2.app.root.get? k

/-- The layer refuses: it leaves the application alone, and the reply is not 2.02. -/
def Refused (s : Scene ω) (r : Except Stop Unit × Scene ω) : Prop :=
  r.2.app = s.app ∧ ¬ Replied Codes.deleted r

theorem refused_raise (e : Stop) (s : Scene ω) : Refused s (Action.raise e s) := by
  refine ⟨rfl, fun h => ?_⟩
  cases h.1

theorem refused_setCode (code : ℕ) (hcode : code ≠ Codes.deleted) (s : Scene ω) :
    Refused s (setCode code s) := by
  unfold setCode
  cases s.transaction.response with
  | none =>
    refine ⟨rfl, fun h => ?_⟩
    cases h.1
  | some response =>
    refine ⟨rfl, fun h => ?_⟩
    exact hcode (Option.some.inj h.2)

theorem refused_reject (error : Option PyErr) (s : Scene ω) : Refused s (reject error s) := by
  cases error with
  | none => exact refused_setCode _ (by decide) s
  | some e => exact refused_raise _ s

theorem deleteResource_cases :
    (∃ delete response, (answer handlers rid s).1 = .ok (.flag delete response) ∧
        deleteResource handlers rid path s =
          acceptDelete path delete response (answer handlers rid s).2) ∨
      (∀ delete response, (answer handlers rid s).1 ≠ .ok (.flag delete response)) ∧
        Refused (answer handlers rid s).2 (deleteResource handlers rid path s) := by
  unfold answer deleteResource
  rw [Action.bind_apply, Action.bind_apply]
  cases invoke handlers .delete rid true s with
  | mk result s₁ =>
    cases result with
    | error e =>
      refine Or.inr ⟨?_, refused_raise e s₁⟩
      intro delete response h
      cases h
    | ok ret =>
      dsimp only
      cases ret with
      | flag delete response => exact Or.inl ⟨delete, response, rfl, rfl⟩
      | later callback =>
        unfold separate
        dsimp only
        rw [Action.bind_apply]
        cases handleSeparate handlers rid callback true s₁ with
        | mk result s₂ =>
          cases result with
          | error e =>
            refine Or.inr ⟨?_, refused_raise e s₂⟩
            intro delete response h
            cases h
          | ok ret =>
            dsimp only
            cases ret with
            | flag delete response => exact Or.inl ⟨delete, response, rfl, rfl⟩
            | notImplemented =>
              refine Or.inr ⟨?_, refused_setCode _ (by decide) s₂⟩
              intro delete response h
              cases h
            | misfit shape =>
              refine Or.inr ⟨?_, refused_reject _ s₂⟩
              intro delete response h
              cases h
            | _ =>
              refine Or.inr ⟨?_, refused_setCode _ (by decide) s₂⟩
              intro delete response h
              cases h
      | _ =>
        refine Or.inr ⟨?_, refused_setCode _ (by decide) s₁⟩
        intro delete response h
        cases h

/-- The handlers come back with `False` and a response just if they have removed the path themselves,
and with a flag and a response only if the resource is marked already. -/
structure Fitting : Prop where
  refused : (answer handlers rid s).2.app.root.get? path = none ↔
    ∃ response, (answer handlers rid s).1 = .ok (.flag false response)
  marked : (∃ delete response, (answer handlers rid s).1 = .ok (.flag delete response)) →
    ((answer handlers rid s).2.app.resources rid).deleted = true

theorem replied_withDefault (s : Scene ω) (response : Message) (h : response.code = none) :
    Replied Codes.deleted (.ok (), s.setResponse (some (withDefault Codes.deleted response))) := by
  refine ⟨rfl, ?_⟩
  change some ((response.code).getD Codes.deleted) = some Codes.deleted
  rw [h]
  rfl

theorem reports_kept (response : Message) (hunset : response.code = none)
    (hanswer : (answer handlers rid s).1 = .ok (.flag false response))
    (hrun : deleteResource handlers rid path s =
      acceptDelete path false response (answer handlers rid s).2) :
    Reports handlers rid path s ↔ Fitting handlers rid path s := by
  have heq : deleteResource handlers rid path s = (.ok (), (answer handlers rid s).2.setResponse
      (some (withDefault Codes.deleted response))) := by
    rw [hrun]
    unfold acceptDelete
    rw [if_neg (by simp)]
    rfl
  have hreplied := replied_withDefault (answer handlers rid s).2 response hunset
  rw [← heq] at hreplied
  have happ : (deleteResource handlers rid path s).2.app = (answer handlers rid s).2.app := by
    rw [heq]
    rfl
  constructor
  · intro h
    have hgone := h.reply.mp hreplied
    have hmarked := h.marked hgone
    rw [happ] at hgone hmarked
    exact ⟨iff_of_true hgone ⟨response, hanswer⟩, fun _ => hmarked⟩
  · intro h
    have hgone := h.refused.mpr ⟨response, hanswer⟩
    rw [← happ] at hgone
    refine ⟨iff_of_true hreplied hgone, fun _ => ?_, fun k _ => by rw [happ]⟩
    rw [happ]
    exact h.marked ⟨false, response, hanswer⟩

theorem reports_removed (response : Message) (hunset : response.code = none)
    (hanswer : (answer handlers rid s).1 = .ok (.flag true response))
    (hrun : deleteResource handlers rid path s =
      acceptDelete path true response (answer handlers rid s).2) :
    Reports handlers rid path s ↔ Fitting handlers rid path s := by
  have hnot : ¬ ∃ response, (answer handlers rid s).1 = .ok (.flag false response) := by
    rintro ⟨response', h⟩
    rw [hanswer] at h
    cases h
  unfold acceptDelete at hrun
  by_cases hgone : (answer handlers rid s).2.app.root.get? path = none
  · rw [if_pos ⟨rfl, hgone⟩] at hrun
    refine iff_of_false (fun h => ?_) fun h => hnot (h.refused.mp hgone)
    have hreplied := h.reply.mpr (by rw [hrun]; exact hgone)
    rw [hrun] at hreplied
    cases hreplied.1
  · rw [if_neg fun h => hgone h.2] at hrun
    have hreplied : Replied Codes.deleted (deleteResource handlers rid path s) := by
      rw [hrun]
      exact replied_withDefault _ response hunset
    have hroot : (deleteResource handlers rid path s).2.app.root =
        (answer handlers rid s).2.app.root.erase path := by
      rw [hrun]
      rfl
    have hresources : (deleteResource handlers rid path s).2.app.resources =
        (answer handlers rid s).2.app.resources := by
      rw [hrun]
      rfl
    have herased : (deleteResource handlers rid path s).2.app.root.get? path = none := by
      rw [hroot]
      exact (answer handlers rid s).2.app.root.get?_erase_self path
    constructor
    · intro h
      have hmarked := h.marked herased
      rw [hresources] at hmarked
      exact ⟨iff_of_false hgone hnot, fun _ => hmarked⟩
    · intro h
      refine ⟨iff_of_true hreplied herased, fun _ => ?_, fun k hk => ?_⟩
      · rw [hresources]
        exact h.marked ⟨true, response, hanswer⟩
      · rw [hroot]
        exact (answer handlers rid s).2.app.root.get?_erase_of_ne hk

theorem reports_refused
    (hanswer : ∀ delete response, (answer handlers rid s).1 ≠ .ok (.flag delete response))
    (hrefused : Refused (answer handlers rid s).2 (deleteResource handlers rid path s)) :
    Reports handlers rid path s ↔ Fitting handlers rid path s := by
  obtain ⟨happ, hreply⟩ := hrefused
  have hnot : ¬ ∃ response, (answer handlers rid s).1 = .ok (.flag false response) := by
    rintro ⟨response, h⟩
    exact hanswer false response h
  constructor
  · intro h
    have hkept := fun hgone => hreply (h.reply.mpr hgone)
    rw [happ] at hkept
    refine ⟨iff_of_false hkept hnot, ?_⟩
    rintro ⟨delete, response, heq⟩
    exact absurd heq (hanswer delete response)
  · intro h
    have hkept : (deleteResource handlers rid path s).2.app.root.get? path ≠ none := by
      rw [happ]
      exact fun hgone => hnot (h.refused.mp hgone)
    exact ⟨iff_of_false hreply hkept, fun hgone => absurd hgone hkept, fun k _ => by rw [happ]⟩

/-- A DELETE reports what it did just if the handlers' results fit what they did themselves. -/
theorem reports_iff (hunset : ∀ delete response,
    (answer handlers rid s).1 = .ok (.flag delete response) → response.code = none) :
    Reports handlers rid path s ↔ Fitting handlers rid path s := by
  rcases deleteResource_cases handlers rid path s with
    ⟨delete, response, hanswer, hrun⟩ | ⟨hanswer, hrefused⟩
  · cases delete with
    | false =>
      exact reports_kept handlers rid path s response (hunset false response hanswer) hanswer hrun
    | true =>
      exact reports_removed handlers rid path s response (hunset true response hanswer) hanswer hrun
  · exact reports_refused handlers rid path s hanswer hrefused

def sampleHandlers (outcome : Outcome) : Handlers Unit where
  platform := Rendering.plainPlatform
  isAsync _ _ := true
  render _ _ _ _ app := ⟨outcome, id, app⟩

/-- A DELETE of the path `/a`, whose resource has the number 1. -/
def sampleDelete : Scene Unit where
  app := ⟨fun _ => Resource.new true true true,
    (Dict.empty.insert "/".toList 0).insert "/a".toList 1, ()⟩
  calls := []
  transaction :=
    { Transaction.new (Message.new .request) 0 with response := some (Message.new .response) }

theorem reports_refusal :
    Reports (sampleHandlers .notImplemented) 1 "/a".toList sampleDelete := by
  have hanswer : (answer (sampleHandlers .notImplemented) 1 sampleDelete).1 =
    .ok .notImplemented := rfl
  refine (reports_iff (sampleHandlers .notImplemented) 1 "/a".toList sampleDelete ?_).mpr
    ⟨iff_of_false (by decide +kernel) ?_, ?_⟩
  · intro delete response h
    rw [hanswer] at h
    cases h
  · rintro ⟨response, h⟩
    rw [hanswer] at h
    cases h
  · rintro ⟨delete, response, h⟩
    rw [hanswer] at h
    cases h

/-- A removed resource is not marked, and a refusal is answered as if the path were removed. -/
theorem not_reports :
    ¬ Reports (sampleHandlers (.flag true (Message.new .response))) 1 "/a".toList sampleDelete ∧
      ¬ Reports (sampleHandlers (.flag false (Message.new .response))) 1 "/a".toList
        sampleDelete := by
  refine ⟨fun h => ?_, fun h => ?_⟩
  · exact absurd (h.marked (by decide +kernel)) (by decide +kernel)
  · exact absurd (h.reply.mp ⟨rfl, by decide +kernel⟩) (by decide +kernel)

end BubotCoap.DeleteReports
