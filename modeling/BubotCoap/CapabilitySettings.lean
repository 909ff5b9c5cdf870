import BubotCoap.Runs
import BubotCoap.StreamErrors

set_option autoImplicit false

namespace BubotCoap.CapabilitySettings
open PythonData Defines Messages FallibleState Rendering CoapTcpProtocol StreamErrors
open DatagramReception (Coroutine)

/-- A connection. An exception in `message_received` makes the transport close it. -/
structure Peer where
  protocol : Protocol
  tasks : List Coroutine
  usable : Bool

/-- The endpoint of `endpoint/tcp.py` with its connections. -/
structure Endpoint (n : ℕ) where
  csm : Csm
  peers : Fin n → Peer

variable {n : ℕ}

def Endpoint.new (protocols : Fin n → Protocol) : Endpoint n :=
  ⟨.pending, fun i => ⟨protocols i, [], true⟩⟩

def Endpoint.connection (s : Endpoint n) (i : Fin n) : Connection :=
  ⟨(s.peers i).protocol, s.csm, (s.peers i).tasks⟩

/-- `message_received` on one connection, as long as that is open. -/
def messageReceived (P : Platform) (i : Fin n) (m : Message) :
    Action Failure (Endpoint n) Unit := fun s =>
  if (s.peers i).usable then
    let (result, c) := StreamErrors.messageReceived P m (s.connection i)
    (result, ⟨c.csm, Function.update s.peers i ⟨c.protocol, c.tasks, result.isOk⟩⟩)
  else (.ok (), s)

/-- `start_client` goes on with the result of the future, and puts it in the future's place. -/
def startClient (s : Endpoint n) : Endpoint n :=
  match s.csm with
  | .done maxMessageSize => { s with csm := .settings maxMessageSize }
  | _ => s

/-- The 30 seconds of `start_client` pass, or its task is cancelled: `wait_for` cancels the future,
unless that is done. It stays where it is. -/
def timeOut (s : Endpoint n) : Endpoint n :=
  match s.csm with
  | .pending => { s with csm := .cancelled }
  | _ => s

inductive Event (n : ℕ) where
  | message (connection : Fin n) (m : Message)
  | startClient
  | timeOut

def step (P : Platform) (s : Endpoint n) : Event n → Endpoint n
  | .message i m => (messageReceived P i m s).2
  | .startClient => startClient s
  | .timeOut => timeOut s

/-- The settings that stand for the peer of a connection: those of the endpoint. -/
def settingsOf (s : Endpoint n) (_connection : Fin n) : Option Value :=
  match s.csm with
  | .pending | .cancelled => none
  | .done maxMessageSize => some maxMessageSize
  | .settings maxMessageSize => some maxMessageSize

section
variable (P : Platform) (protocols : Fin n → Protocol)

def run (events : List (Event n)) : Endpoint n :=
  Runs.run (step P) (Endpoint.new protocols) events

/-- The event is no message of another connection. -/
def concerns (i : Fin n) : Event n → Bool
  | .message j _ => decide (j = i)
  | _ => true

structure Capable (events : List (Event n)) : Prop where
  handled : ∀ pre i m post, events = pre ++ .message i m :: post → isCsm m = true →
    (messageReceived P i m (run P protocols pre)).1 = .ok ()
  usable : ∀ i, ((run P protocols events).peers i).usable = true
  own : ∀ i, settingsOf (run P protocols events) i =
    settingsOf (run P protocols (events.filter (concerns i))) i

/-- The event sets the result of the future, if it gets as far. -/
def announcing : Event n → Bool
  | .message _ m => announces P m
  | _ => false

/-- The event leaves the future without room for settings. -/
def settling : Event n → Bool
  | .message _ m => announces P m
  | .startClient => false
  | .timeOut => true

/-- The log line of every message can be built or fails with the exception that is caught, and
a CSM comes neither behind another one nor behind a time-out. -/
structure Calm (events : List (Event n)) : Prop where
  written : ∀ i m, .message i m ∈ events → Printable P m ∨ linePrint P m = .error .runtimeError
  settings : events.Pairwise fun e e' => announcing P e' = true → settling P e = false

theorem run_concat (events : List (Event n)) (e : Event n) :
    run P protocols (events ++ [e]) = step P (run P protocols events) e :=
  Runs.run_concat _ _ _ _

theorem messageReceived_ok (i : Fin n) (m : Message) (s : Endpoint n)
    (h : (s.peers i).usable = true) :
    (messageReceived P i m s).1 = .ok () ↔ Heard P s.csm m := by
  simp only [messageReceived, h, ↓reduceIte]
  exact messageReceived_ok_iff P m (s.connection i)

theorem usable_message (i j : Fin n) (m : Message) (s : Endpoint n) :
    ((messageReceived P i m s).2.peers j).usable = true ↔
      (s.peers j).usable = true ∧ (i = j → Heard P s.csm m) := by
  by_cases hi : (s.peers i).usable = true
  · have hok := messageReceived_ok_iff P m (s.connection i)
    simp only [messageReceived, hi, ↓reduceIte]
    by_cases hij : j = i
    · subst hij
      rw [Function.update_self, and_iff_right hi]
      dsimp only
      have hisOk : (StreamErrors.messageReceived P m (s.connection j)).1.isOk = true ↔
          Heard P s.csm m := by
        refine Iff.trans ?_ hok
        generalize (StreamErrors.messageReceived P m (s.connection j)).1 = result
        cases result with
        | ok u => exact iff_of_true rfl rfl
        | error e => exact iff_of_false Bool.false_ne_true (by simp)
      rw [hisOk]
      exact ⟨fun h _ => h, fun h => h rfl⟩
    · rw [Function.update_of_ne hij]
      exact ⟨fun h => ⟨h, fun h' => absurd h'.symm hij⟩, And.left⟩
  · simp only [messageReceived, hi, Bool.false_eq_true, ↓reduceIte]
    refine ⟨fun h => ⟨h, ?_⟩, And.left⟩
    rintro rfl
    exact absurd h hi

theorem room_message (i : Fin n) (m : Message) (s : Endpoint n) (h : (s.peers i).usable = true)
    (heard : Heard P s.csm m) :
    (messageReceived P i m s).2.csm.room + (if announces P m then 1 else 0) = s.csm.room := by
  simp only [messageReceived, h, ↓reduceIte]
  exact messageReceived_room P m (s.connection i) heard

theorem startClient_spec (s : Endpoint n) :
    (startClient s).peers = s.peers ∧ (startClient s).csm.room = s.csm.room ∧
      ∀ i, settingsOf (startClient s) i = settingsOf s i := by
  unfold startClient settingsOf
  cases h : s.csm <;> simp [h, Csm.room]

theorem timeOut_spec (s : Endpoint n) :
    (timeOut s).peers = s.peers ∧ (timeOut s).csm.room = 0 ∧
      ∀ i, settingsOf (timeOut s) i = settingsOf s i := by
  unfold timeOut settingsOf
  cases h : s.csm <;> simp [h, Csm.room]

theorem setResult_settingsOf (v : Value) (c : Connection) (h : c.csm.room = 1) :
    (setResult v c).2.csm = .done v := by
  unfold setResult
  cases hcsm : c.csm with
  | pending => rfl
  | done w => simp [hcsm, Csm.room] at h
  | cancelled => simp [hcsm, Csm.room] at h
  | settings w => simp [hcsm, Csm.room] at h

theorem messageReceived_quiet (m : Message) (c : Connection) (h : announces P m = false) :
    (StreamErrors.messageReceived P m c).2.csm = c.csm := by
  cases hline : linePrint P m with
  | error e =>
    rw [messageReceived_unprinted P m e c hline]
    rfl
  | ok line =>
    have hprint := (linePrint_ok_iff P m).mp ⟨line, hline⟩
    rw [announces_of_printable P m hprint] at h
    rw [messageReceived_task P m c hprint h]
    rfl

theorem settingsOf_message (i j : Fin n) (m : Message) (s : Endpoint n)
    (h : (s.peers i).usable = true) (heard : Heard P s.csm m) :
    settingsOf (messageReceived P i m s).2 j = none ↔
      announces P m = false ∧ settingsOf s j = none := by
  simp only [messageReceived, h, ↓reduceIte]
  cases ha : announces P m with
  | false =>
    unfold settingsOf
    rw [messageReceived_quiet P m _ ha]
    exact (and_iff_right rfl).symm
  | true =>
    rcases heard with hline | ⟨hprint, hroom⟩
    · rw [announces_of_error P m _ hline] at ha
      cases ha
    · have hcsm := ha
      rw [announces_of_printable P m hprint] at hcsm
      unfold settingsOf
      rw [messageReceived_csm P m _ hprint hcsm, setResult_settingsOf _ _ (hroom ha)]
      simp

theorem any_concat (events : List (Event n)) (e : Event n) (p : Event n → Bool) :
    (events ++ [e]).any p = (events.any p || p e) := by
  simp

theorem settings_concat (events : List (Event n)) (e : Event n) :
    (events ++ [e]).Pairwise (fun e e' => announcing P e' = true → settling P e = false) ↔
      events.Pairwise (fun e e' => announcing P e' = true → settling P e = false) ∧
        (announcing P e = true → events.any (settling P) = false) := by
  simp only [List.pairwise_append, List.pairwise_singleton, true_and, List.mem_singleton,
    forall_eq, List.any_eq_false, Bool.not_eq_true]
  exact and_congr_right fun _ => ⟨fun h ha e' he' => h e' he' ha, fun h e' he' ha => h ha e' he'⟩

/-- An event that is no message keeps the calm. -/
theorem calm_other (events : List (Event n)) (e : Event n) (h : ∀ i m, e ≠ .message i m) :
    Calm P (events ++ [e]) ↔ Calm P events := by
  have hquiet : announcing P e = false := by
    cases e with
    | message i m => exact absurd rfl (h i m)
    | startClient => rfl
    | timeOut => rfl
  constructor
  · rintro ⟨hwritten, hsettings⟩
    exact ⟨fun i m hm => hwritten i m (List.mem_append_left _ hm),
      ((settings_concat P events e).mp hsettings).1⟩
  · rintro ⟨hwritten, hsettings⟩
    refine ⟨?_, (settings_concat P events e).mpr ⟨hsettings, by simp [hquiet]⟩⟩
    intro i m hm
    rcases List.mem_append.mp hm with hm | hm
    · exact hwritten i m hm
    · exact absurd (List.mem_singleton.mp hm).symm (h i m)

theorem calm_message (events : List (Event n)) (i : Fin n) (m : Message) (csm : Csm)
    (hroom : Calm P events → (csm.room = 1 ↔ events.any (settling P) = false)) :
    Calm P (events ++ [.message i m]) ↔ Calm P events ∧ Heard P csm m := by
  constructor
  · rintro ⟨hwritten, hsettings⟩
    obtain ⟨hbefore, hlast⟩ := (settings_concat P events _).mp hsettings
    have hcalm : Calm P events := ⟨fun j m' h => hwritten j m' (List.mem_append_left _ h), hbefore⟩
    refine ⟨hcalm, ?_⟩
    rcases hwritten i m (List.mem_append_right _ (List.mem_singleton_self _)) with hprint | hline
    · exact Or.inr ⟨hprint, fun hannounces => (hroom hcalm).mpr (hlast hannounces)⟩
    · exact Or.inl hline
  · rintro ⟨hcalm, hheard⟩
    refine ⟨?_, (settings_concat P events _).mpr ⟨hcalm.settings, ?_⟩⟩
    · intro j m' h
      rcases List.mem_append.mp h with h | h
      · exact hcalm.written j m' h
      · cases List.mem_singleton.mp h
        rcases hheard with hline | ⟨hprint, -⟩
        · exact Or.inr hline
        · exact Or.inl hprint
    · intro hannounces
      rcases hheard with hline | ⟨-, hfree⟩
      · rw [announcing, announces_of_error P m _ hline] at hannounces
        cases hannounces
      · exact (hroom hcalm).mp (hfree hannounces)

/-- What a run of calm events leaves: room until something has settled the future, and no settings
until some have been announced. -/
structure Kept (s : Endpoint n) (events : List (Event n)) : Prop where
  room : s.csm.room = 1 ↔ events.any (settling P) = false
  none : ∀ i, settingsOf s i = none ↔ events.any (announcing P) = false

theorem kept_message (i : Fin n) (m : Message) (s : Endpoint n) (events : List (Event n))
    (h : Kept P s events) (husable : (s.peers i).usable = true) (heard : Heard P s.csm m) :
    Kept P (messageReceived P i m s).2 (events ++ [.message i m]) := by
  have hroom := room_message P i m s husable heard
  have hle := room_le s.csm
  have hone := h.room
  constructor
  · rw [any_concat, Bool.or_eq_false_iff, ← hone]
    change _ ↔ _ ∧ announces P m = false
    by_cases ha : announces P m = true
    · rw [if_pos ha] at hroom
      exact iff_of_false (by omega) (by simp [ha])
    · rw [if_neg ha] at hroom
      simp only [Bool.not_eq_true] at ha
      rw [← hroom, and_iff_left ha]
      rfl
  · intro j
    rw [settingsOf_message P i j m s husable heard, any_concat, Bool.or_eq_false_iff, h.none j,
      and_comm]
    rfl

theorem usable_iff (events : List (Event n)) :
    ((∀ i, ((run P protocols events).peers i).usable = true) ↔ Calm P events) ∧
      (Calm P events → Kept P (run P protocols events) events) := by
  induction events using List.reverseRecOn with
  | nil =>
    refine ⟨iff_of_true (fun _ => rfl) ⟨?_, List.Pairwise.nil⟩, fun _ => ⟨iff_of_true rfl rfl,
      fun _ => iff_of_true rfl rfl⟩⟩
    intro i m h
    cases h
  | append_singleton es e ih =>
    obtain ⟨hiff, hkept⟩ := ih
    rw [run_concat]
    cases e with
    | startClient =>
      obtain ⟨hpeers, hroom, hsettings⟩ := startClient_spec (run P protocols es)
      rw [calm_other P es _ (by simp)]
      refine ⟨?_, fun hcalm => ⟨?_, fun i => ?_⟩⟩
      · change (∀ i, ((startClient (run P protocols es)).peers i).usable = true) ↔ _
        rw [hpeers]
        exact hiff
      · change (startClient (run P protocols es)).csm.room = 1 ↔ _
        rw [hroom, any_concat, (hkept hcalm).room]
        simp [settling]
      · change settingsOf (startClient (run P protocols es)) i = none ↔ _
        rw [hsettings, any_concat, (hkept hcalm).none]
        simp [announcing]
    | timeOut =>
      obtain ⟨hpeers, hroom, hsettings⟩ := timeOut_spec (run P protocols es)
      rw [calm_other P es _ (by simp)]
      refine ⟨?_, fun hcalm => ⟨?_, fun i => ?_⟩⟩
      · change (∀ i, ((timeOut (run P protocols es)).peers i).usable = true) ↔ _
        rw [hpeers]
        exact hiff
      · change (timeOut (run P protocols es)).csm.room = 1 ↔ _
        rw [hroom, any_concat]
        simp [settling]
      · change settingsOf (timeOut (run P protocols es)) i = none ↔ _
        rw [hsettings, any_concat, (hkept hcalm).none]
        simp [announcing]
    | message i m =>
      rw [calm_message P es i m _ fun hcalm => (hkept hcalm).room]
      refine ⟨?_, ?_⟩
      · rw [← hiff]
        change (∀ j, ((messageReceived P i m (run P protocols es)).2.peers j).usable = true) ↔ _
        simp only [usable_message]
        exact ⟨fun h => ⟨fun j => (h j).1, (h i).2 rfl⟩, fun h j => ⟨h.1 j, fun _ => h.2⟩⟩
      · rintro ⟨hcalm, hheard⟩
        exact kept_message P i m _ es (hkept hcalm) (hiff.mpr hcalm i) hheard

theorem Calm.sublist (events events' : List (Event n)) (h : Calm P events)
    (hsub : events'.Sublist events) : Calm P events' :=
  ⟨fun i m hm => h.written i m (hsub.mem hm), h.settings.sublist hsub⟩

theorem handled_of_calm (events : List (Event n)) (h : Calm P events) (pre : List (Event n))
    (i : Fin n) (m : Message) (post : List (Event n))
    (hsplit : events = pre ++ .message i m :: post) :
    (messageReceived P i m (run P protocols pre)).1 = .ok () := by
  obtain ⟨hiff, hkept⟩ := usable_iff P protocols pre
  have hstep : Calm P (pre ++ [.message i m]) := by
    have happend : events = pre ++ [.message i m] ++ post := by simp [hsplit]
    exact h.sublist P _ _ (happend ▸ List.sublist_append_left _ post)
  obtain ⟨hcalm, hheard⟩ := (calm_message P pre i m _ fun hcalm => (hkept hcalm).room).mp hstep
  exact (messageReceived_ok P i m _ (hiff.mpr hcalm i)).mpr hheard

/-- Among calm events the one that announces is alone. -/
theorem announcing_alone (events : List (Event n)) (h : Calm P events) (e : Event n)
    (he : e ∈ events) (ha : announcing P e = true) (p : Event n → Bool) (hp : p e = false) :
    (events.filter p).any (announcing P) = false := by
  obtain ⟨pre, post, rfl⟩ := List.append_of_mem he
  have hsettles : ∀ e' : Event n, announcing P e' = true → settling P e' = true := by
    intro e' he'
    cases e' with
    | message i m => exact he'
    | startClient => cases he'
    | timeOut => rfl
  obtain ⟨-, hpost, hpre⟩ := List.pairwise_append.mp h.settings
  have hnone : ∀ e' ∈ pre ++ post, announcing P e' = false := by
    intro e' he'
    rw [← Bool.not_eq_true]
    intro ha'
    rcases List.mem_append.mp he' with hmem | hmem
    · have := hpre e' hmem e List.mem_cons_self ha
      rw [hsettles e' ha'] at this
      cases this
    · have := (List.pairwise_cons.mp hpost).1 e' hmem ha'
      rw [hsettles e ha] at this
      cases this
  rw [List.any_eq_false]
  intro e' he'
  rw [List.filter_append, List.filter_cons_of_neg (by simp [hp]), ← List.filter_append] at he'
  simp [hnone e' (List.mem_filter.mp he').1]

theorem not_own_of_two (events : List (Event n)) (h : Calm P events) (j i : Fin n) (m : Message)
    (hm : .message j m ∈ events) (hannounces : announces P m = true) (hij : i ≠ j) :
    settingsOf (run P protocols events) i ≠
      settingsOf (run P protocols (events.filter (concerns i))) i := by
  have halone := announcing_alone P events h (.message j m) hm hannounces (concerns i)
    (by simp [concerns, hij.symm])
  have hfilter : Calm P (events.filter (concerns i)) := h.sublist P _ _ List.filter_sublist
  have hsome : events.any (announcing P) = true := List.any_eq_true.mpr ⟨_, hm, hannounces⟩
  rw [(((usable_iff P protocols _).2 hfilter).none i).mpr halone, ne_eq,
    ((usable_iff P protocols events).2 h).none i, hsome]
  simp

/-- Which runs leave every connection usable and with settings of its own. -/
theorem capable_iff (events : List (Event n)) :
    Capable P protocols events ↔
      Calm P events ∧ (n ≤ 1 ∨ events.any (announcing P) = false) := by
  constructor
  · intro h
    have hcalm := (usable_iff P protocols events).1.mp h.usable
    refine ⟨hcalm, ?_⟩
    by_cases hany : events.any (announcing P) = true
    · refine Or.inl ?_
      obtain ⟨e, he, hannounces⟩ := List.any_eq_true.mp hany
      cases e with
      | startClient => cases hannounces
      | timeOut => cases hannounces
      | message j m =>
        by_contra hn
        have : Nontrivial (Fin n) := Fin.nontrivial_iff_two_le.mpr (by omega)
        obtain ⟨i, hij⟩ := exists_ne j
        exact not_own_of_two P protocols events hcalm j i m he hannounces hij (h.own i)
    · exact Or.inr (Bool.not_eq_true _ ▸ hany)
  · rintro ⟨hcalm, halone⟩
    refine ⟨fun pre i m post hsplit _ =>
        handled_of_calm P protocols events hcalm pre i m post hsplit,
      (usable_iff P protocols events).1.mpr hcalm, ?_⟩
    intro i
    rcases halone with hn | hnone
    · have hall : events.filter (concerns i) = events := by
        refine List.filter_eq_self.mpr ?_
        intro e _
        cases e with
        | startClient => rfl
        | timeOut => rfl
        | message j m =>
          have : Subsingleton (Fin n) := Fin.subsingleton_iff_le_one.mpr hn
          exact decide_eq_true (Subsingleton.elim j i)
      rw [hall]
    · have hfilter : Calm P (events.filter (concerns i)) := hcalm.sublist P _ _ List.filter_sublist
      have hnoneFilter : (events.filter (concerns i)).any (announcing P) = false := by
        rw [List.any_eq_false] at hnone ⊢
        exact fun e he => hnone e (List.mem_filter.mp he).1
      rw [(((usable_iff P protocols events).2 hcalm).none i).mpr hnone,
        (((usable_iff P protocols _).2 hfilter).none i).mpr hnoneFilter]

end

def sampleCsm : Message := { Message.new .message with code := some Codes.csm }

def sampleProtocol (i : Fin 2) : Protocol :=
  Protocol.new ("10.0.0.1".toList, 5683) "coap+tcp".toList true ("10.0.0.7".toList, 40000 + i)

/-- Two peers announce their settings: the second connection is closed. -/
theorem not_capable_two :
    ¬ ∀ events : List (Event 2), (∀ i, .message i sampleCsm ∈ events) →
      Capable plainPlatform sampleProtocol events := by
  intro h
  have hcapable := h [.message 0 sampleCsm, .message 1 sampleCsm]
    (Fin.forall_fin_two.mpr ⟨by simp, by simp⟩)
  have hok := hcapable.handled [.message 0 sampleCsm] 1 sampleCsm [] rfl rfl
  cases hok

end BubotCoap.CapabilitySettings
