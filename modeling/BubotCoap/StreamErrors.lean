import BubotCoap.DatagramReception
import BubotCoap.TcpReassembly

set_option autoImplicit false

/-!
# Bad frames in a stream

`message_received` of `coap_protocol.py` and `data_received` of
`coap_tcp_protocol.py` with all that they raise. Which streams are read to
their end.
-/
namespace BubotCoap.StreamErrors
open PythonData Defines Messages Serializer SerializerTcp SelfDelimiting TcpFraming FallibleState
  CoapTcpProtocol TcpReassembly Rendering
open DatagramReception (Coroutine handler raises logged)

/-- The future of the peer's settings, which the client replaces by its result. -/
inductive Csm where
  | pending
  | done (maxMessageSize : Value)
  | cancelled
  | settings (maxMessageSize : Value)
  deriving DecidableEq

structure Connection where
  protocol : Protocol
  csm : Csm
  /-- The arguments of `create_task`. -/
  tasks : List Coroutine

def Connection.record (c : Connection) (m : Message) : Connection :=
  { c with protocol := { c.protocol with received := c.protocol.received ++ [m] } }

def setResult (maxMessageSize : Value) : Action Failure Connection Unit := fun c =>
  match c.csm with
  | .pending => (.ok (), { c with csm := .done maxMessageSize })
  | .done _ | .cancelled => (.error .invalidStateError, c)
  | .settings _ => (.error (.raised .attributeError), c)

def isCsm (m : Message) : Bool := decide (m.kind = .message ∧ m.code = some Codes.csm)

def dispatch (m : Message) : Action Failure Connection Unit :=
  if isCsm m then setResult ((m.getOption OptionRegistry.maxMessageSize).getD (.int 1152))
  else Action.modify fun c => { c with tasks := c.tasks ++ [handler m] }

def messageReceived (P : Platform) (m : Message) : Action Failure Connection Unit := do
  Action.modify fun c => c.record m
  logged do
    let _line ← Action.ofExcept (linePrint P m)
    dispatch (printed m)

/-- Every way through the loop leaves it. The buffer is advanced once the frame has been read. -/
def dataReceived (P : Platform) (rng data : Bytes) : Action Failure Connection Unit :=
  logged do
    Action.modify fun c =>
      { c with protocol := { c.protocol with spool := c.protocol.spool ++ data } }
    let c ← Action.get
    match extractMessageSize c.protocol.spool with
    | none => pure ()
    | some (tokenoffset, tkl, l) =>
      let msgSize := tokenoffset + tkl + l
      if msgSize > c.protocol.spool.length then pure ()
      else do
        let decoded ← raises
          (deserialize rng (c.protocol.spool.take msgSize) c.protocol.remoteAddress)
        Action.modify fun c =>
          { c with protocol := { c.protocol with spool := c.protocol.spool.drop msgSize } }
        match decoded with
        -- the class has no method for bad messages
        | .code _ => Action.raise (.raised .attributeError)
        | .message m => messageReceived P (addressed c.protocol m)

/-- One call for each chunk, until one raises and the transport is closed. -/
def dataReceivedAll (P : Platform) (rng : Bytes) : List Bytes → Action Failure Connection Unit
  | [] => pure ()
  | data :: rest => do
    dataReceived P rng data
    dataReceivedAll P rng rest

def Connection.withSpool (c : Connection) (spool : Bytes) : Connection :=
  { c with protocol := { c.protocol with spool := spool } }

variable (P : Platform) (rng : Bytes)

theorem dataReceived_early (c : Connection) (data : Bytes)
    (h : next frameSize (c.protocol.spool ++ data) = none) :
    dataReceived P rng data c = (.ok (), c.withSpool (c.protocol.spool ++ data)) := by
  rw [next_eq] at h
  unfold dataReceived logged
  rw [Action.bind_ok _ (Action.modify_apply _ c), Action.bind_get]
  dsimp only
  cases hs : extractMessageSize (c.protocol.spool ++ data) with
  | none => rfl
  | some t =>
    obtain ⟨a, b, l⟩ := t
    rw [hs] at h
    dsimp only at h ⊢
    split_ifs at h with hlen
    rw [if_pos hlen]
    rfl

theorem logged_idem (x : Action Failure Connection Unit) : logged (logged x) = logged x := by
  funext c
  unfold logged
  generalize x c = r
  obtain ⟨result, c'⟩ := r
  cases result with
  | ok u => rfl
  | error e => cases e <;> rfl

theorem messageReceived_eq (m : Message) (c : Connection) :
    messageReceived P m c = (logged do
      let _line ← Action.ofExcept (linePrint P m)
      dispatch (printed m)) (c.record m) :=
  Action.bind_ok _ (Action.modify_apply _ c)

theorem dataReceived_message (c : Connection) (data f rest : Bytes) (m : Message)
    (h : next frameSize (c.protocol.spool ++ data) = some (f, rest))
    (hread : deserialize rng f c.protocol.remoteAddress = .ok (.message m)) :
    dataReceived P rng data c =
      messageReceived P (addressed c.protocol m) (c.withSpool rest) := by
  rw [next_eq] at h
  have hbody : dataReceived P rng data c =
      logged (messageReceived P (addressed c.protocol m)) (c.withSpool rest) := by
    unfold dataReceived
    unfold logged
    rw [Action.bind_ok _ (Action.modify_apply _ c), Action.bind_get]
    dsimp only
    cases hs : extractMessageSize (c.protocol.spool ++ data) with
    | none =>
      rw [hs] at h
      cases h
    | some t =>
      obtain ⟨a, b, l⟩ := t
      rw [hs] at h
      dsimp only at h ⊢
      split_ifs at h with hlen
      cases h
      rw [if_neg hlen]
      unfold raises
      rw [hread]
      rfl
  rw [hbody]
  unfold logged
  rw [messageReceived_eq]
  exact congrFun (logged_idem _) _

theorem dataReceived_unread (c : Connection) (data f rest : Bytes)
    (h : next frameSize (c.protocol.spool ++ data) = some (f, rest))
    (hread : ∀ m, deserialize rng f c.protocol.remoteAddress ≠ .ok (.message m)) :
    ∃ e, (dataReceived P rng data c).1 = .error e := by
  rw [next_eq] at h
  unfold dataReceived logged
  rw [Action.bind_ok _ (Action.modify_apply _ c), Action.bind_get]
  dsimp only
  cases hs : extractMessageSize (c.protocol.spool ++ data) with
  | none =>
    rw [hs] at h
    cases h
  | some t =>
    obtain ⟨a, b, l⟩ := t
    rw [hs] at h
    dsimp only at h ⊢
    split_ifs at h with hlen
    cases h
    rw [if_neg hlen]
    unfold raises
    cases hd : deserialize rng ((c.protocol.spool ++ data).take (a + b + l))
        c.protocol.remoteAddress with
    | error e => exact ⟨_, rfl⟩
    | ok decoded =>
      cases decoded with
      | code n => exact ⟨_, rfl⟩
      | message m => exact absurd hd (hread m)

theorem linePrint_addressed (p : Protocol) (m : Message) (e : Failure) :
    linePrint P (addressed p m) = .error e ↔ linePrint P m = .error e := by
  unfold linePrint
  dsimp only [addressed]
  split
  · change (m.options.toList.mapM (optionLine P) >>= fun options => payloadLine P m >>= fun _ =>
      _) = _ ↔ _
    cases m.options.toList.mapM (optionLine P) with
    | error e' => rfl
    | ok options =>
      rw [ok_bind, ok_bind]
      cases payloadLine P m with
      | error e' => rfl
      | ok shown => simp [ok_bind]
  · rfl

theorem printable_addressed (p : Protocol) (m : Message) :
    Printable P (addressed p m) ↔ Printable P m :=
  printable_congr P m _ rfl rfl rfl

theorem isCsm_printed (m : Message) : isCsm (printed m) = isCsm m := by
  unfold isCsm printed
  cases m.code with
  | none => simp [Codes.empty, Codes.csm]
  | some code => rfl

/-- How many more settings the future takes. -/
def Csm.room : Csm → ℕ
  | .pending => 1
  | _ => 0

/-- A message that gets as far as setting the result of the future. -/
def announces (m : Message) : Bool := isCsm m && (linePrint P m).isOk

/-- The message is handed on, or its log line fails with the exception that is caught. -/
def Heard (csm : Csm) (m : Message) : Prop :=
  linePrint P m = .error .runtimeError ∨
    Printable P m ∧ (announces P m = true → csm.room = 1)

theorem announces_of_printable (m : Message) (h : Printable P m) :
    announces P m = isCsm m := by
  obtain ⟨line, hline⟩ := (linePrint_ok_iff P m).mpr h
  simp [announces, hline, Except.isOk, Except.toBool]

theorem announces_of_error (m : Message) (e : Failure) (h : linePrint P m = .error e) :
    announces P m = false := by
  simp [announces, h, Except.isOk, Except.toBool]

theorem setResult_ok_iff (v : Value) (c : Connection) :
    (setResult v c).1 = .ok () ↔ c.csm.room = 1 := by
  unfold setResult
  cases hcsm : c.csm with
  | pending => simp [Csm.room]
  | done w => simp [Csm.room]
  | cancelled => simp [Csm.room]
  | settings w => simp [Csm.room]

theorem setResult_room (v : Value) (c : Connection) (h : c.csm.room = 1) :
    (setResult v c).2.csm.room = 0 := by
  unfold setResult
  cases hcsm : c.csm with
  | pending => rfl
  | done w => simp [hcsm, Csm.room] at h
  | cancelled => simp [hcsm, Csm.room] at h
  | settings w => simp [hcsm, Csm.room] at h

theorem setResult_protocol (v : Value) (c : Connection) :
    (setResult v c).2.protocol = c.protocol := by
  unfold setResult
  split <;> rfl

theorem logged_snd (x : Action Failure Connection Unit) (c : Connection) :
    (logged x c).2 = (x c).2 := by
  unfold logged
  split
  · next heq => rw [heq]
  · rfl

theorem messageReceived_unprinted (m : Message) (e : Failure) (c : Connection)
    (h : linePrint P m = .error e) :
    messageReceived P m c =
      (if e = .runtimeError then .ok () else .error e, c.record m) := by
  have hline : (Action.ofExcept (linePrint P m) : Action Failure Connection Line) (c.record m) =
      (.error e, c.record m) := by rw [Action.ofExcept_apply, h]
  rw [messageReceived_eq]
  unfold logged
  rw [Action.bind_error _ hline]
  cases e <;> rfl

theorem messageReceived_printed (m : Message) (c : Connection) (h : Printable P m) :
    messageReceived P m c = logged (dispatch (printed m)) (c.record m) := by
  obtain ⟨line, h⟩ := (linePrint_ok_iff P m).mpr h
  have hline : (Action.ofExcept (linePrint P m) : Action Failure Connection Line) (c.record m) =
      (.ok line, c.record m) := by rw [Action.ofExcept_apply, h]
  rw [messageReceived_eq]
  unfold logged
  rw [Action.bind_ok _ hline]

theorem messageReceived_csm (m : Message) (c : Connection) (h : Printable P m)
    (hcsm : isCsm m = true) :
    messageReceived P m c = setResult
      (((printed m).getOption OptionRegistry.maxMessageSize).getD (.int 1152)) (c.record m) := by
  rw [messageReceived_printed P m c h]
  unfold dispatch
  rw [if_pos (by rw [isCsm_printed, hcsm])]
  unfold logged setResult
  cases (c.record m).csm <;> rfl

theorem messageReceived_task (m : Message) (c : Connection) (h : Printable P m)
    (hcsm : isCsm m = false) :
    messageReceived P m c =
      (.ok (), { c.record m with tasks := c.tasks ++ [handler (printed m)] }) := by
  rw [messageReceived_printed P m c h]
  unfold dispatch
  rw [if_neg (by rw [isCsm_printed, hcsm]; decide)]
  rfl

theorem messageReceived_protocol (m : Message) (c : Connection) :
    (messageReceived P m c).2.protocol = (c.record m).protocol := by
  cases hline : linePrint P m with
  | error e => rw [messageReceived_unprinted P m e c hline]
  | ok line =>
    have hprint := (linePrint_ok_iff P m).mp ⟨line, hline⟩
    cases hcsm : isCsm m with
    | true => rw [messageReceived_csm P m c hprint hcsm, setResult_protocol]
    | false => rw [messageReceived_task P m c hprint hcsm]

/-- On the buffer and the messages handed on, a call does what the framing alone says. -/
theorem dataReceived_protocol (data : Bytes) (c : Connection) :
    (dataReceived P rng data c).2.protocol =
      (CoapTcpProtocol.dataReceived rng c.protocol data).1 := by
  unfold dataReceived CoapTcpProtocol.dataReceived
  rw [logged_snd, Action.bind_ok _ (Action.modify_apply _ c), Action.bind_get]
  dsimp only
  cases hs : extractMessageSize (c.protocol.spool ++ data) with
  | none => rfl
  | some t =>
    obtain ⟨a, b, l⟩ := t
    dsimp only
    by_cases hlen : a + b + l > (c.protocol.spool ++ data).length
    · rw [if_pos hlen, if_pos hlen]
      rfl
    · rw [if_neg hlen, if_neg hlen]
      unfold raises
      cases hd : deserialize rng ((c.protocol.spool ++ data).take (a + b + l))
          c.protocol.remoteAddress with
      | error e => rfl
      | ok decoded =>
        cases decoded with
        | code n => rfl
        | message m => exact messageReceived_protocol P _ _

theorem messageReceived_ok_iff (m : Message) (c : Connection) :
    (messageReceived P m c).1 = .ok () ↔ Heard P c.csm m := by
  unfold Heard
  cases hline : linePrint P m with
  | error e =>
    have hnot : ¬ Printable P m := by
      rw [← linePrint_ok_iff, hline]
      simp
    rw [messageReceived_unprinted P m e c hline]
    by_cases he : e = .runtimeError
    · simp [he]
    · simp [he, hnot]
  | ok line =>
    have hprint := (linePrint_ok_iff P m).mp ⟨line, hline⟩
    rw [announces_of_printable P m hprint]
    cases hcsm : isCsm m with
    | true =>
      rw [messageReceived_csm P m c hprint hcsm, setResult_ok_iff]
      simp [hprint, Connection.record]
    | false =>
      rw [messageReceived_task P m c hprint hcsm]
      simp [hprint]

theorem messageReceived_room (m : Message) (c : Connection) (h : Heard P c.csm m) :
    (messageReceived P m c).2.csm.room + (if announces P m then 1 else 0) = c.csm.room := by
  rcases h with hline | ⟨hprint, hroom⟩
  · rw [messageReceived_unprinted P m _ c hline, announces_of_error P m _ hline]
    rfl
  · rw [announces_of_printable P m hprint] at hroom ⊢
    cases hcsm : isCsm m with
    | true =>
      rw [messageReceived_csm P m c hprint hcsm, setResult_room _ (c.record m) (hroom hcsm),
        hroom hcsm]
      rfl
    | false =>
      rw [messageReceived_task P m c hprint hcsm]
      rfl

theorem announces_addressed (p : Protocol) (m : Message) :
    announces P (addressed p m) = announces P m := by
  cases hline : linePrint P m with
  | error e =>
    rw [announces_of_error P m e hline,
      announces_of_error P _ e ((linePrint_addressed P p m e).mpr hline)]
  | ok line =>
    have hprint := (linePrint_ok_iff P m).mp ⟨line, hline⟩
    rw [announces_of_printable P m hprint,
      announces_of_printable P _ ((printable_addressed P p m).mpr hprint)]
    rfl

theorem heard_addressed (p : Protocol) (csm : Csm) (m : Message) :
    Heard P csm (addressed p m) ↔ Heard P csm m := by
  unfold Heard
  rw [linePrint_addressed, printable_addressed, announces_addressed]

/-- The message a frame is read as. -/
def messageOf (rng : Bytes) (remote : Address) (frame : Bytes) : Option Message :=
  match deserialize rng frame remote with
  | .ok (.message m) => some m
  | _ => none

theorem messageOf_eq_some_iff (remote : Address) (f : Bytes) (m : Message) :
    messageOf rng remote f = some m ↔ deserialize rng f remote = .ok (.message m) := by
  unfold messageOf
  split
  · next m' h => simp [h]
  · next h =>
    refine iff_of_false (by simp) ?_
    exact h m

/-- Every frame is read, every log line can be built or fails with the exception that is caught,
and there are no more settings than the future takes. -/
structure Benign (remote : Address) (room : ℕ) (frames : List Bytes) : Prop where
  read : ∀ f ∈ frames, ∃ m, messageOf rng remote f = some m ∧
    (Printable P m ∨ linePrint P m = .error .runtimeError)
  settings : frames.countP (fun f => (messageOf rng remote f).any (announces P)) ≤ room

theorem room_le (csm : Csm) : csm.room ≤ 1 := by
  cases csm <;> simp [Csm.room]

theorem benign_cons (remote : Address) (csm : Csm) (room : ℕ) (f : Bytes) (fs : List Bytes)
    (m : Message) (hm : messageOf rng remote f = some m)
    (hroom : Heard P csm m → room + (if announces P m then 1 else 0) = csm.room) :
    Benign P rng remote csm.room (f :: fs) ↔ Heard P csm m ∧ Benign P rng remote room fs := by
  have hcount : (f :: fs).countP (fun f => (messageOf rng remote f).any (announces P)) =
      fs.countP (fun f => (messageOf rng remote f).any (announces P)) +
        (if announces P m then 1 else 0) := by
    rw [List.countP_cons, hm]
    rfl
  have hle := room_le csm
  constructor
  · rintro ⟨hread, hsettings⟩
    rw [hcount] at hsettings
    have hheard : Heard P csm m := by
      obtain ⟨m', hm', hline⟩ := hread f List.mem_cons_self
      cases Option.some.inj (hm.symm.trans hm')
      rcases hline with hprint | hline
      · refine Or.inr ⟨hprint, ?_⟩
        intro hannounces
        rw [if_pos hannounces] at hsettings
        omega
      · exact Or.inl hline
    have := hroom hheard
    exact ⟨hheard, fun g hg => hread g (List.mem_cons_of_mem f hg), by omega⟩
  · rintro ⟨hheard, hread, hsettings⟩
    have := hroom hheard
    refine ⟨?_, by rw [hcount]; omega⟩
    intro g hg
    rcases List.mem_cons.mp hg with rfl | hg
    · refine ⟨m, hm, ?_⟩
      rcases hheard with hline | ⟨hprint, _⟩
      · exact Or.inr hline
      · exact Or.inl hprint
    · exact hread g hg

theorem next_append (buf f rest : Bytes) (h : next frameSize buf = some (f, rest)) :
    buf = f ++ rest := by
  unfold next at h
  split at h
  · cases h
  · next n _ =>
    split_ifs at h
    cases h
    exact (List.take_append_drop n buf).symm

section Whole
variable (c : Connection) (data f rest : Bytes) (m : Message)
  (hnext : next frameSize (c.protocol.spool ++ data) = some (f, rest))
  (hread : deserialize rng f c.protocol.remoteAddress = .ok (.message m))
include hnext hread

theorem dataReceived_heard : (dataReceived P rng data c).1 = .ok () ↔ Heard P c.csm m := by
  rw [dataReceived_message P rng c data f rest m hnext hread, messageReceived_ok_iff,
    heard_addressed]
  rfl

theorem dataReceived_room (h : Heard P c.csm m) :
    (dataReceived P rng data c).2.csm.room + (if announces P m then 1 else 0) = c.csm.room := by
  rw [dataReceived_message P rng c data f rest m hnext hread,
    ← announces_addressed P c.protocol m]
  exact messageReceived_room P (addressed c.protocol m) (c.withSpool rest)
    ((heard_addressed P c.protocol c.csm m).mpr h)

theorem dataReceived_rest : (dataReceived P rng data c).2.protocol.spool = rest ∧
    (dataReceived P rng data c).2.protocol.remoteAddress = c.protocol.remoteAddress := by
  rw [dataReceived_message P rng c data f rest m hnext hread, messageReceived_protocol]
  exact ⟨rfl, rfl⟩

end Whole

theorem dataReceived_no_message (c : Connection) (data f rest : Bytes)
    (hnext : next frameSize (c.protocol.spool ++ data) = some (f, rest))
    (h : messageOf rng c.protocol.remoteAddress f = none) :
    ∃ e, (dataReceived P rng data c).1 = .error e := by
  apply dataReceived_unread P rng c data f rest hnext
  intro m hread
  rw [(messageOf_eq_some_iff rng _ f m).mpr hread] at h
  cases h

/-- Calls that deliver every frame to the reader raise nothing exactly if the stream is benign. -/
theorem dataReceivedAll_ok_iff (cs fs out : List Bytes) (c : Connection)
    (hf : ∀ f ∈ fs, Frame frameSize f) (hstream : c.protocol.spool ++ cs.flatten = fs.flatten)
    (hdelivered : Delivered frameSize (c.protocol.spool, out) cs fs) :
    (dataReceivedAll P rng cs c).1 = .ok () ↔
      Benign P rng c.protocol.remoteAddress c.csm.room fs := by
  induction cs generalizing c fs out with
  | nil =>
    have hout : out = out ++ fs := congrArg Prod.snd hdelivered
    have hnil : fs = [] := by simpa using hout
    subst hnil
    exact iff_of_true rfl ⟨by simp, by simp⟩
  | cons data cs ih =>
    rw [List.flatten_cons, ← List.append_assoc] at hstream
    unfold dataReceivedAll
    cases hnext : next frameSize (c.protocol.spool ++ data) with
    | none =>
      have hfeed := feed_incomplete frameSize (c.protocol.spool, out) data hnext
      rw [Action.bind_ok _ (dataReceived_early P rng c data hnext)]
      refine ih fs out (c.withSpool (c.protocol.spool ++ data)) hf hstream ?_
      unfold Delivered at hdelivered
      rw [run_cons, hfeed] at hdelivered
      exact hdelivered
    | some r =>
      obtain ⟨f, rest⟩ := r
      obtain ⟨fs, rfl, htail⟩ := next_stream frameSize frameSize_nil _ _ _ _ fs hf hstream hnext
      have hrest := (delivered_cons_whole frameSize _ data f rest fs out cs
        (hf f List.mem_cons_self) (next_append _ f rest hnext)).mp hdelivered
      cases hm : messageOf rng c.protocol.remoteAddress f with
      | none =>
        obtain ⟨e, he⟩ := dataReceived_no_message P rng c data f rest hnext hm
        have hcall : dataReceived P rng data c = (.error e, (dataReceived P rng data c).2) := by
          rw [← he]
        rw [Action.bind_error _ hcall]
        refine iff_of_false (by simp) ?_
        intro h
        obtain ⟨m, hread, _⟩ := h.read f List.mem_cons_self
        rw [hm] at hread
        cases hread
      | some m =>
        have hread := (messageOf_eq_some_iff rng _ f m).mp hm
        have hheard := dataReceived_heard P rng c data f rest m hnext hread
        have hroom := dataReceived_room P rng c data f rest m hnext hread
        obtain ⟨hspool, hremote⟩ := dataReceived_rest P rng c data f rest m hnext hread
        rw [benign_cons P rng _ c.csm _ f fs m hm hroom]
        generalize hcall : dataReceived P rng data c = r at hheard hspool hremote
        obtain ⟨result, c'⟩ := r
        cases result with
        | ok u =>
          rw [Action.bind_ok _ hcall, and_iff_right (hheard.mp rfl), ← hremote]
          exact ih fs (out ++ [f]) c' (fun g hg => hf g (List.mem_cons_of_mem f hg))
            (by rw [hspool, htail]) (by rw [hspool]; exact hrest)
        | error e =>
          rw [Action.bind_error _ hcall]
          refine iff_of_false (by simp) ?_
          intro hboth
          exact absurd (hheard.mpr hboth.1) (by simp)

theorem bind_ok_fst {α β : Type} (x : Action Failure Connection α)
    (f : α → Action Failure Connection β) (c : Connection) (b : β)
    (h : ((x >>= f) c).1 = .ok b) : ∃ a c', x c = (.ok a, c') ∧ (f a c').1 = .ok b := by
  rw [Action.bind_apply] at h
  generalize x c = r at h
  obtain ⟨result, c'⟩ := r
  cases result with
  | ok a => exact ⟨a, c', rfl, h⟩
  | error e => cases h

theorem dataReceivedAll_reader (cs out : List Bytes) (c : Connection)
    (h : (dataReceivedAll P rng cs c).1 = .ok ()) :
    ∃ ds, run frameSize (c.protocol.spool, out) cs =
        ((dataReceivedAll P rng cs c).2.protocol.spool, out ++ ds) ∧
      (dataReceivedAll P rng cs c).2.protocol.received = c.protocol.received ++
        (ds.filterMap (messageOf rng c.protocol.remoteAddress)).map (addressed c.protocol) := by
  induction cs generalizing c out with
  | nil => exact ⟨[], by simp [run, dataReceivedAll], by simp [dataReceivedAll]⟩
  | cons data cs ih =>
    unfold dataReceivedAll at h ⊢
    obtain ⟨u, c', hcall, hrest⟩ := bind_ok_fst _ _ c () h
    rw [Action.bind_ok _ hcall, run_cons]
    cases hnext : next frameSize (c.protocol.spool ++ data) with
    | none =>
      have hfeed := feed_incomplete frameSize (c.protocol.spool, out) data hnext
      rw [dataReceived_early P rng c data hnext] at hcall
      cases hcall
      rw [hfeed]
      exact ih out (c.withSpool (c.protocol.spool ++ data)) hrest
    | some r =>
      obtain ⟨f, rest⟩ := r
      have hfeed := feed_complete frameSize (c.protocol.spool, out) data f rest hnext
      cases hm : messageOf rng c.protocol.remoteAddress f with
      | none =>
        obtain ⟨e, he⟩ := dataReceived_no_message P rng c data f rest hnext hm
        rw [hcall] at he
        cases he
      | some m =>
        have hread := (messageOf_eq_some_iff rng _ f m).mp hm
        have hprotocol := messageReceived_protocol P (addressed c.protocol m) (c.withSpool rest)
        rw [← dataReceived_message P rng c data f rest m hnext hread, hcall] at hprotocol
        obtain ⟨ds, hrun, hreceived⟩ := ih (out ++ [f]) c' hrest
        refine ⟨f :: ds, ?_, ?_⟩
        · have hspool : c'.protocol.spool = rest := by rw [hprotocol]; rfl
          rw [hspool] at hrun
          rw [hfeed, hrun]
          simp
        · have haddressed : addressed c'.protocol = addressed c.protocol := by
            rw [hprotocol]; rfl
          have hremote : c'.protocol.remoteAddress = c.protocol.remoteAddress := by
            rw [hprotocol]; rfl
          have hlog : c'.protocol.received =
              c.protocol.received ++ [addressed c.protocol m] := by
            rw [hprotocol]; rfl
          rw [hreceived, haddressed, hremote, hlog]
          simp [hm]

theorem dataReceivedAll_prefix (cs ds : List Bytes) (c : Connection)
    (h : (dataReceivedAll P rng (cs ++ ds) c).1 = .ok ()) :
    (dataReceivedAll P rng cs c).1 = .ok () := by
  induction cs generalizing c with
  | nil => rfl
  | cons data cs ih =>
    rw [List.cons_append] at h
    unfold dataReceivedAll at h ⊢
    obtain ⟨u, c', hcall, hrest⟩ := bind_ok_fst _ _ c () h
    rw [Action.bind_ok _ hcall]
    exact ih c' hrest

/-- As many further calls as there are frames deliver all of them. -/
theorem delivered_further (frames chunks : List Bytes) (n : ℕ)
    (hf : ∀ f ∈ frames, Frame frameSize f) (hcut : chunks.flatten = frames.flatten)
    (hn : frames.length ≤ n) :
    Delivered frameSize ([], []) (chunks ++ List.replicate n []) frames := by
  have hflat : (chunks ++ List.replicate n []).flatten = frames.flatten := by
    simp [hcut]
  refine (delivered_iff frameSize frameSize_nil _ frames [] [] hf hflat).mpr ⟨?_, ?_⟩
  · rw [List.length_append, List.length_replicate]
    omega
  · intro i hi
    rw [List.length_append, List.length_replicate] at hi ⊢
    by_cases hlater : chunks.length ≤ i + 1
    · have htake : ((chunks ++ List.replicate n []).take (i + 1)).flatten = frames.flatten := by
        rw [List.take_append, List.take_of_length_le hlater, List.take_replicate]
        simp [hcut]
      dsimp only
      rw [List.nil_append, htake, ends_flatten]
      omega
    · omega

/-- What is asked of a stream of complete frames that arrives in chunks, followed by any number of
further calls: nothing is raised, what has left the buffer are whole frames, and in the end all
frames have left it and those that can be read have been handed on. -/
structure Continues (c : Connection) (frames chunks : List Bytes) : Prop where
  quiet : ∀ n, (dataReceivedAll P rng (chunks ++ List.replicate n []) c).1 = .ok ()
  leaves : ∀ n i, ∃ k ≤ frames.length, (frames.take k).flatten ++
    (dataReceivedAll P rng ((chunks ++ List.replicate n []).take i) c).2.protocol.spool =
      ((chunks ++ List.replicate n []).take i).flatten
  delivered : ∃ N, ∀ n ≥ N,
    (dataReceivedAll P rng (chunks ++ List.replicate n []) c).2.protocol.spool = [] ∧
    (dataReceivedAll P rng (chunks ++ List.replicate n []) c).2.protocol.received =
      (frames.filterMap (messageOf rng c.protocol.remoteAddress)).map (addressed c.protocol)

/-- The connection just made, whatever the future and the loop hold. -/
def Connection.new (endpoint : Address) (scheme : Text) (isServer : Bool) (remote : Address)
    (csm : Csm) (tasks : List Coroutine) : Connection :=
  ⟨Protocol.new endpoint scheme isServer remote, csm, tasks⟩

/-- A stream goes on behind its bad frames exactly if it has none: every frame is read, every log
line can be built or fails with the exception that is caught, and no settings are one too many. -/
theorem continues_iff (endpoint remote : Address) (scheme : Text) (isServer : Bool) (csm : Csm)
    (tasks : List Coroutine) (frames chunks : List Bytes)
    (hwhole : ∀ f ∈ frames, frameSize f = some f.length)
    (hcut : chunks.flatten = frames.flatten) :
    Continues P rng (Connection.new endpoint scheme isServer remote csm tasks) frames chunks ↔
      Benign P rng remote csm.room frames := by
  set c := Connection.new endpoint scheme isServer remote csm tasks with hc
  have hf : ∀ f ∈ frames, Frame frameSize f := fun f hmem =>
    frame_of_stable frameSize f frameSize_append (hwhole f hmem)
  have hok : ∀ n ≥ frames.length,
      (dataReceivedAll P rng (chunks ++ List.replicate n []) c).1 = .ok () ↔
        Benign P rng remote csm.room frames := by
    intro n hn
    exact dataReceivedAll_ok_iff P rng _ frames [] c hf (by simp [hc, Connection.new, Protocol.new,
      hcut]) (delivered_further frames chunks n hf hcut hn)
  constructor
  · intro h
    exact (hok frames.length le_rfl).mp (h.quiet frames.length)
  · intro h
    have hquiet : ∀ n, (dataReceivedAll P rng (chunks ++ List.replicate n []) c).1 = .ok () := by
      intro n
      have hlong := (hok (n + frames.length) (by omega)).mpr h
      rw [List.replicate_add, ← List.append_assoc] at hlong
      exact dataReceivedAll_prefix P rng _ _ c hlong
    refine ⟨hquiet, ?_, frames.length, ?_⟩
    · intro n i
      set calls := chunks ++ List.replicate n [] with hcalls
      have hstream : [] ++ (calls.take i).flatten ++ (calls.drop i).flatten = frames.flatten := by
        rw [List.nil_append, ← List.flatten_append, List.take_append_drop, hcalls]
        simp [hcut]
      have hpart : (dataReceivedAll P rng (calls.take i) c).1 = .ok () := by
        apply dataReceivedAll_prefix P rng _ (calls.drop i)
        rw [List.take_append_drop]
        exact hquiet n
      obtain ⟨ds, hrun, _⟩ := dataReceivedAll_reader P rng (calls.take i) [] c hpart
      obtain ⟨ds', rest, buf, hsplit, hbuf, hstate⟩ := run_prefix frameSize frameSize_nil
        (calls.take i) frames [] [] _ hf hstream
      have hspool := congrArg Prod.fst (hrun.symm.trans hstate)
      dsimp only at hspool
      refine ⟨ds'.length, by rw [hsplit, List.length_append]; omega, ?_⟩
      -- the part of the stream that is still to come is the same on both sides
      rw [hspool, hsplit, List.take_left' rfl]
      refine List.append_cancel_right (?_ : _ ++ (calls.drop i).flatten = _)
      rw [List.nil_append] at hstream
      rw [hstream, hsplit, List.flatten_append, List.append_assoc, ← hbuf]
    · intro n hn
      obtain ⟨ds, hrun, hreceived⟩ := dataReceivedAll_reader P rng _ [] c (hquiet n)
      have hall := delivered_further frames chunks n hf hcut hn
      obtain ⟨hspool, hds⟩ := Prod.mk.inj (hrun.symm.trans hall)
      simp only [List.nil_append] at hds
      rw [hds] at hreceived
      exact ⟨hspool, hreceived⟩

theorem continues_iff_sample :
    Continues plainPlatform []
        (Connection.new (['s'], 2) [] true (['h'], 1) .pending []) [sampleFrame, sampleFrame]
        [sampleFrame ++ sampleFrame] ↔
      Benign plainPlatform [] (['h'], 1) Csm.pending.room
        [sampleFrame, sampleFrame] :=
  continues_iff plainPlatform [] (['s'], 2) (['h'], 1) [] true .pending []
    [sampleFrame, sampleFrame] [sampleFrame ++ sampleFrame] (by decide +kernel) rfl

/-- A frame with an unknown code in front of a content response. -/
theorem not_continues :
    (∀ f ∈ [[0x00, 5], sampleFrame], frameSize f = some f.length) ∧
      ¬ Continues plainPlatform []
        (Connection.new (['s'], 2) [] true (['h'], 1) .pending []) [[0x00, 5], sampleFrame]
        [[0x00, 5] ++ sampleFrame] := by
  refine ⟨by decide +kernel, ?_⟩
  intro h
  exact absurd (h.quiet 0) (by decide +kernel)

end BubotCoap.StreamErrors
