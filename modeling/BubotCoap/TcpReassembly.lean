import BubotCoap.CoapTcpProtocol
import BubotCoap.TcpFraming

set_option autoImplicit false

namespace BubotCoap.TcpReassembly
open PythonData Defines Messages StructPack Serializer SerializerTcp SelfDelimiting TcpFraming
  CoapTcpProtocol

/-- A frame together with the message it is read as. -/
structure Readable (rng : Bytes) (remote : Address) (frame : Bytes) (m : Message) : Prop where
  sent : ∃ host sent, serialize host sent = .ok frame
  read : deserialize rng frame remote = .ok (.message m)

theorem next_eq (spool : Bytes) :
    next frameSize spool =
      match extractMessageSize spool with
      | none => none
      | some (a, b, c) =>
        if a + b + c > spool.length then none
        else some (spool.take (a + b + c), spool.drop (a + b + c)) := by
  unfold next frameSize
  cases extractMessageSize spool with
  | none => rfl
  | some s => rfl

/-- The protocol state that corresponds to a state of the frame reader, with `decode` for the
messages the frames stand for. -/
def ofReader (p : Protocol) (decode : Bytes → Message) (s : Bytes × List Bytes) : Protocol :=
  { p with
    spool := s.1
    received := p.received ++ s.2.map fun f => addressed p (decode f) }

theorem dataReceived_eq (rng : Bytes) (p : Protocol) (decode : Bytes → Message)
    (s : Bytes × List Bytes) (data : Bytes)
    (h : ∀ f rest, next frameSize (s.1 ++ data) = some (f, rest) →
      deserialize rng f p.remoteAddress = .ok (.message (decode f))) :
    dataReceived rng (ofReader p decode s) data =
      (ofReader p decode (feed frameSize s data), none) := by
  rw [next_eq] at h
  unfold dataReceived feed
  rw [next_eq]
  dsimp only [ofReader]
  cases hs : extractMessageSize (s.1 ++ data) with
  | none => rfl
  | some t =>
    obtain ⟨a, b, c⟩ := t
    rw [hs] at h
    dsimp only at h ⊢
    by_cases hlen : a + b + c > (s.1 ++ data).length
    · rw [if_pos hlen, if_pos hlen]
    · rw [if_neg hlen] at h ⊢
      rw [if_neg hlen, h _ _ rfl]
      simp [addressed]

theorem dataReceivedAll_eq (rng : Bytes) (p : Protocol) (decode : Bytes → Message)
    (cs fs : List Bytes) (tail : Bytes) (s : Bytes × List Bytes)
    (hf : ∀ f ∈ fs, Frame frameSize f)
    (hread : ∀ f ∈ fs, deserialize rng f p.remoteAddress = .ok (.message (decode f)))
    (h : s.1 ++ cs.flatten ++ tail = fs.flatten) :
    dataReceivedAll rng (ofReader p decode s) cs =
      (ofReader p decode (run frameSize s cs), none) := by
  induction cs generalizing s fs with
  | nil => rfl
  | cons c cs ih =>
    rw [List.flatten_cons, ← List.append_assoc] at h
    have hstream := h
    rw [List.append_assoc] at hstream
    have hstep := dataReceived_eq rng p decode s c (by
      intro f rest hnext
      obtain ⟨fs', rfl, _⟩ := next_stream frameSize frameSize_nil _ _ _ _ fs hf hstream hnext
      exact hread f List.mem_cons_self)
    unfold dataReceivedAll
    rw [hstep]
    dsimp only
    rw [run_cons]
    cases hnext : next frameSize (s.1 ++ c) with
    | none =>
      have hfeed := feed_incomplete frameSize s c hnext
      rw [hfeed]
      exact ih fs (s.1 ++ c, s.2) hf hread h
    | some r =>
      obtain ⟨f, rest⟩ := r
      have hfeed := feed_complete frameSize s c f rest hnext
      obtain ⟨fs', rfl, htail⟩ := next_stream frameSize frameSize_nil _ _ _ _ fs hf hstream hnext
      rw [hfeed]
      exact ih fs' (rest, s.2 ++ [f]) (fun k hk => hf k (List.mem_cons_of_mem f hk))
        (fun k hk => hread k (List.mem_cons_of_mem f hk)) (by rw [← htail, List.append_assoc])

/-- After the last chunk every message has been handed on once, in order, and the buffer is
empty. -/
def Reassembled (rng : Bytes) (p : Protocol) (chunks : List Bytes) (messages : List Message) :
    Prop :=
  dataReceivedAll rng p chunks =
    ({ p with spool := [], received := messages.map (addressed p) }, none)

def decoded (rng : Bytes) (remote : Address) (frame : Bytes) : Message :=
  match deserialize rng frame remote with
  | .ok (.message m) => m
  | _ => Message.new .message

theorem decoded_of_read (rng : Bytes) (remote : Address) (frames : List Bytes)
    (messages : List Message)
    (h : List.Forall₂ (fun f m => Frame frameSize f ∧
      deserialize rng f remote = .ok (.message m)) frames messages) :
    messages = frames.map (decoded rng remote) ∧ ∀ f ∈ frames, Frame frameSize f ∧
      deserialize rng f remote = .ok (.message (decoded rng remote f)) := by
  induction h with
  | nil => simp
  | @cons f m _ _ hf _ ih =>
    have hm : decoded rng remote f = m := by
      unfold decoded
      rw [hf.2]
    refine ⟨?_, ?_⟩
    · rw [List.map_cons, hm, ← ih.1]
    · intro g hg
      rcases List.mem_cons.mp hg with rfl | hg
      · exact ⟨hf.1, by rw [hm, hf.2]⟩
      · exact ih.2 g hg

theorem decoded_of_readable (rng : Bytes) (remote : Address) (frames : List Bytes)
    (messages : List Message) (h : List.Forall₂ (Readable rng remote) frames messages) :
    messages = frames.map (decoded rng remote) ∧ ∀ f ∈ frames, Frame frameSize f ∧
      deserialize rng f remote = .ok (.message (decoded rng remote f)) := by
  refine decoded_of_read rng remote frames messages (h.imp ?_)
  intro f m hf
  obtain ⟨host, sent, hsent⟩ := hf.sent
  exact ⟨frame_of_serialize host sent f hsent, hf.read⟩

/-- A stream of readable frames is reassembled exactly if it arrives in at least as many chunks
as frames, and after each chunk no more frames are incomplete than chunks outstanding. -/
theorem reassembled_iff (rng : Bytes) (endpoint remote : Address) (scheme : Text) (isServer : Bool)
    (frames chunks : List Bytes) (messages : List Message)
    (hread : List.Forall₂ (Readable rng remote) frames messages)
    (hcut : chunks.flatten = frames.flatten) :
    Reassembled rng (Protocol.new endpoint scheme isServer remote) chunks messages ↔
      Paced frames.length chunks fun i => ends frames (chunks.take i).flatten.length := by
  obtain ⟨hmessages, hframes⟩ := decoded_of_readable rng remote frames messages hread
  set p := Protocol.new endpoint scheme isServer remote with hp
  have hstream : [] ++ chunks.flatten ++ [] = frames.flatten := by simpa using hcut
  have hrun := dataReceivedAll_eq rng p (decoded rng remote) chunks frames [] ([], [])
    (fun f hf => (hframes f hf).1) (fun f hf => (hframes f hf).2) hstream
  have hdelivered := delivered_iff frameSize frameSize_nil chunks frames [] []
    (fun f hf => (hframes f hf).1) hcut
  simp only [List.nil_append] at hdelivered
  rw [← hdelivered]
  have hstart : ofReader p (decoded rng remote) ([], []) = p := rfl
  rw [hstart] at hrun
  unfold Reassembled Delivered
  obtain ⟨ds, rest, buf, hsplit, hbuf, hstate⟩ := run_prefix frameSize frameSize_nil chunks frames
    [] [] [] (fun f hf => (hframes f hf).1) hstream
  rw [List.append_nil] at hbuf
  rw [hbuf] at hstate
  rw [hrun, hmessages, hstate, Prod.mk.injEq, and_iff_left rfl]
  constructor
  · intro h
    -- as many messages as frames means that no frame is left
    have hreceived := congrArg (fun q => q.received.length) h
    simp only [ofReader, hp, Protocol.new, List.nil_append, List.length_map, hsplit,
      List.length_append] at hreceived
    have : rest = [] := List.length_eq_zero_iff.mp (by omega)
    rw [hsplit, this]
    simp
  · intro h
    obtain ⟨hrest, hds⟩ := Prod.mk.inj h
    simp only [List.nil_append] at hds
    rw [hrest, hds]
    simp [ofReader, hp, Protocol.new]

def sampleRead : Message :=
  decoded [] (['h'], 1) sampleFrame

theorem sampleFrame_readable : Readable [] (['h'], 1) sampleFrame sampleRead where
  sent := ⟨littleEndianHost, sampleContent, serialize_sampleContent⟩
  read := by decide +kernel

theorem reassembled_iff_sample :
    Reassembled [] (Protocol.new (['s'], 2) [] true (['h'], 1))
        [sampleFrame, sampleFrame] [sampleRead, sampleRead] ↔
      Paced 2 [sampleFrame, sampleFrame] fun i =>
        ends [sampleFrame, sampleFrame] (([sampleFrame, sampleFrame].take i).flatten.length) :=
  reassembled_iff [] (['s'], 2) (['h'], 1) [] true [sampleFrame, sampleFrame]
    [sampleFrame, sampleFrame] [sampleRead, sampleRead]
    (.cons sampleFrame_readable (.cons sampleFrame_readable .nil)) rfl

theorem not_reassembled_one_chunk :
    List.Forall₂ (Readable [] (['h'], 1)) [sampleFrame, sampleFrame] [sampleRead, sampleRead] ∧
      [sampleFrame ++ sampleFrame].flatten = [sampleFrame, sampleFrame].flatten ∧
      ¬ Reassembled [] (Protocol.new (['s'], 2) [] true (['h'], 1))
        [sampleFrame ++ sampleFrame] [sampleRead, sampleRead] := by
  refine ⟨.cons sampleFrame_readable (.cons sampleFrame_readable .nil), rfl, ?_⟩
  intro h
  have hspool := congrArg (fun r => r.1.spool) h
  revert hspool
  decide +kernel

/-- A complete frame that the deserializer reads as the message `m`. -/
structure Accepted (rng : Bytes) (remote : Address) (frame : Bytes) (m : Message) : Prop where
  whole : frameSize frame = some frame.length
  read : deserialize rng frame remote = .ok (.message m)

/-- After every call the frames handed on so far, followed by the buffer, are the bytes received,
and what has been handed on are the messages of these frames. -/
theorem received_bytes_conserved (rng : Bytes) (endpoint remote : Address) (scheme : Text)
    (isServer : Bool) (frames chunks : List Bytes) (messages : List Message)
    (haccepted : List.Forall₂ (Accepted rng remote) frames messages)
    (hcut : chunks.flatten = frames.flatten) (i : ℕ) :
    ∃ p k, dataReceivedAll rng (Protocol.new endpoint scheme isServer remote) (chunks.take i) =
        (p, none) ∧ k ≤ frames.length ∧ p.received = (messages.take k).map (addressed p) ∧
      (frames.take k).flatten ++ p.spool = (chunks.take i).flatten := by
  obtain ⟨hmessages, hframes⟩ := decoded_of_read rng remote frames messages (haccepted.imp
    fun f m hf => ⟨frame_of_stable frameSize f frameSize_append hf.whole, hf.read⟩)
  set p := Protocol.new endpoint scheme isServer remote with hp
  have hstream : [] ++ (chunks.take i).flatten ++ (chunks.drop i).flatten = frames.flatten := by
    rw [List.nil_append, ← List.flatten_append, List.take_append_drop, hcut]
  have hrun := dataReceivedAll_eq rng p (decoded rng remote) (chunks.take i) frames _ ([], [])
    (fun f hf => (hframes f hf).1) (fun f hf => (hframes f hf).2) hstream
  obtain ⟨ds, rest, buf, hsplit, hbuf, hstate⟩ := run_prefix frameSize frameSize_nil
    (chunks.take i) frames [] [] _ (fun f hf => (hframes f hf).1) hstream
  have hstart : ofReader p (decoded rng remote) ([], []) = p := rfl
  rw [hstart, hstate] at hrun
  refine ⟨_, ds.length, hrun, by rw [hsplit, List.length_append]; omega, ?_, ?_⟩
  · rw [hmessages, hsplit, List.map_append, List.take_left' (List.length_map _), List.map_map]
    rfl
  · -- the part of the stream that is still to come is the same on both sides
    rw [hsplit, List.take_left' rfl]
    refine List.append_cancel_right (?_ : _ ++ (chunks.drop i).flatten = _)
    rw [List.nil_append] at hstream
    rw [hstream, hsplit, List.flatten_append, List.append_assoc, ← hbuf]
    rfl

theorem received_bytes_conserved_sample :
    ∃ p k, dataReceivedAll [] (Protocol.new (['s'], 2) [] true (['h'], 1))
        ([sampleFrame ++ sampleFrame, [], []].take 2) = (p, none) ∧
      k ≤ [sampleFrame, sampleFrame].length ∧
      p.received = ([sampleRead, sampleRead].take k).map (addressed p) ∧
      ([sampleFrame, sampleFrame].take k).flatten ++ p.spool =
        ([sampleFrame ++ sampleFrame, [], []].take 2).flatten :=
  received_bytes_conserved [] (['s'], 2) (['h'], 1) [] true [sampleFrame, sampleFrame]
    [sampleFrame ++ sampleFrame, [], []] [sampleRead, sampleRead]
    (.cons ⟨by decide +kernel, sampleFrame_readable.read⟩
      (.cons ⟨by decide +kernel, sampleFrame_readable.read⟩ .nil)) rfl 2

end BubotCoap.TcpReassembly
