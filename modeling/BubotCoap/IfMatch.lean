import BubotCoap.DecodedOptions
import BubotCoap.Execution

set_option autoImplicit false

namespace BubotCoap.IfMatch
open PythonData Defines Options Messages OrderedDict Resources ResourceLayer Transactions FallibleState
  DecodedOptions

/-- A POST to a resource, or a PUT. -/
inductive Update where
  | post
  | put
  deriving DecidableEq

variable {ω : Type} (handlers : Handlers ω)

def Update.run (rid : ℕ) : Update → Action Stop (Scene ω) Unit
  | .post => editResource handlers rid
  | .put => updateResource handlers rid

/-- The ETags are assigned one after the other. -/
def assignEtags (r : Resource) (etags : List Value) : Except PyErr Resource :=
  etags.foldlM Resource.setEtag r

/-- The last of the assigned ETags, as bytes. -/
def current (etags : List Value) : Option Bytes :=
  etags.getLast?.bind fun etag => (Resource.etagBytes etag).toOption

/-- The ETag is among the values, or one of them is empty. -/
def Matches (etag : Option Bytes) (request : Message) : Prop :=
  (∃ b, etag = some b ∧ .bytes b ∈ ifMatch request) ∨ .bytes [] ∈ ifMatch request

/-- A handler is called just if the resource's ETag matches; otherwise the answer is 4.12 and
everything stays as it is. -/
structure Protects (update : Update) (rid : ℕ) (s : Scene ω) : Prop where
  called : (update.run handlers rid s).2.calls ≠ s.calls ↔
    Matches (s.app.resources rid).etag s.transaction.request
  refused : ¬ Matches (s.app.resources rid).etag s.transaction.request →
    (update.run handlers rid s).1 = .ok () ∧
      (update.run handlers rid s).2.transaction.response.bind Message.code =
        some Codes.preconditionFailed ∧
      (update.run handlers rid s).2.app = s.app

theorem etag_assigned (r r' : Resource) (etags : List Value) (hnew : r.etags = [])
    (h : assignEtags r etags = .ok r') : r'.etag = current etags := by
  rcases List.eq_nil_or_concat etags with rfl | ⟨etags, etag, rfl⟩
  · rw [← Except.ok.inj h]
    unfold Resource.etag
    rw [hnew]
    rfl
  · unfold assignEtags at h
    rw [List.concat_eq_append, List.foldlM_append] at h
    obtain ⟨r₁, _, h⟩ := (bind_eq_ok _ _ _).mp h
    obtain ⟨r₂, hset, h⟩ := (bind_eq_ok _ _ _).mp h
    unfold Resource.setEtag at hset
    cases hbytes : Resource.etagBytes etag with
    | error e =>
      rw [hbytes] at hset
      cases hset
    | ok b =>
      rw [hbytes] at hset
      rw [← Except.ok.inj h, ← Except.ok.inj hset]
      unfold current Resource.etag
      rw [List.concat_eq_append, List.getLast?_concat, List.getLast?_concat, Option.bind_some,
        hbytes]
      rfl

theorem ifMatch_bytes (m request : Message) (hwire : FromWire m)
    (hoptions : request.options = m.options) (v : Value) (h : v ∈ ifMatch request) :
    ∃ b, v = .bytes b := by
  unfold ifMatch at h
  obtain ⟨o, ho, rfl⟩ := List.mem_map.mp h
  rw [List.mem_filter, hoptions, decide_eq_true_iff] at ho
  have hitem : o.item = OptionRegistry.ifMatch := by
    have hregistered := o.registered
    change OptionRegistry.find? o.number = some o.item at hregistered
    rw [ho.2] at hregistered
    exact (Option.some.inj hregistered).symm
  obtain ⟨b, hb⟩ := hwire.opaqueBytes m o ho.1 (by rw [hitem]; rfl)
  refine ⟨b, ?_⟩
  unfold CoapOption.value
  rw [hb]

theorem mismatch_of_wire (m request : Message) (etag : Option Bytes) (hwire : FromWire m)
    (hoptions : request.options = m.options) (hvalues : ifMatch request ≠ []) :
    mismatch request etag = true := by
  have hbytes := ifMatch_bytes m request hwire hoptions
  unfold mismatch
  refine decide_eq_true ⟨hvalues, fun h => ?_, fun h => ?_⟩
  · obtain ⟨b, hb⟩ := hbytes _ h
    cases hb
  · obtain ⟨b, hb⟩ := hbytes _ h
    cases hb

theorem run_mismatch (update : Update) (rid : ℕ) (s : Scene ω) (given : Message)
    (hresponse : s.transaction.response = some given)
    (h : mismatch s.transaction.request (s.app.resources rid).etag = true) :
    (update.run handlers rid s).1 = .ok () ∧
      (update.run handlers rid s).2.calls = s.calls ∧
      (update.run handlers rid s).2.transaction.response =
        some { given with code := some Codes.preconditionFailed } ∧
      (update.run handlers rid s).2.app = s.app := by
  have hset := fun s : Scene ω => Execution.setCode_apply s Codes.preconditionFailed given
  cases update with
  | post =>
    have hrun : Update.run handlers rid .post s = _ := Execution.editResource_turned handlers rid s h
    rw [hrun, hset (s.setResource rid) hresponse]
    exact ⟨rfl, rfl, rfl, rfl⟩
  | put =>
    have hrun : Update.run handlers rid .put s = _ :=
      Execution.updateResource_turned handlers rid s (Or.inl h)
    rw [hrun, hset s hresponse]
    exact ⟨rfl, rfl, rfl, rfl⟩

/-- The check protects a resource exactly from the requests that do not match. -/
theorem protects_iff (update : Update) (rid : ℕ) (etags : List Value) (s : Scene ω)
    (r : Resource) (m given : Message) (hresponse : s.transaction.response = some given)
    (hnew : r.etags = []) (hetags : assignEtags r etags = .ok (s.app.resources rid))
    (hwire : FromWire m) (hoptions : s.transaction.request.options = m.options)
    (hvalues : ifMatch s.transaction.request ≠ []) :
    Protects handlers update rid s ↔ ¬ Matches (current etags) s.transaction.request := by
  obtain ⟨hok, hcalls, hreply, happ⟩ := run_mismatch handlers update rid s given hresponse
    (mismatch_of_wire m s.transaction.request (s.app.resources rid).etag hwire hoptions hvalues)
  rw [← etag_assigned r (s.app.resources rid) etags hnew hetags]
  constructor
  · intro hprotects hmatches
    exact hprotects.called.mpr hmatches hcalls
  · intro hno
    refine ⟨iff_of_false (fun hne => hne hcalls) hno, fun _ => ⟨hok, ?_, happ⟩⟩
    rw [hreply]
    rfl

/-- A PUT with the one If-Match value `01`. -/
def sampleDatagram : Bytes := [0x40, 3, 0, 7, 0x11, 0x01]

def samplePut : Message :=
  ((SerializerUdp.deserialize [] sampleDatagram (['c'], 1)).toOption.bind Serializer.Decoded.message?).getD
    (Message.new .request)

def sampleScene (etags : List Bytes) : Scene Unit where
  app := ⟨fun _ => { Resource.new true true true with etags := etags }, Dict.empty, ()⟩
  calls := []
  transaction :=
    { Transaction.new samplePut 0 with response := some (Message.new .response) }

def sampleHandlers : Handlers Unit where
  platform := Rendering.plainPlatform
  isAsync _ _ := true
  render _ rid _ _ app := ⟨.resource rid, id, app⟩

theorem fromWire_samplePut : FromWire samplePut :=
  .udp [] sampleDatagram (['c'], 1) samplePut (by decide +kernel)

theorem protects_other :
    Protects sampleHandlers .put 0 (sampleScene [[1], [2]]) ↔
      ¬ Matches (current [.bytes [1], .str [Char.ofNat 2]]) samplePut :=
  protects_iff sampleHandlers .put 0 [.bytes [1], .str [Char.ofNat 2]] (sampleScene [[1], [2]])
    (Resource.new true true true) samplePut (Message.new .response) rfl rfl rfl
    fromWire_samplePut rfl (by decide +kernel)

/-- The value is the ETag of the resource, and no handler is called. -/
theorem not_protects :
    FromWire samplePut ∧ Matches (some [1]) samplePut ∧
      ¬ Protects sampleHandlers .put 0 (sampleScene [[1]]) := by
  have hmatches : Matches (some [1]) samplePut := Or.inl ⟨[1], rfl, by decide +kernel⟩
  exact ⟨fromWire_samplePut, hmatches, fun h => h.called.mpr hmatches (by decide +kernel)⟩

end BubotCoap.IfMatch
