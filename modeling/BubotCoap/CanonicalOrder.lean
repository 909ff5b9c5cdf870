import BubotCoap.OptionAccess
import BubotCoap.SerializerTcp
import BubotCoap.SerializerUdp

set_option autoImplicit false

namespace BubotCoap.CanonicalOrder
open PythonData Defines Options Messages OptionAccess StructPack StableSort Serializer

/-- Every number has the same options in both lists, in the same order. -/
def SameByNumber (os os' : OptionList) : Prop := ∀ number, ofNumber number os = ofNumber number os'

theorem asSortedList_congr (os os' : OptionList) (h : SameByNumber os os') :
    asSortedList os = asSortedList os' :=
  sortBy_congr CoapOption.number os.toList os'.toList h

theorem bodyFields_congr (m m' : Message) (hoptions : SameByNumber m.options m'.options)
    (hpayload : m.payload = m'.payload) : bodyFields m = bodyFields m' := by
  unfold bodyFields
  rw [asSortedList_congr _ _ hoptions, hpayload]

/-- Two messages that differ in the interleaving of their options only have the same encodings: the
same bytes, or the same exception. -/
theorem serialize_congr (host : Layout) (m m' : Message) (hcode : m.code = m'.code)
    (htype : m.type = m'.type) (hmid : m.mid = m'.mid) (htoken : m.token = m'.token)
    (hpayload : m.payload = m'.payload) (hoptions : SameByNumber m.options m'.options) :
    SerializerUdp.serialize m = SerializerUdp.serialize m' ∧
      SerializerTcp.serialize host m = SerializerTcp.serialize host m' := by
  have hbody := bodyFields_congr m m' hoptions hpayload
  constructor
  · unfold SerializerUdp.serialize SerializerUdp.headerFields
    rw [htype, htoken, hcode, hmid, hbody]
  · unfold SerializerTcp.serialize SerializerTcp.bodyBytes
    rw [htoken, hcode, hbody]

theorem accepts_segment (c : Char) : accepts OptionRegistry.uriPath.valueType (.str [c]) = true :=
  rfl

theorem accepts_length : accepts OptionRegistry.size1.valueType (.int 300) = true := rfl

def segment (c : Char) : CoapOption :=
  ⟨OptionRegistry.uriPath, .str [c], find?_uriPath, accepts_segment c⟩

def length300 : CoapOption := ⟨OptionRegistry.size1, .int 300, find?_size1, accepts_length⟩

def samplePut (options : List CoapOption) (h : Once options) : Message :=
  { Message.new .request with
    type := some .CON
    code := some Codes.put
    mid := some 7
    token := some [1]
    options := ⟨options, h⟩
    payload := some (.bytes [9]) }

theorem serialize_interleaved :
    SerializerUdp.serialize (samplePut [length300, segment 'a', segment 'b'] (by decide)) =
        SerializerUdp.serialize (samplePut [segment 'a', length300, segment 'b'] (by decide)) ∧
      SerializerTcp.serialize littleEndianHost
          (samplePut [length300, segment 'a', segment 'b'] (by decide)) =
        SerializerTcp.serialize littleEndianHost
          (samplePut [segment 'a', length300, segment 'b'] (by decide)) := by
  refine serialize_congr littleEndianHost _ _ rfl rfl rfl rfl rfl fun number => ?_
  unfold ofNumber
  by_cases hsize : length300.number = number
  · subst hsize
    decide
  · change List.filter _ [length300, segment 'a', segment 'b'] =
      List.filter _ [segment 'a', length300, segment 'b']
    simp [List.filter_cons, hsize]

end BubotCoap.CanonicalOrder
