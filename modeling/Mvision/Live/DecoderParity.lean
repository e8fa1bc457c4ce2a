import Mvision.Library.MessagePackWriter
import Mvision.Live.MirroredReading

/-!
# The two decoders

`decode_message` and `decode_live_message` share the wire format, and each has checks that the
other lacks.  They agree on a frame that passes all of these checks and on one that fails some
of either side.
-/

namespace Mvision.Live

open Mvision.Library Mvision.Live.Wire
open Native (readMap)
open Protocol (readable ofTexts)

/-- The first value of the payload of a frame, and what follows it. -/
def Carries (frame : List UInt8) (value : Object) (rest : List UInt8) : Prop :=
  ∃ input, Protocol.framePayload frame = .ok input ∧ unpack input = some (value, rest)

theorem Carries.unique {frame rest rest' : List UInt8} {value value' : Object}
    (h : Carries frame value rest) (h' : Carries frame value' rest') :
    value = value' ∧ rest = rest' := by
  obtain ⟨input, hinput, hunpack⟩ := h
  obtain ⟨input', hinput', hunpack'⟩ := h'
  obtain rfl := Except.ok.inj (hinput.symm.trans hinput')
  exact Prod.mk.injEq _ _ _ _ ▸ Option.some.inj (hunpack.symm.trans hunpack')

/-! ## What the decoders do with a frame -/

theorem textEntries_eq_some_iff {entries : List (Protocol.DictKey × Object)}
    {payload : List (String × Object)} :
    Protocol.textEntries entries = some payload ↔ entries = ofTexts payload := by
  unfold Protocol.textEntries
  constructor
  · intro h
    induction entries generalizing payload with
    | nil =>
        obtain rfl : [] = payload := Option.some.inj h
        rfl
    | cons entry entries ih =>
        obtain ⟨key, value⟩ := entry
        rw [List.mapM_cons] at h
        cases key with
        | bytes bytes => cases h
        | text name =>
            obtain ⟨entry, hentry, h⟩ := Option.bind_eq_some_iff.mp h
            obtain ⟨payload', hrest, hpayload⟩ := Option.bind_eq_some_iff.mp h
            obtain rfl : (name, value) = entry := Option.some.inj hentry
            obtain rfl : (name, value) :: payload' = payload := Option.some.inj hpayload
            rw [ih hrest]
            rfl
  · rintro rfl
    induction payload with
    | nil => rfl
    | cons entry payload ih =>
        rw [ofTexts, List.map_cons, List.mapM_cons]
        unfold ofTexts at ih
        rw [ih]
        rfl

theorem unpackb_eq_some_iff {input : List UInt8} {value : Object} :
    Protocol.unpackb input = some value ↔
      unpack input = some (value, []) ∧ readable value = true := by
  unfold Protocol.unpackb
  split
  · rename_i other hother
    rw [hother, Option.some.injEq, Prod.mk.injEq, and_iff_left rfl]
    split
    · rename_i hreadable
      rw [Option.some.injEq]
      constructor
      · rintro rfl
        exact ⟨rfl, hreadable⟩
      · exact And.left
    · rename_i hreadable
      refine iff_of_false nofun ?_
      rintro ⟨rfl, h⟩
      exact hreadable h
  · rename_i hother
    refine iff_of_false nofun ?_
    rintro ⟨h, -⟩
    exact hother value h

theorem decodeMessage_ok_iff {frame : List UInt8} {message : LiveMessage} :
    Protocol.decodeMessage frame = .ok message ↔
      ∃ value payload, Carries frame value [] ∧ readable value = true ∧
        Protocol.dict value = some (ofTexts payload) ∧
        Protocol.decodePayload payload = .ok message := by
  unfold Protocol.decodeMessage Carries
  rw [bind_ok_iff]
  constructor
  · rintro ⟨input, hinput, h⟩
    split at h
    · cases h
    · rename_i value hvalue
      obtain ⟨hunpack, hreadable⟩ := unpackb_eq_some_iff.mp hvalue
      split at h
      · cases h
      · rename_i payload hpayload
        obtain ⟨entries, hdict, htexts⟩ := Option.bind_eq_some_iff.mp hpayload
        rw [textEntries_eq_some_iff] at htexts
        subst htexts
        exact ⟨value, payload, ⟨input, hinput, hunpack⟩, hreadable, hdict, h⟩
  · rintro ⟨value, payload, ⟨input, hinput, hunpack⟩, hreadable, hdict, h⟩
    refine ⟨input, hinput, ?_⟩
    rw [unpackb_eq_some_iff.mpr ⟨hunpack, hreadable⟩]
    dsimp only
    rw [hdict, Option.bind_some, textEntries_eq_some_iff.mpr rfl]
    exact h

theorem decodeLiveMessage_ok_iff {frame : List UInt8} {message : Native.LiveMessage} :
    Native.decodeLiveMessage frame = .ok message ↔
      ∃ value rest values, Carries frame value rest ∧ value.asStringMap = some values ∧
        Native.decodePayload values = .ok message := by
  unfold Native.decodeLiveMessage Carries
  rw [bind_ok_iff]
  constructor
  · rintro ⟨input, hinput, h⟩
    split at h
    · cases h
    · rename_i value rest hunpack
      obtain ⟨values, hvalues, h⟩ := bind_ok_iff.mp h
      exact ⟨value, rest, values, ⟨input, hinput, hunpack⟩, Native.objectMap_ok_iff.mp hvalues, h⟩
  · rintro ⟨value, rest, values, ⟨input, hinput, hunpack⟩, hvalues, h⟩
    refine ⟨input, hinput, ?_⟩
    rw [hunpack]
    exact bind_ok_iff.mpr ⟨values, Native.objectMap_ok_iff.mpr hvalues, h⟩

/-! ## The checks of one side -/

/-- What only the Python side checks of a frame: nothing follows the value, the texts are
UTF-8, the keys of the map are texts, and the fields pass its own checks. -/
structure PythonChecks (value : Object) (rest : List UInt8) (type : MessageType)
    (values : Native.ObjectMap) : Prop where
  complete : rest = []
  readable : readable value = true
  keys : TextKeys value
  reads : PythonReads type values

section Frames

variable {frame rest : List UInt8} {value : Object} {values : Native.ObjectMap}
  {type : MessageType}

theorem message_unique {type' : MessageType} (h : Message type values)
    (h' : Message type' values) : type = type' := by
  have htext := Protocol.text_inj.mp (h.messageType.symm.trans h'.messageType)
  exact Except.ok.inj
    ((Protocol.messageType_ok_iff.mpr htext).symm.trans (Protocol.messageType_ok_iff.mpr rfl))

/-- A dictionary of texts is the map that the worker reads. -/
theorem asStringMap_of_dict {payload : List (String × Object)} (hr : readable value = true)
    (hdict : Protocol.dict value = some (ofTexts payload)) :
    TextKeys value ∧ value.asStringMap = some (readMap payload) := by
  have hkeys : TextKeys value := by
    refine Protocol.textKeys_of_dict hr hdict fun entry hentry => ?_
    obtain ⟨text, -, rfl⟩ := List.mem_map.mp hentry
    exact ⟨text.1, rfl⟩
  obtain ⟨payload', hdict', hmap⟩ :=
    Protocol.dict_of_textKeys hr (Protocol.isMap_of_dict hdict) hkeys
  have htexts : ofTexts payload = ofTexts payload' := Option.some.inj (hdict.symm.trans hdict')
  have hinjective : Function.Injective fun entry : String × Object =>
      (Protocol.DictKey.text entry.1, entry.2) := by
    rintro ⟨name, value⟩ ⟨name', value'⟩ h
    obtain ⟨hname, hvalue⟩ := Prod.mk.inj h
    exact Prod.ext (Protocol.text_injective hname) hvalue
  rw [List.map_injective_iff.mpr hinjective htexts]
  exact ⟨hkeys, hmap⟩

/-- The Python side accepts a frame of the wire format by its own checks. -/
theorem python_accepts_iff (hframe : Carries frame value rest)
    (hvalues : value.asStringMap = some values) (hmessage : Message type values) :
    (∃ message, Protocol.decodeMessage frame = .ok message) ↔
      PythonChecks value rest type values := by
  simp only [decodeMessage_ok_iff]
  constructor
  · rintro ⟨message, value', payload, hframe', hreadable, hdict, h⟩
    obtain ⟨rfl, rfl⟩ := hframe.unique hframe'
    obtain ⟨hkeys, hmap⟩ := asStringMap_of_dict hreadable hdict
    obtain rfl : values = readMap payload := Option.some.inj (hvalues.symm.trans hmap)
    have hfields := Protocol.readable_field (Protocol.readable_of_asStringMap hreadable hmap)
    obtain ⟨type', hmessage', hreads⟩ :=
      (Protocol.decodePayload_succeeds hfields).mp ⟨message, h⟩
    rw [message_unique hmessage' hmessage] at hreads
    exact ⟨rfl, hreadable, hkeys, hreads⟩
  · rintro ⟨rfl, hreadable, hkeys, hreads⟩
    obtain ⟨payload, hdict, hmap⟩ :=
      Protocol.dict_of_textKeys hreadable (Native.isMap_of_asStringMap hvalues) hkeys
    obtain rfl : values = readMap payload := Option.some.inj (hvalues.symm.trans hmap)
    have hfields := Protocol.readable_field (Protocol.readable_of_asStringMap hreadable hmap)
    obtain ⟨message, h⟩ := (Protocol.decodePayload_succeeds hfields).mpr ⟨type, hmessage, hreads⟩
    exact ⟨message, value, payload, hframe, hreadable, hdict, h⟩

theorem packable_of_carries (hframe : Carries frame value rest) : value.packable = true := by
  obtain ⟨input, -, hunpack⟩ := hframe
  exact unpack_packable hunpack

/-- The worker accepts a frame of the wire format by its own checks. -/
theorem native_accepts_iff (hframe : Carries frame value rest)
    (hvalues : value.asStringMap = some values) (hmessage : Message type values) :
    (∃ message, Native.decodeLiveMessage frame = .ok message) ↔ NativeReads type values := by
  have hfields := Native.packable_field
    (Native.packable_of_asStringMap (packable_of_carries hframe) hvalues)
  simp only [decodeLiveMessage_ok_iff]
  constructor
  · rintro ⟨message, value', rest', values', hframe', hvalues', h⟩
    obtain ⟨rfl, rfl⟩ := hframe.unique hframe'
    obtain rfl : values = values' := Option.some.inj (hvalues.symm.trans hvalues')
    obtain ⟨type', hmessage', hreads⟩ := (Native.decodePayload_succeeds hfields).mp ⟨message, h⟩
    rw [message_unique hmessage' hmessage] at hreads
    exact hreads
  · intro hreads
    obtain ⟨message, h⟩ := (Native.decodePayload_succeeds hfields).mpr ⟨type, hmessage, hreads⟩
    exact ⟨message, value, rest, values, hframe, hvalues, h⟩

/-- A frame that either side accepts is one of the wire format. -/
theorem exists_message_of_python {message : LiveMessage}
    (h : Protocol.decodeMessage frame = .ok message) :
    ∃ value rest values type, Carries frame value rest ∧ value.asStringMap = some values ∧
      Message type values := by
  obtain ⟨value, payload, hframe, hreadable, hdict, h⟩ := decodeMessage_ok_iff.mp h
  obtain ⟨-, hmap⟩ := asStringMap_of_dict hreadable hdict
  have hfields := Protocol.readable_field (Protocol.readable_of_asStringMap hreadable hmap)
  obtain ⟨type, hmessage, -⟩ := (Protocol.decodePayload_succeeds hfields).mp ⟨message, h⟩
  exact ⟨value, [], _, type, hframe, hmap, hmessage⟩

theorem exists_message_of_native {message : Native.LiveMessage}
    (h : Native.decodeLiveMessage frame = .ok message) :
    ∃ value rest values type, Carries frame value rest ∧ value.asStringMap = some values ∧
      Message type values := by
  obtain ⟨value, rest, values, hframe, hvalues, h⟩ := decodeLiveMessage_ok_iff.mp h
  have hfields := Native.packable_field
    (Native.packable_of_asStringMap (packable_of_carries hframe) hvalues)
  obtain ⟨type, hmessage, -⟩ := (Native.decodePayload_succeeds hfields).mp ⟨message, h⟩
  exact ⟨value, rest, values, type, hframe, hvalues, hmessage⟩

/-- Two accepted messages are equal if the number of the GPU has a place in the struct. -/
theorem mirrors_iff (hframe : Carries frame value rest)
    (hvalues : value.asStringMap = some values) (hmessage : Message type values)
    {python : LiveMessage} {native : Native.LiveMessage}
    (hpython : Protocol.decodeMessage frame = .ok python)
    (hnative : Native.decodeLiveMessage frame = .ok native) :
    Mirrors Rounded python native ↔
      (type = .start → AtMost 4294967295 (field values "gpu_id")) := by
  obtain ⟨value', payload, hframe', hreadable, hdict, hpython⟩ := decodeMessage_ok_iff.mp hpython
  obtain ⟨rfl, -⟩ := hframe.unique hframe'
  obtain ⟨-, hmap⟩ := asStringMap_of_dict hreadable hdict
  obtain rfl : values = readMap payload := Option.some.inj (hvalues.symm.trans hmap)
  obtain ⟨value', rest', values', hframe', hvalues', hnative⟩ :=
    decodeLiveMessage_ok_iff.mp hnative
  obtain ⟨rfl, -⟩ := hframe.unique hframe'
  obtain rfl : readMap payload = values' := Option.some.inj (hvalues.symm.trans hvalues')
  have hr := Protocol.readable_field (Protocol.readable_of_asStringMap hreadable hmap)
  have hpack := Native.packable_field
    (Native.packable_of_asStringMap (packable_of_carries hframe) hvalues)
  obtain ⟨header, hheader, hnamed, hbody⟩ := Protocol.decodePayload_cases hpython
  obtain ⟨header', type', hheader', -, hfield', hbody'⟩ := Native.decodePayload_cases hnative
  -- both headers have the type of the payload
  have htypes {a b : MessageType} (ha : field (readMap payload) "message_type" = .text a.text)
      (hb : field (readMap payload) "message_type" = .text b.text) : a = b := by
    have htext := Protocol.text_inj.mp (ha.symm.trans hb)
    exact Except.ok.inj
      ((Protocol.messageType_ok_iff.mpr htext).symm.trans (Protocol.messageType_ok_iff.mpr rfl))
  obtain rfl := htypes hmessage.messageType hfield'
  have htype := htypes (Protocol.header_type hheader) hmessage.messageType
  rw [htype] at hnamed
  have hread (name : String) (hname : name ∈ Protocol.headerFields) :=
    Protocol.subscript_of_named hnamed (Native.header_names type name hname)
  exact message_mirrors (header_mirrors hread hpack hheader hheader') hnamed hr hpack htype hbody
    hbody'

/-! ## Agreement -/

/-- The decoders accept the frame or reject it, and read the same message. -/
def DecodersAgree (frame : List UInt8) : Prop :=
  ((∃ message, Protocol.decodeMessage frame = .ok message) ↔
      ∃ message, Native.decodeLiveMessage frame = .ok message) ∧
    ∀ python native, Protocol.decodeMessage frame = .ok python →
      Native.decodeLiveMessage frame = .ok native → Mirrors Rounded python native

/-- A payload of the wire format passes all the checks of one side, or fails some of each. -/
def Portable (frame : List UInt8) : Prop :=
  ∀ value rest values type, Carries frame value rest → value.asStringMap = some values →
    Message type values →
      (PythonChecks value rest type values ∧ NativeReads type values ∧
        (type = .start → AtMost 4294967295 (field values "gpu_id"))) ∨
      (¬ PythonChecks value rest type values ∧ ¬ NativeReads type values)

/-- The decoders agree on the portable frames and on no others. -/
theorem decodersAgree_iff (frame : List UInt8) : DecodersAgree frame ↔ Portable frame := by
  constructor
  · rintro ⟨haccept, hmirrors⟩ value rest values type hframe hvalues hmessage
    rw [python_accepts_iff hframe hvalues hmessage,
      native_accepts_iff hframe hvalues hmessage] at haccept
    by_cases hnative : NativeReads type values
    · have hpython := haccept.mpr hnative
      obtain ⟨python, hp⟩ := (python_accepts_iff hframe hvalues hmessage).mpr hpython
      obtain ⟨native, hn⟩ := (native_accepts_iff hframe hvalues hmessage).mpr hnative
      exact .inl ⟨hpython, hnative,
        (mirrors_iff hframe hvalues hmessage hp hn).mp (hmirrors python native hp hn)⟩
    · exact .inr ⟨fun hpython => hnative (haccept.mp hpython), hnative⟩
  · intro hportable
    refine ⟨⟨?_, ?_⟩, ?_⟩
    · rintro ⟨python, hp⟩
      obtain ⟨value, rest, values, type, hframe, hvalues, hmessage⟩ := exists_message_of_python hp
      have hpython := (python_accepts_iff hframe hvalues hmessage).mp ⟨python, hp⟩
      rcases hportable value rest values type hframe hvalues hmessage with ⟨-, hnative, -⟩ | ⟨hnot, -⟩
      · exact (native_accepts_iff hframe hvalues hmessage).mpr hnative
      · exact absurd hpython hnot
    · rintro ⟨native, hn⟩
      obtain ⟨value, rest, values, type, hframe, hvalues, hmessage⟩ := exists_message_of_native hn
      have hnative := (native_accepts_iff hframe hvalues hmessage).mp ⟨native, hn⟩
      rcases hportable value rest values type hframe hvalues hmessage with ⟨hpython, -, -⟩ | ⟨-, hnot⟩
      · exact (python_accepts_iff hframe hvalues hmessage).mpr hpython
      · exact absurd hnative hnot
    · intro python native hp hn
      obtain ⟨value, rest, values, type, hframe, hvalues, hmessage⟩ := exists_message_of_python hp
      have hpython := (python_accepts_iff hframe hvalues hmessage).mp ⟨python, hp⟩
      rcases hportable value rest values type hframe hvalues hmessage with ⟨-, -, hgpu⟩ | ⟨hnot, -⟩
      · exact (mirrors_iff hframe hvalues hmessage hp hn).mpr hgpu
      · exact absurd hpython hnot

end Frames

/-- A frame with a payload. -/
def frameOf (payload : List UInt8) : List UInt8 := toBigEndian 4 payload.length ++ payload

theorem framePayload_frameOf {payload : List UInt8} (h : payload.length ≤ maxFrameBytes) :
    Protocol.framePayload (frameOf payload) = .ok payload := by
  have hmax : maxFrameBytes < 256 ^ 4 := by decide
  have hfour := length_toBigEndian 4 payload.length
  have htake : (frameOf payload).take Protocol.headerSize = toBigEndian 4 payload.length :=
    List.take_left' hfour
  have hdrop : (frameOf payload).drop Protocol.headerSize = payload := List.drop_left' hfour
  have hlength : (frameOf payload).length = Protocol.headerSize + payload.length := by
    rw [frameOf, List.length_append, hfour]
    rfl
  unfold Protocol.framePayload
  rw [htake, hdrop, bigEndian_toBigEndian (by omega), hlength, if_neg (by omega),
    if_neg (by omega), if_neg (by omega)]

/-- A frame carries the value that its payload encodes. -/
theorem carries_frameOf {payload : List UInt8} {value : Object}
    (hlength : payload.length ≤ maxFrameBytes) (h : Encodes payload value) :
    Carries (frameOf payload) value [] := by
  have hunpack := h []
  rw [List.append_nil] at hunpack
  exact ⟨payload, framePayload_frameOf hlength, hunpack⟩

/-- The payload of a stop command. -/
def stopPayload : Object :=
  .fields
    [("protocol_version", .integer 2),
     ("message_type", .text "stop"),
     ("session_id", .text "00000000-0000-4000-8000-000000000001"),
     ("camera_id", .text "00000000-0000-4000-8000-000000000002"),
     ("run_id", .text "00000000-0000-4000-8000-000000000003"),
     ("generation", .integer 1),
     ("runtime_attempt", .integer 1),
     ("sequence", .integer 0),
     ("traceparent", .text "00-0123456789abcdef0123456789abcdef-0123456789abcdef-01"),
     ("tracestate", .nil),
     ("reason", .text "user"),
     ("shutdown_deadline_ns", .integer 1)]

/-- A byte after the value: the worker ignores it, and the Python side rejects the frame. -/
theorem trailing_byte_disagrees : ¬ DecodersAgree (frameOf (stopPayload.pack ++ [0])) := by
  rintro ⟨haccept, -⟩
  have hnative : (Native.decodeLiveMessage (frameOf (stopPayload.pack ++ [0]))).toOption.isSome =
      true := by
    decide +kernel
  have hpython : (Protocol.decodeMessage (frameOf (stopPayload.pack ++ [0]))).toOption = none := by
    decide +kernel
  obtain ⟨message, hmessage⟩ := haccept.mpr (exists_ok_of_isSome hnative)
  rw [hmessage] at hpython
  cases hpython

end Mvision.Live
