import Mvision.Library.PythonFields
import Mvision.Video.Probe

/-!
# What escapes `parse_probe_payload`

The `try` names neither `AttributeError` nor `OverflowError`: a value that should be a dictionary
and is none escapes, and so does an infinity where an integer is made of it.
-/

namespace Mvision.Video.Probe

open Mvision.Library Mvision.Library.Python

/-! ## The fields -/

/-- `value.get(name) or other`, of a dictionary. -/
def valueOr (value : Value) (name : String) (other : Value) : Value :=
  ((value.field name).getD .none).orElse other

def streamsValue (document : Value) : Value := valueOr document "streams" (.list [])

def itemsOf (value : Value) : List Value :=
  match items value with
  | .ok list => list
  | .error _ => []

def hasVideo (item : Value) : Bool := ((item.field "codec_type").getD .none).equalsText "video"

/-- The stream that is found, where there is one. -/
def videoOf (streams : List Value) : Value := (streams.find? hasVideo).getD .none

/-- Every stream before the first video one is asked for its codec. -/
def firstVideoFields : List Value → List Field
  | [] => [.test false]
  | item :: rest => dictField item :: if hasVideo item then [] else firstVideoFields rest

section Fields

variable (python : Interpreter)

def durationValue (stream format : Value) : Value :=
  valueOr format "duration" (valueOr stream "duration" (.int 0))

def tagsValue (stream : Value) : Value := valueOr stream "tags" (.dict [])

def sideValue (stream : Value) : Value := valueOr stream "side_data_list" (.list [])

/-- The value of `rotate` in the tags, then that of the side data. -/
def rotated (stream : Value) : Except Error Value :=
  sideRotation (((tagsValue stream).field "rotate").getD (.int 0)) (itemsOf (sideValue stream))

/-- `round` of an infinite angle, or `float` of an integer that is too large. -/
def angleEscapes (value : Value) : Bool :=
  value.isNumeric && (value.tooLarge ||
    match toFloat python value with
    | .ok (.infinite _) => true
    | _ => false)

def angleField (value : Value) : Field := ⟨(angle python value).isOk, angleEscapes python value⟩

/-- The value of a computation that succeeded. -/
def given (value : Except Error Value) : Value :=
  match value with
  | .ok value => value
  | .error _ => .none

def fpsOf (stream : Value) : FloatValue :=
  orElse (fraction python ((stream.field "avg_frame_rate").getD .none))
    (fraction python ((stream.field "r_frame_rate").getD .none))

/-- `int` of the frames is infinite, or it fails and the duration times the rate is infinite. -/
def framesEscape (frameValue : Value) (duration fps : FloatValue) : Bool :=
  frameValue.isInfinite || (!(toInt python frameValue).isOk &&
    match binary64.mul duration fps with
    | .infinite _ => true
    | _ => false)

def framesField (frameValue : Value) (duration fps : FloatValue) : Field :=
  ⟨(totalFrames python frameValue duration fps).isOk,
    framesEscape python frameValue duration fps⟩

def rotationFields (stream : Value) : List Field :=
  [dictField (tagsValue stream), .test (items (sideValue stream)).isOk,
    .test (rotated stream).isOk, angleField python (given (rotated stream))]

/-- The fields of the stream and of the format. -/
def mediaFields (stream format : Value) : List Field :=
  dictField format ::
  floatField python (durationValue stream format) ::
  intField python (valueOr stream "width" (.int 0)) ::
  intField python (valueOr stream "height" (.int 0)) ::
  (rotationFields python stream ++
    [framesField python ((stream.field "nb_frames").getD .none)
      (match toFloat python (durationValue stream format) with
        | .ok duration => duration
        | .error _ => .nan)
      (fpsOf python stream)])

def documentFields (document : Value) : List Field :=
  dictField document ::
  .test (items (streamsValue document)).isOk ::
  (firstVideoFields (itemsOf (streamsValue document)) ++
    mediaFields python (videoOf (itemsOf (streamsValue document)))
      (valueOr document "format" (.dict [])))

end Fields

/-! ## They describe the parser -/

section Describes

variable {python : Interpreter} {caught : List ErrorKind}

theorem describes_getOr (hattribute : ErrorKind.attribute ∉ caught) (value : Value) (name : String)
    (other : Value) : Describes (leaves caught) [dictField value] (getOr value name other) :=
  (describes_get hattribute value name).last fun found => found.orElse other

theorem eq_of_getOr {value other found : Value} {name : String}
    (h : getOr value name other = .ok found) :
    ∃ entries, value = .dict entries ∧ valueOr value name other = found := by
  cases value with
  | dict entries => exact ⟨entries, rfl, Except.ok.inj h⟩
  | none | bool _ | int _ | float _ | str _ | bytes _ | list _ | ext _ _ | timestamp _ _ => cases h

/-- `get` of a dictionary returns. -/
theorem getOr_bind {β : Type} (entries : List (Key × Value)) (name : String) (other : Value)
    (f : Value → Except Error β) :
    (getOr (.dict entries) name other >>= f) = f (valueOr (.dict entries) name other) := rfl

theorem get_bind {β : Type} (entries : List (Key × Value)) (name : String)
    (f : Value → Except Error β) :
    (get (.dict entries) name >>= f) = f (((Value.dict entries).field name).getD .none) := rfl

theorem describes_items (htype : ErrorKind.type ∈ caught) (value : Value) :
    Describes (leaves caught) [.test (items value).isOk] (items value) := by
  apply describes_isOk
  intro e he
  cases value with
  | none | bool _ | int _ | float _ | timestamp _ _ =>
      obtain rfl := Except.error.inj he
      exact htype
  | str _ | bytes _ | list _ | dict _ | ext _ _ => cases he

theorem itemsOf_eq {value : Value} {list : List Value} (h : items value = .ok list) :
    itemsOf value = list := by
  rw [itemsOf, h]

/-! ### The first video stream -/

theorem describes_isVideo (hattribute : ErrorKind.attribute ∉ caught) (item : Value) :
    Describes (leaves caught) [dictField item] (isVideo item) :=
  (describes_get hattribute item "codec_type").last fun found => found.equalsText "video"

theorem eq_of_isVideo {item : Value} {flag : Bool} (h : isVideo item = .ok flag) :
    (∃ entries, item = .dict entries) ∧ hasVideo item = flag := by
  cases item with
  | dict entries => exact ⟨⟨entries, rfl⟩, Except.ok.inj h⟩
  | none | bool _ | int _ | float _ | str _ | bytes _ | list _ | ext _ _ | timestamp _ _ => cases h

theorem firstVideo_cons (item : Value) (rest : List Value) :
    firstVideo (item :: rest) =
      isVideo item >>= fun flag => if flag then .ok item else firstVideo rest := rfl

theorem describes_firstVideo (hattribute : ErrorKind.attribute ∉ caught)
    (hstop : ErrorKind.stopIteration ∈ caught) (streams : List Value) :
    Describes (leaves caught) (firstVideoFields streams) (firstVideo streams) := by
  induction streams with
  | nil => exact describes_throwing hstop
  | cons item rest ih =>
      rw [firstVideo_cons]
      refine Describes.step (describes_isVideo hattribute item) ?_
      intro flag hflag
      rw [(eq_of_isVideo hflag).2]
      cases flag with
      | true => exact Describes.pure item
      | false => exact ih

theorem eq_of_firstVideo {streams : List Value} {stream : Value}
    (h : firstVideo streams = .ok stream) :
    (∃ entries, stream = .dict entries) ∧ videoOf streams = stream := by
  induction streams with
  | nil => cases h
  | cons item rest ih =>
      rw [firstVideo_cons] at h
      cases hflag : isVideo item with
      | error e =>
          rw [hflag] at h
          cases h
      | ok flag =>
          rw [hflag] at h
          obtain ⟨hdict, hvideo⟩ := eq_of_isVideo hflag
          unfold videoOf
          rw [List.find?_cons, hvideo]
          cases flag with
          | true =>
              obtain rfl := Except.ok.inj h
              exact ⟨hdict, rfl⟩
          | false => exact ih h

/-! ### The rotation -/

theorem kind_of_contains {name : String} {value : Value} {e : Error}
    (h : contains name value = .error e) : e.kind = .type := by
  cases value with
  | none | bool _ | int _ | float _ | bytes _ | timestamp _ _ =>
      obtain rfl := Except.error.inj h
      rfl
  | str _ | list _ | dict _ | ext _ _ => cases h

/-- What is in a dictionary is found in it. -/
theorem kind_of_subscript {name : String} {value : Value} {e : Error}
    (hcontains : contains name value = .ok true) (h : subscript value name = .error e) :
    e.kind = .type := by
  cases value with
  | dict entries =>
      have hfound : (lookup entries name).isSome = true := Except.ok.inj hcontains
      obtain ⟨found, hfound⟩ := Option.isSome_iff_exists.mp hfound
      have h : entry entries name = .error e := h
      rw [entry, hfound] at h
      cases h
  | none | bool _ | int _ | float _ | str _ | bytes _ | list _ | ext _ _ | timestamp _ _ =>
      obtain rfl := Except.error.inj h
      rfl

theorem kind_of_sideRotation {value : Value} {list : List Value} {e : Error}
    (h : sideRotation value list = .error e) : e.kind = .type := by
  induction list with
  | nil => cases h
  | cons item rest ih =>
      have h : (contains "rotation" item >>= fun flag =>
        if flag then subscript item "rotation" else sideRotation value rest) = .error e := h
      cases hcontains : contains "rotation" item with
      | error e' =>
          rw [hcontains] at h
          obtain rfl := Except.error.inj h
          exact kind_of_contains hcontains
      | ok flag =>
          rw [hcontains] at h
          cases flag with
          | true => exact kind_of_subscript hcontains h
          | false => exact ih h

theorem describes_getDefault (hattribute : ErrorKind.attribute ∉ caught) (value : Value)
    (name : String) (other : Value) :
    Describes (leaves caught) [dictField value] (getDefault value name other) := by
  have hno : ¬ ∃ a, (throwing .attribute : Except Error Value) = .ok a := by
    rintro ⟨a, ha⟩
    cases ha
  cases value with
  | dict entries => exact .single (iff_of_true ⟨_, rfl⟩ rfl) accepted
  | none | bool _ | int _ | float _ | str _ | bytes _ | list _ | ext _ _ | timestamp _ _ =>
      exact .single (iff_of_false hno Bool.false_ne_true) (Catches.escapes hattribute)

theorem eq_of_getDefault {value other found : Value} {name : String}
    (h : getDefault value name other = .ok found) : (value.field name).getD other = found := by
  cases value with
  | dict entries => exact Except.ok.inj h
  | none | bool _ | int _ | float _ | str _ | bytes _ | list _ | ext _ _ | timestamp _ _ => cases h

theorem describes_roundToInt (h : Catches caught) (x : FloatValue) :
    Describes (leaves caught)
      [⟨(roundToInt x).isOk, match x with | .infinite _ => true | _ => false⟩] (roundToInt x) := by
  apply Describes.single isOk_iff
  cases x with
  | finite q => exact accepted
  | infinite negative => exact Catches.escapes h.overflow
  | nan => exact Catches.rejects h.value

/-- `try: … except (TypeError, ValueError)` with something else instead. -/
def instead {α : Type} (x y : Except Error α) : Except Error α :=
  match x with
  | .ok a => .ok a
  | .error e => if e.kind ∈ [ErrorKind.type, .value] then y else .error e

theorem instead_escapes {α : Type} {x y : Except Error α} (h : Catches caught) :
    Escapes (leaves caught) (instead x y) ↔
      Escapes (leaves caught) x ∨
        (∃ e, x = .error e ∧ e.kind ∈ [ErrorKind.type, .value]) ∧ Escapes (leaves caught) y := by
  cases x with
  | ok a =>
      refine iff_of_false not_escapes_ok ?_
      rintro (hx | ⟨⟨e, he, -⟩, -⟩)
      · exact not_escapes_ok hx
      · cases he
  | error e =>
      have hiff : (∃ e', (.error e : Except Error α) = .error e' ∧
          e'.kind ∈ [ErrorKind.type, .value]) ↔ e.kind ∈ [ErrorKind.type, .value] := by
        constructor
        · rintro ⟨e', he, hkind⟩
          obtain rfl := Except.error.inj he
          exact hkind
        · intro hkind
          exact ⟨e, rfl, hkind⟩
      rw [hiff, escapes_error]
      unfold instead
      dsimp only
      split
      · rename_i hkind
        have hmem : e.kind ∈ caught := by
          simp only [List.mem_cons, List.not_mem_nil, or_false] at hkind
          rcases hkind with hkind | hkind
          · rw [hkind]
            exact h.type
          · rw [hkind]
            exact h.value
        have hstays : ¬ leaves caught e = true := by
          rw [leaves, decide_eq_true_eq, not_not]
          exact hmem
        rw [and_iff_right hkind, or_iff_right hstays]
      · rename_i hkind
        rw [escapes_error, or_iff_left fun hboth => hkind hboth.1]

theorem toFloat_escapes (h : Catches caught) (value : Value) :
    Escapes (leaves caught) (toFloat python value) ↔ value.tooLarge = true := by
  rw [(describes_toFloat h value).escapes]
  simp [Field.Clean, floatField]

theorem toInt_escapes (h : Catches caught) (value : Value) :
    Escapes (leaves caught) (toInt python value) ↔ value.isInfinite = true := by
  rw [(describes_toInt h value).escapes]
  simp [Field.Clean, intField]

theorem angle_eq {value : Value} (h : value.isNumeric = true) :
    angle python value =
      instead ((fun n => n % 360) <$> (toFloat python value >>= roundToInt)) (.ok 0) := by
  unfold angle
  rw [if_pos h]
  cases toFloat python value >>= roundToInt <;> rfl

theorem describes_angle (h : Catches caught) (value : Value) :
    Describes (leaves caught) [angleField python value] (angle python value) := by
  apply Describes.single isOk_iff
  unfold angleField angleEscapes
  dsimp only
  cases hnumeric : value.isNumeric with
  | false =>
      unfold angle
      rw [hnumeric, if_neg Bool.false_ne_true, Bool.false_and]
      exact accepted
  | true =>
      rw [angle_eq hnumeric, instead_escapes h, or_iff_left fun hnone => not_escapes_ok hnone.2,
        Bool.true_and, Bool.or_eq_true, ← @toFloat_escapes python _ h value]
      cases toFloat python value with
      | error e =>
          show Escapes (leaves caught) (.error e : Except Error Int) ↔ _
          rw [escapes_error, escapes_error, or_iff_left Bool.false_ne_true]
      | ok x =>
          rw [or_iff_right not_escapes_ok]
          cases x with
          | finite q => exact accepted
          | infinite negative => exact Catches.escapes h.overflow
          | nan => exact Catches.rejects h.value

theorem totalFrames_eq (frameValue : Value) (duration fps : FloatValue) :
    totalFrames python frameValue duration fps =
      instead (toInt python frameValue) (roundToInt (binary64.mul duration fps)) := by
  unfold totalFrames
  cases toInt python frameValue <;> rfl

/-- What `int` raises is an `OverflowError` for an infinity, and caught otherwise. -/
theorem kind_of_toInt {value : Value} {e : Error} (h : toInt python value = .error e)
    (hfinite : ¬ value.isInfinite = true) : e.kind ∈ [ErrorKind.type, .value] := by
  have hparsed : ∀ result : Option Int, parsed result = .error e →
      e.kind ∈ [ErrorKind.type, .value] := by
    intro result hresult
    cases result with
    | none =>
        obtain rfl := Except.error.inj hresult
        decide
    | some n => cases hresult
  cases value with
  | bool _ | int _ => cases h
  | float x =>
      cases x with
      | finite q => cases h
      | infinite negative => exact absurd rfl hfinite
      | nan =>
          obtain rfl := Except.error.inj h
          decide
  | str text => exact hparsed _ h
  | bytes data => exact hparsed _ h
  | none | list _ | dict _ | ext _ _ | timestamp _ _ =>
      obtain rfl := Except.error.inj h
      decide

theorem describes_totalFrames (h : Catches caught) (frameValue : Value)
    (duration fps : FloatValue) :
    Describes (leaves caught) [framesField python frameValue duration fps]
      (totalFrames python frameValue duration fps) := by
  apply Describes.single isOk_iff
  unfold framesField framesEscape
  dsimp only
  have hround : Escapes (leaves caught) (roundToInt (binary64.mul duration fps)) ↔
      (match binary64.mul duration fps with | .infinite _ => true | _ => false) = true := by
    rw [(describes_roundToInt h _).escapes]
    simp [Field.Clean]
  rw [totalFrames_eq, instead_escapes h, toInt_escapes h, hround, Bool.or_eq_true, Bool.and_eq_true]
  apply or_congr_right'
  intro hfinite
  apply and_congr_left'
  cases hframes : toInt python frameValue with
  | ok n =>
      refine iff_of_false ?_ Bool.false_ne_true
      rintro ⟨e, he, -⟩
      cases he
  | error e => exact iff_of_true ⟨e, rfl, kind_of_toInt hframes hfinite⟩ rfl

theorem describes_rotation (h : Catches caught) (entries : List (Key × Value)) :
    Describes (leaves caught) (rotationFields python (.dict entries))
      (rotation python (.dict entries)) := by
  -- the stream is a dictionary, so `get` returns
  show Describes _ _ (getDefault (tagsValue (.dict entries)) "rotate" (.int 0) >>= fun tagged =>
    items (sideValue (.dict entries)) >>= fun sideData =>
      sideRotation tagged sideData >>= fun value => angle python value)
  refine .step (describes_getDefault h.noAttribute _ _ _) ?_
  intro tagged htagged
  refine .step (describes_items h.type _) ?_
  intro sideData hsideData
  have hrotated : rotated (.dict entries) = sideRotation tagged sideData := by
    rw [rotated, eq_of_getDefault htagged, itemsOf_eq hsideData]
  rw [hrotated]
  have hside : Describes (leaves caught) [.test (sideRotation tagged sideData).isOk]
      (sideRotation tagged sideData) := by
    apply describes_isOk
    intro e he
    rw [kind_of_sideRotation he]
    exact h.type
  refine hside.step ?_
  intro value hvalue
  rw [hvalue]
  exact describes_angle h value

/-! ### The document -/

theorem describes_streams (h : Catches caught) (document : Value) :
    Describes (leaves caught) [dictField document, .test (items (streamsValue document)).isOk]
      (getOr document "streams" (.list []) >>= items) := by
  refine .step (describes_getOr h.noAttribute document "streams" (.list [])) ?_
  intro found hfound
  obtain ⟨entries, rfl, rfl⟩ := eq_of_getOr hfound
  exact describes_items h.type _

theorem eq_of_streams {document : Value} {streams : List Value}
    (h : (getOr document "streams" (.list []) >>= items) = .ok streams) :
    (∃ entries, document = .dict entries) ∧ itemsOf (streamsValue document) = streams := by
  cases document with
  | dict entries => exact ⟨⟨entries, rfl⟩, itemsOf_eq h⟩
  | none | bool _ | int _ | float _ | str _ | bytes _ | list _ | ext _ _ | timestamp _ _ => cases h

theorem describes_duration (h : Catches caught) (stream format : Value) :
    Describes (leaves caught) [dictField format, floatField python (durationValue stream format)]
      (getOr format "duration" (valueOr stream "duration" (.int 0)) >>= toFloat python) := by
  refine .step (describes_getOr h.noAttribute format "duration" _) ?_
  intro found hfound
  obtain ⟨entries, rfl, rfl⟩ := eq_of_getOr hfound
  exact describes_toFloat h _

theorem eq_of_duration {stream format : Value} {duration : FloatValue}
    (h : (getOr format "duration" (valueOr stream "duration" (.int 0)) >>= toFloat python) =
      .ok duration) :
    (∃ entries, format = .dict entries) ∧
      toFloat python (durationValue stream format) = .ok duration := by
  cases format with
  | dict entries => exact ⟨⟨entries, rfl⟩, h⟩
  | none | bool _ | int _ | float _ | str _ | bytes _ | list _ | ext _ _ | timestamp _ _ => cases h

theorem describes_document (h : Catches caught) (hstop : ErrorKind.stopIteration ∈ caught)
    (document : Value) :
    Describes (leaves caught) (documentFields python document) (readDocument python document) := by
  refine Describes.bind (describes_streams h document) ?_
  intro streams hstreams
  obtain ⟨⟨entries, rfl⟩, hlist⟩ := eq_of_streams hstreams
  rw [hlist]
  refine Describes.bind (describes_firstVideo h.noAttribute hstop streams) ?_
  intro stream hstream
  obtain ⟨⟨streamEntries, rfl⟩, hvideo⟩ := eq_of_firstVideo hstream
  rw [hvideo, getOr_bind, getOr_bind]
  refine Describes.bind (describes_duration h (.dict streamEntries) _) ?_
  intro duration hduration
  obtain ⟨⟨formatEntries, hformat⟩, hread⟩ := eq_of_duration hduration
  rw [hread, get_bind, get_bind]
  refine .step (describes_toInt h _) ?_
  intro width _
  refine .step (describes_toInt h _) ?_
  intro height _
  refine Describes.bind (describes_rotation h streamEntries) ?_
  intro rotationDegrees _
  rw [get_bind]
  refine .step (describes_totalFrames h _ duration _) ?_
  intro frames _
  rw [hformat, get_bind, getOr_bind]
  exact Describes.pure _

end Describes

/-! ## What escapes -/

/-- `parse_probe_payload` returns or raises a `VideoProbeError`: the text does not nest too deep,
and the document, if it is loaded, lets no other exception escape. -/
theorem parseProbePayload_raises_iff (python : Interpreter)
    (loads : List UInt8 → Except LoadError Value) (payload : List UInt8) :
    (∀ e, parseProbePayload python loads payload = .error e →
        e.kind = .program "VideoProbeError") ↔
      loads payload ≠ .error .recursion ∧
        ∀ document, loads payload = .ok document →
          Field.Clean (documentFields python document) := by
  have hprobe : ∀ text e, (.error (probeError text) : Except Error VideoMetadata) = .error e →
      e.kind = .program "VideoProbeError" := by
    intro text e he
    obtain rfl := Except.error.inj he
    rfl
  unfold parseProbePayload
  rw [raises_bind_iff]
  · unfold loaded
    cases loads payload with
    | error failure =>
        rw [and_iff_left]
        · cases failure with
          | value =>
              refine iff_of_true (hprobe _) ?_
              rintro ⟨⟩
          | recursion =>
              refine iff_of_false ?_ (not_not_intro rfl)
              intro hall
              cases hall _ rfl
        · rintro document ⟨⟩
    | ok document =>
        have hcatches : Catches ([ErrorKind.stopIteration, .type, .value] ++
            [.program "VideoProbeError"]) :=
          ⟨by decide, by decide, by decide, by decide, by decide⟩
        have hdescribes : Describes (leaves [.program "VideoProbeError"])
            (documentFields python document)
            (catching [.stopIteration, .type, .value] (probeError "Video metadata is invalid")
              (readDocument python document)) :=
          describes_catching (describes_document hcatches (by decide) document) List.mem_cons_self
        dsimp only
        rw [ok_bind, raises_iff hdescribes, and_iff_right]
        · constructor
          · intro hclean other hother
            obtain rfl := Except.ok.inj hother
            exact hclean
          · intro hall
            exact hall document rfl
        · rintro ⟨⟩
  · -- the last test raises no other
    intro metadata e he
    split at he
    · cases he
    · exact hprobe _ e he

end Mvision.Video.Probe
