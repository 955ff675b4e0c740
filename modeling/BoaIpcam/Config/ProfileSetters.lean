import BoaIpcam.Lib.Parts
import BoaIpcam.Numeral

/-!
# Setters of the video profiles

`appro_api.c` sets the eight entries of a video profile with one handler for each profile. The
handlers of a setting have one body each here, with what the copies differ in as parameters; every
handler is that body under its own name. `ControlSystemData` is not part of the sources. What the
handlers write to the log and to the debug display is left out.
-/
namespace BoaIpcam.Video

/-! ## Profiles and their entries -/

/-- The profiles with handlers of their own. -/
inductive Profile where
  | one | two | three
deriving DecidableEq, Repr

/-- The number of a profile, which is a literal in each of its handlers. -/
def Profile.number : Profile → Int
  | .one => 1
  | .two => 2
  | .three => 3

/-- The entries of a profile. -/
structure ProfileEntries where
  /-- The codec. -/
  codecname : List UInt8
  /-- The resolution. -/
  resolution : List UInt8
  /-- The frame rate. -/
  framerate : List UInt8
  /-- The bit rate. -/
  cbrQuality : List UInt8
  /-- The quality of a fixed quality. -/
  fixedQuality : Nat
  /-- The quality of JPEG. -/
  jpegQuality : Nat
  /-- The mode of the quality. -/
  qmode : Nat
  /-- The greatest mode. -/
  qmodeMax : Nat
  /-- The text of the key frame interval. -/
  mpeg4gov : List UInt8
  /-- The key frame interval. -/
  mpeg4keyframeinterval : Nat
  /-- The size of the ePTZ window. -/
  eptzWindowSize : List UInt8
  /-- `PROFILESIZE` and `OLD_PROFILE_SIZE`. -/
  profilesize : Nat × Nat
  /-- The size before a change. -/
  oldProfileSize : Nat × Nat
  /-- `eptz_status`. -/
  oldRes : Int × Int
  /-- Its window before a change. -/
  oldWin : Int × Int
  /-- Its mark of a change. -/
  resChange : Bool
deriving DecidableEq, Repr

/-- What the profiles share. -/
structure Shared where
  /-- The entry `CONFIG_MAX_PROFILE_NUM`. -/
  maxProfileNum : Int
  /-- The resolutions of the sensor. -/
  resolutionList : List (List UInt8)
  /-- The bit rates. -/
  mp4Bitrate : List (List UInt8)
  /-- The resolution of the cropped sensor. -/
  sensorCropRes : List UInt8
  /-- `reset_status` is `NEED_RESET`. -/
  needReset : Bool
deriving DecidableEq, Repr

/-- The configuration. -/
abbrev System := Whole Profile ProfileEntries Shared

/-- The constants and options of a build. A quality is an entry of 8 bits. -/
structure Build where
  /-- `MAX_WEB_PROFILE_NUM`. -/
  maxWebProfileNum : Int
  /-- `JPEG_PARSER_NAME`. -/
  jpegParserName : List UInt8
  /-- `MPEG4_PARSER_NAME`. -/
  mpeg4ParserName : List UInt8
  /-- `H264_PARSER_NAME`. -/
  h264ParserName : List UInt8
  /-- `MAX_PROFILE_QUALITY`. -/
  maxProfileQuality : Nat
  /-- A quality fits its entry. -/
  small : maxProfileQuality < 256
  /-- `RESOLUTION_TYCO_720P` or `RESOLUTION_TYCO_D2`. -/
  tyco720pOrD2 : Bool
  /-- `RESOLUTION_TYCO_2M`, `_3M`, `_OV2715_D1` or `_IMX076_D1`. -/
  tycoOther : Bool
  /-- `USE_SENSOR_CROP`. -/
  useSensorCrop : Bool
  /-- `SUPPORT_EPTZ`. -/
  supportEptz : Bool

/-- `profile_check`: 1 for a profile that exists, 0 for the special one, -1 otherwise. -/
def profileCheck (maxProfileNum profileid : Int) : Int :=
  if profileid < 0 then -1
  else if profileid = maxProfileNum then 0
  else if profileid > maxProfileNum then -1
  else 1

/-! ## Answers -/

/-- A line of the answer; each has the name of the command in it. -/
inductive Line where
  | ok
  | value (text : List UInt8)
  | ng
  | ns
deriving DecidableEq, Repr

/-- The fields of `ControlSystemData`. -/
inductive Field where
  | framerate | cbr | quality | gov
deriving DecidableEq, Repr

/-- What is handed to `ControlSystemData`: a text, or a number in a variable of some bytes. -/
inductive Data where
  | text (text : List UInt8)
  | number (value : Int) (bytes : Nat)
deriving DecidableEq, Repr

/-- `ControlSystemData`, with the profile and the setting that make up its field. The answer tells
whether it is not negative. -/
abbrev Control := Profile → Field → Data → System → System × Bool

/-- What a handler decides to do. -/
inductive Plan where
  | answer (lines : List Line)
  | store (entries : ProfileEntries) (reset : Bool) (line : Line)
  | control (field : Field) (data : Data)
deriving DecidableEq, Repr

/-- A handler decides from the entries of its profile, what is shared and the value. -/
abbrev Setter := Build → Shared → ProfileEntries → List UInt8 → Plan

/-- Do it. -/
def perform (control : Control) (profile : Profile) (sys : System) : Plan → System × List Line
  | .answer lines => (sys, lines)
  | .store entries reset line =>
    ((sys.put profile entries).share { sys.common with
      needReset := reset || sys.common.needReset }, [line])
  | .control field data =>
    let (after, accepted) := control profile field data sys
    (after, [if accepted then .ok else .ng])

/-! ## Bodies of the handlers -/

/-- What the handlers begin with: a profile beyond those of the web is not supported; without a
value the current one is told, unless the profile is missing; only a profile that exists is set. -/
def guarded (profile : Profile) (b : Build) (shared : Shared) (text : List UInt8)
    (missing told : List Line) (body : Plan) : Plan :=
  if profile.number > b.maxWebProfileNum then .answer [.ns]
  else if text = [] then
    .answer (if profileCheck shared.maxProfileNum profile.number < 0 then missing else told)
  else if profileCheck shared.maxProfileNum profile.number < 1 then .answer [.ng]
  else body

/-- A value that only the MPEG-4 and H.264 codecs have. -/
def coded (b : Build) (own : ProfileEntries) (text : List UInt8) : Line :=
  if own.codecname = b.mpeg4ParserName ∨ own.codecname = b.h264ParserName then .value text
  else .ng

/-- `sscanf` with `%dx%d`: the first number, and the second. -/
def scanSize (text : List UInt8) : Option (Int × Option Int) := do
  let (width, rest) ← scanInt text
  some (width, do
    let rest ← scanChar 120 rest
    let (height, _) ← scanInt rest
    some height)

/-- Both numbers are there. -/
def readSize (text : List UInt8) : Option (Int × Int) := do
  let (width, height) ← scanSize text
  let height ← height
  some (width, height)

/-- Two variables after `sscanf` with `%dx%d`. -/
def storeSize (old : Int × Int) (text : List UInt8) : Int × Int :=
  match scanSize text with
  | none => old
  | some (width, none) => (width, old.2)
  | some (width, some height) => (width, height)

/-- Both numbers of a size are beyond those of another. -/
def Exceeds (size limit : Int × Int) : Prop := limit.1 < size.1 ∧ limit.2 < size.2

instance (size limit : Int × Int) : Decidable (Exceeds size limit) :=
  inferInstanceAs (Decidable (_ ∧ _))

/-- What the setters of the codec do with a value; builds refuse MPEG-4. -/
def formatBody (refusesMpeg4 : Build → Bool) : Setter := fun b _ own text =>
  if text ≠ b.jpegParserName ∧ text ≠ b.mpeg4ParserName ∧ text ≠ b.h264ParserName then
    .answer [.ng]
  else if refusesMpeg4 b ∧ text = b.mpeg4ParserName then .answer [.ng]
  else if own.codecname ≠ text then .store { own with codecname := text } true .ok
  else .answer [.ok]

/-- The setters of the codec. -/
def setFormat (profile : Profile) (refusesMpeg4 : Build → Bool) : Setter :=
  fun b shared own text =>
    guarded profile b shared text [.ng] [.value own.codecname]
      (formatBody refusesMpeg4 b shared own text)

/-- The size is beyond the crop window of the sensor, or that window cannot be read. -/
def cropRefuses (shared : Shared) (size : Int × Int) : Bool :=
  match readSize shared.sensorCropRes with
  | none => true
  | some crop => Exceeds size crop

/-- What the setters of the resolution do with a value. -/
def resBody : Setter := fun b shared own text =>
  match readSize text with
  | none => .answer [.ng]
  | some size =>
    if b.useSensorCrop ∧ cropRefuses shared size then .answer [.ng]
    else if b.supportEptz = false ∧ own.codecname = b.mpeg4ParserName ∧
        Exceeds size (1920, 1080) then .answer [.ng]
    else if text ∉ shared.resolutionList then .answer [.ng]
    else
      let scanned := { own with oldRes := storeSize own.oldRes own.resolution }
      let kept := { scanned with oldProfileSize := own.profilesize }
      if readSize own.resolution = none then .store scanned false .ng
      else if own.resolution ≠ text then
        .store { kept with resChange := true, resolution := text } true .ok
      else .store kept false .ok

/-- The setters of the resolution. -/
def setRes (profile : Profile) : Setter := fun b shared own text =>
  guarded profile b shared text [.ng] [.value own.resolution] (resBody b shared own text)

/-- What the setters of the frame rate do with a value. -/
def rateBody : Setter := fun _ _ own text =>
  if numericCheck text = false then .answer [.ng]
  else if atoi text < 1 ∨ atoi text > 30 then .answer [.ng]
  else if own.framerate ≠ text then .control .framerate (.text text)
  else .answer [.ok]

/-- The setters of the frame rate. -/
def setRate (profile : Profile) : Setter := fun b shared own text =>
  guarded profile b shared text [.ng] [.value own.framerate] (rateBody b shared own text)

/-- What the setters of the bit rate do with a value, with the test of an entry of the list. -/
def bpsBody (matching : List UInt8 → List UInt8 → Bool) : Setter := fun b shared own text =>
  if own.codecname = b.jpegParserName then .answer [.ng]
  else if shared.mp4Bitrate.any (matching text) then .control .cbr (.text text)
  else .answer [.ng]

/-- The setters of the bit rate, with the answer when the profile is missing. -/
def setBps (profile : Profile) (matching : List UInt8 → List UInt8 → Bool)
    (missing : List Line) : Setter :=
  fun b shared own text =>
    guarded profile b shared text missing [coded b own own.cbrQuality]
      (bpsBody matching b shared own text)

/-- The quality that goes with the codec. -/
def qualityLine (b : Build) (own : ProfileEntries) : Line :=
  if own.codecname = b.mpeg4ParserName ∨ own.codecname = b.h264ParserName then
    .value (decimal own.fixedQuality)
  else if own.codecname = b.jpegParserName then .value (decimal own.jpegQuality)
  else .ng

/-- What the setters of the quality do with a value, with what the variable of so many bytes holds
of the number. -/
def qualityBody (stored : Int → Int) (bytes : Nat) : Setter := fun b _ _ text =>
  if numericCheck text = false then .answer [.ng]
  else if stored (atoi text) > b.maxProfileQuality then .answer [.ng]
  else .control .quality (.number (stored (atoi text)) bytes)

/-- The setters of the quality. -/
def setQuality (profile : Profile) (stored : Int → Int) (bytes : Nat) : Setter :=
  fun b shared own text =>
    guarded profile b shared text [.ng] [qualityLine b own]
      (qualityBody stored bytes b shared own text)

/-- What the setters of the quality mode do with a value. -/
def qmodBody : Setter := fun b _ own text =>
  if numericCheck text = false then .answer [.ng]
  else if own.codecname = b.jpegParserName then .answer [.ng]
  else if narrow 8 (atoi text) > own.qmodeMax then .answer [.ng]
  else if own.qmode ≠ narrow 8 (atoi text) then
    .store { own with qmode := narrow 8 (atoi text) } true .ok
  else .answer [.ok]

/-- The setters of the quality mode. -/
def setQmod (profile : Profile) : Setter := fun b shared own text =>
  guarded profile b shared text [.ng] [coded b own (decimal own.qmode)] (qmodBody b shared own text)

/-- What the setters of the key-frame interval do with a value. -/
def keyframeintervalBody : Setter := fun b _ own text =>
  if own.codecname = b.jpegParserName then .answer [.ng]
  else if narrow 8 (atoi text) > 30 then .answer [.ng]
  else if own.mpeg4keyframeinterval = narrow 8 (atoi text) then .answer [.ng]
  else .control .gov (.number (narrow 8 (atoi text)) 1)

/-- The setters of the key-frame interval; one of them tells the value of a missing profile too. -/
def setKeyframeinterval (profile : Profile) (tellsMissing : Bool) : Setter :=
  fun b shared own text =>
    let told := coded b own own.mpeg4gov
    guarded profile b shared text (if tellsMissing then [.ng, told] else [.ng]) [told]
      (keyframeintervalBody b shared own text)

/-- What the setters of the view size do with a value. -/
def viewBody : Setter := fun b shared own text =>
  match readSize text with
  | none => .answer [.ng]
  | some size =>
    if own.codecname = b.mpeg4ParserName ∧ Exceeds size (1920, 1080) then .answer [.ng]
    else if text ∉ shared.resolutionList then .answer [.ng]
    else
      let scanned := { own with oldWin := storeSize own.oldWin own.eptzWindowSize }
      if readSize own.eptzWindowSize = none then .store scanned false .ng
      else if own.eptzWindowSize ≠ text then
        .store { scanned with resChange := true, eptzWindowSize := text } true .ok
      else .store scanned false .ok

/-- The setters of the view size; they need a build with `SUPPORT_EPTZ`. -/
def setView (profile : Profile) : Setter := fun b shared own text =>
  if b.supportEptz = false then .answer [.ns]
  else guarded profile b shared text [.ng] [.value own.eptzWindowSize] (viewBody b shared own text)

/-! ## The handlers -/

/-- `set_prf1format`. -/
def setPrf1format : Setter := setFormat .one fun b => b.tyco720pOrD2 || b.tycoOther

/-- `set_prf2format`. -/
def setPrf2format : Setter := setFormat .two fun b => b.tyco720pOrD2 || b.tycoOther

/-- `set_prf3format` leaves out four of the builds. -/
def setPrf3format : Setter := setFormat .three fun b => b.tyco720pOrD2

/-- `set_prf1res`. -/
def setPrf1res : Setter := setRes .one

/-- `set_prf2res`. -/
def setPrf2res : Setter := setRes .two

/-- `set_prf3res`. -/
def setPrf3res : Setter := setRes .three

/-- `set_prf1rate`. -/
def setPrf1rate : Setter := setRate .one

/-- `set_prf2rate`. -/
def setPrf2rate : Setter := setRate .two

/-- `set_prf3rate`. -/
def setPrf3rate : Setter := setRate .three

/-- `set_prf1bps` looks for the value in the list. -/
def setPrf1bps : Setter := setBps .one (fun text entry => text = entry) [.ng]

/-- `set_prf2bps` looks for an entry that is not the value. -/
def setPrf2bps : Setter := setBps .two (fun text entry => text ≠ entry) [.ng]

/-- `set_prf3bps` does too, and returns before the answer when the profile is missing. -/
def setPrf3bps : Setter := setBps .three (fun text entry => text ≠ entry) []

/-- `set_prf1quality` has an `int`. -/
def setPrf1quality : Setter := setQuality .one id 4

/-- `set_prf2quality` has a byte. -/
def setPrf2quality : Setter := setQuality .two (fun value => narrow 8 value) 1

/-- `set_prf3quality` has a byte. -/
def setPrf3quality : Setter := setQuality .three (fun value => narrow 8 value) 1

/-- `set_prf1qmod`. -/
def setPrf1qmod : Setter := setQmod .one

/-- `set_prf2qmod`. -/
def setPrf2qmod : Setter := setQmod .two

/-- `set_prf3qmod`. -/
def setPrf3qmod : Setter := setQmod .three

/-- `set_profile1keyframeinterval`. -/
def setProfile1keyframeinterval : Setter := setKeyframeinterval .one false

/-- `set_profile2keyframeinterval`. -/
def setProfile2keyframeinterval : Setter := setKeyframeinterval .two false

/-- `set_profile3keyframeinterval` goes on after the answer for a missing profile. -/
def setProfile3keyframeinterval : Setter := setKeyframeinterval .three true

/-- `set_profile1view`. -/
def setProfile1view : Setter := setView .one

/-- `set_profile2view`. -/
def setProfile2view : Setter := setView .two

/-- `set_profile3view`. -/
def setProfile3view : Setter := setView .three

/-- The settings of a profile. -/
inductive Setting where
  | format | res | rate | bps | quality | qmod | keyframeinterval | view
deriving DecidableEq, Repr

/-- The handler of a setting and a profile. -/
def setter : Setting → Profile → Setter
  | .format, .one => setPrf1format
  | .format, .two => setPrf2format
  | .format, .three => setPrf3format
  | .res, .one => setPrf1res
  | .res, .two => setPrf2res
  | .res, .three => setPrf3res
  | .rate, .one => setPrf1rate
  | .rate, .two => setPrf2rate
  | .rate, .three => setPrf3rate
  | .bps, .one => setPrf1bps
  | .bps, .two => setPrf2bps
  | .bps, .three => setPrf3bps
  | .quality, .one => setPrf1quality
  | .quality, .two => setPrf2quality
  | .quality, .three => setPrf3quality
  | .qmod, .one => setPrf1qmod
  | .qmod, .two => setPrf2qmod
  | .qmod, .three => setPrf3qmod
  | .keyframeinterval, .one => setProfile1keyframeinterval
  | .keyframeinterval, .two => setProfile2keyframeinterval
  | .keyframeinterval, .three => setProfile3keyframeinterval
  | .view, .one => setProfile1view
  | .view, .two => setProfile2view
  | .view, .three => setProfile3view

/-- A call of the handler of a setting and a profile with a value: the configuration after it and
the lines of the answer. -/
def handle (control : Control) (b : Build) (setting : Setting) (profile : Profile) (sys : System)
    (text : List UInt8) : System × List Line :=
  perform control profile sys (setter setting profile b sys.common (sys.part profile) text)

end BoaIpcam.Video
