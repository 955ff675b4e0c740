import BoaIpcam.Config.ProfileSetters

/-!
# The video request

`uri_video` of `request.c` reads six settings of a video profile from the arguments into
`NIPCA_VIDEO_CFG` and then checks and stores one after the other. The frame rate, the bit rate and
the quality are handed to `ControlSystemData`, which is not part of the sources, under the field of
the profile; a profile behind the third uses the fields of the first. What is printed is left out.
-/
namespace BoaIpcam.NipcaVideo

open Video

attribute [local instance] text_lawfulBEq

/-! ## The structure -/

/-- The arrays of `NIPCA_VIDEO_CFG`. -/
inductive TextField where
  | codec | resolution | framerate | bitrate
deriving DecidableEq, Repr

/-- `NIPCA_VIDEO_CFG`. An array holds a text that is shorter than itself, or bytes without a NUL. -/
structure VideoCfg where
  /-- What the arrays hold. -/
  raw : TextField → List UInt8
  /-- The mode, `VIDEO_CBR` or `VIDEO_FIXQUALITY`. -/
  qmode : Nat
  /-- The quality. -/
  quality : Int

/-- The constants of the request. -/
structure Constants extends Video.Build where
  /-- The sizes of the arrays. -/
  size : TextField → Nat
  /-- What is read behind an array without a NUL. -/
  behind : TextField → VideoCfg → List UInt8
  /-- The conversion to the type of `quality`, and its size. -/
  toQuality : Int → Int
  /-- The size of the variable of a quality. -/
  qualityBytes : Nat
  /-- `VIDEO_CBR`. -/
  videoCbr : Nat
  /-- `VIDEO_FIXQUALITY`. -/
  videoFixquality : Nat
  /-- `SUPPORT_PROFILE_NUMBER`. -/
  supportProfileNumber : Bool
  /-- `RESOLUTION_IMX036_3M`, `MAX_PROFILE_NUM` and the names of its resolutions. -/
  resolutionImx036 : Bool
  /-- `MAX_PROFILE_NUM`. -/
  maxProfiles : Nat
  /-- `IMG_SIZE_2048x1536`. -/
  imgSize2048x1536 : List UInt8
  /-- `IMG_SIZE_1600x1200`. -/
  imgSize1600x1200 : List UInt8
  /-- `IMG_SIZE_1024x768`. -/
  imgSize1024x768 : List UInt8
  /-- The text of 30 frames. -/
  framerate30fps : List UInt8
  /-- The text of 25 frames. -/
  framerate25fps : List UInt8
  /-- The text of 15 frames. -/
  framerate15fps : List UInt8
  /-- The text of 7 frames. -/
  framerate7fps : List UInt8
  /-- The text of 4 frames. -/
  framerate4fps : List UInt8
  /-- The text of one frame. -/
  framerate1fps : List UInt8

/-- What the request uses of `sys_info`. -/
structure SysInfo where
  /-- The entries of each profile. -/
  profile : Nat → ProfileEntries
  /-- What the profiles share. -/
  shared : Shared
  /-- The entry `CONFIG_MAX_WEB_PROFILE_NUM`. -/
  configMaxWebProfileNum : Int
  /-- The video system of the sensor. -/
  videoType : Int

/-- Replace the entries of a profile. -/
def SysInfo.put (sys : SysInfo) (id : Nat) (entries : ProfileEntries) : SysInfo :=
  { sys with profile := Function.update sys.profile id entries }

/-- `ControlSystemData`: what it makes of the entries of the profile of its field. -/
abbrev Control := Nat → Field → Data → ProfileEntries → ProfileEntries

/-- The arguments of a request. -/
abbrev Arguments := List (List UInt8 × List UInt8)

section Code

variable (control : Control) (b : Constants)

/-- The text that is read from an array. -/
def text (cfg : VideoCfg) (field : TextField) : List UInt8 :=
  if (cfg.raw field).length < b.size field then cfg.raw field
  else cfg.raw field ++ b.behind field cfg

/-- `strcpy` into an array. -/
def VideoCfg.strcpy (cfg : VideoCfg) (field : TextField) (value : List UInt8) : VideoCfg :=
  { cfg with raw := Function.update cfg.raw field value }

/-- `strncpy` into an array, with its size. -/
def strncpy (cfg : VideoCfg) (field : TextField) (value : List UInt8) : VideoCfg :=
  cfg.strcpy field (value.take (b.size field))

/-! ## The checks -/

/-- The codecs. -/
def codecs : List (List UInt8) := [b.jpegParserName, b.mpeg4ParserName, b.h264ParserName]

/-- `nipca_check_codec`. -/
def nipcaCheckCodec (codec : List UInt8) : Bool := codec ∈ codecs b

/-- What `nipca_check_resolution` returns. -/
inductive ResolutionCheck where
  | found | mpeg4Resolution | memoryAlloc | notFound
deriving DecidableEq, Repr

/-- The profiles with a resolution, with that of one profile given. -/
def countResolution (sys : SysInfo) (id : Nat) (resolution counted : List UInt8) : Nat :=
  (List.range b.maxProfiles).countP fun idx =>
    (if idx = id then resolution else (sys.profile idx).resolution) = counted

/-- `nipca_check_resolution`. -/
def nipcaCheckResolution (sys : SysInfo) (id : Nat) (resolution : List UInt8) : ResolutionCheck :=
  let cnt3m := countResolution b sys id resolution b.imgSize2048x1536
  let cnt2m := (List.range b.maxProfiles).countP fun idx =>
    let tmp := if idx = id then resolution else (sys.profile idx).resolution
    tmp ≠ b.imgSize2048x1536 ∧ tmp = b.imgSize1600x1200
  if b.resolutionImx036 ∧ (sys.profile id).codecname = b.mpeg4ParserName ∧
      resolution = b.imgSize2048x1536 then .mpeg4Resolution
  else if b.resolutionImx036 ∧ 2 < cnt3m + cnt2m ∧
      (3 ≤ cnt3m ∨ 2 ≤ cnt3m ∧ 1 ≤ cnt2m ∨ 1 ≤ cnt3m ∧ 2 ≤ cnt2m) then .memoryAlloc
  else if resolution ∈ sys.shared.resolutionList then .found
  else .notFound

/-- What `nipca_check_framerate` returns. -/
inductive FramerateCheck where
  | ok | framerate | notFound
deriving DecidableEq, Repr

/-- The frame rates of every video system. -/
def commonFramerates : List (List UInt8) :=
  [b.framerate15fps, b.framerate7fps, b.framerate4fps, b.framerate1fps]

/-- The highest frame rate of the video system, which is NTSC or PAL. -/
def fullFramerate (videoType : Int) : List UInt8 :=
  if videoType = 0 then b.framerate30fps else b.framerate25fps

/-- `nipca_check_framerate`. -/
def nipcaCheckFramerate (videoType : Int) (resolution framerate : List UInt8) : FramerateCheck :=
  if framerate ∈ commonFramerates b then .ok
  else if framerate ≠ fullFramerate b videoType then .notFound
  else if b.resolutionImx036 ∧ resolution = b.imgSize2048x1536 then .framerate
  else .ok

/-- `nipca_check_bitrate`. -/
def nipcaCheckBitrate (shared : Shared) (codec bitrate : List UInt8) (qmode : Nat) : Bool :=
  codec ≠ b.jpegParserName ∧ qmode = b.videoCbr ∧ bitrate ∈ shared.mp4Bitrate

/-- The codec has a mode of the quality. -/
def Coded (codec : List UInt8) : Prop := codec = b.mpeg4ParserName ∨ codec = b.h264ParserName

instance (codec : List UInt8) : Decidable (Coded b codec) := inferInstanceAs (Decidable (_ ∨ _))

/-- `nipca_check_quality`. -/
def nipcaCheckQuality (codec : List UInt8) (qmode : Nat) (quality : Int) : Bool :=
  ¬(Coded b codec ∧ qmode ≠ b.videoFixquality) ∧ ¬2 < quality

/-! ## Reading the request -/

/-- `profile_id`. -/
def profileId (args : Arguments) : Int :=
  args.foldl (fun id arg => if arg.1 = ascii "profileid" then atoi arg.2 - 1 else id) (-1)

/-- The settings of a profile. -/
def currentCfg (own : ProfileEntries) : VideoCfg where
  raw
    | .codec => own.codecname
    | .resolution => own.resolution
    | .framerate => own.framerate
    | .bitrate => own.cbrQuality
  qmode := own.qmode
  quality := b.toQuality own.fixedQuality

/-- An argument is read. -/
def readArgument (cfg : VideoCfg) (arg : List UInt8 × List UInt8) : VideoCfg :=
  if arg.1 = ascii "codec" then
    if arg.2 = ascii "MJPEG" then cfg.strcpy .codec b.jpegParserName
    else strncpy b cfg .codec arg.2
  else if arg.1 = ascii "resolution" then strncpy b cfg .resolution arg.2
  else if arg.1 = ascii "framerate" then strncpy b cfg .framerate arg.2
  else if arg.1 = ascii "bitrate" then strncpy b cfg .bitrate arg.2
  else if arg.1 = ascii "quality" then { cfg with quality := b.toQuality (atoi arg.2) }
  else if arg.1 = ascii "qualitymode" then
    if arg.2 = ascii "CBR" then { cfg with qmode := b.videoCbr }
    else if arg.2 = ascii "Fixquality" then { cfg with qmode := b.videoFixquality }
    else cfg
  else cfg

/-- The settings that are asked for. -/
def askedCfg (own : ProfileEntries) (args : Arguments) : VideoCfg :=
  args.foldl (readArgument b) (currentCfg b own)

/-! ## Storing the settings -/

/-- What the settings are stored in: the configuration, the settings that are left to store, and
`change`. -/
structure Setup where
  /-- The configuration so far. -/
  sys : SysInfo
  /-- The settings that are asked for. -/
  cfg : VideoCfg
  /-- Whether something was stored. -/
  change : Bool

/-- The profile whose field is used. -/
def controlled (id : Nat) : Nat := if id = 1 then 1 else if id = 2 then 2 else 0

/-- A call of `ControlSystemData`. -/
def callControl (sys : SysInfo) (id : Nat) (field : Field) (data : Data) : SysInfo :=
  sys.put (controlled id) (control (controlled id) field data (sys.profile (controlled id)))

variable (id : Nat) (s : Setup)

/-- The codec is set up. -/
def setupCodec : Setup :=
  let own := s.sys.profile id
  let codec := text b s.cfg .codec
  if ¬nipcaCheckCodec b codec then { s with cfg := s.cfg.strcpy .codec own.codecname }
  else if own.codecname ≠ codec then
    { s with change := true, sys := s.sys.put id { own with codecname := codec } }
  else s

/-- The resolution after its check; a resolution that is not found ends the request. -/
def checkedResolution (sys : SysInfo) (cfg : VideoCfg) : Option VideoCfg :=
  match nipcaCheckResolution b sys id (text b cfg .resolution) with
  | .found => some cfg
  | .mpeg4Resolution => some (cfg.strcpy .resolution b.imgSize1600x1200)
  | .memoryAlloc => some (cfg.strcpy .resolution b.imgSize1024x768)
  | .notFound => none

/-- The entry that the resolution is compared with. -/
def comparedResolution (own : ProfileEntries) : List UInt8 :=
  if b.supportEptz then own.eptzWindowSize else own.resolution

/-- The resolution is set up. -/
def setupResolution (cfg : VideoCfg) : Setup :=
  let own := s.sys.profile id
  let resolution := text b cfg .resolution
  if comparedResolution b own ≠ resolution then
    { cfg := cfg
      change := true
      sys := s.sys.put id { own with
        oldProfileSize := own.profilesize
        resolution := resolution
        eptzWindowSize := if b.supportEptz then resolution else own.eptzWindowSize } }
  else { s with cfg := cfg }

/-- The frame rate behind its check. -/
def checkedFramerate (sys : SysInfo) (cfg : VideoCfg) : VideoCfg :=
  if nipcaCheckFramerate b sys.videoType (text b cfg .resolution) (text b cfg .framerate) =
      .framerate then cfg.strcpy .framerate b.framerate15fps
  else cfg

/-- The frame rate is set up. -/
def setupFramerate : Setup :=
  let cfg := checkedFramerate b s.sys s.cfg
  let framerate := text b cfg .framerate
  if (s.sys.profile id).framerate ≠ framerate then
    { s with cfg := cfg, sys := callControl control s.sys id .framerate (.text framerate) }
  else { s with cfg := cfg }

/-- A mode that differs is stored. -/
def storeQmode : Setup :=
  let own := s.sys.profile id
  if s.cfg.qmode ≠ own.qmode then
    { s with change := true, sys := s.sys.put id { own with qmode := s.cfg.qmode } }
  else s

/-- The mode of the quality is set up. -/
def setupQualitymode : Setup :=
  if Coded b (text b s.cfg .codec) then
    if b.videoFixquality < s.cfg.qmode then
      { s with cfg := { s.cfg with qmode := (s.sys.profile id).qmode } }
    else storeQmode id s
  else s

/-- The bit rate is set up. -/
def setupBitrate : Setup :=
  if ¬nipcaCheckBitrate b s.sys.shared (text b s.cfg .codec) (text b s.cfg .bitrate) s.cfg.qmode then
    { s with cfg := s.cfg.strcpy .bitrate (s.sys.profile id).cbrQuality }
  else
    let s := storeQmode id s
    if (s.sys.profile id).cbrQuality ≠ text b s.cfg .bitrate then
      { s with sys := callControl control s.sys id .cbr (.text (text b s.cfg .bitrate)) }
    else s

/-- The quality is set up. -/
def setupQuality : Setup :=
  let codec := text b s.cfg .codec
  if ¬nipcaCheckQuality b codec s.cfg.qmode s.cfg.quality then
    if Coded b codec then
      { s with cfg := { s.cfg with quality := b.toQuality (s.sys.profile id).fixedQuality } }
    else if codec = b.jpegParserName then
      { s with cfg := { s.cfg with quality := b.toQuality (s.sys.profile id).jpegQuality } }
    else s
  else
    let s := storeQmode id s
    { s with sys := callControl control s.sys id .quality (.number s.cfg.quality b.qualityBytes) }

end Code

/-! ## The handler -/

/-- How a request ends. -/
inductive Served where
  | badRequest | noProfile | refused | done
deriving DecidableEq, Repr

/-- What a request leads to: the configuration, whether the video server starts again, and how it
ends. -/
structure Outcome where
  /-- The configuration that is left. -/
  sys : SysInfo
  /-- Whether the video server starts again. -/
  restarts : Bool
  /-- How the request ends. -/
  served : Served

section Handler

variable (control : Control) (b : Constants) (sys : SysInfo)

/-- The number of profiles that a request may address. -/
def profileLimit : Int :=
  if b.supportProfileNumber then sys.configMaxWebProfileNum else b.maxWebProfileNum

/-- The profile that the arguments address. -/
def addressed (args : Arguments) : Option Nat :=
  if profileId args < 0 ∨ profileLimit b sys ≤ profileId args then none
  else some (profileId args).toNat

/-- The end of the request: a change is marked and the video server starts again. -/
def finish (s : Setup) (served : Served) : Outcome where
  sys := { s.sys with shared := { s.sys.shared with needReset := s.change || s.sys.shared.needReset } }
  restarts := s.change
  served := served

/-- The settings behind the resolution. -/
def setupRest (id : Nat) (s : Setup) : Setup :=
  setupQuality control b id (setupBitrate control b id (setupQualitymode b id
    (setupFramerate control b id s)))

/-- `uri_video`; a query that cannot be decoded has no arguments. -/
def uriVideo (request : Option Arguments) : Outcome :=
  match request with
  | none => ⟨sys, false, .badRequest⟩
  | some args =>
    match addressed b sys args with
    | none => ⟨sys, false, .noProfile⟩
    | some id =>
      let s := setupCodec b id ⟨sys, askedCfg b (sys.profile id) args, false⟩
      match checkedResolution b id s.sys s.cfg with
      | none => finish s .refused
      | some cfg => finish (setupRest control b id (setupResolution b id s cfg)) .done

end Handler

end BoaIpcam.NipcaVideo
