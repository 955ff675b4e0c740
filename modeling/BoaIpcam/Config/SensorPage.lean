import BoaIpcam.Lib.EarlyExit
import BoaIpcam.Numeral

/-!
# The page of the sensor

`uri_sensor` of `request.c` goes over the arguments of a request and sets an entry of the sensor for
each. `ControlSystemData`, which stores most of them, is not part of the sources. The white balance
and the gain are compared with the entry of their tables at the position of the argument. What is
printed is left out.
-/
namespace BoaIpcam.SensorPage

open EarlyExit

attribute [local instance] text_lawfulBEq

/-! ## The entries -/

/-- The entries of numbers; `aperture` is that of `vsptz`. -/
inductive NumberEntry where
  | nbrightness | ncontrast | nsaturation | nsharpness | aperture | flickless | agcctrl
  | nbacklightcontrol | nmirror | nflip
deriving DecidableEq, Repr

/-- The entries of texts. -/
inductive TextEntry where
  | nwhitebalance | exposureMode | aExposureTime | nmaxagcgain
deriving DecidableEq, Repr

/-- The entries of the sensor. -/
structure Sensor where
  /-- The entries with a number. -/
  number : NumberEntry → Nat
  /-- The entries with a text. -/
  text : TextEntry → List UInt8

/-- Store a number. -/
def Sensor.putNumber (sensor : Sensor) (entry : NumberEntry) (value : Nat) : Sensor :=
  { sensor with number := Function.update sensor.number entry value }

/-- Store a text. -/
def Sensor.putText (sensor : Sensor) (entry : TextEntry) (value : List UInt8) : Sensor :=
  { sensor with text := Function.update sensor.text entry value }

/-- The commands of `ControlSystemData` that the page uses, with their data. -/
inductive Command where
  | brightness (value : Nat)
  | contrast (value : Nat)
  | saturation (value : Nat)
  | sharpness (value : Nat)
  | flickless (value : Nat)
  | whiteBalance (value : List UInt8)
  | exposureTime (value : List UInt8)
  | blcmode (value : Nat)
  | mirror (value : Nat)
  | flip (value : Nat)
  | aegain (value : List UInt8)

/-- `ControlSystemData`. -/
abbrev Control := Command → Sensor → Sensor

/-- `EXPOSURETYPE`. -/
inductive ExposureType where
  | exposuretimeSelect | exposuremodeSelect | other
deriving DecidableEq, Repr

/-- The sensors with exposure times of their own. -/
inductive SensorKind where
  | imx035 | mt9v136 | other
deriving DecidableEq, Repr

/-- The options and constants of a build, the tables of `api_string`, which are read behind their
ends too, and whether `fork` succeeds. -/
structure Build where
  /-- `SUPPORT_BRIGHTNESS`. -/
  supportBrightness : Bool
  /-- `SUPPORT_CONTRAST`. -/
  supportContrast : Bool
  /-- `SUPPORT_SATURATION`. -/
  supportSaturation : Bool
  /-- `SUPPORT_SHARPNESS`. -/
  supportSharpness : Bool
  /-- `SUPPORT_VISCA`. -/
  supportVisca : Bool
  /-- `SUPPORT_FLICKLESS`. -/
  supportFlickless : Bool
  /-- `SUPPORT_BLCMODE`. -/
  supportBlcmode : Bool
  /-- The levels of the picture are eight steps. -/
  image8Order : Bool
  /-- `SUPPORT_DOME` without `SENSOR_USE_MT9V136`. -/
  domeTurned : Bool
  /-- The number of the VGA video system. -/
  videoSystemVga : Nat
  /-- `EXPOSURETYPE`. -/
  exposureType : ExposureType
  /-- The sensor. -/
  sensor : SensorKind
  /-- The name of the automatic exposure. -/
  exposuretimeAuto : List UInt8
  /-- The name of the exposure inside. -/
  exposuretimeIndoor : List UInt8
  /-- The name of the exposure outside. -/
  exposuretimeOutdoor : List UInt8
  /-- The name of the exposure at night. -/
  exposuretimeNight : List UInt8
  /-- The name of the exposure for moving objects. -/
  exposuretimeMoving : List UInt8
  /-- The name of the exposure with low noise. -/
  exposuretimeLowNoise : List UInt8
  /-- `api_string.awb`. -/
  awb : Nat → List UInt8
  /-- `api_string.agc`. -/
  agc : Nat → List UInt8
  /-- Whether `fork` succeeds. -/
  forks : Bool

/-! ## The arguments -/

/-- The arguments that the page knows. -/
inductive Setting where
  | brightness | contrast | saturation | sharpness | flicker | whitebalance | autoexposure
  | maxexposuretime | backlightcomp | mirror | flip | autogainctrl
deriving DecidableEq, Repr

/-- The name of an argument. -/
def Setting.name : Setting → List UInt8
  | .brightness => ascii "brightness"
  | .contrast => ascii "contrast"
  | .saturation => ascii "saturation"
  | .sharpness => ascii "sharpness"
  | .flicker => ascii "flicker"
  | .whitebalance => ascii "whitebalance"
  | .autoexposure => ascii "autoexposure"
  | .maxexposuretime => ascii "maxexposuretime"
  | .backlightcomp => ascii "backlightcomp"
  | .mirror => ascii "mirror"
  | .flip => ascii "flip"
  | .autogainctrl => ascii "autogainctrl"

/-- The arguments in the order in which they are compared. -/
def settings : List Setting :=
  [.brightness, .contrast, .saturation, .sharpness, .flicker, .whitebalance, .autoexposure,
    .maxexposuretime, .backlightcomp, .mirror, .flip, .autogainctrl]

/-- The argument that a name is of. -/
def settingOf (name : List UInt8) : Option Setting := settings.find? fun setting => setting.name = name

/-- An argument: its name and its value. -/
abbrev Argument := List UInt8 × List UInt8

/-- The variables of the loop: the entries and `exposuretime_buf`. -/
structure Serving where
  /-- The entries. -/
  sensor : Sensor
  /-- `exposuretime_buf`. -/
  buf : List UInt8

section Values

variable (b : Build) (text : List UInt8)

/-- A number of 8 bits. -/
def byteValue : Nat := narrow 8 (atoi text)

/-- A level, which some builds count in eight steps. -/
def level : Nat := if b.image8Order then byteValue text * 29 % 256 else byteValue text

/-- The number of a flicker frequency. -/
def flickerValue : Nat := if atoi text = 50 then 1 else if atoi text = 60 then 0 else 9

/-- The number of `on` or `off`. -/
def turned : Option Nat :=
  if text = ascii "on" then some (if b.domeTurned then 0 else 1)
  else if text = ascii "off" then some (if b.domeTurned then 1 else 0)
  else none

/-- The number of the backlight compensation. -/
def backlightValue : Nat := if text = ascii "yes" then 1 else 0

/-- The exposure time of `autoexposure`. -/
def autoTime : Option (List UInt8) :=
  if text = ascii "yes" then some (ascii "Auto")
  else if text = ascii "no" then some (ascii "1/120")
  else none

/-- The exposure mode of `maxexposuretime`. -/
def maxMode : Option (List UInt8) :=
  if text = ascii "120" then some b.exposuretimeIndoor
  else if text = ascii "750" then some b.exposuretimeOutdoor
  else if text = ascii "500" then some b.exposuretimeNight
  else if text = ascii "1000" then some b.exposuretimeMoving
  else if text = ascii "30" then some b.exposuretimeLowNoise
  else none

/-- The values of `maxexposuretime` that a sensor has an exposure time for. -/
def sensorTimes : SensorKind → List (List UInt8)
  | .imx035 => ["2000", "1500", "1000", "750", "500", "250", "120", "60", "30", "15", "7.5", "4",
      "2"].map ascii
  | .mt9v136 => ["2000", "1000", "500", "250", "120", "100"].map ascii
  | .other => []

/-- The exposure time of `maxexposuretime`; a build of no such sensor has what the buffer holds. -/
def maxTime (buf : List UInt8) : Option (List UInt8) :=
  if b.sensor = .other then some buf
  else if text ∈ sensorTimes b.sensor then some (ascii "1/" ++ text)
  else none

end Values

/-! ## The loop -/

section Steps

variable (control : Control) (b : Build)

/-- A number that differs is set. -/
def setNumber (command : Nat → Command) (entry : NumberEntry) (value : Nat) (sensor : Sensor) :
    Sensor :=
  if sensor.number entry ≠ value then control (command value) sensor else sensor

/-- A number that may be missing is set. -/
def setTurned (command : Nat → Command) (entry : NumberEntry) (value : Option Nat)
    (sensor : Sensor) : Sensor :=
  match value with
  | none => sensor
  | some value => setNumber control command entry value sensor

/-- The sharpness is set, or the aperture of the `VISCA` camera. -/
def setSharpness (text : List UInt8) (sensor : Sensor) : Sensor :=
  if b.supportSharpness then setNumber control .sharpness .nsharpness (level b text) sensor
  else if b.supportVisca ∧ b.forks then sensor.putNumber .aperture (byteValue text)
  else sensor

/-- The flicker frequency is set. -/
def setFlicker (text : List UInt8) (sensor : Sensor) : Sensor :=
  if b.supportFlickless ∧ flickerValue text ≠ 9 ∧ flickerValue text ≤ b.videoSystemVga then
    control (.flickless (flickerValue text)) sensor
  else sensor

/-- The white balance is set. -/
def setWhitebalance (i : Nat) (text : List UInt8) (sensor : Sensor) : Sensor :=
  if b.awb i = text ∧ sensor.text .nwhitebalance ≠ text then control (.whiteBalance text) sensor
  else sensor

/-- The automatic exposure is set. -/
def setAutoexposure (text : List UInt8) (s : Serving) : Serving :=
  if b.exposureType = .exposuretimeSelect then
    match autoTime text with
    | none => s
    | some time =>
      { sensor := control (.exposureTime time) (s.sensor.putNumber .agcctrl 1), buf := time }
  else s

/-- The longest exposure is set. -/
def setMaxexposuretime (text : List UInt8) (s : Serving) : Serving :=
  if b.exposureType = .exposuremodeSelect then
    match maxMode b text with
    | none => s
    | some mode => { sensor := control (.exposureTime mode) s.sensor, buf := mode }
  else
    match maxTime b text s.buf with
    | none => s
    | some time =>
      if s.sensor.text .aExposureTime ≠ time then
        { sensor := control (.exposureTime time) (s.sensor.putNumber .agcctrl 1), buf := time }
      else { s with buf := time }

/-- The backlight compensation is set. -/
def setBacklightcomp (text : List UInt8) (sensor : Sensor) : Sensor :=
  if sensor.text .aExposureTime = b.exposuretimeAuto ∧ b.supportBlcmode then
    setNumber control .blcmode .nbacklightcontrol (backlightValue text) sensor
  else sensor

/-- The gain is set. -/
def setAutogainctrl (i : Nat) (text : List UInt8) (sensor : Sensor) : Sensor :=
  if b.exposureType = .exposuretimeSelect ∧ b.sensor = .imx035 ∧ b.agc i = text ∧
      sensor.text .nmaxagcgain ≠ text then
    control (.aegain text) (sensor.putNumber .agcctrl 0)
  else sensor

/-- What is done for an argument that is known, at its position. -/
def set (i : Nat) (text : List UInt8) (s : Serving) : Setting → Serving
  | .brightness => if b.supportBrightness then
      { s with sensor := setNumber control .brightness .nbrightness (level b text) s.sensor } else s
  | .contrast => if b.supportContrast then
      { s with sensor := setNumber control .contrast .ncontrast (level b text) s.sensor } else s
  | .saturation => if b.supportSaturation then
      { s with sensor := setNumber control .saturation .nsaturation (byteValue text) s.sensor } else s
  | .sharpness => { s with sensor := setSharpness control b text s.sensor }
  | .flicker => { s with sensor := setFlicker control b text s.sensor }
  | .whitebalance => { s with sensor := setWhitebalance control b i text s.sensor }
  | .autoexposure => setAutoexposure control b text s
  | .maxexposuretime => setMaxexposuretime control b text s
  | .backlightcomp => { s with sensor := setBacklightcomp control b text s.sensor }
  | .mirror => { s with sensor := setTurned control .mirror .nmirror (turned b text) s.sensor }
  | .flip => { s with sensor := setTurned control .flip .nflip (turned b text) s.sensor }
  | .autogainctrl => { s with sensor := setAutogainctrl control b i text s.sensor }

/-- The step for an argument. -/
def step (i : Nat) (s : Serving) (arg : Argument) : Serving × Bool :=
  match settingOf arg.1 with
  | none => (s, true)
  | some setting => (set control b i arg.2 s setting, true)

/-- `uri_sensor`. -/
def uriSensor (args : List Argument) (sensor : Sensor) : Sensor :=
  (loop (step control b) 0 ⟨sensor, []⟩ args).sensor

end Steps

end BoaIpcam.SensorPage
