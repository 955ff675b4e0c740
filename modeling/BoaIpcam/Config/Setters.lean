import BoaIpcam.Numeral

/-!
# Setters of numbers

Most commands of `appro_api.c` that set a number have the same body: without a value they tell the
current one; a value must consist of digits; `atoi` stores it in a variable of 8 or 16 bits; what
the variable holds is compared with the limits of the entry, and if it differs from the current
value it is handed on to the device service with `ControlSystemData`. The setters of the digital
inputs and outputs read the number of the input or output as well and hand on both in one word.
Setters that call a driver in between, or compare with no limit, are not of this kind.
-/
namespace BoaIpcam

/-! ## Entries and answers -/

/-- The entries of the configuration that the setters set; those of inputs and outputs are counted
from 1. -/
inductive Entry where
  | httpPort | httpsPort | rtspPort | ddnsEnable | pppoeEnable | upnpEnable | nmirror | nflip
  | nbrightness | ndenoise | nevcomp | ndremode | ncontrast | nsaturation | nsharpness | wdrEn
  | wdrLevel | maskareaEnable | rs485Protocol | rs485Id | motionEnable | motionDrawEnable
  | motionCvalue | motionPercentage | nbacklightControl | timeFormat | tstampEnable
  | tstampLocation | audioInSourceSwitch | mui
  | gioinEnable (id : Nat) | gioinType (id : Nat) | giooutEnable (id : Nat) | giooutType (id : Nat)
  | giooutAlwaysOn (id : Nat)
deriving DecidableEq, Repr

/-- `sys_info->ipcam[entry]`: the limits and the current value, which has 16 bits at most. -/
structure EntryRange where
  /-- The lower limit. -/
  min : Nat
  /-- The upper limit. -/
  max : Nat
  /-- The current value. -/
  value : Nat
  /-- It has 16 bits at most. -/
  small : value < 65536

/-- The entries of the configuration. -/
abbrev Config := Entry → EntryRange

/-- What is handed on to the service: the number of the input or output, 0 for other entries, and
the value. -/
structure Handed where
  /-- The number of the input or output. -/
  index : Nat
  /-- The value. -/
  value : Nat
deriving DecidableEq, Repr

/-- The answer of a setter; `current` tells the value. -/
inductive SetReply where
  | current
  | ok
  | ng
deriving DecidableEq, Repr

/-- What a setter leads to. -/
structure SetResult where
  /-- The answer. -/
  reply : SetReply
  /-- What the service gets. -/
  handed : List Handed
deriving DecidableEq, Repr

/-- Hand on to the service, which accepts it or fails. Some setters look at what it returns. -/
def handOn (checks accepted : Bool) (handed : List Handed) : SetResult :=
  if handed ≠ [] ∧ checks ∧ ¬accepted then ⟨.ng, handed⟩ else ⟨.ok, handed⟩

/-! ## Setters of one entry -/

/-- What the setters of one entry differ in: the entry, the bits of the variable, the factor, the
test of the value, whether it is handed on only when it differs from the current one, whether the
result of the service is looked at, whether a request without a value tells the current one, and
whether a zero is handed on twice. -/
structure NumericSetter where
  /-- The entry. -/
  entry : Entry
  /-- The width of the variable. -/
  bits : Nat := 8
  /-- The variable is a byte or a short. -/
  small : bits ≤ 16 := by decide
  /-- The factor in front of the value. -/
  scale : Nat := 1
  /-- The factor is not zero. -/
  positive : 0 < scale := by decide
  /-- The test that refuses a value. -/
  refuses : Config → Nat → Bool := fun config value => (config entry).max < value
  /-- A value is handed on only when it is new. -/
  compares : Bool := true
  /-- The result of the service is looked at. -/
  checks : Bool := false
  /-- A request without a value tells the current one. -/
  reads : Bool := true
  /-- A zero is handed on twice. -/
  repeatsZero : Bool := false

namespace NumericSetter

variable (setter : NumericSetter)

/-- The variable after `atoi` and the multiplication. -/
def value (text : List UInt8) : Nat :=
  narrow setter.bits (narrow setter.bits (atoi text) * setter.scale)

/-- What is handed on of a value that passes the test. -/
def handed (config : Config) (value : Nat) : List Handed :=
  if setter.compares ∧ (config setter.entry).value = value then []
  else if setter.repeatsZero ∧ value = 0 then [⟨0, value⟩, ⟨0, value⟩]
  else [⟨0, value⟩]

/-- The body of the setters. -/
def run (config : Config) (accepted : Bool) (text : List UInt8) : SetResult :=
  if setter.reads ∧ text = [] then ⟨.current, []⟩
  else if numericCheck text = false then ⟨.ng, []⟩
  else if setter.refuses config (setter.value text) then ⟨.ng, []⟩
  else handOn setter.checks accepted (setter.handed config (setter.value text))

/-- The variable in a build with `MIRROR_FLIP_INV`. -/
def inverted (text : List UInt8) : Nat := if atoi text = 0 then 1 else 0

/-- The body of a setter in a build with `MIRROR_FLIP_INV`. -/
def runInverted (config : Config) (accepted : Bool) (text : List UInt8) : SetResult :=
  if setter.reads ∧ text = [] then ⟨.current, []⟩
  else if numericCheck text = false then ⟨.ng, []⟩
  else if setter.refuses config (inverted text) then ⟨.ng, []⟩
  else handOn setter.checks accepted (setter.handed config (inverted text))

/-- A setter in a build with or without `MIRROR_FLIP_INV`. -/
def runMirrored (mirrorFlipInv : Bool) : Config → Bool → List UInt8 → SetResult :=
  if mirrorFlipInv then setter.runInverted else setter.run

/-- With `MIRROR_FLIP_INV` the service gets 1 for a written 0, and 0 for every other number. -/
theorem runInverted_handed {config : Config} {accepted : Bool} {text : List UInt8} {handed : Handed}
    (member : handed ∈ (setter.runInverted config accepted text).handed) :
    handed.value = inverted text := by
  have same : ∀ {checks accepted : Bool} {all : List Handed},
      (handOn checks accepted all).handed = all := by
    intro checks accepted all
    unfold handOn
    split_ifs <;> rfl
  unfold runInverted at member
  split_ifs at member
  · cases member
  · cases member
  · cases member
  · rw [same, NumericSetter.handed] at member
    split_ifs at member
    · cases member
    · simp only [List.mem_cons, List.not_mem_nil, or_false, or_self] at member
      rw [member]
    · rw [List.mem_singleton.mp member]

end NumericSetter

/-- `set_httpport`. -/
def setHttpport (httpPortDefault : Nat) : NumericSetter where
  entry := .httpPort
  bits := 16
  refuses config value := value < (config .httpPort).min ∧ value ≠ httpPortDefault ∨
    value = (config .rtspPort).value ∨ value = (config .httpsPort).value

/-- `https_port`. -/
def httpsPort (httpsPortDefault : Nat) : NumericSetter where
  entry := .httpsPort
  bits := 16
  refuses config value := value < (config .httpsPort).min ∧ value ≠ httpsPortDefault ∨
    value = (config .httpPort).value ∨ value = (config .rtspPort).value

/-- `set_rtspport`; the value is handed on with `info_write`. -/
def setRtspport : NumericSetter where
  entry := .rtspPort
  bits := 16
  refuses config value := (config .rtspPort).max < value ∨
    value = (config .httpPort).value ∨ value = (config .httpsPort).value

/-- `set_ddnsenable`. -/
def setDdnsenable : NumericSetter := { entry := .ddnsEnable }

/-- `set_pppoeenable`. -/
def setPppoeenable : NumericSetter := { entry := .pppoeEnable, repeatsZero := true }

/-- `set_upnpenable`. -/
def setUpnpenable : NumericSetter := { entry := .upnpEnable }

/-- `set_mirror`. -/
def setMirror (mirrorFlipInv : Bool) : Config → Bool → List UInt8 → SetResult :=
  NumericSetter.runMirrored { entry := .nmirror } mirrorFlipInv

/-- `set_flip`. -/
def setFlip (mirrorFlipInv : Bool) : Config → Bool → List UInt8 → SetResult :=
  NumericSetter.runMirrored { entry := .nflip } mirrorFlipInv

/-- The factor of the image settings in a build with `IMAGE_8_ORDER`. -/
def imageScale (image8Order : Bool) : Nat := if image8Order then 29 else 1

/-- The factor is positive. -/
theorem imageScale_pos (image8Order : Bool) : 0 < imageScale image8Order := by
  cases image8Order <;> decide

/-- `set_brightness`. -/
def setBrightness (image8Order : Bool) : NumericSetter :=
  { entry := .nbrightness, scale := imageScale image8Order, positive := imageScale_pos image8Order }

/-- `set_denoise`. -/
def setDenoise : NumericSetter := { entry := .ndenoise }

/-- `set_evcomp`. -/
def setEvcomp : NumericSetter := { entry := .nevcomp }

/-- `set_dremode`. -/
def setDremode : NumericSetter := { entry := .ndremode }

/-- `set_contrast`. -/
def setContrast (image8Order : Bool) : NumericSetter :=
  { entry := .ncontrast, scale := imageScale image8Order, positive := imageScale_pos image8Order }

/-- `set_saturation`. -/
def setSaturation : NumericSetter := { entry := .nsaturation }

/-- `set_sharpness`. -/
def setSharpness (image8Order : Bool) : NumericSetter :=
  { entry := .nsharpness, scale := imageScale image8Order, positive := imageScale_pos image8Order }

/-- `set_wdrenable`. -/
def setWdrenable : NumericSetter := { entry := .wdrEn }

/-- `set_wdrlevel`. -/
def setWdrlevel : NumericSetter := { entry := .wdrLevel }

/-- `set_maskareaenable`. -/
def setMaskareaenable : NumericSetter := { entry := .maskareaEnable }

/-- `set_485protocol`. -/
def set485protocol : NumericSetter := { entry := .rs485Protocol, checks := true }

/-- `set_485id`. -/
def set485id : NumericSetter := { entry := .rs485Id, checks := true }

/-- `set_motionenable`. -/
def setMotionenable : NumericSetter := { entry := .motionEnable, checks := true }

/-- `motiondrawenable`. -/
def motiondrawenable : NumericSetter := { entry := .motionDrawEnable, checks := true }

/-- `set_motioncvalue`. -/
def setMotioncvalue : NumericSetter := { entry := .motionCvalue, bits := 16, checks := true }

/-- `set_motionpercentage`. -/
def setMotionpercentage : NumericSetter := { entry := .motionPercentage, checks := true }

/-- `set_blcmode`. -/
def setBlcmode : NumericSetter := { entry := .nbacklightControl }

/-- `set_timeformat`. -/
def setTimeformat : NumericSetter := { entry := .timeFormat }

/-- `set_tstampenable`. -/
def setTstampenable : NumericSetter := { entry := .tstampEnable, checks := true, reads := false }

/-- `set_tstamploc`. -/
def setTstamploc : NumericSetter :=
  { entry := .tstampLocation, compares := false, checks := true, reads := false }

/-- `set_audioinsourceswitch`. -/
def setAudioinsourceswitch : NumericSetter := { entry := .audioInSourceSwitch, checks := true }

/-- `set_mui`. -/
def setMui : NumericSetter := { entry := .mui, checks := true }

/-! ## Setters of inputs and outputs -/

/-- What the setters of inputs and outputs differ in: the entries, how many there are (a build
without any does not support the command), and whether the number itself is compared with the
limits. Two of them compare the word that it is to be put into, which is still zero. -/
structure GioSetter where
  /-- The entries. -/
  entry : Nat → Entry
  /-- How many there are. -/
  count : Nat
  /-- There is one. -/
  positive : 0 < count
  /-- Their number is a short. -/
  small : count < 65536
  /-- The number is compared with the limits. -/
  tested : Bool

namespace GioSetter

variable (setter : GioSetter)

/-- The numbers in the text, whatever their size: of the input or output, and to set. -/
def numbers (text : List UInt8) : Option (Int × Int) :=
  if 58 ∈ text then do
    let (id, rest) ← scanNumber text
    let rest ← scanChar 58 rest
    let (number, _) ← scanNumber rest
    some (id, number)
  else some (1, leadingInt text)

/-- The word that is handed on, as the service takes it apart. -/
def handedWord (id number : Int) : Handed :=
  let word := ((narrow 32 id <<< 16) % 4294967296) ||| narrow 32 number
  ⟨word / 65536, word % 65536⟩

/-- The body of the setters. -/
def run (config : Config) (accepted : Bool) (text : List UInt8) : SetResult :=
  if text = [] then ⟨.current, []⟩
  else
    match numbers text with
    | none => ⟨.ng, []⟩
    | some (id, number) =>
      let id := clampInt id
      let number := clampInt number
      if id < 1 ∨ setter.count < id then ⟨.ng, []⟩
      else
        let range := config (setter.entry id.toNat)
        let value : Int := if setter.tested then number else 0
        if value < range.min ∨ range.max < value then ⟨.ng, []⟩
        else handOn true accepted (if range.value = number then [] else [handedWord id number])

end GioSetter

/-- `set_gioinenable`. -/
def setGioinenable (gioinNum : Nat) (positive : 0 < gioinNum)
    (small : gioinNum < 65536) : GioSetter :=
  ⟨.gioinEnable, gioinNum, positive, small, true⟩

/-- `set_giointype`. -/
def setGiointype (gioinNum : Nat) (positive : 0 < gioinNum)
    (small : gioinNum < 65536) : GioSetter :=
  ⟨.gioinType, gioinNum, positive, small, false⟩

/-- `set_giooutenable`. -/
def setGiooutenable (giooutNum : Nat) (positive : 0 < giooutNum)
    (small : giooutNum < 65536) : GioSetter :=
  ⟨.giooutEnable, giooutNum, positive, small, true⟩

/-- `set_gioouttype`. -/
def setGioouttype (giooutNum : Nat) (positive : 0 < giooutNum)
    (small : giooutNum < 65536) : GioSetter :=
  ⟨.giooutType, giooutNum, positive, small, false⟩

/-- `set_giooutalwayson`. -/
def setGiooutalwayson (giooutNum : Nat) (positive : 0 < giooutNum)
    (small : giooutNum < 65536) : GioSetter :=
  ⟨.giooutAlwaysOn, giooutNum, positive, small, true⟩

end BoaIpcam
