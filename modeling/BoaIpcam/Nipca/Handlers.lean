import BoaIpcam.Nipca.Camera
import BoaIpcam.Nipca.Reply

/-!
# The replies of the NIPCA handlers

Every handler of `request.c` that answers with `send_request_dlink_ok(req, size)` has its reply
here, under its name: the size of its local buffer and its calls of `sprintf` in order. What a
handler has read from its request, and values that the reply takes from its local variables, are
arguments. `uri_st_device` has the only chunked reply: an XML text and the CRLF that ends the chunk.
-/
namespace BoaIpcam.Nipca

open Printf

/-! ## Parts of replies -/

/-- `… ? "on" : "off"`. -/
def onOff (flag : Bool) : Arg := .str (if flag then ascii "on" else ascii "off")

/-- `… ? "yes" : "no"`. -/
def yesNo (flag : Bool) : Arg := .str (if flag then ascii "yes" else ascii "no")

/-- `strcmp(left, right) == 0`. -/
def sameString (left right : List UInt8) : Bool := untilNul left = untilNul right

/-- Calls under a condition. -/
def given (flag : Bool) (prints : List Print) : List Print := if flag then prints else []

/-- The number of profiles that a reply shows. -/
def Build.profiles (b : Build) (c : Camera) : Int :=
  if b.supportProfileNumber then c.configMaxWebProfileNum else b.maxWebProfileNum

/-- `sscanf` with `%d-%s`, which leaves the string as it was when the text does not match. -/
def scanPreset (text string : List UInt8) : List UInt8 :=
  match scanInt (untilNul text) with
  | some (_, 45 :: rest) => (scanWord rest).getD string
  | _ => string

/-- The word that `sscanf` with `%d-%s` reads fits `string_cmp`, which has 32 bytes. -/
def presetFits (text : List UInt8) : Bool :=
  match scanInt (untilNul text) with
  | some (_, 45 :: rest) => (scanWord rest).all fun word => word.length < 32
  | _ => true

/-- The quality of a profile. -/
def quality (value : Nat) : Print :=
  if value = 1 then print "quality=Good\r\n" []
  else if value = 2 then print "quality=Standard\r\n" []
  else print "quality=Excellent\r\n" []

/-- The times of a schedule. -/
def schedule (start stop : Nat) : List Print :=
  let time := fun value : Nat => [Arg.int (value / 10000 : Nat),
    .int ((value - value / 10000 * 10000) / 100 : Nat)]
  [print "starttime=%02d:%02d\r\n" (time start), print "endtime=%02d:%02d\r\n" (time stop)]

/-! ## The camera, its clock and its pictures -/

/-- `uri_info`. -/
def uriInfo (b : Build) (c : Camera) : Reply where
  capacity := 512
  prints :=
    [print "model=%s\r\n" [.str c.modelName],
      print "product=%s\r\n" [.str c.title],
      print "version=%d.%02d\r\n" [.int b.appVersionMajor, .int b.appVersionMinor],
      print "build=0\r\n" [],
      print "nipca=1.9\r\n" [],
      print "name=%s\r\n" [.str c.title],
      print "location=%s\r\n" [.str []],
      print "macaddr=%02X:%02X:%02X:%02X:%02X:%02X\r\n"
        [.int (c.mac 0).toNat, .int (c.mac 1).toNat, .int (c.mac 2).toNat, .int (c.mac 3).toNat,
          .int (c.mac 4).toNat, .int (c.mac 5).toNat],
      print "ipaddr=%s\r\n" [.str c.ip.ntoa],
      print "netmask=%s\r\n" [.str c.netmask.ntoa],
      print "gateway=%s\r\n" [.str c.gateway.ntoa],
      if b.supportWireless then print "wireless=yes\r\n" [] else print "wireless=no\r\n" [],
      if b.supportVisca then print "ptz=P,T,Z\r\n" [] else print "ptz=\r\n" [],
      print "inputs=%d\r\n" [.int b.gioinNum],
      print "outputs=%d\r\n" [.int b.giooutNum],
      print "speaker=yes\r\n" []]

/-- `uri_camera_info`. -/
def uriCameraInfo (c : Camera) : Reply where
  capacity := 256
  prints := [print "name=%s\r\n" [.str c.title], print "location=%s\r\n" [.str []]]

/-- `uri_datetime`, with the seconds of the arguments `starttime` and `stoptime`. -/
def uriDatetime (c : Camera) (startSec stopSec : Int) : Reply where
  capacity := 256
  prints :=
    [print "method=%d\r\n" [.int c.ntpFrequency],
      print "timeserver=%s\r\n" [.str c.ntpServer],
      print "timezone=%d\r\n" [.int c.ntpTimezone],
      print "date=%d-%d-%d\r\n"
        [.int (c.tmNow.year + 1900), .int (c.tmNow.mon + 1), .int c.tmNow.mday],
      print "time=%d:%d:%d\r\n" [.int c.tmNow.hour, .int c.tmNow.min, .int c.tmNow.sec],
      print "dstenable=%s\r\n" [yesNo (c.dstEnable ≠ 0)],
      print "dstauto=%s\r\n" [yesNo (c.dstMode = 0)],
      print "offset=%d\r\n" [.int c.dstShift],
      print "starttime=%d.%d.%d/%d:%02d:%02d\r\n"
        [.int c.dstStart.month, .int c.dstStart.week, .int c.dstStart.day, .int c.dstStart.hour,
          .int c.dstStart.minute, .int startSec],
      print "stoptime=%d.%d.%d/%d:%02d:%02d\r\n"
        [.int c.dstEnd.month, .int c.dstEnd.week, .int c.dstEnd.day, .int c.dstEnd.hour,
          .int c.dstEnd.minute, .int stopSec]]

/-- `uri_video` without a profile. -/
def uriVideoNoProfileid : Reply where
  capacity := 512
  prints := [print "error!\r\nno profileid!\r\n" []]

/-- `uri_video` with a profile. -/
def uriVideo (b : Build) (c : Camera) (profileId : Nat) : Reply where
  capacity := 512
  prints :=
    let profile := c.profile profileId
    let codec := sameString profile.codecname
    [print "profileid=%d\r\n" [.int (profileId + 1)],
      print "resolution=%s\r\n"
        [.str (if b.supportEptz then profile.eptzwindowsize else profile.resolution)],
      if codec b.jpegParserName then print "codec=MJPEG\r\n" []
      else print "codec=%s\r\n" [.str profile.codecname]] ++
    given (codec b.mpeg4ParserName) [print "goplength=10\r\n" []] ++
    [print "framerate=%s\r\n" [.str profile.framerate]] ++
    if codec b.mpeg4ParserName || codec b.h264ParserName then
      [print "qualitymode=%s\r\n"
          [.str (if profile.qmode ≠ 0 then ascii "Fixquality" else ascii "CBR")],
        print "bitrate=%s\r\n" [.str profile.cbrQuality],
        quality profile.fixedQuality]
    else given (codec b.jpegParserName) [quality profile.jpegQuality]

/-- `uri_motion`. -/
def uriMotion (c : Camera) : Reply where
  capacity := 256
  prints :=
    [print "enable=%s\r\n" [yesNo (c.motionenable ≠ 0)],
      print "mbmask=%s\r\n" [.str c.motionblock],
      print "motioncvalue=%d\r\n" [.int c.motioncvalue]]

/-! ## The sensor -/

/-- A range of `uri_sensor_info`, in a build that supports the value. -/
def sensorRange (support image8Order : Bool) (eight range none : Print) : Print :=
  if support then if image8Order then eight else range else none

/-- The white balances that are not empty, up to the first that is. -/
def whitebalances (b : Build) (c : Camera) : List Print :=
  (((List.range' 1 (b.maxAwb - 1)).map c.awb).takeWhile fun awb => untilNul awb ≠ []).map
    fun awb => print ",%s" [.str awb]

/-- `uri_sensor_info`. -/
def uriSensorInfo (b : Build) (c : Camera) : Reply where
  capacity := 256
  prints :=
    given b.supportWdrlevel [print "wdrlevel=0...%d\n" [.int b.maxWdrlevel]] ++
    [sensorRange b.supportBrightness b.image8Order (print "brightness=0...8\r\n" [])
        (print "brightness=%d...%d\r\n" [.int b.minBrightness, .int b.maxBrightness])
        (print "brightness=\r\n" []),
      sensorRange b.supportContrast b.image8Order (print "contrast=0...8\r\n" [])
        (print "contrast=%d...%d\r\n" [.int b.minContrast, .int b.maxContrast])
        (print "contrast=\r\n" []),
      if b.supportSaturation then
        print "saturation=%d...%d\r\n" [.int b.minSaturation, .int b.maxSaturation]
      else print "saturation=\r\n" [],
      sensorRange b.supportSharpness b.image8Order (print "sharpness=0...8\r\n" [])
        (print "sharpness=%d...%d\r\n" [.int b.minSharpness, .int b.maxSharpness])
        (if b.supportVisca then
          print "sharpness=%d...%d\r\n" [.int b.minSharpness, .int b.maxSharpness]
        else print "sharpness=\r\n" [])] ++
    (if b.supportAwb then
      [print "whitebalance=%s" [.str (c.awb 0)]] ++ whitebalances b c ++ [print "\r\n" []]
    else if b.supportVisca then [print "whitebalance=Auto,Indoor,Outdoor,ATW\r\n" []]
    else [print "whitebalance=\r\n" []]) ++
    (if b.supportExposuretime then
      if b.sensorUseImx then
        [print "maxexposuretime=\r\n" [], print "autoexposure=\r\n" []]
      else given b.sensorUseMt9v136
        [print "maxexposuretime=2000,1000,500,250,120,100\r\n" [],
          print "autoexposure=yes,no\r\n" []]
    else [print "maxexposuretime=\r\n" [], print "autoexposure=\r\n" []]) ++
    [if b.supportAgc then print "autogainctrl=no\r\n" [] else print "autogainctrl=\r\n" [],
      print "videooutformat=pal,ntsc\r\n" []]

/-- The value that `uri_sensor` prints for a setting: 8 steps, or all of them. -/
def sensorValue (b : Build) (value : Nat) : Arg :=
  .int (if b.image8Order then (value / 29 : Nat) else (value : Nat))

/-- The exposure that `uri_sensor` prints. -/
def exposure (b : Build) (c : Camera) : List Print :=
  if b.exposuremodeSelect || c.agcctrl = 0 then
    [print "autoexposure=no\r\n" [], print "maxexposuretime=#\r\n" []]
  else if sameString c.aExposureTime (ascii "Auto") then
    [print "autoexposure=yes\r\n" [], print "maxexposuretime=Auto\r\n" []]
  else
    [print "autoexposure=no\r\n" []] ++
      match splitAtByte 47 (untilNul c.aExposureTime) with
      | some (_, after) => [print "maxexposuretime=%s\r\n" [.str after]]
      | none => []

/-- `uri_sensor`. -/
def uriSensor (b : Build) (c : Camera) : Reply where
  capacity := 256
  prints :=
    given b.supportBrightness [print "brightness=%d\r\n" [sensorValue b c.nbrightness]] ++
    given b.supportContrast [print "contrast=%d\r\n" [sensorValue b c.ncontrast]] ++
    given b.supportSaturation [print "saturation=%d\r\n" [.int c.nsaturation]] ++
    (if b.supportSharpness then [print "sharpness=%d\r\n" [sensorValue b c.nsharpness]]
    else given b.supportVisca [print "sharpness=%d\r\n" [.int c.aperture]]) ++
    given b.supportAwb [print "whitebalance=%s\r\n" [.str c.nwhitebalance]] ++
    given b.supportFlickless
      [print "flicker=%s\r\n" [.str (if c.videoType ≠ 0 then ascii "50" else ascii "60")]] ++
    given b.supportExposuretime (exposure b c) ++
    given b.supportAgc
      [if !b.exposuremodeSelect && c.agcctrl = 0 then
        print "autogainctrl=%s\r\n" [.str c.nmaxagcgain]
      else print "autogainctrl=no\r\n" []] ++
    given b.supportBlcmode
      [print "backlightcomp=%s\r\n" [yesNo (c.nbacklightcontrol ≠ 0)]] ++
    given b.supportMirror [print "mirror=%s\r\n" [onOff (b.turned != decide (c.nmirror ≠ 0))]] ++
    given b.supportFlip [print "flip=%s\r\n" [onOff (b.turned != decide (c.nflip ≠ 0))]] ++
    [print "videoinformat=%s\r\n"
      [.str (if c.videoType ≠ 0 then ascii "PAL" else ascii "NTSC")]]

/-- `uri_sensor_reset`, with the name and the value of the first argument, if there is one. -/
def uriSensorReset (arg : Option (List UInt8 × List UInt8)) : Reply where
  capacity := 256
  prints :=
    match arg with
    | none => [print "reset=fail\r\n" []]
    | some (name, value) =>
      given (sameString name (ascii "reset"))
        [if sameString value (ascii "go") then print "reset=yes\r\n" []
        else print "reset=fail\r\n" []]

/-! ## Sound, lamps and lines -/

/-- `uri_mic`. -/
def uriMic (b : Build) (c : Camera) : Reply where
  capacity := 512
  prints :=
    [print "enable=%s\r\n" [yesNo (c.audioinenable ≠ 0)],
      if b.platDm355 then print "volume=%d\r\n" [.int c.micininputgain]
      else if sameString c.externalmicgain b.audioingain20Db then print "volume=0\r\n" []
      else if sameString c.externalmicgain b.audioingain26Db then print "volume=1\r\n" []
      else print "volume=Nan\r\n" []]

/-- `uri_speaker`. -/
def uriSpeaker (c : Camera) : Reply where
  capacity := 512
  prints :=
    [print "enable=%s\r\n" [yesNo (c.audiooutenable ≠ 0)],
      print "volume=%d\r\n" [.int c.audiooutvolume]]

/-- `uri_led`. -/
def uriLed (c : Camera) : Reply where
  capacity := 512
  prints := [print "led=%s\r\n" [onOff (c.ledStatus ≠ 0)]]

/-- `uri_io`. -/
def uriIo (b : Build) (c : Camera) : Reply where
  capacity := 256
  prints :=
    given (1 ≤ b.gioinNum) [print "in1=%s\r\n" [onOff (c.alarm 1)]] ++
    given (2 ≤ b.gioinNum) [print "in2=%s\r\n" [onOff (c.alarm 2)]] ++
    given (3 ≤ b.gioinNum) [print "in3=%s\r\n" [onOff (c.alarm 3)]] ++
    given (4 ≤ b.gioinNum) [print "in4=%s\r\n" [onOff (c.alarm 4)]] ++
    given (5 ≤ b.gioinNum) [print "in5=%s\r\n" [onOff (c.alarm 5)]] ++
    given (6 ≤ b.gioinNum) [print "in6=%s\r\n" [onOff (c.alarm 6)]] ++
    given (7 ≤ b.gioinNum) [print "in7=%s\r\n" [onOff (c.alarm 7)]] ++
    given (8 ≤ b.gioinNum) [print "in8=%s\r\n" [onOff (c.alarm 8)]] ++
    given (1 ≤ b.giooutNum) [print "out1=%s\r\n" [onOff (c.alarmOut 1)]] ++
    given (2 ≤ b.giooutNum) [print "out2=%s\r\n" [onOff (c.alarmOut 2)]] ++
    given (3 ≤ b.giooutNum) [print "out3=%s\r\n" [onOff (c.alarmOut 3)]] ++
    given (4 ≤ b.giooutNum) [print "out4=%s\r\n" [onOff (c.alarmOut 4)]]

/-- `uri_notify`. -/
def uriNotify (b : Build) (c : Camera) : Reply where
  capacity := 256
  prints :=
    [print "md1=%s\r\n" [onOff c.statusMotion]] ++
    given (1 ≤ b.gioinNum) [print "input1=%s\r\n" [onOff (c.alarm 1)]] ++
    given (2 ≤ b.gioinNum) [print "input2=%s\r\n" [onOff (c.alarm 2)]] ++
    given (3 ≤ b.gioinNum) [print "input3=%s\r\n" [onOff (c.alarm 3)]] ++
    given (4 ≤ b.gioinNum) [print "input4=%s\r\n" [onOff (c.alarm 4)]] ++
    given (5 ≤ b.gioinNum) [print "input5=%s\r\n" [onOff (c.alarm 5)]] ++
    given (6 ≤ b.gioinNum) [print "input6=%s\r\n" [onOff (c.alarm 6)]] ++
    given (7 ≤ b.gioinNum) [print "input7=%s\r\n" [onOff (c.alarm 7)]] ++
    given (8 ≤ b.gioinNum) [print "input8=%s\r\n" [onOff (c.alarm 8)]] ++
    [print "recording=%s\r\n" [onOff c.onRecord],
      print "mdetecting=%s\r\n" [onOff (c.motionenable ≠ 0)],
      print "output1=%s\r\n" [onOff (c.alarmOut 1)],
      print "vsignal=on\r\n" []]

/-- `uri_rs485`. -/
def uriRs485 (c : Camera) : Reply where
  capacity := 512
  prints :=
    [print "enable=%s\r\n" [yesNo (c.rs485Enable ≠ 0)],
      print "proto=%s\r\n"
        [.str (if c.rs485Protocol ≠ 0 then ascii "PelcoP" else ascii "PelcoD")],
      print "devid=%d\r\n" [.int c.rs485Id],
      print "baudrate=%d\r\n" [.int (2400 * 2 ^ c.rs485Speed : Nat)],
      print "databits=%d\r\n" [.int (if c.rs485Data ≠ 0 then 8 else 7)],
      if c.rs485Parity = 1 then print "parity=even\r\n" []
      else if c.rs485Parity = 2 then print "parity=odd\r\n" []
      else print "parity=none\r\n" [],
      print "stopbits=%d\r\n" [.int (if c.rs485Stop ≠ 0 then 2 else 1)],
      print "home=\r\n" [],
      print "up=\r\n" [],
      print "down=\r\n" [],
      print "left=\r\n" [],
      print "right=\r\n" [],
      print "stop=\r\n" [],
      print "wide=\r\n" [],
      print "tele=\r\n" [],
      print "focusfar=\r\n" [],
      print "focusnear=\r\n" []]

/-- `uri_icr`; the times are shown when the mode that was asked for is the schedule. -/
def uriIcr (b : Build) (c : Camera) (scheduled : Bool) : Reply where
  capacity := 256
  prints :=
    (if c.dncMode = b.dncModeDay then [print "mode=on\r\n" []]
    else if c.dncMode = b.dncModeNight then [print "mode=off\r\n" []]
    else if c.dncMode = b.dncModeAuto then [print "mode=auto\r\n" []]
    else given (c.dncMode = b.dncModeSchedule) [print "mode=schedule\r\n" []]) ++
    given scheduled (schedule c.dncScheduleStart c.dncScheduleEnd)

/-- `uri_irled`; the times are shown when the mode that was asked for is the schedule. -/
def uriIrled (b : Build) (c : Camera) (scheduled : Bool) : Reply where
  capacity := 256
  prints :=
    (if c.powerout = b.dcPowerOn then [print "mode=on\r\n" []]
    else if c.powerout = b.dcPowerOff then [print "mode=off\r\n" []]
    else if c.powerout = b.dcPowerSync then [print "mode=auto\r\n" []]
    else given (c.powerout = b.dcPowerSchedule) [print "mode=schedule\r\n" []]) ++
    given scheduled (schedule c.powerscheduleStart c.powerscheduleEnd)

/-! ## Accounts -/

/-- `groupnum`. -/
def groupnum : List (List UInt8) := [ascii "admin", ascii "user", ascii "guest"]

/-- `uri_user_mod`, for an account that was added under a name that no account had. -/
def uriUserMod (userName : List UInt8) (authority : Fin groupnum.length) : Reply where
  capacity := 512
  prints :=
    [print "user=%s\r\n" [.str userName],
      print "password=********\r\n" [],
      print "group=%s\r\n" [.str (groupnum.get authority)]]

/-- The accounts that have a name. -/
def userCnt (b : Build) (c : Camera) : Nat :=
  (List.range b.acountNum).countP fun i => untilNul (c.acounts i).name ≠ []

/-- `uri_user_list`, with the name and the value of the first argument, if there is one. -/
def uriUserList (b : Build) (c : Camera) (arg : Option (List UInt8 × List UInt8)) : Reply where
  capacity := 512
  prints :=
    match arg with
    | some (name, value) =>
      given (sameString name (ascii "name"))
        (match (List.range (userCnt b c)).find? fun i => sameString (c.acounts i).name value with
        | some i =>
          [print "password=********\r\n" [], print "group=%d\r\n" [.int (c.acounts i).authority]]
        | none => [])
    | none =>
      [print "users=%d\r\n" [.int (userCnt b c)]] ++
        ((List.range (userCnt b c + 1)).filter fun i => untilNul (c.acounts i).name ≠ []).map
          fun i => print "%s=%d\r\n" [.str (c.acounts i).name, .int (c.acounts i).authority]

/-- `uri_user_del`, with the account that was deleted, if one was. -/
def uriUserDel (deleted : Option (List UInt8)) : Reply where
  capacity := 512
  prints :=
    match deleted with
    | some value => [print "username=%s\r\n" [.str value]]
    | none => []

/-! ## Streams and the network -/

/-- The resolutions from one on, of those that are left before `MAX_RESOLUTIONS`. -/
def resolutions (c : Camera) : Nat → Nat → List Print
  | 0, _ => []
  | left + 1, i =>
    given (untilNul (c.resolutionList i) ≠ []) [print "%s" [.str (c.resolutionList i)]] ++
      if untilNul (c.resolutionList (i + 1)) ≠ [] then
        print "," [] :: resolutions c left (i + 1)
      else [print "\r\n" []]

/-- The bitrates from the first that the sensor has. -/
def vbitrates (b : Build) (c : Camera) : List Print :=
  let first := if b.fewBitrates then 2 else 0
  (List.range' first (b.maxMp4Bitrate - first)).flatMap fun i =>
    [print "%s" [.str (c.mp4Bitrate i)]] ++ given (i + 1 < b.maxMp4Bitrate) [print "," []]

/-- The lines of `uri_stream_info` for a profile. -/
def vprofile (b : Build) (c : Camera) (i : Nat) : List Print :=
  let profile := c.profile i
  let codec := sameString profile.codecname
  [if codec b.jpegParserName then print "vprofile%d=MJPEG\r\n" [.int (i + 1)]
    else print "vprofile%d=%s\r\n" [.int (i + 1), .str profile.codecname],
    if codec b.mpeg4ParserName then
      print "vprofileurl%d=/video/ACVS.cgi?profileid=%d\r\n" [.int (i + 1), .int (i + 1)]
    else if codec b.jpegParserName then
      print "vprofileurl%d=/video/mjpg.cgi?profileid=%d\r\n" [.int (i + 1), .int (i + 1)]
    else print "vprofileurl%d=/video/ACVS-H264.cgi?profileid=%d\r\n" [.int (i + 1), .int (i + 1)],
    print "vprofileres%d=%s\r\n" [.int (i + 1), .str profile.resolution]]

/-- `uri_stream_info`. -/
def uriStreamInfo (b : Build) (c : Camera) : Reply where
  capacity := 1024
  prints :=
    [if b.platDm355 then print "videos=%s,%s\r\n" [.str b.mpeg4ParserName, .str b.jpegParserName]
      else print "videos=MJPEG,%s,%s\r\n" [.str b.mpeg4ParserName, .str b.h264ParserName],
      print "audios=%s\r\n" [.str c.audioInfoCodecName],
      print "resolutions=" []] ++
    resolutions c b.maxResolutions 0 ++
    [print "vbitrates=" []] ++ vbitrates b c ++
    [print "\r\n" [],
      print "goplengths=10\r\n" [],
      print "framerates=%s,%s,%s,%s,%s\r\n"
        [.str (if c.videoType = 1 then b.framerate6 else b.framerate1), .str b.framerate2,
          .str b.framerate3, .str b.framerate4, .str b.framerate5],
      print "qualities=Excellent,Good,Standard\r\n" [],
      print "asamplerates=8\r\n" [],
      print "abitrates=32\r\n" [],
      print "micvol=0...%d\r\n" [.int (b.maxMicgain - 1)],
      print "speakervol=1...10\r\n" [],
      print "vprofilenum=%d\r\n" [.int (b.profiles c)]] ++
    (List.range (b.profiles c).toNat).flatMap (vprofile b c) ++
    [print "aprofilenum=1\r\n" [],
      print "aprofile11=%s\r\n" [.str c.audioInfoCodecName],
      print "aprofileurl1=/audio/ACAS.cgi\r\n" []]

/-- `uri_rtspurl`. -/
def uriRtspurl (b : Build) (c : Camera) : Reply where
  capacity := 256
  prints :=
    (List.range (b.profiles c).toNat).flatMap fun i : Nat =>
      [print "profileid=%d\r\n" [.int (i + 1)],
        print "urlentry=%s\r\n" [.str (c.rtspstreamname i)]]

/-- `uri_audio`, with the profile that was asked for. -/
def uriAudio (c : Camera) (id : Int) : Reply where
  capacity := 256
  prints :=
    [print "profileid=%d\r\n" [.int id],
      print "codec=%s\r\n" [.str c.audioInfoCodecName],
      print "samplerate=8\r\n" [],
      print "channel=1\r\n" [],
      print "bitrate=32\r\n" []]

/-- `uri_network`. -/
def uriNetwork (c : Camera) : Reply where
  capacity := 512
  prints :=
    [print "dhcp=%s\r\n" [onOff (c.netDhcpEnable ≠ 0)],
      print "ip=%s\r\n" [.str c.ip.ntoa],
      print "netmask=%s\r\n" [.str c.netmask.ntoa],
      print "gateway=%s\r\n" [.str c.gateway.ntoa],
      print "dns1=%s\n" [.str c.dns.ntoa],
      print "dns2=192.95.1.1\n" [],
      print "pppoe=%s\r\n" [onOff (c.pppoeenable ≠ 0)],
      print "pppoeuser=%s\r\n" [.str c.pppoeaccount],
      print "pppoepass=********\r\n" [],
      print "ddns=%s\r\n" [onOff (c.ddnsEnable ≠ 0)],
      if c.ddnsType = 0 then print "providers=www.dlink.com\r\n" []
      else if c.ddnsType = 1 then print "providers=www.DynDns.org\r\n" []
      else print "providers=select Dynamic DNS Server\r\n" [],
      print "ddnshost=%s\r\n" [.str c.ddnsHostname],
      print "ddnsuser=%s\r\n" [.str c.ddnsAccount],
      print "ddnspass=********\r\n" [],
      print "upnp=%s\r\n" [onOff (c.upnpenable ≠ 0)],
      print "httpport=%d\r\n" [.int c.httpPort],
      print "rtspport=%d\r\n" [.int c.rtspPort]]

/-- `uri_pppoe`. -/
def uriPppoe (c : Camera) : Reply where
  capacity := 512
  prints :=
    [print "pppoe=%s\r\n" [onOff (c.pppoeenable ≠ 0)],
      print "user=%s\r\n" [.str c.pppoeaccount],
      print "pass=********\r\n" []]

/-- `uri_ddnsproviders`. -/
def uriDdnsproviders : Reply where
  capacity := 512
  prints :=
    [print "num=2\r\n" [], print "providers=www.dlink.com, www.DynDns.org\r\n" []]

/-- `uri_ddns`. -/
def uriDdns (c : Camera) : Reply where
  capacity := 512
  prints :=
    [print "ddns=%s\r\n" [onOff (c.ddnsEnable ≠ 0)],
      print "provider=" [],
      if c.ddnsType = 0 then print "www.dlink.com\r\n" []
      else if c.ddnsType = 1 then print "www.DynDns.org\r\n" []
      else print "select Dynamic DNS Server\r\n" [],
      print "host=%s\r\n" [.str c.ddnsHostname],
      print "user=%s\r\n" [.str c.ddnsAccount],
      print "pass=********\r\n" []]

/-- `uri_upnp`. -/
def uriUpnp (c : Camera) : Reply where
  capacity := 512
  prints :=
    [print "upnpav=%s\r\n" [onOff (c.upnpenable ≠ 0)],
      print "upnpcp=%s\r\n" [onOff (c.upnpcenable ≠ 0)]]

/-- `uri_httpport`. -/
def uriHttpport (c : Camera) : Reply where
  capacity := 512
  prints := [print "httpport=%d\r\n" [.int c.httpPort]]

/-- `uri_verify`. -/
def uriVerify : Reply where
  capacity := 256
  prints := [print "login=1\r\n" []]

/-! ## The moving camera -/

/-- The lines of a position: pan, tilt and zoom. -/
def position (p t z : Int) : List Print :=
  [print "p=%d\r\n" [.int p], print "t=%d\r\n" [.int t], print "z=%d\r\n" [.int z]]

/-- `uri_ptz_info`. -/
def uriPtzInfo (c : Camera) : Reply where
  capacity := 256
  prints :=
    [print "pmax=%d\r\n" [.int c.pan.max],
      print "pmin=%d\r\n" [.int c.pan.min],
      print "tmax=%d\r\n" [.int c.tilt.max],
      print "tmin=%d\r\n" [.int c.tilt.min],
      print "zmax=%d\r\n" [.int c.zoom.max],
      print "zmin=%d\r\n" [.int c.zoom.min],
      print "customizedhome=no\r\n" []]

/-- `uri_ptz_pos`. -/
def uriPtzPos (c : Camera) : Reply where
  capacity := 256
  prints := position c.pan.position c.tilt.position c.zoom.position

/-- `uri_ptz_step`. -/
def uriPtzStep (c : Camera) : Reply where
  capacity := 256
  prints :=
    [print "pstep=%d\r\n" [.int c.pan.step],
      print "tstep=%d\r\n" [.int c.tilt.step],
      print "zstep=%d\r\n" [.int c.zoom.step]]

/-- Names with commas between them. -/
def separated : List (List UInt8) → List Print
  | [] => []
  | name :: names =>
    print "%s" [.str name] :: names.flatMap fun name => [print "," [], print "%s" [.str name]]

/-- `uri_ptz_preset_list` with `SUPPORT_RS485`. -/
def uriPtzPresetListRs485 (b : Build) (c : Camera) : Reply where
  capacity := b.maxPtzpresetNum * b.maxPtzpresetnameLen + 64
  prints :=
    [print "presets=" []] ++
      separated (((List.range b.maxPtzpresetNum).map c.presetpositionName).filter fun name =>
        untilNul name ≠ [])

/-- The names that `sscanf` finds in presets one after the other. -/
def scanPresets : List UInt8 → List (List UInt8) → List (List UInt8)
  | _, [] => []
  | string, text :: texts => scanPreset text string :: scanPresets (scanPreset text string) texts

/-- `uri_ptz_preset_list` with `MODEL_VS2415`; `string_cmp` starts with what the stack held. -/
def uriPtzPresetListVs2415 (b : Build) (c : Camera) (stringCmp : List UInt8) : Reply where
  capacity := b.maxViscapreset * b.maxViscapresetnameLen + 512
  prints :=
    [print "presets=" []] ++
      separated (scanPresets stringCmp
        (((List.range b.maxViscapreset).map fun i : Nat => c.viscaPresetId i).filter fun text =>
          untilNul text ≠ []))
  computed := (List.range b.maxViscapreset).all fun i : Nat => presetFits (c.viscaPresetId i)

/-- `uri_ptz_preset`, with the name and the action of the request. -/
def uriPtzPreset (name act : List UInt8) : Reply where
  capacity := 256
  prints := [print "name=%s\r\n" [.str name], print "act=%s\r\n" [.str act]]

/-- `uri_ptz_move`, with the position that was set. -/
def uriPtzMove (pmove tmove zmove : Int) : Reply where
  capacity := 256
  prints := position pmove tmove zmove

/-- `uri_ptz_direction`, which prints nothing. -/
def uriPtzDirection : Reply where
  capacity := 256
  prints := []

/-- `uri_ptz_move_rel`, with the moves that were made. -/
def uriPtzMoveRel (c : Camera) (pmoveRel tmoveRel zmoveRel : Int) : Reply where
  capacity := 256
  prints :=
    position (pmoveRel.tdiv c.pan.step) (tmoveRel.tdiv c.tilt.step) (zmoveRel.tdiv c.zoom.step)
  computed := c.pan.step ≠ 0 ∧ c.tilt.step ≠ 0 ∧ c.zoom.step ≠ 0

/-- `uri_ptz_home`; the position is shown as zero when it was asked for and is not set. -/
def uriPtzHome (c : Camera) (unset : Bool) : Reply where
  capacity := 256
  prints :=
    if unset then [print "p=0\r\n" [], print "t=0\r\n" [], print "z=0\r\n" []]
    else position c.nipcaHomeP c.nipcaHomeT c.nipcaHomeZ

/-- `uri_auto_partol`, with the mode that was asked for. -/
def uriAutoPartol (go : Bool) : Reply where
  capacity := 256
  prints := [if go then print "Act=go\r\n" [] else print "Act=stop\r\n" []]

/-- `uri_auto_pan`, which shows its mode in the same way. -/
def uriAutoPan (go : Bool) : Reply := uriAutoPartol go

/-- `uri_config_auto_patrol` with arguments: the values of those that are called `presets`. As soon
as there is a name in them the presets of the camera are read. -/
def uriConfigAutoPatrolSet (b : Build) (c : Camera) (presets : List (List UInt8)) : Reply where
  capacity := b.maxViscapreset * b.maxViscapresetnameLen + 512
  prints := presets.map fun value => print "presets=%s\r\n" [.str value]
  computed := (presets.all fun value => (untilNul value).all (· = 44)) ||
    (List.range b.maxViscapreset).all fun i : Nat => presetFits (c.viscaPresetId i)

/-- The presets of a sequence, from the points that `uri_config_auto_patrol` reads. -/
def patrol (c : Camera) : Bool → List UInt8 → List Nat → List Print
  | _, _, [] => []
  | later, stringCmp, point :: points =>
    let string := scanPreset (c.viscaPresetId ((point % 256 : Nat) - 1)) stringCmp
    given later [print "," []] ++ given (untilNul string ≠ []) [print "%s" [.str string]] ++
      patrol c true string points

/-- `uri_config_auto_patrol` without arguments, with the points that it reads from the file. -/
def uriConfigAutoPatrolGet (b : Build) (c : Camera) (stringCmp : List UInt8) (points : List Nat) :
    Reply where
  capacity := b.maxViscapreset * b.maxViscapresetnameLen + 512
  prints :=
    [print "presets=" []] ++
      patrol c false stringCmp ((points.take b.maxPtzpresetNum).takeWhile (· ≠ 0)) ++
      [print "\r\n" []]
  computed := ((points.take b.maxPtzpresetNum).takeWhile (· ≠ 0)).all fun point =>
    presetFits (c.viscaPresetId ((point % 256 : Nat) - 1))

/-- `uri_focus_type`. -/
def uriFocusType (type : Int) : Reply where
  capacity := 256
  prints := [print "type=%d\r\n" [.int type]]

/-- `uri_manual_focus`. -/
def uriManualFocus (focusMove : Int) : Reply where
  capacity := 256
  prints := [print "step=%d\r\n" [.int focusMove]]

/-! ## The page of the device -/

end BoaIpcam.Nipca
