import BoaIpcam.Printf

/-!
# What the replies read

The replies of `request.c` read the configuration (`conf_string_read` and `sys_info->ipcam`), the
state in `sys_info` and constants of headers that differ from build to build. Strings are memory,
read up to the first NUL; the entries of an array are indexed as the source computes them, also
behind its end.
-/
namespace BoaIpcam.Nipca

/-- The constants and the conditions of a build. -/
structure Build where
  /-- `APP_VERSION_MAJOR`. -/
  appVersionMajor : Int
  /-- `APP_VERSION_MINOR`. -/
  appVersionMinor : Int
  /-- `SUPPORT_WIRELESS`. -/
  supportWireless : Bool
  /-- `SUPPORT_VISCA`. -/
  supportVisca : Bool
  /-- `SUPPORT_EPTZ`. -/
  supportEptz : Bool
  /-- `SUPPORT_PROFILE_NUMBER`. -/
  supportProfileNumber : Bool
  /-- `SUPPORT_WDRLEVEL`. -/
  supportWdrlevel : Bool
  /-- `SUPPORT_BRIGHTNESS`. -/
  supportBrightness : Bool
  /-- `SUPPORT_CONTRAST`. -/
  supportContrast : Bool
  /-- `SUPPORT_SATURATION`. -/
  supportSaturation : Bool
  /-- `SUPPORT_SHARPNESS`. -/
  supportSharpness : Bool
  /-- `SUPPORT_AWB`. -/
  supportAwb : Bool
  /-- `SUPPORT_FLICKLESS`. -/
  supportFlickless : Bool
  /-- `SUPPORT_EXPOSURETIME`. -/
  supportExposuretime : Bool
  /-- `SUPPORT_AGC`. -/
  supportAgc : Bool
  /-- `SUPPORT_BLCMODE`. -/
  supportBlcmode : Bool
  /-- `SUPPORT_MIRROR`. -/
  supportMirror : Bool
  /-- `SUPPORT_FLIP`. -/
  supportFlip : Bool
  /-- `SUPPORT_DOME` without `SENSOR_USE_MT9V136`. -/
  turned : Bool
  /-- The levels of the picture are eight steps. -/
  image8Order : Bool
  /-- `SENSOR_USE_MT9V136`. -/
  sensorUseMt9v136 : Bool
  /-- `SENSOR_USE_IMX035` or `SENSOR_USE_IMX076`. -/
  sensorUseImx : Bool
  /-- The sensors whose first bitrate is the third of the list. -/
  fewBitrates : Bool
  /-- `EXPOSURETYPE == EXPOSUREMODE_SELECT`. -/
  exposuremodeSelect : Bool
  /-- `PLAT_DM355`, not `PLAT_DM365`. -/
  platDm355 : Bool
  /-- `GIOIN_NUM`. -/
  gioinNum : Nat
  /-- `GIOOUT_NUM`. -/
  giooutNum : Nat
  /-- `ACOUNT_NUM`. -/
  acountNum : Nat
  /-- `MAX_AWB`. -/
  maxAwb : Nat
  /-- `MAX_RESOLUTIONS`. -/
  maxResolutions : Nat
  /-- `MAX_MP4_BITRATE`. -/
  maxMp4Bitrate : Nat
  /-- `MAX_MICGAIN`. -/
  maxMicgain : Int
  /-- `MAX_WEB_PROFILE_NUM`. -/
  maxWebProfileNum : Int
  /-- `MAX_WDRLEVEL`. -/
  maxWdrlevel : Int
  /-- `MIN_BRIGHTNESS`. -/
  minBrightness : Int
  /-- `MAX_BRIGHTNESS`. -/
  maxBrightness : Int
  /-- `MIN_CONTRAST`. -/
  minContrast : Int
  /-- `MAX_CONTRAST`. -/
  maxContrast : Int
  /-- `MIN_SATURATION`. -/
  minSaturation : Int
  /-- `MAX_SATURATION`. -/
  maxSaturation : Int
  /-- `MIN_SHARPNESS`. -/
  minSharpness : Int
  /-- `MAX_SHARPNESS`. -/
  maxSharpness : Int
  /-- `MAX_PTZPRESET_NUM`. -/
  maxPtzpresetNum : Nat
  /-- `MAX_PTZPRESETNAME_LEN`. -/
  maxPtzpresetnameLen : Nat
  /-- `MAX_VISCAPRESET`. -/
  maxViscapreset : Nat
  /-- `MAX_VISCAPRESETNAME_LEN`. -/
  maxViscapresetnameLen : Nat
  /-- `JPEG_PARSER_NAME`. -/
  jpegParserName : List UInt8
  /-- `MPEG4_PARSER_NAME`. -/
  mpeg4ParserName : List UInt8
  /-- `H264_PARSER_NAME`. -/
  h264ParserName : List UInt8
  /-- The first text of the frame rates. -/
  framerate1 : List UInt8
  /-- The second one. -/
  framerate2 : List UInt8
  /-- The third one. -/
  framerate3 : List UInt8
  /-- The fourth one. -/
  framerate4 : List UInt8
  /-- The fifth one. -/
  framerate5 : List UInt8
  /-- The sixth one. -/
  framerate6 : List UInt8
  /-- The text of a gain of 20 dB. -/
  audioingain20Db : List UInt8
  /-- The text of a gain of 26 dB. -/
  audioingain26Db : List UInt8
  /-- `DNC_MODE_DAY`. -/
  dncModeDay : Nat
  /-- `DNC_MODE_NIGHT`. -/
  dncModeNight : Nat
  /-- `DNC_MODE_AUTO`. -/
  dncModeAuto : Nat
  /-- `DNC_MODE_SCHEDULE`. -/
  dncModeSchedule : Nat
  /-- `DC_POWER_ON`. -/
  dcPowerOn : Nat
  /-- `DC_POWER_OFF`. -/
  dcPowerOff : Nat
  /-- `DC_POWER_SYNC`. -/
  dcPowerSync : Nat
  /-- `DC_POWER_SCHEDULE`. -/
  dcPowerSchedule : Nat
deriving Inhabited

/-- An address of the network, its bytes in order. -/
structure InAddr where
  /-- The first byte. -/
  first : UInt8
  /-- The second byte. -/
  second : UInt8
  /-- The third byte. -/
  third : UInt8
  /-- The last byte. -/
  fourth : UInt8
deriving Inhabited

/-- `inet_ntoa`. -/
def InAddr.ntoa (addr : InAddr) : List UInt8 :=
  decimal addr.first.toNat ++ [46] ++ decimal addr.second.toNat ++ [46] ++
    decimal addr.third.toNat ++ [46] ++ decimal addr.fourth.toNat

/-- `struct tm`. -/
structure Tm where
  /-- The years since 1900. -/
  year : Int
  /-- The month, from zero. -/
  mon : Int
  /-- The day of the month. -/
  mday : Int
  /-- The hour. -/
  hour : Int
  /-- The minute. -/
  min : Int
  /-- The second. -/
  sec : Int
deriving Inhabited

/-- The five entries of `DSTSTART_…` and of `DSTEND_…`. -/
structure Dst where
  /-- The month. -/
  month : Nat
  /-- The week of the month. -/
  week : Nat
  /-- The day of the week. -/
  day : Nat
  /-- The hour. -/
  hour : Nat
  /-- The minute. -/
  minute : Nat
deriving Inhabited

/-- The entries `PROFILE_CONFIG0_…` of a profile. -/
structure Profile where
  /-- The codec. -/
  codecname : List UInt8
  /-- The resolution. -/
  resolution : List UInt8
  /-- The size of the ePTZ window. -/
  eptzwindowsize : List UInt8
  /-- The frame rate. -/
  framerate : List UInt8
  /-- The bit rate. -/
  cbrQuality : List UInt8
  /-- The mode of the quality. -/
  qmode : Nat
  /-- The quality of a fixed quality. -/
  fixedQuality : Nat
  /-- The quality of JPEG. -/
  jpegQuality : Nat
deriving Inhabited

/-- The entries `ACOUNTS0_…` of an account. -/
structure Account where
  /-- The name. -/
  name : List UInt8
  /-- The authority. -/
  authority : Nat
deriving Inhabited

/-- An axis of `vsptz.nipca_ptz`. -/
structure Axis where
  /-- The greatest position. -/
  max : Int
  /-- The least position. -/
  min : Int
  /-- The position. -/
  position : Int
  /-- The step. -/
  step : Int
deriving Inhabited

/-- The configuration and the state of the camera. -/
structure Camera where
  /-- The name of the model. -/
  modelName : List UInt8
  /-- The title of the camera. -/
  title : List UInt8
  /-- The hardware address. -/
  mac : Fin 6 → UInt8
  /-- The address. -/
  ip : InAddr
  /-- The mask of the network. -/
  netmask : InAddr
  /-- The gateway. -/
  gateway : InAddr
  /-- The name server. -/
  dns : InAddr
  /-- `NTP_FREQUENCY`. -/
  ntpFrequency : Int
  /-- The time server. -/
  ntpServer : List UInt8
  /-- The number of the time zone. -/
  ntpTimezone : Nat
  /-- The time. -/
  tmNow : Tm
  /-- Whether there is daylight saving time. -/
  dstEnable : Nat
  /-- `DST_MODE`. -/
  dstMode : Nat
  /-- `DST_SHIFT`. -/
  dstShift : Int
  /-- The start of daylight saving time. -/
  dstStart : Dst
  /-- Its end. -/
  dstEnd : Dst
  /-- The profiles. -/
  profile : Nat → Profile
  /-- `CONFIG_MAX_WEB_PROFILE_NUM`. -/
  configMaxWebProfileNum : Int
  /-- Whether motion is detected. -/
  motionenable : Nat
  /-- What `para_motionblock` leaves in its buffer. -/
  motionblock : List UInt8
  /-- The sensitivity. -/
  motioncvalue : Nat
  /-- `api_string.awb`. -/
  awb : Nat → List UInt8
  /-- The brightness. -/
  nbrightness : Nat
  /-- The contrast. -/
  ncontrast : Nat
  /-- The saturation. -/
  nsaturation : Nat
  /-- The sharpness. -/
  nsharpness : Nat
  /-- The aperture of a VISCA camera. -/
  aperture : Int
  /-- The white balance. -/
  nwhitebalance : List UInt8
  /-- The video system. -/
  videoType : Nat
  /-- `AGCCTRL`. -/
  agcctrl : Nat
  /-- The exposure time. -/
  aExposureTime : List UInt8
  /-- The greatest gain. -/
  nmaxagcgain : List UInt8
  /-- The backlight compensation. -/
  nbacklightcontrol : Nat
  /-- Whether the picture is mirrored. -/
  nmirror : Nat
  /-- Whether it is turned. -/
  nflip : Nat
  /-- Whether there is audio input. -/
  audioinenable : Nat
  /-- The gain of the microphone. -/
  micininputgain : Nat
  /-- The gain of an external microphone. -/
  externalmicgain : List UInt8
  /-- Whether there is audio output. -/
  audiooutenable : Nat
  /-- Its volume. -/
  audiooutvolume : Nat
  /-- The state of the LED. -/
  ledStatus : Nat
  /-- The inputs. -/
  alarm : Nat → Bool
  /-- The outputs. -/
  alarmOut : Nat → Bool
  /-- Whether the serial line is used. -/
  rs485Enable : Nat
  /-- Its protocol. -/
  rs485Protocol : Nat
  /-- The address on it. -/
  rs485Id : Nat
  /-- Its speed. -/
  rs485Speed : Nat
  /-- Its data bits. -/
  rs485Data : Nat
  /-- Its parity. -/
  rs485Parity : Nat
  /-- Its stop bits. -/
  rs485Stop : Nat
  /-- The accounts. -/
  acounts : Nat → Account
  /-- The audio codec. -/
  audioInfoCodecName : List UInt8
  /-- The resolutions. -/
  resolutionList : Nat → List UInt8
  /-- The bit rates. -/
  mp4Bitrate : Nat → List UInt8
  /-- The day and night mode. -/
  dncMode : Nat
  /-- The start of its schedule. -/
  dncScheduleStart : Nat
  /-- The end of its schedule. -/
  dncScheduleEnd : Nat
  /-- The mode of the light. -/
  powerout : Nat
  /-- The start of its schedule. -/
  powerscheduleStart : Nat
  /-- The end of its schedule. -/
  powerscheduleEnd : Nat
  /-- Whether the address comes from DHCP. -/
  netDhcpEnable : Nat
  /-- Whether PPPoE is used. -/
  pppoeenable : Nat
  /-- Its account. -/
  pppoeaccount : List UInt8
  /-- Whether dynamic DNS is used. -/
  ddnsEnable : Nat
  /-- Its provider. -/
  ddnsType : Nat
  /-- Its host. -/
  ddnsHostname : List UInt8
  /-- Its account. -/
  ddnsAccount : List UInt8
  /-- Whether UPnP is used. -/
  upnpenable : Nat
  /-- Whether it forwards the ports. -/
  upnpcenable : Nat
  /-- The port of HTTP. -/
  httpPort : Nat
  /-- The port of RTSP. -/
  rtspPort : Nat
  /-- The names of the RTSP streams. -/
  rtspstreamname : Nat → List UInt8
  /-- The pan axis. -/
  pan : Axis
  /-- The tilt axis. -/
  tilt : Axis
  /-- The zoom axis. -/
  zoom : Axis
  /-- The names of the presets. -/
  presetpositionName : Nat → List UInt8
  /-- The texts of the presets of a VISCA camera. -/
  viscaPresetId : Int → List UInt8
  /-- The pan of the home position. -/
  nipcaHomeP : Int
  /-- Its tilt. -/
  nipcaHomeT : Int
  /-- Its zoom. -/
  nipcaHomeZ : Int
  /-- Whether there is motion. -/
  statusMotion : Bool
  /-- Whether it records. -/
  onRecord : Bool
deriving Inhabited

end BoaIpcam.Nipca
