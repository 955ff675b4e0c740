import BoaIpcam.Nipca.Handlers

/-!
# The announced length

A NIPCA handler announces the sum of its calls and sends its text as a format. The two agree exactly
when no string in the text has a `%`: a `%%` makes the body shorter than announced, and any other
conversion takes an argument that is not there. The text also has to fit its local buffer, which no
call checks, and a handler that prints nothing sends whatever the stack holds.
-/
namespace BoaIpcam.Nipca

open Printf

/-- The replies with `send_request_dlink_ok`, with what a handler has read from its request. -/
inductive Handler where
  | info
  | cameraInfo
  | datetime (startSec stopSec : Int)
  | videoNoProfileid
  | video (profileId : Nat)
  | motion
  | sensorInfo
  | sensor
  | sensorReset (arg : Option (List UInt8 × List UInt8))
  | mic
  | speaker
  | led
  | io
  | notify
  | rs485
  | icr (scheduled : Bool)
  | irled (scheduled : Bool)
  | userMod (userName : List UInt8) (authority : Fin groupnum.length)
  | userList (arg : Option (List UInt8 × List UInt8))
  | userDel (deleted : Option (List UInt8))
  | streamInfo
  | rtspurl
  | audio (id : Int)
  | network
  | pppoe
  | ddnsproviders
  | ddns
  | upnp
  | httpport
  | verify
  | ptzInfo
  | ptzPos
  | ptzStep
  | ptzPresetListRs485
  | ptzPresetListVs2415 (stringCmp : List UInt8)
  | ptzPreset (name act : List UInt8)
  | ptzMove (pmove tmove zmove : Int)
  | ptzDirection
  | ptzMoveRel (pmoveRel tmoveRel zmoveRel : Int)
  | ptzHome (unset : Bool)
  | autoPartol (go : Bool)
  | autoPan (go : Bool)
  | configAutoPatrolSet (presets : List (List UInt8))
  | configAutoPatrolGet (stringCmp : List UInt8) (points : List Nat)
  | focusType (type : Int)
  | manualFocus (focusMove : Int)

/-- The reply of a handler. -/
def Handler.reply (b : Build) (c : Camera) : Handler → Reply
  | info => uriInfo b c
  | cameraInfo => uriCameraInfo c
  | datetime startSec stopSec => uriDatetime c startSec stopSec
  | videoNoProfileid => uriVideoNoProfileid
  | video profileId => uriVideo b c profileId
  | motion => uriMotion c
  | sensorInfo => uriSensorInfo b c
  | sensor => uriSensor b c
  | sensorReset arg => uriSensorReset arg
  | mic => uriMic b c
  | speaker => uriSpeaker c
  | led => uriLed c
  | io => uriIo b c
  | notify => uriNotify b c
  | rs485 => uriRs485 c
  | icr scheduled => uriIcr b c scheduled
  | irled scheduled => uriIrled b c scheduled
  | userMod userName authority => uriUserMod userName authority
  | userList arg => uriUserList b c arg
  | userDel deleted => uriUserDel deleted
  | streamInfo => uriStreamInfo b c
  | rtspurl => uriRtspurl b c
  | audio id => uriAudio c id
  | network => uriNetwork c
  | pppoe => uriPppoe c
  | ddnsproviders => uriDdnsproviders
  | ddns => uriDdns c
  | upnp => uriUpnp c
  | httpport => uriHttpport c
  | verify => uriVerify
  | ptzInfo => uriPtzInfo c
  | ptzPos => uriPtzPos c
  | ptzStep => uriPtzStep c
  | ptzPresetListRs485 => uriPtzPresetListRs485 b c
  | ptzPresetListVs2415 stringCmp => uriPtzPresetListVs2415 b c stringCmp
  | ptzPreset name act => uriPtzPreset name act
  | ptzMove pmove tmove zmove => uriPtzMove pmove tmove zmove
  | ptzDirection => uriPtzDirection
  | ptzMoveRel pmoveRel tmoveRel zmoveRel => uriPtzMoveRel c pmoveRel tmoveRel zmoveRel
  | ptzHome unset => uriPtzHome c unset
  | autoPartol go => uriAutoPartol go
  | autoPan go => uriAutoPan go
  | configAutoPatrolSet presets => uriConfigAutoPatrolSet b c presets
  | configAutoPatrolGet stringCmp points => uriConfigAutoPatrolGet b c stringCmp points
  | focusType type => uriFocusType type
  | manualFocus focusMove => uriManualFocus focusMove

end BoaIpcam.Nipca
