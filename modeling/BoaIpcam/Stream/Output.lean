import BoaIpcam.Numeral

/-!
# The output of a stream request

A stream request sends from two places: its buffer, which takes the header of a part and the bytes
that come before the frame, and the memory of the driver, where the frame is. `buffer.c` fills and
empties the buffer; `response.c` writes the headers. `add_jpeg_header` of `get.c` and
`print_dlink_audio_headers` copy past the check of the buffer.

The system is a parameter of the headers: the time, the alarms and so on as `Info`.
-/
namespace BoaIpcam.Stream

/-! ## The request -/

/-- A text without an end of line. -/
structure OneLine where
  /-- Its bytes. -/
  text : List UInt8
  /-- None of them ends a line. -/
  inner : (10 : UInt8) ∉ text

/-- A frame of the driver. -/
structure AvData where
  /-- The memory of the driver, which reaches beyond both ends of the frame. -/
  ptr : Int → UInt8
  /-- The length of the frame. -/
  size : Nat
  /-- The serial number of the frame. -/
  serial : Nat
  /-- The serial number under which the frame is locked. -/
  serialLock : Nat
  /-- The time of the frame. -/
  timestamp : Int
  /-- The text that `%.2f` makes of the rate. -/
  framerate : OneLine
  /-- The integral part of the rate. -/
  framerateShort : Nat
  /-- The width of the picture. -/
  width : Nat
  /-- The height of the picture. -/
  height : Nat
  /-- The frame needs no other frame. -/
  iFrame : Bool

/-- A frame that is not there. -/
def AvData.none : AvData := ⟨fun _ => 0, 0, 0, 0, 0, ⟨[], List.not_mem_nil⟩, 0, 0, 0, false⟩

/-- What `data_mem` points to. -/
structure Block where
  /-- The memory around the first byte. -/
  ptr : Int → UInt8
  /-- `filesize`, the number of bytes that are sent. -/
  size : Nat

/-- The bytes of a block from a position on. -/
def Block.from (block : Block) (position : Nat) : List UInt8 :=
  (List.range (block.size - position)).map fun i => block.ptr ((position + i : Nat) : Int)

/-- The bytes of a block. -/
def Block.bytes (block : Block) : List UInt8 := block.from 0

/-- The bytes of a frame. -/
def AvData.block (frame : AvData) : Block := ⟨frame.ptr, frame.size⟩

/-- `http_stream`, without the number of the driver's stream. -/
inductive Kind
  | mjpeg
  | mpeg4
  | h264
  | httpMjpeg
  | dlinkMpeg4
  | dlinkH264
  | avc
  | audioG726
deriving DecidableEq, Repr

/-- The values of `status` that a stream request can have. -/
inductive Status
  /-- `WRITE`. -/
  | write
  /-- `BODY_WRITE` or `BODY_READ`, which `read_header` gives to a POST. -/
  | body
  /-- `DONE`. -/
  | done
  /-- `DEAD`. -/
  | dead
deriving DecidableEq, Repr

/-- A stream request. -/
structure Request where
  /-- The type of the stream. -/
  kind : Kind
  /-- What the main loop does with the request. -/
  status : Status
  /-- What is below `buffer_end`. -/
  buffer : List UInt8
  /-- How much of the buffer was sent. -/
  bufferStart : Nat
  /-- `data_mem` with `filesize`. -/
  data : Block
  /-- How much of the block was sent. -/
  filepos : Nat
  /-- The number of bytes between the header and the block. -/
  extraSize : Nat
  /-- The last video frame. -/
  video : AvData
  /-- The last audio frame. -/
  audio : AvData
  /-- The client asks for audio. -/
  audioOn : Bool
  /-- How often `audio_get` was called. -/
  audioTurns : Nat
  /-- `BUSY_FLAG_VIDEO`. -/
  busyVideo : Bool
  /-- `BUSY_FLAG_AUDIO`. -/
  busyAudio : Bool
  /-- When the last video frame came, or zero. -/
  lastStreamTime : Nat
  /-- `KA_ACTIVE`, with requests left in `kacount`. -/
  keepalive : Bool

/-- The names that `AUDIO_INFO_CODEC_NAME` is compared with. -/
inductive AudioCodec
  | g726
  | g711
  | other
deriving DecidableEq, Repr

/-- What the handlers read of the rest of the system. -/
structure Info where
  /-- `sys_info->second`. -/
  second : Nat
  /-- The status bits of `X-Status`. -/
  xStatus : Nat
  /-- The zoom ratio of the lens. -/
  zoomratio : OneLine
  /-- `AUDIOINENABLE`. -/
  audioinenable : Bool
  /-- `AUDIO_INFO_CODEC_NAME`. -/
  audioCodec : AudioCodec
  /-- The sensor is one of those with a number in `X-Tag`. -/
  audioTag : Bool
  /-- The seconds of `gettimeofday`. -/
  timeSec : Nat
  /-- The microseconds of `gettimeofday`. -/
  timeUsec : Nat
  /-- The year. -/
  year : Nat
  /-- The month. -/
  month : Nat
  /-- The day. -/
  day : Nat
  /-- The hour. -/
  hour : Nat
  /-- The minute. -/
  minute : Nat
  /-- The second of the minute. -/
  tmSec : Nat
  /-- The check sum of a JPEG header. -/
  jpegSum : Nat
  /-- The machine code of a JPEG header. -/
  machineCode : Nat
  /-- The text of `rfc822_time_buf`. -/
  lastModified : List UInt8
  /-- A date has 29 bytes. -/
  dated : lastModified.length = 29

/-! ## The buffer -/

/-- `BUFFER_SIZE` and `SOCKETBUF_SIZE`. -/
def bufferSize : Nat := 8192

/-- `req_copy`. -/
def reqCopy (r : Request) (data : List UInt8) : Request :=
  if data.length = 0 ∨ r.status = .dead then r
  else if r.buffer.length + data.length > bufferSize then { r with status := .dead }
  else { r with buffer := r.buffer ++ data }

/-- `req_write`, which is `req_copy` for a text. -/
def reqWrite (r : Request) (msg : List UInt8) : Request := reqCopy r msg

/-- `req_write` of several texts. -/
def reqWrites (r : Request) (msgs : List (List UInt8)) : Request := msgs.foldl reqWrite r

/-- `reset_output_buffer`. -/
def resetOutputBuffer (r : Request) : Request := { r with buffer := [], extraSize := 0 }

/-- A `memcpy` behind the end of the buffer. -/
def memcpyBuffer (r : Request) (data : List UInt8) : Request :=
  { r with buffer := r.buffer ++ data }

/-- What `write` or `SSL_write` does: it takes at most as much as it is offered. -/
inductive Written
  | wrote (amount : Nat)
  | wouldBlock
  | failed
deriving DecidableEq, Repr

/-- The end of `req_flush`: a buffer that was sent is used again from its start. -/
def settle (r : Request) : Request :=
  if r.bufferStart = r.buffer.length then { r with buffer := [], bufferStart := 0 } else r

/-- `req_flush`: the request, the bytes that were sent and the return value. -/
def reqFlush (r : Request) (written : Written) : Request × List UInt8 × Int :=
  let offered := r.buffer.drop r.bufferStart
  if r.status = .dead then (r, [], -2)
  else if offered.length ≠ 0 then
    match written with
    | .wouldBlock => (r, [], -1)
    | .failed => ({ r with buffer := [], bufferStart := 0, status := .dead }, [], -2)
    | .wrote amount =>
      let sent := offered.take amount
      let next := settle { r with bufferStart := r.bufferStart + sent.length }
      (next, sent, next.buffer.length)
  else (settle r, [], (settle r).buffer.length)

/-! ## Headers -/

/-- The end of a line. -/
def crlf : List UInt8 := [13, 10]

/-- `HTTP_BOUNDARY`. -/
def boundary : List UInt8 := ascii "--myboundary"

/-- The low bytes of a number, the lowest first. -/
def littleEndian (bytes value : Nat) : List UInt8 :=
  (List.range bytes).map fun i => UInt8.ofNat (value / 256 ^ i)

/-- `%08X` of `sprintf`. -/
def hex8 (value : Nat) : List UInt8 :=
  ((List.range 8).reverse.map fun i => value / 16 ^ i % 16).map fun digit =>
    UInt8.ofNat (if digit < 10 then 48 + digit else 55 + digit)

/-- `print_content_length`. -/
def contentLength (r : Request) : List (List UInt8) :=
  [ascii "Content-Length: ", decimal (r.data.size + r.extraSize), crlf]

/-- `print_ipcam_status` to `print_vszoom_tag`. -/
def videoTags (info : Info) (r : Request) : List (List UInt8) :=
  [ascii "X-Status: " ++ hex8 info.xStatus ++ crlf,
    ascii "X-Tag: ", decimal r.video.serial, crlf,
    ascii "X-Flags: 0" ++ crlf,
    ascii "X-Framerate: " ++ r.video.framerate.text ++ crlf,
    ascii "X-Resolution: ", intText r.video.width ++ ascii "*" ++ intText r.video.height ++ crlf,
    if info.audioinenable ∧ r.audioOn then ascii "X-Audio: 1" ++ crlf
    else ascii "X-Audio: 0" ++ crlf,
    ascii "X-Timestamp: " ++ intText r.video.timestamp ++ crlf,
    ascii "X-Zoom: ", info.zoomratio.text ++ crlf]

/-- The texts of the header of a part. -/
def partHeader (type : List UInt8) (tags : List (List UInt8)) (r : Request) : List (List UInt8) :=
  [boundary ++ crlf ++ ascii "Content-Type: " ++ type ++ crlf] ++ contentLength r ++ tags ++ [crlf]

/-- `print_mjpeg_headers`. -/
def printMjpegHeaders (info : Info) (r : Request) : Request :=
  reqWrites r (partHeader (ascii "image/jpeg") (videoTags info r) r)

/-- `print_mpeg4_headers`. -/
def printMpeg4Headers (info : Info) (r : Request) : Request :=
  reqWrites r (partHeader (ascii "image/mpeg4") (videoTags info r) r)

/-- `print_H264_headers`. -/
def printH264Headers (info : Info) (r : Request) : Request :=
  reqWrites r (partHeader (ascii "video/x-h264") (videoTags info r) r)

/-- The type that `print_audio_headers` writes for a codec, and the two lines about it. -/
def audioLines : AudioCodec → List UInt8 × List (List UInt8)
  | .g726 => (ascii "audio/x-adpcm", [ascii "X-Codec: G726" ++ crlf, ascii "X-Bitrate: 32000" ++ crlf])
  | .g711 => (ascii "audio/x-mulaw", [ascii "X-Codec: U-LAW" ++ crlf, ascii "X-Bitrate: 64000" ++ crlf])
  | .other => (ascii "audio/aac", [ascii "X-Codec: U-LAW" ++ crlf, ascii "X-Bitrate: 64000" ++ crlf])

/-- The other lines of `print_audio_headers`. -/
def audioTags (info : Info) (r : Request) : List (List UInt8) :=
  (audioLines info.audioCodec).2 ++
    (if info.audioTag then [ascii "X-Tag: ", decimal r.audio.serialLock, crlf]
      else [ascii "X-Tag: -1" ++ crlf]) ++
    [ascii "X-Timestamp: " ++ intText r.audio.timestamp ++ crlf]

/-- `print_audio_headers`. -/
def printAudioHeaders (info : Info) (r : Request) : Request :=
  reqWrites r (partHeader (audioLines info.audioCodec).1 (audioTags info r) r)

/-- The last four bytes of a block. -/
def lastFour (ptr : Int → UInt8) (size : Nat) : List UInt8 :=
  (List.range 4).map fun i => ptr ((size : Int) - 4 + (i : Int))

/-- The first words of both ACS headers. -/
def acsStart (id length serial : Nat) (info : Info) (sum : List UInt8) : List UInt8 :=
  littleEndian 4 id ++ littleEndian 4 40 ++ littleEndian 4 length ++ littleEndian 4 serial ++
    littleEndian 4 info.timeSec ++ littleEndian 4 info.timeUsec ++ sum

/-- `ACS_VideoHeader` of a request. -/
def acsVideoHeader (info : Info) (r : Request) : List UInt8 :=
  acsStart 0xF5010000 (r.data.size + r.extraSize) r.video.serial info
      (lastFour r.video.ptr r.video.size) ++
    littleEndian 2 (if r.video.iFrame then 0 else 1) ++ littleEndian 2 r.video.framerateShort ++
    littleEndian 2 r.video.width ++ littleEndian 2 r.video.height ++ littleEndian 4 0

/-- `print_dlink_mpeg4_headers`. -/
def printDlinkMpeg4Headers (info : Info) (r : Request) : Request :=
  reqCopy r (acsVideoHeader info r)

/-- `ACS_AudioHeader` of a request. -/
def acsAudioHeader (info : Info) (r : Request) : List UInt8 :=
  acsStart 0xF6010000 r.data.size r.audio.serial info (lastFour r.data.ptr r.data.size) ++
    littleEndian 2 0x1000 ++ littleEndian 2 1 ++ littleEndian 2 8000 ++ littleEndian 2 4 ++
    littleEndian 4 0

/-- `print_dlink_audio_headers`. -/
def printDlinkAudioHeaders (info : Info) (r : Request) : Request :=
  memcpyBuffer r (acsAudioHeader info r)

/-- `struct JPEG_HEADER` of a request. -/
def jpegHeader (info : Info) (r : Request) : List UInt8 :=
  [0xff, 0xd8, 0xff, 0xe0] ++ littleEndian 2 0x3e00 ++ littleEndian 2 info.jpegSum ++
    littleEndian 4 r.data.size ++ littleEndian 2 info.year ++ littleEndian 1 info.day ++
    littleEndian 1 info.month ++ littleEndian 1 info.minute ++ littleEndian 1 info.hour ++ [0] ++
    littleEndian 1 info.tmSec ++ littleEndian 4 r.video.serialLock ++ littleEndian 4 0 ++
    littleEndian 2 info.machineCode ++ [0, 16, 0, 0, 4, 0] ++ littleEndian 2 r.video.width ++
    littleEndian 2 r.video.height ++ List.replicate 24 0

/-- `sizeof(struct JPEG_HEADER)`. -/
def sizeofJpegHeader : Nat := 64

/-- `add_jpeg_header`. -/
def addJpegHeader (info : Info) (r : Request) : Request := memcpyBuffer r (jpegHeader info r)

end BoaIpcam.Stream
