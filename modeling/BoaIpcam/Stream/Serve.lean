import BoaIpcam.Stream.Output

/-!
# Serving a stream request

A handler of `request.c` puts the answer and the header of the first part into the buffer and lets the
request point to the first frame. From then on `process_requests` either flushes the buffer or lets
`process_get` write what is left of the frame; at the end of the frame `process_get` asks for the
next one.

What the driver and the socket answer in one pass of the main loop is an `Input`. A POST is taken to
its body behind the handler, as `read_header` does with every POST. When the request is freed the
connection may be kept alive, and then the answers to the next requests follow on it.
-/
namespace BoaIpcam.Stream

/-- What `read_body` and `write_body` do with the request of a POST, which has no file: they wait, they
go on, or they send an error page. -/
inductive BodyTurn
  | blocked
  | more
  | failed (page : List UInt8)

/-- What one pass of the main loop finds. -/
structure Input where
  /-- What the socket takes. -/
  written : Written
  /-- The memory of the frame is gone. -/
  sigbus : Bool
  /-- The rest of the system. -/
  info : Info
  /-- The audio frame that the driver has. -/
  audio : Option AvData
  /-- The video frame that the driver has. -/
  video : Option AvData
  /-- The frame that the driver locks when `AV_OP_LOCK_AVC` failed. -/
  relocked : Option AvData
  /-- What becomes of the body of a POST. -/
  body : BodyTurn
  /-- `sigterm_flag`. -/
  sigterm : Bool
  /-- There is a request for the rest of the connection. -/
  granted : Bool

/-! ## The next part -/

/-- Point to the next block, with an empty buffer. -/
def setData (r : Request) (block : Block) : Request :=
  resetOutputBuffer { r with data := block, filepos := 0 }

/-- `audio_get`: the request and the return value. -/
def audioGet (input : Input) (r : Request) : Request × Int :=
  let r' := { r with audioTurns := r.audioTurns + 1 }
  if r.audioTurns % 2 = 1 ∨ ¬input.info.audioinenable ∨ ¬r.audioOn then
    ({ r' with busyAudio := false }, 0)
  else
    match input.audio with
    | none => ({ r' with busyAudio := false }, -1)
    | some frame =>
      let r' := setData { r' with audio := frame } frame.block
      (printAudioHeaders input.info (reqWrite r' crlf), 1)

/-- The branch of a type of stream. -/
structure Branch where
  /-- It calls `audio_get` first. -/
  audio : Bool
  /-- How many bytes behind the frame are sent. -/
  more : Nat
  /-- It sets `last_stream_time`. -/
  stamped : Bool
  /-- The number of bytes between the header and the frame. -/
  extra : Nat
  /-- The part starts with an empty line. -/
  line : Bool
  /-- What puts the header into the buffer. -/
  header : Info → Request → Request

/-- The branches of `process_get`, apart from `URI_AUDIO_G726`. -/
def branch : Kind → Branch
  | .mjpeg => ⟨true, 1, true, sizeofJpegHeader, true,
      fun info r => addJpegHeader info (printMjpegHeaders info r)⟩
  | .mpeg4 => ⟨true, 0, true, 0, true, printMpeg4Headers⟩
  | .h264 => ⟨true, 0, true, 0, true, printH264Headers⟩
  | .httpMjpeg => ⟨true, 0, true, 0, true, printMjpegHeaders⟩
  | .dlinkMpeg4 => ⟨false, 0, true, 0, false, printDlinkMpeg4Headers⟩
  | .dlinkH264 => ⟨false, 0, true, 0, false, printDlinkMpeg4Headers⟩
  | .avc => ⟨true, 0, false, 0, true, printH264Headers⟩
  | .audioG726 => ⟨false, 0, false, 0, false, printDlinkAudioHeaders⟩

/-- The part of a branch after the driver gave a frame. -/
def Branch.load (b : Branch) (info : Info) (frame : AvData) (r : Request) : Request :=
  let r := setData { r with video := frame } ⟨frame.ptr, frame.size + b.more⟩
  let r := { r with
    lastStreamTime := if b.stamped then info.second else r.lastStreamTime
    extraSize := b.extra }
  b.header info (if b.line then reqWrite r crlf else r)

/-- The part of a branch that asks for a video frame. -/
def getVideo (input : Input) (r : Request) : Request :=
  match input.video with
  | some frame => (branch r.kind).load input.info frame r
  | none =>
    match r.kind, input.relocked with
    | .avc, some frame => { r with video := frame }
    | _, _ => { r with busyVideo := false }

/-- The branch of `URI_AUDIO_G726`. -/
def getAudio (input : Input) (r : Request) : Request :=
  let r := { r with busyVideo := false }
  if ¬input.info.audioinenable then { r with busyAudio := false }
  else
    match input.audio with
    | none => { r with busyAudio := false }
    | some frame =>
      printDlinkAudioHeaders input.info (setData { r with audio := frame } frame.block)

/-- What `process_get` does at the end of a frame. -/
def nextPart (input : Input) (r : Request) : Request :=
  if r.kind = .audioG726 then getAudio input r
  else if (branch r.kind).audio then
    let (r', ret) := audioGet input r
    if ret > 0 then r' else getVideo input r'
  else getVideo input { r with busyAudio := false }

/-- `process_get`: the request, the bytes that were sent and the return value. -/
def processGet (input : Input) (r : Request) : Request × List UInt8 × Int :=
  let offered := (r.data.from r.filepos).take bufferSize
  if input.sigbus then ({ r with status := .dead }, [], 0)
  else
    match input.written with
    | .wouldBlock => (r, [], -1)
    | .failed => ({ r with status := .dead }, [], 0)
    | .wrote amount =>
      let sent := offered.take amount
      let next := { r with filepos := r.filepos + sent.length }
      (if next.filepos = next.data.size then nextPart input next else next, sent, 1)

/-! ## The main loop -/

/-- Where a request is. -/
inductive Place
  /-- On `request_ready`. -/
  | ready
  /-- On `request_block`. -/
  | blocked
  /-- On `request_free`, with its connection closed. -/
  | free
  /-- On `request_free`; its connection has a new request. -/
  | handed
deriving DecidableEq, Repr

/-- A request in the main loop, and what its client got so far. -/
structure Connection where
  /-- The request. -/
  request : Request
  /-- Where it is. -/
  place : Place
  /-- What the client got of the request. -/
  received : List UInt8
  /-- What the client got behind it, of the requests that have its connection now. -/
  behind : List UInt8

/-- `free_request`. A connection that is kept alive goes to a new request, if there is one. -/
def freeRequest (granted : Bool) (c : Connection) : Connection :=
  if c.request.buffer ≠ [] ∧ c.request.status ≠ .dead then
    { c with request := { c.request with status := .done } }
  else if c.request.keepalive ∧ granted then { c with place := .handed }
  else { c with place := .free }

/-- What a handler leaves. -/
structure Handled where
  /-- The request. -/
  request : Request
  /-- What an error page sent. -/
  sent : List UInt8
  /-- The return value. -/
  ret : Int

/-- An error page, as `send_r_error` and its likes write it, after which 0 is returned. The connection
is not kept alive. -/
def refuse (written : Written) (page : List UInt8) (r : Request) : Handled :=
  let (r, sent, _) := reqFlush (reqWrite { r with keepalive := false } page) written
  ⟨r, sent, 0⟩

/-- The part of `process_requests` that decides what to do with a request on `request_ready`: the
request, the bytes that were sent and the return value. -/
def serve (input : Input) (r : Request) : Request × List UInt8 × Int :=
  if r.buffer ≠ [] ∧ r.status ≠ .dead ∧ r.status ≠ .done then
    let (r, sent, ret) := reqFlush r input.written
    if ret = -2 then ({ r with status := .dead }, sent, 0)
    else if ret ≥ 0 then (r, sent, 1)
    else (r, sent, ret)
  else
    match r.status with
    | .write => processGet input r
    | .body =>
      match input.body with
      | .blocked => (r, [], -1)
      | .more => (r, [], 1)
      | .failed page =>
        let refused := refuse input.written page r
        (refused.request, refused.sent, refused.ret)
    | .done =>
      let (r, sent, ret) := reqFlush r input.written
      if ret = -2 then ({ r with status := .dead }, sent, 0)
      else if ret > 0 then (r, sent, 1)
      else (r, sent, ret)
    | .dead => ({ r with buffer := [], keepalive := false }, [], 0)

/-- The end of a turn, which the return value decides. -/
def Connection.after (granted : Bool) (ret : Int) (c : Connection) : Connection :=
  if ret = -1 then { c with place := .blocked }
  else if ret = 0 then freeRequest granted c
  else c

/-- `STREAM_TIMEOUT_SEC`. -/
def streamTimeoutSec : Nat := 20

/-- The driver gave no video frame for too long. -/
def Request.late (r : Request) (second : Nat) : Bool :=
  r.lastStreamTime ≠ 0 ∧ second > r.lastStreamTime + streamTimeoutSec

/-- One turn of the loop of `process_requests` for a request on `request_ready`. -/
def pass (input : Input) (c : Connection) : Connection :=
  let (r, sent, ret) := serve input c.request
  let r := { r with
    busyAudio := true
    busyVideo := true
    keepalive := r.keepalive && !input.sigterm }
  let ret := if r.late input.info.second then 0 else ret
  { c with request := r, received := c.received ++ sent }.after input.granted ret

/-- What happens to a request and its connection. -/
inductive Action
  /-- A turn of the main loop. -/
  | pass (input : Input)
  /-- The end of the wait for the socket, perhaps because it took too long. -/
  | wake (timedOut : Bool)
  /-- The restart of the driver, which frees the streams on `request_ready`. -/
  | restart (granted : Bool)
  /-- Some bytes of the answers that follow on the connection. -/
  | next (bytes : List UInt8)

/-- The next action of the main loop. -/
def Connection.step (c : Connection) (action : Action) : Connection :=
  match action, c.place with
  | .pass input, .ready => pass input c
  | .wake timedOut, .blocked =>
    { c with
      place := .ready
      request := if timedOut then { c.request with status := .dead } else c.request }
  | .restart granted, .ready => freeRequest granted c
  | .next bytes, .handed => { c with behind := c.behind ++ bytes }
  | _, _ => c

/-! ## The handlers -/

/-- What a handler finds. -/
structure Offer where
  /-- The rest of the system. -/
  info : Info
  /-- The page of `send_r_service_unavailable`. -/
  unavailable : List UInt8
  /-- The page of `send_r_error`. -/
  error : List UInt8
  /-- The driver is restarted. -/
  pending : Bool
  /-- What the socket takes of an error page. -/
  written : Written
  /-- The video frame that the driver has. -/
  video : Option AvData
  /-- The audio frame that the driver has. -/
  audio : Option AvData
  /-- The VOL data that the driver has. -/
  vol : Option (List UInt8)
  /-- There is a request for the rest of the connection. -/
  granted : Bool

/-- A request as the handlers get it. -/
def Request.fresh (audioOn keepalive : Bool) : Request where
  kind := .mjpeg
  status := .write
  buffer := []
  bufferStart := 0
  data := ⟨fun _ => 0, 0⟩
  filepos := 0
  extraSize := 0
  video := .none
  audio := .none
  audioOn := audioOn
  audioTurns := 0
  busyVideo := true
  busyAudio := true
  lastStreamTime := 0
  keepalive := keepalive

/-- What a handler puts into the buffer before the first part. -/
def okHead : List UInt8 :=
  ascii "HTTP/1.1 200 OK" ++ crlf ++ ascii "Connection: Close" ++ crlf ++ ascii "Pragma: no-cache" ++
    crlf ++ ascii "Cache-Control: no-store" ++ crlf ++
    ascii "Content-Type: multipart/x-mixed-replace;boundary=" ++ boundary ++ crlf ++ crlf

/-- The texts of `send_request_dlink_ok_mjpg` before the header. -/
def dlinkMjpgHead : List (List UInt8) :=
  [ascii "HTTP/1.1 200 OK" ++ crlf,
    ascii "Cache-Control: no-cache, no-store, must-revalidate" ++ crlf,
    ascii "Pragma: no-cache" ++ crlf,
    ascii "Content-Type: multipart/x-mixed-replace;boundary=myboundary" ++ crlf, crlf]

/-- The texts of `send_request_dlink_ok_mpeg4` and `send_request_dlink_ok_audio`. -/
def dlinkHead (type : List UInt8) (info : Info) : List (List UInt8) :=
  [ascii "HTTP/1.1 200 OK" ++ crlf,
    ascii "Last-Modified: " ++ info.lastModified ++ crlf,
    ascii "Cache-Control: no-cache, no-store, must-revalidate" ++ crlf,
    ascii "Pragma: no-cache" ++ crlf, ascii "Content-type: " ++ type ++ crlf, crlf]

/-- The first frame of a stream. -/
def firstFrame (frame : AvData) (extra : Nat) (r : Request) : Request :=
  { r with
    video := frame
    data := frame.block
    extraSize := extra }

/-- The first lines of the handlers. -/
def begin_ (kind : Kind) (lastStreamTime : Nat) (r : Request) : Request :=
  { r with kind, status := .write, lastStreamTime }

/-- `get_mjpeg_stream`. -/
def getMjpegStream (offer : Offer) (r : Request) : Handled :=
  let r := begin_ .mjpeg offer.info.second r
  if offer.pending then refuse offer.written offer.unavailable r
  else
    match offer.video with
    | none => refuse offer.written offer.error r
    | some frame =>
      let r := reqWrite (firstFrame frame sizeofJpegHeader r) okHead
      ⟨addJpegHeader offer.info (printMjpegHeaders offer.info r), [], 1⟩

/-- `get_mpeg4_stream`. -/
def getMpeg4Stream (offer : Offer) (r : Request) : Handled :=
  let r := begin_ .mpeg4 offer.info.second r
  if offer.pending then refuse offer.written offer.unavailable r
  else
    match offer.vol, offer.video with
    | some vol, some frame =>
      let r := reqWrite (firstFrame frame vol.length r) okHead
      ⟨reqCopy (printMpeg4Headers offer.info r) vol, [], 1⟩
    | _, _ => refuse offer.written offer.error r

/-- `get_h264_stream`. -/
def getH264Stream (offer : Offer) (r : Request) : Handled :=
  let r := begin_ .h264 offer.info.second r
  if offer.pending then refuse offer.written offer.unavailable r
  else
    match offer.video with
    | none => refuse offer.written offer.error r
    | some frame =>
      let r := reqWrite (firstFrame frame 0 r) okHead
      ⟨printH264Headers offer.info r, [], 1⟩

/-- `get_stream_avc`, when the shared memory is there. -/
def getStreamAvc (offer : Offer) (r : Request) : Handled :=
  let r := begin_ .avc r.lastStreamTime r
  if offer.pending then refuse offer.written offer.unavailable r
  else
    match offer.vol, offer.video with
    | some vol, some frame =>
      let r := reqWrite (firstFrame frame vol.length r) okHead
      ⟨reqCopy (printH264Headers offer.info r) vol, [], 1⟩
    | _, _ => refuse offer.written offer.error r

/-- `get_http_mjpeg`. -/
def getHttpMjpeg (offer : Offer) (r : Request) : Handled :=
  let r := begin_ .httpMjpeg offer.info.second r
  if offer.pending then refuse offer.written offer.unavailable r
  else
    match offer.video with
    | none => refuse offer.written offer.error r
    | some frame =>
      let r := reqWrite (firstFrame frame 0 r) okHead
      ⟨printMjpegHeaders offer.info r, [], 1⟩

/-- `get_dlink_mjpeg_stream`, for a stream that there is. -/
def getDlinkMjpegStream (offer : Offer) (r : Request) : Handled :=
  let r := begin_ .mjpeg r.lastStreamTime r
  if offer.pending then refuse offer.written offer.unavailable r
  else
    match offer.video with
    | none => refuse offer.written offer.error r
    | some frame =>
      let r := reqWrites { firstFrame frame 0 r with audioOn := false } dlinkMjpgHead
      ⟨printMjpegHeaders offer.info r, [], 1⟩

/-- `get_dlink_mpeg4_stream`, for a stream that there is. -/
def getDlinkMpeg4Stream (offer : Offer) (r : Request) : Handled :=
  let r := begin_ .dlinkMpeg4 offer.info.second
    (reqWrites r (dlinkHead (ascii "video/ACVS") offer.info))
  if offer.pending then refuse offer.written offer.unavailable r
  else
    match offer.vol, offer.video with
    | some vol, some frame =>
      ⟨reqCopy (printDlinkMpeg4Headers offer.info (firstFrame frame vol.length r)) vol, [], 1⟩
    | _, _ => refuse offer.written offer.error r

/-- `get_dlink_h264_stream`, for a stream that there is. -/
def getDlinkH264Stream (offer : Offer) (r : Request) : Handled :=
  let r := begin_ .dlinkH264 offer.info.second
    (reqWrites r (dlinkHead (ascii "video/ACVS") offer.info))
  if offer.pending then refuse offer.written offer.unavailable r
  else
    match offer.video with
    | none => refuse offer.written offer.error r
    | some frame => ⟨printDlinkMpeg4Headers offer.info (firstFrame frame 0 r), [], 1⟩

/-- `uri_dlink_audio`. -/
def uriDlinkAudio (offer : Offer) (r : Request) : Handled :=
  let r := begin_ .audioG726 r.lastStreamTime
    (reqWrites r (dlinkHead (ascii "audio/ACAS") offer.info))
  if ¬offer.info.audioinenable then ⟨r, [], 0⟩
  else if offer.pending then refuse offer.written offer.unavailable r
  else
    match offer.audio with
    | none => ⟨r, [], 0⟩
    | some frame =>
      let r := { firstFrame frame 0 r with video := r.video, audio := frame, filepos := 0 }
      ⟨printDlinkAudioHeaders offer.info r, [], 1⟩

/-- `uri_dlink_video`, which does not look at what the other handler returns. -/
def uriDlinkVideo (handler : Offer → Request → Handled) (offer : Offer) (r : Request) : Handled :=
  let handled := handler offer r
  ⟨{ handled.request with keepalive := false }, handled.sent, 1⟩

/-- The handlers of stream requests. -/
inductive Handler
  | mjpeg
  | mpeg4
  | h264
  | avc
  | httpMjpeg
  | dlinkMjpeg
  | dlinkMpeg4
  | dlinkH264
  | dlinkAudio
  | dlinkVideoMjpeg
  | dlinkVideoMpeg4
  | dlinkVideoH264
deriving DecidableEq, Repr

/-- The function of a handler. -/
def Handler.run : Handler → Offer → Request → Handled
  | .mjpeg => getMjpegStream
  | .mpeg4 => getMpeg4Stream
  | .h264 => getH264Stream
  | .avc => getStreamAvc
  | .httpMjpeg => getHttpMjpeg
  | .dlinkMjpeg => getDlinkMjpegStream
  | .dlinkMpeg4 => getDlinkMpeg4Stream
  | .dlinkH264 => getDlinkH264Stream
  | .dlinkAudio => uriDlinkAudio
  | .dlinkVideoMjpeg => uriDlinkVideo getDlinkMjpegStream
  | .dlinkVideoMpeg4 => uriDlinkVideo getDlinkMpeg4Stream
  | .dlinkVideoH264 => uriDlinkVideo getDlinkH264Stream

/-! ## Behind the handlers -/

/-- What `read_header` finds behind the handler of a POST. -/
structure Post where
  /-- What `boa_atoi` makes of the `Content-Length`, if there is one. -/
  contentLength : Option Int
  /-- `single_post_limit`. -/
  singlePostLimit : Nat
  /-- The page of `send_r_bad_request`. -/
  badRequest : List UInt8
  /-- What the socket takes of it. -/
  written : Written

/-- The length of the body, when `read_header` accepts it. -/
def Post.length (post : Post) : Option Nat :=
  post.contentLength.bind fun contentLength =>
    if contentLength ≤ 0 then none
    else if post.singlePostLimit ≠ 0 ∧ (post.singlePostLimit : Int) < contentLength then none
    else some contentLength.toNat

/-- The part of `read_header` behind the header of a POST. `filesize` and `filepos` are used for its
body, or the answer is refused. -/
def Post.startBody (post : Post) (handled : Handled) : Handled :=
  let r := { handled.request with status := .body }
  match post.length with
  | some length =>
    ⟨{ r with data := { r.data with size := length }, filepos := 0 }, handled.sent, handled.ret⟩
  | none =>
    let refused := refuse post.written post.badRequest r
    { refused with sent := handled.sent ++ refused.sent }

/-- The end of `read_header`, where a POST whose handler did not return 0 goes on with its body. -/
def readHeaderEnd (post : Option Post) (handled : Handled) : Handled :=
  match post with
  | none => handled
  | some post => if handled.ret = 0 then handled else post.startBody handled

/-- A request behind `read_header`. -/
def Handler.start (handler : Handler) (offer : Offer) (audioOn keepalive : Bool)
    (post : Option Post) : Connection :=
  let handled := readHeaderEnd post (handler.run offer (.fresh audioOn keepalive))
  Connection.after offer.granted handled.ret ⟨handled.request, .ready, handled.sent, []⟩

end BoaIpcam.Stream
