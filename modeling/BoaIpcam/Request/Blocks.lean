import BoaIpcam.Lib.Ledger
import Mathlib.Data.Fin.Basic

/-!
# The memory of a request

A request is filled by `init_get`, by a page that is built in memory or by a stream handler; then
`process_get` sends from `data_mem`, and `free_request` gives back what the request has. Every
function returns, with the request, the ledger of what it did with blocks. The library of the
driver is not part of the sources: as the older branch of `process_get` does, getting a frame
locks it and unlocks the frame before.
-/
namespace BoaIpcam.Blocks

/-! ## Blocks -/

/-- The format of a frame of the driver, `AV_FMT` or `AVC`. -/
inductive Codec where
  | mjpeg | mpeg4 | h264 | avc
deriving DecidableEq, Repr

/-- What a block is: from `malloc`, from `mmap`, an entry of the cache of mapped files, or a lock of
the driver on a frame of a stream, on an audio frame or on the VOL data of a stream. -/
inductive Tag where
  | heap
  | mapping
  | entry
  | video (codec : Codec) (stream : Fin 16)
  | audio
  | vol (codec : Codec) (stream : Fin 16)
deriving DecidableEq, Repr

/-- A block; the number of a frame is its serial. -/
structure Block where
  /-- What releases it. -/
  tag : Tag
  /-- Its number. -/
  id : Nat
deriving DecidableEq, Repr

/-- The operations that give a block back. -/
inductive Release where
  | free | munmap | releaseMmap | unlock
deriving DecidableEq, Repr

/-- The blocks that an operation is for. -/
def fits : Release → Block → Bool
  | .free, block => block.tag = .heap
  | .munmap, block => block.tag = .mapping
  | .releaseMmap, block => block.tag = .entry
  | .unlock, block => block.tag ≠ .heap ∧ block.tag ≠ .mapping ∧ block.tag ≠ .entry

/-- What is done with a block. -/
abbrev Op := Ledger.Entry Block Release

/-! ## The request -/

/-- The types of `http_stream`. -/
inductive Kind where
  | jpeg | mjpeg | mpeg4 | h264 | audioG726 | dlinkMpeg4 | httpMjpeg | audioStream | avc | dlinkH264
deriving DecidableEq, Repr

/-- The values of `status`. -/
inductive Status where
  | write | pipeRead | done | dead
deriving DecidableEq, Repr

/-- The texts of a request, each a block from `malloc`: the variables of its CGI environment and the
fields that `free_request` frees. -/
structure Texts where
  /-- The variables. -/
  cgiEnv : List Nat
  /-- `cmd_string`. -/
  cmdString : Option Nat
  /-- `export_file`. -/
  exportFile : Option Nat
  /-- `pathname`. -/
  pathname : Option Nat
  /-- `path_info`. -/
  pathInfo : Option Nat
  /-- `path_translated`. -/
  pathTranslated : Option Nat
  /-- `script_name`. -/
  scriptName : Option Nat
deriving DecidableEq, Repr

/-- The fields of a request that are about blocks. `httpStream` is the type and the number of the
stream, `video` and `audio` are the two `serial_lock`s, and `mmapEntry` is the mapping of
`mmap_entry_var`. -/
structure Request where
  /-- The type and the number of the stream. -/
  httpStream : Option (Kind × Fin 16)
  /-- The state. -/
  status : Status
  /-- What is sent. -/
  dataMem : Option Block
  /-- Its size. -/
  filesize : Nat
  /-- How much of it was sent. -/
  filepos : Nat
  /-- The frame of the video. -/
  video : Nat
  /-- The frame of the audio. -/
  audio : Nat
  /-- The mapping. -/
  mmapEntry : Option Block
  /-- The mapping in front of a page. -/
  mmapPtr : Option Block
  /-- Whether `data_mem` comes from `malloc`. -/
  isMemory : Bool
  /-- The texts. -/
  texts : Texts
deriving DecidableEq, Repr

/-- A request as `new_request` and the reading of its header leave it. -/
def Request.fresh (texts : Texts) : Request where
  httpStream := none
  status := .write
  dataMem := none
  filesize := 0
  filepos := 0
  video := 0
  audio := 0
  mmapEntry := none
  mmapPtr := none
  isMemory := false
  texts := texts

/-! ## Frames -/

/-- A frame of the driver. -/
structure Frame where
  /-- The serial of the frame. -/
  serial : Nat
  /-- It is not zero. -/
  positive : 0 < serial
  /-- The size. -/
  size : Nat

/-- Unlock what a `serial_lock` says. -/
def unlock (tag : Tag) (lock : Nat) : List Op :=
  if lock > 0 then [.release .unlock ⟨tag, lock⟩] else []

/-- Lock a frame, then unlock the one before. -/
def relock (tag : Tag) (lock : Nat) (frame : Frame) : List Op :=
  .take ⟨tag, frame.serial⟩ :: unlock tag lock

/-- Send from a frame of a video stream, with some bytes behind it. -/
def setVideo (codec : Codec) (stream : Fin 16) (more : Nat) (frame : Frame) (r : Request) :
    Request × List Op :=
  ({ r with
      dataMem := some ⟨.video codec stream, frame.serial⟩
      filesize := frame.size + more
      filepos := 0
      video := frame.serial },
    relock (.video codec stream) r.video frame)

/-- Send from an audio frame. -/
def setAudio (frame : Frame) (r : Request) : Request × List Op :=
  ({ r with
      dataMem := some ⟨.audio, frame.serial⟩
      filesize := frame.size
      filepos := 0
      audio := frame.serial },
    relock .audio r.audio frame)

/-! ## Handlers -/

/-- What `open` and `get_dir` find for a path: nothing to send, a compressed file, whose path is
copied, or a file. -/
inductive Found where
  | nothing
  | zipped (copy : Option Nat)
  | file
deriving DecidableEq, Repr

/-- What a handler finds: what there is at the path; whether the file is sent at all and how large
it is; the cache entry of its mapping; whether it is parsed; the block that `malloc` gives and the
size of what is put into it; the room behind the header, and whether copying to it fails; whether
the stream limit is reached or the driver is restarted; whether the shared memory and the audio are
there; and the frames and the VOL data that the driver locks. -/
structure Offer where
  /-- What is at the path. -/
  found : Found
  /-- The file is not sent. -/
  notModified : Bool
  /-- Only its head is asked for. -/
  headOnly : Bool
  /-- The size of the file. -/
  fileSize : Nat
  /-- The greatest file that is mapped. -/
  maxFileMmap : Nat
  /-- The entry of its mapping. -/
  entry : Option Nat
  /-- Whether it is parsed. -/
  needParse : Bool
  /-- The block from `malloc`. -/
  block : Option Nat
  /-- The size of what is put into it. -/
  builtSize : Nat
  /-- The room behind the header. -/
  room : Nat
  /-- Whether the copy fails. -/
  sigbus : Bool
  /-- The handler refuses. -/
  refused : Bool
  /-- Whether the shared memory is there. -/
  sharedMemory : Bool
  /-- Whether the audio is on. -/
  audioEnabled : Bool
  /-- The frame of the video. -/
  video : Option Frame
  /-- The frame of the audio. -/
  audio : Option Frame
  /-- The VOL data. -/
  vol : Option Nat

/-- What a handler returns with: the request, what it did and whether it goes on. -/
abbrev Handled := Request × List Op × Bool

/-- The end of `init_get`, which copies what fits behind the header. -/
def copyFile (offer : Offer) (mapped : Block) (r : Request) : Handled :=
  let bytes := min offer.room r.filesize
  if bytes > 0 then
    if offer.sigbus then (r, [.use mapped], false)
    else
      let r := { r with filepos := r.filepos + bytes }
      (if r.filesize = r.filepos then { r with status := .done } else r, [.use mapped], true)
  else (r, [], true)

/-- `init_get`. -/
def initGet (offer : Offer) (r : Request) : Handled :=
  match offer.found with
  | .nothing => (r, [], false)
  | .zipped copy =>
    ({ r with texts := { r.texts with pathname := copy } },
      (r.texts.pathname.toList.map fun id => .release .free ⟨.heap, id⟩) ++
        copy.toList.map fun id => .take ⟨.heap, id⟩, false)
  | .file =>
    if offer.notModified then (r, [], false)
    else
      let r := { r with filesize := offer.fileSize }
      if offer.headOnly ∨ offer.fileSize = 0 then (r, [], false)
      else if offer.fileSize > offer.maxFileMmap then ({ r with status := .pipeRead }, [], true)
      else
        match offer.entry with
        | none => (r, [], false)
        | some id =>
          let mapped : Block := ⟨.entry, id⟩
          let r := { r with mmapEntry := some mapped, dataMem := some mapped }
          match offer.needParse, offer.block with
          | true, some block =>
            ({ r with
                isMemory := true
                mmapPtr := some mapped
                dataMem := some ⟨.heap, block⟩
                filesize := offer.builtSize },
              [.take mapped, .take ⟨.heap, block⟩, .use mapped, .use ⟨.heap, block⟩], true)
          | _, _ =>
            let (r, ops, goes) := copyFile offer mapped r
            (r, .take mapped :: ops, goes)

/-- `uri_ini_htm`, `uri_keyword_htm` and `uri_cmdlist_htm`, which build a page in a block. -/
def memoryPage (offer : Offer) (r : Request) : Handled :=
  match offer.block with
  | none => (r, [], false)
  | some block =>
    ({ r with
        isMemory := true
        dataMem := some ⟨.heap, block⟩
        filesize := offer.builtSize
        status := .write },
      [.take ⟨.heap, block⟩, .use ⟨.heap, block⟩], true)

/-- The first lines of a stream handler. -/
def begin_ (kind : Kind) (stream : Fin 16) (r : Request) : Request :=
  { r with httpStream := some (kind, stream), status := .write }

/-- The stream handlers that lock a frame. -/
def getStream (kind : Kind) (codec : Codec) (stream : Fin 16) (offer : Offer) (r : Request) :
    Handled :=
  let r := begin_ kind stream r
  if offer.refused then (r, [], false)
  else
    match offer.video with
    | none => (r, [], false)
    | some frame =>
      let (r, ops) := setVideo codec stream 0 frame r
      (r, ops, true)

/-- The stream handlers that lock the VOL data before and leave it locked. -/
def getVolStream (kind : Kind) (stream : Fin 16) (offer : Offer) (r : Request) : Handled :=
  let r := begin_ kind stream r
  if offer.refused then (r, [], false)
  else
    match offer.vol with
    | none => (r, [], false)
    | some vol =>
      let taken : Op := .take ⟨.vol .mpeg4 stream, vol⟩
      match offer.video with
      | none => (r, [taken], false)
      | some frame =>
        let (r, ops) := setVideo .mpeg4 stream 0 frame r
        (r, taken :: ops ++ [.use ⟨.vol .mpeg4 stream, vol⟩], true)

/-- `get_stream_avc`, which unlocks the VOL data only when there is a frame. -/
def getStreamAvc (offer : Offer) (r : Request) : Handled :=
  let r := begin_ .avc 0 r
  if ¬offer.sharedMemory ∨ offer.refused then (r, [], false)
  else
    match offer.vol with
    | none => (r, [], false)
    | some vol =>
      let block : Block := ⟨.vol .avc 0, vol⟩
      match offer.video with
      | none => (r, [.take block], false)
      | some frame =>
        let (r, ops) := setVideo .avc 0 0 frame r
        (r, .take block :: ops ++ [.use block, .release .unlock block], true)

/-- The stream handlers that lock an audio frame; one of them does so during a restart too. -/
def getAudioStream (kind : Kind) (checksRestart : Bool) (offer : Offer) (r : Request) : Handled :=
  let r := begin_ kind 0 r
  if ¬offer.audioEnabled ∨ checksRestart ∧ offer.refused then (r, [], false)
  else
    match offer.audio with
    | none => (r, [], false)
    | some frame =>
      let (r, ops) := setAudio frame r
      (r, ops, true)

/-- The test of the number of a stream that some handlers make. -/
def checked (idx : Int) (handler : Fin 16 → Offer → Request → Handled) (offer : Offer)
    (r : Request) : Handled :=
  if idx < 0 ∨ idx > 2 then (r, [], false) else handler (Fin.ofNat 16 idx.toNat) offer r

/-- `get_jpeg_image`. -/
def getJpegImage (index : Fin 16) : Offer → Request → Handled := getStream .jpeg .mjpeg index

/-- `uri_dlink_jpeg`. -/
def uriDlinkJpeg : Offer → Request → Handled := getStream .jpeg .mjpeg 0

/-- `get_mjpeg_stream`. -/
def getMjpegStream (index : Fin 16) : Offer → Request → Handled := getStream .mjpeg .mjpeg index

/-- `get_mpeg4_stream`. -/
def getMpeg4Stream (index : Fin 16) : Offer → Request → Handled := getVolStream .mpeg4 index

/-- `get_h264_stream`. -/
def getH264Stream (index : Fin 16) : Offer → Request → Handled := getStream .h264 .h264 index

/-- `get_http_mjpeg`. -/
def getHttpMjpeg (index : Fin 16) : Offer → Request → Handled := getStream .httpMjpeg .mjpeg index

/-- `get_dlink_mjpeg_stream`. -/
def getDlinkMjpegStream (idx : Int) : Offer → Request → Handled :=
  checked idx (getStream .mjpeg .mjpeg)

/-- `get_dlink_mpeg4_stream`. -/
def getDlinkMpeg4Stream (idx : Int) : Offer → Request → Handled :=
  checked idx (getVolStream .dlinkMpeg4)

/-- `get_dlink_h264_stream`. -/
def getDlinkH264Stream (idx : Int) : Offer → Request → Handled :=
  checked idx (getStream .dlinkH264 .h264)

/-- `uri_dlink_audio`. -/
def uriDlinkAudio : Offer → Request → Handled := getAudioStream .audioG726 true

/-- `uri_appro_audio`. -/
def uriApproAudio : Offer → Request → Handled := getAudioStream .audioStream false

/-- `uri_ini_htm`. -/
def uriIniHtm : Offer → Request → Handled := memoryPage

/-- `uri_keyword_htm`. -/
def uriKeywordHtm : Offer → Request → Handled := memoryPage

/-- `uri_cmdlist_htm`. -/
def uriCmdlistHtm : Offer → Request → Handled := memoryPage

/-- `uri_dlink_video`, which goes on whatever the other handler returns. -/
def uriDlinkVideo (handler : Offer → Request → Handled) (offer : Offer) (r : Request) : Handled :=
  let (r, ops, _) := handler offer r
  (r, ops, true)

/-- The handlers that fill a request. -/
inductive Handler where
  | get
  | iniHtm
  | keywordHtm
  | cmdlistHtm
  | jpegImage (index : Fin 16)
  | dlinkJpeg
  | mjpeg (index : Fin 16)
  | mpeg4 (index : Fin 16)
  | h264 (index : Fin 16)
  | avc
  | httpMjpeg (index : Fin 16)
  | dlinkMjpeg (idx : Int)
  | dlinkMpeg4 (idx : Int)
  | dlinkH264 (idx : Int)
  | dlinkAudio
  | approAudio
  | dlinkVideoMjpeg (idx : Int)
  | dlinkVideoMpeg4 (idx : Int)
  | dlinkVideoH264 (idx : Int)
deriving DecidableEq, Repr

/-- The function of a handler. -/
def Handler.run : Handler → Offer → Request → Handled
  | .get => initGet
  | .iniHtm => uriIniHtm
  | .keywordHtm => uriKeywordHtm
  | .cmdlistHtm => uriCmdlistHtm
  | .jpegImage index => getJpegImage index
  | .dlinkJpeg => uriDlinkJpeg
  | .mjpeg index => getMjpegStream index
  | .mpeg4 index => getMpeg4Stream index
  | .h264 index => getH264Stream index
  | .avc => getStreamAvc
  | .httpMjpeg index => getHttpMjpeg index
  | .dlinkMjpeg idx => getDlinkMjpegStream idx
  | .dlinkMpeg4 idx => getDlinkMpeg4Stream idx
  | .dlinkH264 idx => getDlinkH264Stream idx
  | .dlinkAudio => uriDlinkAudio
  | .approAudio => uriApproAudio
  | .dlinkVideoMjpeg idx => uriDlinkVideo (getDlinkMjpegStream idx)
  | .dlinkVideoMpeg4 idx => uriDlinkVideo (getDlinkMpeg4Stream idx)
  | .dlinkVideoH264 idx => uriDlinkVideo (getDlinkH264Stream idx)

/-! ## `process_get` -/

/-- What `write` or `SSL_write` does. -/
inductive Written where
  | sigbus
  | wouldBlock
  | failed
  | wrote (amount : Nat)
deriving DecidableEq, Repr

/-- What a call of `process_get` finds: what the socket takes; whether it is the turn of the audio
and the audio is on; the frames that the driver has; and for AVC whether the lock failed for
another reason than that there is no frame, and the frame that is locked then. -/
structure Turn where
  /-- What the socket takes. -/
  written : Written
  /-- It is the turn of the audio. -/
  asksAudio : Bool
  /-- The frame of the audio. -/
  audio : Option Frame
  /-- The frame of the video. -/
  video : Option Frame
  /-- The lock failed for another reason. -/
  lockError : Bool
  /-- The frame that is locked then. -/
  relocked : Option Frame

/-- The next frame of a video stream. -/
def nextVideo (codec : Codec) (stream : Fin 16) (more : Nat) (turn : Turn) (r : Request) :
    Request × List Op :=
  match turn.video with
  | some frame => setVideo codec stream more frame r
  | none => (r, [])

/-- The next frame of an AVC stream. After an error another frame is locked, which the request does
not keep. -/
def nextAvc (stream : Fin 16) (turn : Turn) (r : Request) : Request × List Op :=
  match turn.video with
  | some frame => setVideo .avc stream 0 frame r
  | none =>
    (r, if turn.lockError then turn.relocked.toList.map fun frame =>
      .take ⟨.video .avc stream, frame.serial⟩ else [])

/-- `audio_get`, before the branch of a video stream. -/
def orAudio (turn : Turn) (next : Request → Request × List Op) (r : Request) :
    Request × List Op :=
  if turn.asksAudio then
    match turn.audio with
    | some frame => setAudio frame r
    | none => next r
  else next r

/-- What `process_get` does at the end of a block. -/
def nextBlock (turn : Turn) (r : Request) : Request × List Op :=
  match r.httpStream with
  | some (.mjpeg, stream) => orAudio turn (nextVideo .mjpeg stream 1 turn) r
  | some (.mpeg4, stream) => orAudio turn (nextVideo .mpeg4 stream 0 turn) r
  | some (.h264, stream) => orAudio turn (nextVideo .h264 stream 0 turn) r
  | some (.httpMjpeg, stream) => orAudio turn (nextVideo .mjpeg stream 0 turn) r
  | some (.dlinkMpeg4, stream) => nextVideo .mpeg4 stream 0 turn r
  | some (.dlinkH264, stream) => nextVideo .h264 stream 0 turn r
  | some (.avc, stream) => orAudio turn (nextAvc stream turn) r
  | some (.audioG726, _) => orAudio turn (fun r => (r, [])) r
  | _ => ({ r with status := .done }, [])

/-- `SOCKETBUF_SIZE`. -/
def socketbufSize : Nat := 8192

/-- What `process_get` has to do with blocks. -/
def processGet (turn : Turn) (r : Request) : Request × List Op :=
  let bytes := min (r.filesize - r.filepos) socketbufSize
  let uses : List Op := if bytes = 0 then [] else r.dataMem.toList.map .use
  match turn.written with
  | .sigbus => ({ r with status := .dead }, uses)
  | .wouldBlock => (r, uses)
  | .failed => ({ r with status := .dead }, uses)
  | .wrote amount =>
    let r := { r with filepos := r.filepos + min amount bytes }
    if r.filepos = r.filesize then
      let (r, ops) := nextBlock turn r
      (r, uses ++ ops)
    else (r, uses)

/-! ## `free_request` -/

/-- The stream branches of `free_request`. -/
def unlockFrames (kind : Kind) (stream : Fin 16) (r : Request) : List Op :=
  match kind with
  | .jpeg => unlock (.video .mjpeg stream) r.video
  | .mjpeg => unlock (.video .mjpeg stream) r.video ++ unlock .audio r.audio
  | .mpeg4 => unlock (.video .mpeg4 stream) r.video ++ unlock .audio r.audio
  | .h264 => unlock (.video .h264 stream) r.video ++ unlock .audio r.audio
  | .httpMjpeg => unlock (.video .mjpeg stream) r.video
  | .dlinkMpeg4 => unlock (.video .mpeg4 stream) r.video ++ unlock .audio r.audio
  | .dlinkH264 => unlock (.video .h264 stream) r.video ++ unlock .audio r.audio
  | .avc => unlock (.video .avc 0) r.video ++ unlock .audio r.audio
  | .audioG726 => unlock .audio r.audio
  | .audioStream => unlock .audio r.audio

/-- The branch of `free_request` for other requests. -/
def unmap (r : Request) : List Op :=
  match r.mmapEntry, r.dataMem, r.mmapPtr with
  | some mapped, _, _ => [.release .releaseMmap mapped]
  | none, some _, some mapped => [.release .munmap mapped]
  | none, some data, none => [.release .munmap data]
  | none, none, _ => []

/-- The part of `free_request` about what the request sends from. -/
def releaseData (r : Request) : List Op :=
  match r.httpStream with
  | some (kind, stream) => unlockFrames kind stream r
  | none => unmap r

/-- The texts before `data_mem` and those after it, in the order in which they are freed. -/
def Texts.blocks (texts : Texts) : List Block × List Block :=
  ((texts.cgiEnv ++ texts.cmdString.toList ++ texts.exportFile.toList).map fun id => ⟨.heap, id⟩,
    (texts.pathname.toList ++ texts.pathInfo.toList ++ texts.pathTranslated.toList ++
      texts.scriptName.toList).map fun id => ⟨.heap, id⟩)

/-- `free_request`, of a request without output. -/
def freeRequest (r : Request) : List Op :=
  releaseData r ++
  r.texts.blocks.1.map (.release .free) ++
  (if r.isMemory then r.dataMem.toList.map (.release .free) else []) ++
  r.texts.blocks.2.map (.release .free)

/-! ## The life of a request -/

/-- What happens to a request behind its handler: a turn of `process_get`, the last output to be
sent, and a time-out or an error of the socket. -/
inductive Action where
  | turn (turn : Turn)
  | finish
  | die

/-- The next action. -/
def step (r : Request) : Action → Request
  | .turn turn => if r.status = .write then (processGet turn r).1 else r
  | .finish => { r with status := .done }
  | .die => { r with status := .dead }

/-- What the next action does with blocks. -/
def stepOps (r : Request) : Action → List Op
  | .turn turn => if r.status = .write then (processGet turn r).2 else []
  | .finish => []
  | .die => []

/-- What the actions of a list do with blocks. -/
def runOps : Request → List Action → List Op
  | _, [] => []
  | r, action :: actions => stepOps r action ++ runOps (step r action) actions

/-- A request behind its handler: when the handler returns 0, `free_request` leaves its output to be
sent. -/
def start (handler : Handler) (offer : Offer) (texts : Texts) : Request :=
  let (r, _, goes) := handler.run offer (.fresh texts)
  if goes then r else { r with status := .done }

/-- What is done with blocks from the reading of the header to the end of `free_request`. -/
def life (handler : Handler) (offer : Offer) (texts : Texts) (actions : List Action) : List Op :=
  (texts.blocks.1 ++ texts.blocks.2).map .take ++ (handler.run offer (.fresh texts)).2.1 ++
    runOps (start handler offer texts) actions ++
    freeRequest (actions.foldl step (start handler offer texts))

end BoaIpcam.Blocks
