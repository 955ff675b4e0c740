import BoaIpcam.Lib.LinkedList
import BoaIpcam.Tunnel.Receive
import Mathlib.Logic.Function.Basic

/-!
# The thread of RTSP over HTTP

A client opens two requests with the same session id, a GET for the answers and a POST for the
commands. `rtsp_o_http_thread` keeps an `RTSP_DATA` record for each session id, with the two
requests, on the list `used_list`; `update_record` moves a record that is not needed any more to
`free_list`. A request whose socket was closed goes to `return_list`, from where the main thread
takes it back.

The records are cells of a memory addressed in the order of their `malloc`, and the lists are the
links in these cells; `return_list` is a list. Which descriptors `select` reports and what `read`
returns for them is the argument `reads`, and what the RTSP commands of a session come to is the
argument `handler`: the media sessions are objects of live555.
-/
namespace BoaIpcam

open LinkedList

/-! ## Records -/

/-- The address of an `RTSP_DATA`. -/
abbrev RecordAddr := Nat

/-- The address of a request that the thread is given. -/
abbrev ReqAddr := Nat

/-- `STATUS_CLOSED` and so on. -/
inductive RecordStatus where
  | closed
  | waitSocket
  | active
  | waitClose
deriving DecidableEq, Repr

/-- The bits `FLAGS_IN_OK`, `FLAGS_OUT_OK`, `FLAGS_LIVE555_SETUP_OK` and `FLAGS_LIVE555_PLAY`. -/
structure RecordFlags where
  /-- `FLAGS_IN_OK`. -/
  inOk : Bool
  /-- `FLAGS_OUT_OK`. -/
  outOk : Bool
  /-- `FLAGS_LIVE555_SETUP_OK`. -/
  setupOk : Bool
  /-- `FLAGS_LIVE555_PLAY`. -/
  play : Bool
deriving DecidableEq, Repr

namespace RecordFlags

/-- No bit is set. -/
def zero : RecordFlags := ⟨false, false, false, false⟩

/-- `flags & FLAGS_CONNECT_OK`. -/
def connectOk (flags : RecordFlags) : Bool := flags.inOk || flags.outOk

/-- `flags & FLAGS_LIVE_OK`. -/
def liveOk (flags : RecordFlags) : Bool := flags.setupOk || flags.play

end RecordFlags

/-- `RTSP_DATA`. Of `rtspclientsession` only whether it was ever set is kept. -/
structure RtspData where
  /-- The session. -/
  sessionid : List UInt8
  /-- Whether there was a session of the library. -/
  rtspclientsession : Bool
  /-- The GET. -/
  outreq : Option ReqAddr
  /-- The POST. -/
  inreq : Option ReqAddr
  /-- The state. -/
  status : RecordStatus
  /-- The flags. -/
  flags : RecordFlags
  /-- The record before. -/
  prev : Option RecordAddr
  /-- The record behind. -/
  next : Option RecordAddr
deriving DecidableEq, Repr

/-- The two slots of a record. -/
inductive Direction where
  | into
  | out
deriving DecidableEq, Repr

/-- What the thread reads and writes of a request. `process_option_line` and `rtsp_over_http` fill
an array of 28 bytes with at most 27. -/
structure TunnelRequest where
  /-- Whether it is a GET or a POST. -/
  direction : Direction
  /-- The session. -/
  sessionid : List UInt8
  /-- `parse_pos`. -/
  parsePos : Nat
  /-- `client_stream_pos`. -/
  clientStreamPos : Nat
  /-- The session fits its array. -/
  sessionid_le : sessionid.length ≤ 27

/-- What `select` and `read` say about the descriptor of a request. -/
inductive ReadResult where
  /-- It is not reported, or `read` would block. -/
  | idle
  | data (count : Nat)
  /-- The client closed it, or `read` failed. -/
  | closed
deriving DecidableEq, Repr

/-- The RTSP commands that change the flags, and all the others. -/
inductive SessionCommand where
  | play
  | pause
  | other
deriving DecidableEq, Repr

/-- What a call of `incomingRequestHandler1` does: the commands it finds, and whether it then
returns at an incomplete one or ends the loop with the session active or not. -/
structure HandlerRun where
  /-- The commands that it finds. -/
  commands : List SessionCommand
  /-- Whether the last one is incomplete. -/
  waits : Bool
  /-- Whether the session is active. -/
  active : Bool

namespace RtspData

/-- A record after `memset`; `STATUS_CLOSED` is zero. -/
def zeroed : RtspData := ⟨[], false, none, none, .closed, .zero, none, none⟩

/-- The slot of a direction. -/
def slot (d : RtspData) : Direction → Option ReqAddr
  | .into => d.inreq
  | .out => d.outreq

/-- `addClientConnection`, with the constructor of the session. -/
def addClientConnection (d : RtspData) : RtspData :=
  if d.rtspclientsession then d
  else { d with
    rtspclientsession := true
    flags := { d.flags with setupOk := true, play := false } }

/-- A request takes its slot if that is free. A new record then gets a session. -/
def plug (d : RtspData) (direction : Direction) (req : ReqAddr) (new : Bool) : RtspData :=
  match direction with
  | .out =>
    if d.outreq = none then
      let d := { d with outreq := some req, flags := { d.flags with outOk := true } }
      if new then d.addClientConnection else d
    else d
  | .into =>
    if d.inreq = none then
      let d := { d with inreq := some req, flags := { d.flags with inOk := true } }
      if new then d.addClientConnection else d
    else d

/-- The end of the insertion: the record is active when both its sockets are there. -/
def settle (d : RtspData) : RtspData :=
  { d with status := if d.flags.inOk && d.flags.outOk then .active else .waitSocket }

/-- The part of the loop over the sockets for the one from the client. -/
def closeIn (d : RtspData) : RtspData :=
  { d with inreq := none, flags := { d.flags with inOk := false } }

/-- The part of the loop over the sockets for the one to the client. -/
def closeOut (d : RtspData) : RtspData :=
  { d with outreq := none, flags := { d.flags with outOk := false } }

/-- The end of the loop over the sockets, when one of them was closed. -/
def settleClosed (d : RtspData) : RtspData :=
  if d.status = .waitClose then d
  else { d with status := if d.flags.connectOk then .waitSocket else .waitClose }

/-- `handleCmd_PLAY` and `handleCmd_PAUSE`. -/
def command (d : RtspData) : SessionCommand → RtspData
  | .play => { d with flags := { d.flags with play := true } }
  | .pause => { d with flags := { d.flags with play := false } }
  | .other => d

/-- The end of `incomingRequestHandler1` when the session is not active any more; the session
deletes itself. -/
def endSession (d : RtspData) : RtspData :=
  { d with
    flags := { d.flags with setupOk := false, play := false }
    status := if d.status = .closed then .closed else .waitClose }

/-- What `incomingRequestHandler1` does to the record of its session. -/
def handle (d : RtspData) (run : HandlerRun) : RtspData :=
  if d.inreq = none then
    if d.flags.connectOk then d else d.endSession
  else
    let d := run.commands.foldl command d
    if run.waits then d
    else if !d.flags.connectOk || !run.active then d.endSession
    else d

end RtspData

/-! ## The thread -/

/-- `thread_data` with the memory of the records, and the requests. The number of records
allocated so far, `brk`, is the address of the next one. -/
structure Worker where
  /-- The records. -/
  records : RecordAddr → RtspData
  /-- The address of the next one. -/
  brk : Nat
  /-- `used_list`. -/
  usedList : Option RecordAddr
  /-- `free_list`. -/
  freeList : Option RecordAddr
  /-- `return_list`. -/
  returnList : List ReqAddr
  /-- The requests. -/
  requests : ReqAddr → TunnelRequest

/-- What `search_adpative_record` returns. -/
inductive SearchResult where
  | noSpace
  | newId (record : RecordAddr)
  | existId (record : RecordAddr)
deriving DecidableEq, Repr

namespace Worker

/-- The link `next` of every record. -/
def next (w : Worker) (a : RecordAddr) : Option RecordAddr := (w.records a).next

/-- The link `prev` of every record. -/
def prev (w : Worker) (a : RecordAddr) : Option RecordAddr := (w.records a).prev

/-- Write the fields of a record. -/
def modify (w : Worker) (a : RecordAddr) (f : RtspData → RtspData) : Worker :=
  { w with records := Function.update w.records a (f (w.records a)) }

/-- `if (p) p->next = v;` -/
def setNext (w : Worker) (p v : Option RecordAddr) : Worker :=
  match p with
  | none => w
  | some a => w.modify a fun d => { d with next := v }

/-- `if (p) p->prev = v;` -/
def setPrev (w : Worker) (p v : Option RecordAddr) : Worker :=
  match p with
  | none => w
  | some a => w.modify a fun d => { d with prev := v }

/-- The end of `search_adpative_record`: the record is cleared and becomes the first of
`used_list`. -/
def pushUsed (w : Worker) (a : RecordAddr) (sessionid : List UInt8) : Worker :=
  let w := w.modify a fun _ => { RtspData.zeroed with next := w.usedList }
  let w := w.setPrev w.usedList (some a)
  let w := { w with usedList := some a }
  w.modify a fun d => { d with sessionid := sessionid.take 27 }

/-- The record that `search_adpative_record` takes when no record has the session id: the first of
`free_list`, or a new one. The argument says whether `malloc` succeeds. -/
def takeRecord (w : Worker) (malloc : Bool) : Option (RecordAddr × Worker) :=
  match w.freeList with
  | some a =>
    let w := w.setPrev (w.next a) none
    some (a, { w with freeList := w.next a })
  | none => if malloc then some (w.brk, { w with brk := w.brk + 1 }) else none

/-- `search_adpative_record`. None when the walk is not over after the given number of rounds. -/
def searchAdpativeRecord (rounds : Nat) (w : Worker) (sessionid : List UInt8) (malloc : Bool) :
    Option (SearchResult × Worker) :=
  match seek w.next (fun a => (w.records a).sessionid = sessionid) rounds w.usedList with
  | none => none
  | some (some a) => some (.existId a, w)
  | some none =>
    match w.takeRecord malloc with
    | none => some (.noSpace, w)
    | some (a, w) => some (.newId a, w.pushUsed a sessionid)

/-- The request takes its slot of a record, unless that waits for being closed. -/
def plug (w : Worker) (a : RecordAddr) (req : ReqAddr) (new : Bool) : Worker :=
  if (w.records a).status = .waitClose then w
  else w.modify a fun d => (d.plug (w.requests req).direction req new).settle

/-- What the thread does with a request that it finds in `insert_req`. -/
def insert (rounds : Nat) (w : Worker) (req : ReqAddr) (malloc : Bool) : Option Worker :=
  (w.searchAdpativeRecord rounds (w.requests req).sessionid malloc).map fun
    | (.noSpace, w) => w
    | (.newId a, w) => w.plug a req true
    | (.existId a, w) => w.plug a req false

/-! ### Reading the sockets -/

/-- `req->client_stream_pos += ret`. -/
def receive (w : Worker) (req : ReqAddr) (count : Nat) : Worker :=
  let received := { w.requests req with
    clientStreamPos := (w.requests req).clientStreamPos + count }
  { w with requests := Function.update w.requests req received }

/-- The first half of the loop over the sockets. The result says whether the socket was closed. -/
def serveIn (reads : ReqAddr → ReadResult) (w : Worker) (a : RecordAddr) : Bool × Worker :=
  match (w.records a).inreq with
  | none => (false, w)
  | some req =>
    match reads req with
    | .idle => (false, w)
    | .data count => (false, w.receive req count)
    | .closed => (true, { w.modify a RtspData.closeIn with returnList := req :: w.returnList })

/-- The second half of the loop over the sockets; what is read there is dropped. -/
def serveOut (reads : ReqAddr → ReadResult) (w : Worker) (a : RecordAddr) : Bool × Worker :=
  match (w.records a).outreq with
  | none => (false, w)
  | some req =>
    if reads req = .closed then
      (true, { w.modify a RtspData.closeOut with returnList := req :: w.returnList })
    else (false, w)

/-- One round of the loop over the sockets. -/
def serve (reads : ReqAddr → ReadResult) (w : Worker) (a : RecordAddr) : Worker :=
  let (closedIn, w) := w.serveIn reads a
  let (closedOut, w) := w.serveOut reads a
  if closedIn || closedOut then w.modify a RtspData.settleClosed else w

/-- The loop over the sockets, from a record on. -/
def serveFrom (reads : ReqAddr → ReadResult) : Nat → Option RecordAddr → Worker → Option Worker
  | _, none, w => some w
  | 0, some _, _ => none
  | rounds + 1, some a, w =>
    let w := w.serve reads a
    serveFrom reads rounds (w.next a) w

/-! ### Updating the records -/

/-- `incoming_hander`: what was received is decoded, and the commands in it are handled. -/
def incomingHander (w : Worker) (a : RecordAddr) (run : HandlerRun) : Worker :=
  let w := match (w.records a).inreq with
    | none => w
    | some req =>
      if (w.requests req).parsePos < (w.requests req).clientStreamPos then
        let decoded := { w.requests req with parsePos := 0, clientStreamPos := 0 }
        { w with requests := Function.update w.requests req decoded }
      else w
  w.modify a fun d => d.handle run

/-- The middle of `update_record`: the record leaves `used_list`. -/
def unlinkUsed (w : Worker) (a : RecordAddr) : Worker :=
  let w := { w.setNext (w.prev a) (w.next a) with
    usedList := if w.prev a = none then w.next a else w.usedList }
  w.setPrev (w.next a) (w.prev a)

/-- The end of `update_record`: the record is cleared and becomes the first of `free_list`. The
back pointer of the record that was the first before is not written. -/
def pushFree (w : Worker) (a : RecordAddr) : Worker :=
  let w := w.modify a fun _ => { RtspData.zeroed with next := w.freeList }
  { w with freeList := some a }

/-- One round of `update_record`. None where it reads through a null `inreq`. -/
def update (handler : RecordAddr → HandlerRun) (w : Worker) (a : RecordAddr) : Option Worker :=
  match (w.records a).status with
  | .active =>
    (w.records a).inreq.map fun req =>
      if (w.requests req).parsePos < (w.requests req).clientStreamPos then
        w.incomingHander a (handler a)
      else w
  | .waitClose =>
    let flags := (w.records a).flags
    let w := if !flags.connectOk && flags.liveOk then w.incomingHander a (handler a) else w
    if (w.records a).flags = .zero then some ((w.unlinkUsed a).pushFree a) else some w
  | .closed => some w
  | .waitSocket => some w

/-- The loop of `update_record`, from a record on. The next record is read before the round. -/
def updateFrom (handler : RecordAddr → HandlerRun) :
    Nat → Option RecordAddr → Worker → Option Worker
  | _, none, w => some w
  | 0, some _, _ => none
  | rounds + 1, some a, w =>
    (w.update handler a).bind fun w' => updateFrom handler rounds (w.next a) w'

/-- The thread when it starts. -/
def start (requests : ReqAddr → TunnelRequest) : Worker where
  records _ := .zeroed
  brk := 0
  usedList := none
  freeList := none
  returnList := []
  requests

end Worker
end BoaIpcam
