import BoaIpcam.Lib.Queues
import BoaIpcam.Request.MainLoop
import BoaIpcam.Session.State
import BoaIpcam.Tunnel.Worker

/-!
# The requests of the server

Requests come from `malloc` and are never given back: they wait on `request_free` for the next
socket. `new_request`, `free_request` and the moves between the lists of `queue.c` are run here on
the cells of the requests, in every order in which the main loop can call them. Streams are counted
as with `CONFIG_STREAM_LIMIT`. The thread of RTSP over HTTP is `Worker`; `return_list` is a list.
-/
namespace BoaIpcam

open LinkedList

/-! ## Requests -/

/-- `MAX_STREAM_LIMIT`. -/
def maxStreamLimit : Int := 10

/-- The lists of `queue.c`. -/
inductive RequestList where
  | ready | block | free
deriving DecidableEq, Repr

/-- The fields of a request that the counts depend on: its socket, `is_stream`, whether its handler
was run, whether something is in its buffer, and whether its status is `DEAD`. -/
structure RequestSlot where
  /-- The socket. -/
  fd : Nat
  /-- `is_stream`. -/
  isStream : Bool
  /-- Whether the handler was run. -/
  handled : Bool
  /-- Something is in the buffer. -/
  output : Bool
  /-- The status is `DEAD`. -/
  dead : Bool
deriving DecidableEq, Repr

namespace RequestSlot

/-- A request after `memset`. -/
def zero : RequestSlot := ⟨0, false, false, false, false⟩

/-- `req->fd = fd;`; the answer to a socket whose number is over the limit is in the buffer. -/
def connect (fd : Nat) (full : Bool) (slot : RequestSlot) : RequestSlot :=
  { slot with fd, output := full }

/-- The handler is run. -/
def handle (slot : RequestSlot) : RequestSlot := { slot with handled := true }

/-- `req->req_flag.is_stream = 1;` -/
def count (slot : RequestSlot) : RequestSlot := { slot with isStream := true }

/-- What a turn leaves. -/
def leave (output dead : Bool) (slot : RequestSlot) : RequestSlot := { slot with output, dead }

end RequestSlot

/-- The requests with their links and the three lists, the counts, the sockets of clients that are
open, and the thread of RTSP over HTTP with its `insert_req`. -/
structure RequestPool where
  /-- The three lists. -/
  queues : Queues RequestList ReqAddr
  /-- The requests. -/
  slots : ReqAddr → RequestSlot
  /-- How many requests were allocated. -/
  requestCount : Nat
  /-- How many streams are counted. -/
  streamCount : Int
  /-- `total_connections`. -/
  totalConnections : Int
  /-- The sockets that are open. -/
  sockets : List Nat
  /-- What the thread is doing. -/
  worker : Worker
  /-- `insert_req`. -/
  insertReq : Option ReqAddr

/-- What a turn of a request comes to: whether its handler is one that counts streams, what is in
the buffer afterwards and whether it is dead, the result, and what `free_request` finds if the
request is complete: whether the socket is kept for a new request, and whether `malloc` succeeds. -/
structure RequestTurn where
  /-- The handler counts streams. -/
  stream : Bool
  /-- Something is in the buffer afterwards. -/
  output : Bool
  /-- The request is dead. -/
  dead : Bool
  /-- The result of the turn. -/
  retval : Blocks.Retval
  /-- The socket is kept. -/
  keepalive : Bool
  /-- `malloc` succeeds. -/
  malloc : Bool

/-- What happens next. Requests are named by their position on the list they are on. -/
inductive PoolAct where
  /-- `get_sock_request`; `full` says that the number of the socket is over the limit. -/
  | accept (fd : Nat) (full malloc : Bool)
  /-- A turn of a request on `request_ready`. -/
  | turn (i : Nat) (turn : RequestTurn)
  /-- `free_request` for a stream when the driver is restarted. -/
  | drop (i : Nat) (keepalive malloc : Bool)
  /-- `fdset_update` for a request on `request_block`. -/
  | wake (i : Nat) (timedOut : Bool)
  /-- `rtsp_o_http_insert_req` for a request that the thread then looks at in time. -/
  | insert (i : Nat) (request : TunnelRequest) (malloc : Bool)
  /-- `rtsp_o_http_insert_req` when the time is over. -/
  | giveUp (i : Nat)
  /-- The thread looks at a request that was given up. -/
  | take (request : TunnelRequest) (malloc : Bool)
  | serve (reads : ReqAddr → ReadResult)
  | update (handler : RecordAddr → HandlerRun)
  /-- `rtsp_o_http_get_return_req` and the `enqueue` after it. -/
  | collect
  /-- The thread ends, and `start_rtsp_o_http_thread` starts it again. -/
  | restart

namespace RequestPool

/-- The server before the first request. -/
def boot (requests : ReqAddr → TunnelRequest) : RequestPool where
  queues := .empty
  slots _ := .zero
  requestCount := 0
  streamCount := 0
  totalConnections := 0
  sockets := []
  worker := .start requests
  insertReq := none

/-- Write the fields of a request. -/
def modify (r : ReqAddr) (f : RequestSlot → RequestSlot) (s : RequestPool) : RequestPool :=
  { s with slots := Function.update s.slots r (f (s.slots r)) }

/-- `block_request`. -/
def blockRequest (r : ReqAddr) (s : RequestPool) : RequestPool :=
  { s with queues := (s.queues.dequeue .ready r).enqueue .block r }

/-- `ready_request`. -/
def readyRequest (r : ReqAddr) (s : RequestPool) : RequestPool :=
  { s with queues := (s.queues.dequeue .block r).enqueue .ready r }

/-- `new_request`. -/
def newRequest (malloc : Bool) (s : RequestPool) : Option (ReqAddr × RequestPool) :=
  match s.queues.head .free with
  | some r =>
    some (r, { s with
      queues := s.queues.dequeue .free r
      slots := Function.update s.slots r .zero })
  | none =>
    if s.requestCount ≥ maxRequest ∨ malloc = false then none
    else some (s.requestCount, { s with
      slots := Function.update s.slots s.requestCount .zero
      requestCount := s.requestCount + 1 })

/-- `get_sock_request`. Without a request the socket is closed again. -/
def getSockRequest (fd : Nat) (full malloc : Bool) (s : RequestPool) : RequestPool :=
  match s.newRequest malloc with
  | none => s
  | some (conn, s) =>
    { s.modify conn (.connect fd full) with
      totalConnections := s.totalConnections + 1
      sockets := fd :: s.sockets
      queues := s.queues.enqueue .ready conn }

/-- `check_stream_count`. -/
def checkStreamCount (r : ReqAddr) (s : RequestPool) : Option RequestPool :=
  if s.streamCount ≥ maxStreamLimit then none
  else some { s.modify r .count with
    streamCount := s.streamCount + 1 }

/-- The end of `free_request`, where the socket is closed. -/
def closeSocket (r : ReqAddr) (s : RequestPool) : RequestPool :=
  { s with
    sockets := s.sockets.erase (s.slots r).fd
    totalConnections := s.totalConnections - 1
    queues := s.queues.enqueue .free r }

/-- `free_request`. A request with output that is not dead stays where it is. -/
def freeRequest (r : ReqAddr) (keepalive malloc : Bool) (s : RequestPool) : RequestPool :=
  if (s.slots r).output ∧ ¬(s.slots r).dead then s
  else
    let s := { s with
      queues := s.queues.dequeue .ready r
      streamCount := if (s.slots r).isStream then s.streamCount - 1 else s.streamCount }
    if keepalive then
      match s.newRequest malloc with
      | none => s.closeSocket r
      | some (conn, s) =>
        { s.modify conn (.connect (s.slots r).fd false) with
          queues := (s.queues.enqueue .block conn).enqueue .free r }
    else s.closeSocket r

/-- The handler of a request, which is run once: when it counts streams and the limit is reached, it
refuses the request. -/
def handle (r : ReqAddr) (turn : RequestTurn) (s : RequestPool) : RequestPool × Blocks.Retval :=
  if turn.stream ∧ (s.slots r).handled = false then
    let s := s.modify r .handle
    match s.checkStreamCount r with
    | none => (s, .complete)
    | some s => (s, turn.retval)
  else (s, turn.retval)

/-- A turn of a request. -/
def turn (r : ReqAddr) (turn : RequestTurn) (s : RequestPool) : RequestPool :=
  let (s, retval) := s.handle r turn
  let s := s.modify r (.leave turn.output turn.dead)
  match retval with
  | .blocked => s.blockRequest r
  | .complete => s.freeRequest r turn.keepalive turn.malloc
  | .more => s
  | .insert => s

/-- What the thread reads of a request. -/
def arrives (r : ReqAddr) (request : TunnelRequest) (w : Worker) : Worker :=
  { w with requests := Function.update w.requests r request }

/-- One action, if it is possible and its loops are over after the given number of rounds. -/
def exec (rounds : Nat) (s : RequestPool) : PoolAct → Option RequestPool
  | .accept fd full malloc =>
    if fd ∈ s.sockets then none else some (s.getSockRequest fd full malloc)
  | .turn i turn => (s.queues.nth .ready i).map fun r => s.turn r turn
  | .drop i keepalive malloc =>
    (s.queues.nth .ready i).map fun r => s.freeRequest r keepalive malloc
  | .wake i timedOut =>
    (s.queues.nth .block i).map fun r =>
      (s.modify r fun slot => slot.leave slot.output (slot.dead || timedOut)).readyRequest r
  | .insert i request malloc =>
    (s.queues.nth .ready i).bind fun r =>
      ((arrives r request s.worker).insert rounds r malloc).map fun worker =>
        { s with worker, queues := s.queues.dequeue .ready r }
  | .giveUp i => (s.queues.nth .ready i).map fun r => { s with insertReq := some r }
  | .take request malloc =>
    s.insertReq.bind fun r =>
      ((arrives r request s.worker).insert rounds r malloc).map fun worker =>
        { s with worker, insertReq := none }
  | .serve reads =>
    (Worker.serveFrom reads rounds s.worker.usedList s.worker).map fun worker => { s with worker }
  | .update handler =>
    (Worker.updateFrom handler rounds s.worker.usedList s.worker).map fun worker =>
      { s with worker }
  | .collect =>
    match s.worker.returnList with
    | [] => none
    | r :: rest =>
      some { s.modify r (.leave false false) with
        worker := { s.worker with returnList := rest }
        queues := s.queues.enqueue .ready r }
  | .restart => some { s with worker := .start s.worker.requests, insertReq := none }

/-- One action that returns. -/
def Step (s : RequestPool) (act : PoolAct) (s' : RequestPool) : Prop :=
  ∃ rounds, s.exec rounds act = some s'

end RequestPool
end BoaIpcam
