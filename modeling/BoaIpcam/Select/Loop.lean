import BoaIpcam.Lib.ListWalks
import BoaIpcam.Request.Pool

/-!
# The select loop

`select_loop` sleeps in `select` until a descriptor of a request on `request_block` is ready.
`fdset_update` of `select.c` then walks that list and moves the requests whose descriptor is ready,
or whose time is over, to `request_ready`; `process_requests` gives each request on `request_ready`
a turn and moves those that would block back. Both sides say with their own `switch` which
descriptor a request waits for, and both change the descriptor sets that `select` reads.

What a handler does in its turn is an input: it leaves any status and may open and close
descriptors, as long as the system gives none that is open. The thread of RTSP over HTTP has the
requests that are away. A hand-over to it that is given up after three seconds has no part here:
`insert_req` stays set, so the thread may take the request later, while it is on a list. TLS and
signals have no part here either.
-/
namespace BoaIpcam.Select

open LinkedList

/-! ## Requests -/

/-- The statuses of a request. -/
inductive Status where
  | readHeader | oneCr | oneLf | twoCr | bodyRead | bodyWrite | write | pipeRead | pipeWrite | done
  | dead
deriving DecidableEq, Repr

/-- What the loop reads of a request; `output` says whether something is in its buffer, and
`logline` whether its request line was read. -/
structure Slot where
  /-- The socket. -/
  fd : Nat
  /-- The file or the pipe. -/
  dataFd : Nat
  /-- The file of a body. -/
  postDataFd : Nat
  /-- The state. -/
  status : Status
  /-- Something is in the buffer. -/
  output : Bool
  /-- When it was active last. -/
  timeLast : Int
  /-- How many requests may still come. -/
  kacount : Nat
  /-- Whether its request line was read. -/
  logline : Bool
deriving DecidableEq, Repr

/-- A descriptor in one of the two sets: `block_write_fdset` or `block_read_fdset`. -/
structure Channel where
  /-- Which set. -/
  writing : Bool
  /-- The descriptor. -/
  fd : Nat
deriving DecidableEq, Repr

namespace Slot

/-- A request after `memset`. -/
def zero : Slot := ⟨0, 0, 0, .readHeader, false, 0, 0, false⟩

/-- The descriptors of a request. A number of zero stands for no file. -/
def held (slot : Slot) : List Nat := slot.fd :: [slot.dataFd, slot.postDataFd].filter (· ≠ 0)

/-- The `switch` of `block_request` and of `ready_request`. -/
def channel (slot : Slot) : Channel :=
  if slot.output then ⟨true, slot.fd⟩
  else
    match slot.status with
    | .write => ⟨true, slot.fd⟩
    | .pipeWrite => ⟨true, slot.fd⟩
    | .done => ⟨true, slot.fd⟩
    | .pipeRead => ⟨false, slot.dataFd⟩
    | .bodyWrite => ⟨true, slot.postDataFd⟩
    | _ => ⟨false, slot.fd⟩

/-- The `switch` of `fdset_update`: what is tested before the request is moved, if anything. -/
def tested (slot : Slot) : Option Channel :=
  if slot.output ∧ slot.status ≠ .dead then some ⟨true, slot.fd⟩
  else
    match slot.status with
    | .write => some ⟨true, slot.fd⟩
    | .pipeWrite => some ⟨true, slot.fd⟩
    | .bodyWrite => some ⟨true, slot.postDataFd⟩
    | .pipeRead => some ⟨false, slot.dataFd⟩
    | .done => some ⟨true, slot.fd⟩
    | .dead => none
    | _ => some ⟨false, slot.fd⟩

end Slot

/-- What the configuration says. -/
structure Config where
  /-- `ka_max`. -/
  kaMax : Nat
  /-- `ka_timeout`. -/
  kaTimeout : Int
  /-- `max_connections`. -/
  maxConnections : Int
  /-- The socket of the server. -/
  serverS : Nat

/-- `REQUEST_TIMEOUT`. -/
def requestTimeout : Int := 60

/-- `FD_SETSIZE`. -/
def fdSetSize : Nat := 1024

/-- The test of `fdset_update` for a request whose time is over. -/
def Slot.Expired (config : Config) (now : Int) (slot : Slot) : Prop :=
  slot.kacount < config.kaMax ∧ now - slot.timeLast ≥ config.kaTimeout ∧ slot.logline = false ∨
    now - slot.timeLast > requestTimeout

instance (config : Config) (now : Int) (slot : Slot) : Decidable (slot.Expired config now) :=
  inferInstanceAs (Decidable (_ ∨ _))

/-- What `get_sock_request` writes into a request. A socket over the limit is answered with a page,
which may be in the buffer. -/
def Slot.connect (config : Config) (fd : Nat) (output : Bool) (now : Int) (slot : Slot) : Slot :=
  { slot with
    fd
    status := if config.maxConnections < fd then .done else .readHeader
    output := decide (config.maxConnections < fd) && output
    timeLast := now
    kacount := config.kaMax }

/-- What `free_request` writes into the request that gets the socket of another one. -/
def Slot.inherit (old slot : Slot) : Slot :=
  { slot with
    fd := old.fd
    kacount := old.kacount - 1
    timeLast := old.timeLast }

/-- The requests with their lists and links, the descriptor sets, and the descriptors that are
open. -/
structure SelectLoop where
  /-- The three lists. -/
  queues : Queues RequestList ReqAddr
  /-- The requests. -/
  slots : ReqAddr → Slot
  /-- How many requests were allocated. -/
  requestCount : Nat
  /-- Those that the thread has. -/
  away : List ReqAddr
  /-- The descriptor sets. -/
  fdset : Channel → Bool
  /-- The greatest descriptor in them. -/
  maxFd : Int
  /-- The time. -/
  currentTime : Int
  /-- Whether a client waits. -/
  pendingRequests : Bool
  /-- `total_connections`. -/
  totalConnections : Int
  /-- The descriptors that are open. -/
  descriptors : List Nat

/-- Why a pass does not go on: the system would have given a descriptor that is open, or a handler
would wait for one that it does not have, as a POST to a page with a handler does, which
`read_header` leaves in `BODY_WRITE` without a file; or a loop has not ended. -/
inductive Stop where
  | descriptor | rounds
deriving DecidableEq, Repr

/-- What `accept` returns: no connection is there, an error, or a socket. `malloc` says whether
there is memory for a request, and `output` whether the page of a socket over the limit is in the
buffer. -/
inductive Accept where
  | nothing | failed
  | socket (fd : Nat) (malloc output : Bool)
deriving DecidableEq, Repr

/-- What `free_request` finds: whether keep-alive is active and the answer no error, and whether
there is memory for a request. -/
structure Freed where
  /-- Whether the socket is kept. -/
  keepalive : Bool
  /-- Whether there is memory. -/
  malloc : Bool
deriving DecidableEq, Repr

/-- The results of a turn. With `insert` the thread of RTSP over HTTP takes the request; a value that
`process_requests` does not know leaves it where it is. -/
inductive Retval where
  | blocked | complete | more | insert | unknown
deriving DecidableEq, Repr

/-- A turn of a request: what the handler leaves in it, its result, what `accept` returns behind it,
the time, and what `free_request` finds. -/
structure Turn where
  /-- The file or the pipe afterwards. -/
  dataFd : Nat
  /-- The file of the body afterwards. -/
  postDataFd : Nat
  /-- The state afterwards. -/
  status : Status
  /-- Something is in the buffer afterwards. -/
  output : Bool
  /-- Whether the request line was read. -/
  logline : Bool
  /-- The result. -/
  retval : Retval
  /-- What `accept` returns behind it. -/
  accept : Accept
  /-- The time. -/
  now : Int
  /-- What `free_request` finds. -/
  freed : Freed

/-- The request behind a turn; `time_last` is set when the result is 0 or 1. -/
def Turn.leave (turn : Turn) (slot : Slot) : Slot :=
  { slot with
    dataFd := turn.dataFd
    postDataFd := turn.postDataFd
    status := turn.status
    output := turn.output
    logline := turn.logline
    timeLast :=
      if turn.retval = .complete ∨ turn.retval = .more then turn.now else slot.timeLast }

namespace SelectLoop

/-- The server before the first pass; its own descriptors are open. -/
def boot (descriptors : List Nat) : SelectLoop where
  queues := .empty
  slots _ := .zero
  requestCount := 0
  away := []
  fdset _ := false
  maxFd := -1
  currentTime := 0
  pendingRequests := false
  totalConnections := 0
  descriptors

/-- Write the fields of a request. -/
def modify (r : ReqAddr) (f : Slot → Slot) (s : SelectLoop) : SelectLoop :=
  { s with slots := Function.update s.slots r (f (s.slots r)) }

/-- `BOA_FD_SET`. -/
def boaFdSet (channel : Channel) (s : SelectLoop) : SelectLoop :=
  { s with fdset := Function.update s.fdset channel true, maxFd := max s.maxFd channel.fd }

/-- `FD_CLR`. -/
def fdClr (channel : Channel) (s : SelectLoop) : SelectLoop :=
  { s with fdset := Function.update s.fdset channel false }

/-! ## `queue.c` -/

/-- `block_request`. -/
def blockRequest (r : ReqAddr) (s : SelectLoop) : SelectLoop :=
  boaFdSet (s.slots r).channel { s with queues := (s.queues.dequeue .ready r).enqueue .block r }

/-- `ready_request`. -/
def readyRequest (r : ReqAddr) (s : SelectLoop) : SelectLoop :=
  fdClr (s.slots r).channel { s with queues := (s.queues.dequeue .block r).enqueue .ready r }

/-! ## `fdset_update` -/

/-- A request whose time is over is dead. -/
def expire (config : Config) (r : ReqAddr) (s : SelectLoop) : SelectLoop :=
  if (s.slots r).Expired config s.currentTime then s.modify r ({ · with status := .dead }) else s

/-- What `fdset_update` does with a request. -/
def update (config : Config) (r : ReqAddr) (s : SelectLoop) : SelectLoop :=
  let s := s.expire config r
  match (s.slots r).tested with
  | none => s.readyRequest r
  | some channel => if s.fdset channel then s.readyRequest r else s.boaFdSet channel

/-- A round of the loop of `fdset_update`, which takes the successor first. -/
def updateRound (config : Config) (r : ReqAddr) (s : SelectLoop) :
    Except Stop (SelectLoop × Option ReqAddr) :=
  .ok (s.update config r, s.queues.next r)

/-- `fdset_update`. -/
def fdsetUpdate (config : Config) (s : SelectLoop) : Except Stop SelectLoop := do
  let (s, _) ← walk (updateRound config) .rounds (s.requestCount + 1) (s.queues.head .block) s
  .ok s

/-! ## `process_requests` -/

/-- `new_request`. -/
def newRequest (malloc : Bool) (s : SelectLoop) : Option (ReqAddr × SelectLoop) :=
  match s.queues.head .free with
  | some r =>
    some (r, { s with
      queues := s.queues.dequeue .free r
      slots := Function.update s.slots r .zero })
  | none =>
    if s.requestCount ≥ maxRequest ∨ malloc = false then none
    else some (s.requestCount, { s with
      slots := Function.update s.slots s.requestCount .zero
      requestCount := s.requestCount + 1 })

/-- `get_sock_request`. -/
def getSockRequest (config : Config) (accept : Accept) (s : SelectLoop) : Except Stop SelectLoop :=
  match accept with
  | .nothing => .ok { s with pendingRequests := false }
  | .failed => .ok s
  | .socket fd malloc output =>
    if fd ∈ s.descriptors then .error .descriptor
    else if fdSetSize ≤ fd then .ok s
    else
      match s.newRequest malloc with
      | none => .ok s
      | some (conn, s) =>
        .ok { s.modify conn (.connect config fd output s.currentTime) with
          pendingRequests := s.pendingRequests && decide ¬config.maxConnections < fd
          totalConnections := s.totalConnections + 1
          descriptors := fd :: s.descriptors
          queues := s.queues.enqueue .ready conn }

/-- `get_request`, when a connection may be there. -/
def getRequest (config : Config) (accept : Accept) (s : SelectLoop) : Except Stop SelectLoop :=
  if s.pendingRequests then s.getSockRequest config accept else .ok s

/-- The descriptors of a request are closed. -/
def close (fds : List Nat) (s : SelectLoop) : SelectLoop :=
  { s with descriptors := s.descriptors.filter (· ∉ fds) }

/-- The socket of a request is closed with its files, and the request is free. -/
def retire (r : ReqAddr) (slot : Slot) (s : SelectLoop) : SelectLoop :=
  { s.close slot.held with
    totalConnections := s.totalConnections - 1
    queues := s.queues.enqueue .free r }

/-- The socket of a request is given to a new request, which waits for the client; the files of the
first are closed. -/
def renew (slot : Slot) (conn : ReqAddr) (s : SelectLoop) : SelectLoop :=
  boaFdSet ⟨false, slot.fd⟩ { s.modify conn slot.inherit with
    descriptors := slot.fd :: (s.close slot.held).descriptors
    queues := s.queues.enqueue .block conn }

/-- `free_request`. A request with output that is not dead stays where it is. -/
def freeRequest (r : ReqAddr) (freed : Freed) (s : SelectLoop) : SelectLoop :=
  if (s.slots r).output ∧ (s.slots r).status ≠ .dead then s.modify r ({ · with status := .done })
  else
    let slot := s.slots r
    let s := { s with queues := s.queues.dequeue .ready r }
    if freed.keepalive ∧ 0 < slot.kacount then
      match s.newRequest freed.malloc with
      | none => s.retire r slot
      | some (conn, s) =>
        let s := s.renew slot conn
        { s with queues := s.queues.enqueue .free r }
    else s.retire r slot

/-- A round of the loop that ends the streams when the driver is restarted. -/
def restartRound (streams : ReqAddr → Option Freed) (r : ReqAddr) (s : SelectLoop) :
    Except Stop (SelectLoop × Option ReqAddr) :=
  match streams r with
  | none => .ok (s, s.queues.next r)
  | some freed => .ok (s.freeRequest r freed, s.queues.next r)

/-- A handler: what it opens is not open before, and it waits for a descriptor that it has. In
`BODY_WRITE` that is the file of the body. -/
def handle (r : ReqAddr) (turn : Turn) (s : SelectLoop) : Except Stop SelectLoop :=
  let old := (s.slots r).held
  let new := (turn.leave (s.slots r)).held
  let opened := new.filter (· ∉ old)
  if (∃ fd ∈ opened, fd ∈ s.descriptors) ∨ (turn.leave (s.slots r)).channel.fd ∉ new then
    .error .descriptor
  else
    .ok { s.modify r turn.leave with
      currentTime := turn.now
      descriptors := opened ++ s.descriptors.filter (fun fd => fd ∉ old ∨ fd ∈ new) }

/-- The `switch` at the end of a turn. -/
def place (r : ReqAddr) (turn : Turn) (s : SelectLoop) : SelectLoop :=
  match turn.retval with
  | .blocked => s.blockRequest r
  | .complete => s.freeRequest r turn.freed
  | .more => s
  | .unknown => s
  | .insert => { s with queues := s.queues.dequeue .ready r, away := r :: s.away }

/-- A round of the loop of `process_requests`; the successor is taken behind the handler. -/
def turnRound (config : Config) (turns : ReqAddr → Turn) (r : ReqAddr) (s : SelectLoop) :
    Except Stop (SelectLoop × Option ReqAddr) := do
  let s ← s.handle r (turns r)
  let s ← s.getRequest config (turns r).accept
  .ok (s.place r (turns r), s.queues.next r)

/-- What `process_requests` finds: what `accept` returns first, the streams that are ended when the
driver is restarted, and a turn for each request. -/
structure Pass where
  /-- What `accept` returns first. -/
  accept : Accept
  /-- The streams that are ended. -/
  streams : Option (ReqAddr → Option Freed)
  /-- The turns. -/
  turns : ReqAddr → Turn

/-- The head of `process_requests`, when the driver is restarted. -/
def endStreams (pass : Pass) (s : SelectLoop) : Except Stop SelectLoop :=
  match pass.streams with
  | none => .ok s
  | some streams => do
    let (s, _) ← walk (restartRound streams) .rounds (s.requestCount + 1) (s.queues.head .ready) s
    .ok s

/-- `process_requests`, and which requests had a turn. -/
def processRequests (config : Config) (pass : Pass) (s : SelectLoop) :
    Except Stop (SelectLoop × List ReqAddr) := do
  let s ← s.getRequest config pass.accept
  let s ← s.endStreams pass
  walk (turnRound config pass.turns) .rounds (s.requestCount + 1) (s.queues.head .ready) s

/-! ## `select_loop` -/

/-- The requests that `rtsp_o_http_get_return_req` gives back. -/
def collect : List ReqAddr → SelectLoop → SelectLoop
  | [], s => s
  | r :: rest, s =>
    if r ∈ s.away then
      collect rest { s.modify r ({ · with status := .done, output := false }) with
        away := s.away.erase r
        queues := s.queues.enqueue .ready r }
    else collect rest s

/-- What `select` returns: it is interrupted by a signal, or fails, and then leaves the sets as they
are; or it keeps the descriptors that are ready. -/
inductive Selected where
  | interrupted | failed
  | ready (channels : Channel → Bool)

/-- What the loop finds from one sleep to the next: what `select` returns, with the time behind it,
the requests that come back from the thread, and what `process_requests` finds. `terminating` is for
`SIGTERM`. -/
structure Input where
  /-- What `select` returns. -/
  selected : Selected
  /-- The time behind it. -/
  now : Int
  /-- The requests that come back. -/
  returned : List ReqAddr
  /-- Whether there was a `SIGTERM`. -/
  terminating : Bool
  /-- What `process_requests` finds. -/
  pass : Pass

/-- The sets behind `select`. -/
def keep (selected : Selected) (fdset : Channel → Bool) : Channel → Bool :=
  match selected with
  | .ready channels => fun channel => fdset channel && channels channel
  | _ => fdset

/-- `select` returns. A signal that interrupts it is all that the loop then looks at. -/
def wake (config : Config) (input : Input) (s : SelectLoop) : SelectLoop :=
  let fdset := keep input.selected s.fdset
  match input.selected with
  | .interrupted => s
  | _ =>
    { s with
      fdset
      currentTime := input.now
      pendingRequests := s.pendingRequests || fdset ⟨false, config.serverS⟩ }

/-- The server socket is set, unless there are too many connections. -/
def listen (config : Config) (terminating : Bool) (s : SelectLoop) : SelectLoop :=
  if terminating = false ∧ s.totalConnections < config.maxConnections - 10 then
    s.boaFdSet ⟨false, config.serverS⟩
  else s

/-- `select_loop` from one call of `select` to the next, and which requests had a turn. -/
def iterate (config : Config) (input : Input) (s : SelectLoop) :
    Except Stop (SelectLoop × List ReqAddr) := do
  let s := collect input.returned (s.wake config input)
  let s ← { s with maxFd := -1 }.fdsetUpdate config
  let (s, served) ← s.processRequests config input.pass
  .ok (s.listen config input.terminating, served)

/-- A run of the loop up to a call of `select`. -/
def run (config : Config) (s : SelectLoop) : List Input → Except Stop SelectLoop
  | [] => .ok s
  | input :: rest => do
    let (s, _) ← s.iterate config input
    run config s rest

end SelectLoop
end BoaIpcam.Select
