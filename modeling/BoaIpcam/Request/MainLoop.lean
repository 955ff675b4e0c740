import BoaIpcam.Request.Blocks

/-!
# The main loop

`process_requests` in single steps, each with what it does with blocks: a pass is its head, where
the driver is restarted, and then a turn of every request that is on `request_ready`. `SIGUSR1`
announces a restart: the next head frees the streams on `request_ready` and detaches from the
driver, and some passes later the driver is attached again.

A request that the thread of RTSP over HTTP has is no stream, and comes back to be freed.
-/
namespace BoaIpcam.Blocks

/-! ## Requests -/

/-- Where a request is: on `request_ready`, on `request_block`, or with the thread of RTSP over
HTTP. -/
inductive Place where
  | ready | block | thread
deriving DecidableEq, Repr

/-- A request of the main loop. `reading` is for the states of a request whose header or body is not
read yet, `notify` for the stream of `uri_notify_stream`, which has no frames, and `output` says
whether something is in the buffer. -/
structure Client where
  /-- The request. -/
  request : Request
  /-- Its header or body is not read yet. -/
  reading : Bool
  /-- It is a stream of events. -/
  notify : Bool
  /-- Something is in its buffer. -/
  output : Bool
  /-- The list that it is on. -/
  place : Place
deriving DecidableEq, Repr

/-- `new_request`. -/
def Client.fresh (place : Place) : Client :=
  ⟨.fresh ⟨[], none, none, none, none, none, none⟩, true, false, false, place⟩

/-- Another status. -/
def Client.mark (status : Status) (c : Client) : Client :=
  { c with request := { c.request with status }, reading := false }

/-- The main loop. `attached` says whether the driver is. -/
structure MainLoop where
  /-- The requests. -/
  clients : List Client
  /-- `av_stream_pending`. -/
  avStreamPending : Int
  /-- Whether the driver is attached. -/
  attached : Bool

/-- The main loop before the first request. -/
def MainLoop.boot : MainLoop := ⟨[], 0, true⟩

/-- `free_request`, which leaves a request with output to be sent. With keep-alive there is a new
request for the socket. -/
def Client.free (again : Bool) (c : Client) : List Client × List Op :=
  if c.output ∧ c.request.status ≠ .dead then ([c.mark .done], [])
  else (if again then [.fresh .block] else [], freeRequest c.request)

/-- What the head of a pass does with a request before the driver is detached. -/
def Client.detach (again : Bool) (c : Client) : List Client × List Op :=
  if c.place = .ready ∧ (c.request.httpStream ≠ none ∨ c.notify) then c.free again else ([c], [])

/-- The result of a turn: the values −1, 0, 1 and 2 of `retval`. -/
inductive Retval where
  | blocked | complete | more | insert
deriving DecidableEq, Repr

/-- What `req_flush` does: it would block, it fails, something is left, or everything is sent. -/
inductive Flush where
  | blocked | failed | left | sent

/-- What reading comes to: nothing is there; the texts that were read so far; the request was
answered with a text, or is one that the model of blocks has no part of; a handler that fills the
request; and a request for the thread of RTSP over HTTP. -/
inductive Read where
  | nothing
  | part (texts : Texts)
  | answer (status : Status) (notify : Bool) (goes : Bool)
  | run (handler : Handler) (offer : Offer)
  | thread

/-- What a turn finds. `pipe` is what a CGI program or a large file comes to, `printed` whether
something is in the buffer afterwards, `late` whether the stream timed out, and `again` whether
`free_request` gives the socket to a new request. -/
structure Input where
  /-- What the buffer comes to. -/
  flush : Flush
  /-- What the header comes to. -/
  read : Read
  /-- What `process_get` finds. -/
  turn : Turn
  /-- What the pipe comes to. -/
  pipe : Status × Retval
  /-- Something is in the buffer afterwards. -/
  printed : Bool
  /-- The stream timed out. -/
  late : Bool
  /-- The socket is kept for a new request. -/
  again : Bool

/-- `read_header` and `read_body`; during a restart a handler is refused its frame. -/
def Client.read (restarting : Bool) (input : Input) (c : Client) : Client × List Op × Retval :=
  match input.read with
  | .nothing => (c, [], .blocked)
  | .part texts => ({ c with request := { c.request with texts } }, [], .more)
  | .answer status notify goes =>
    ({ c.mark status with notify, output := input.printed }, [], if goes then .more else .complete)
  | .run handler offer =>
    let (request, ops, goes) :=
      handler.run { offer with refused := offer.refused || restarting } c.request
    ({ c with request, reading := false, output := input.printed }, ops,
      if goes then .more else .complete)
  | .thread => (c, [], .insert)

/-- What `process_get` returns. -/
def Turn.retval (turn : Turn) (r : Request) : Retval :=
  match turn.written with
  | .wouldBlock => .blocked
  | .sigbus => .complete
  | .failed => .complete
  | .wrote _ => if r.status = .done then .complete else .more

/-- `process_get`; a stream of `uri_notify_stream` has nothing but the buffer. -/
def Client.get (input : Input) (c : Client) : Client × List Op × Retval :=
  if c.notify then ({ c with output := input.printed }, [], .more)
  else
    let (request, ops) := processGet input.turn c.request
    ({ c with request, output := input.printed }, ops, input.turn.retval request)

/-- The `switch` of `process_requests` over the status. -/
def Client.serve (restarting : Bool) (input : Input) (c : Client) : Client × List Op × Retval :=
  if c.output ∧ c.request.status ≠ .dead ∧ c.request.status ≠ .done then
    match input.flush with
    | .blocked => (c, [], .blocked)
    | .failed => ({ c.mark .dead with output := false }, [], .complete)
    | .left => (c, [], .more)
    | .sent => ({ c with output := false }, [], .more)
  else if c.reading then c.read restarting input
  else
    match c.request.status with
    | .write => c.get input
    | .pipeRead => ({ c.mark input.pipe.1 with output := input.printed }, [], input.pipe.2)
    | .done =>
      if c.output then
        match input.flush with
        | .blocked => (c, [], .blocked)
        | .failed => ({ c.mark .dead with output := false }, [], .complete)
        | .left => (c, [], .more)
        | .sent => ({ c with output := false }, [], .complete)
      else (c, [], .complete)
    | .dead => ({ c with output := false }, [], .complete)

/-- The `switch` of `process_requests` over `retval`. -/
def Client.turn (restarting : Bool) (input : Input) (c : Client) : List Client × List Op :=
  let (c, ops, retval) := c.serve restarting input
  match if input.late then .complete else retval with
  | .blocked => ([{ c with place := .block }], ops)
  | .complete =>
    let (clients, freed) := c.free input.again
    (clients, ops ++ freed)
  | .more => ([c], ops)
  | .insert => ([{ c with place := .thread }], ops)

/-- `fdset_update`, for one blocked request. -/
def Client.wake (timedOut selected : Bool) (c : Client) : Client :=
  let c := if timedOut then c.mark .dead else c
  if selected ∨ c.request.status = .dead then { c with place := .ready } else c

/-- `rtsp_o_http_get_return_req` and the `enqueue` after it. -/
def Client.giveBack (c : Client) : Client := { c.mark .done with output := false, place := .ready }

/-- A step of the main loop, or a signal. -/
inductive LoopAction where
  | sigusr1
  | sigusr2
  | head (elapsed : Bool) (again : Nat → Bool)
  | accept (full : Bool)
  | wake (i : Nat) (timedOut selected : Bool)
  | turn (i : Nat) (input : Input)
  | giveBack (i : Nat)

namespace MainLoop

/-- One request takes a step. -/
def update (s : MainLoop) (i : Nat) (place : Place) (outcome : Client → List Client × List Op) :
    MainLoop × List Op :=
  match s.clients[i]? with
  | none => (s, [])
  | some c =>
    if c.place = place then
      let (clients, ops) := outcome c
      ({ s with clients := s.clients.take i ++ clients ++ s.clients.drop (i + 1) }, ops)
    else (s, [])

/-- The head of a pass: the three steps of a restart. -/
def head (elapsed : Bool) (again : Nat → Bool) (s : MainLoop) : MainLoop × List Op :=
  if s.avStreamPending = 1 then
    let outcomes := s.clients.mapIdx fun i c => c.detach (again i)
    (⟨outcomes.flatMap Prod.fst, 2, false⟩, outcomes.flatMap Prod.snd)
  else if s.avStreamPending = 2 then
    (if elapsed then { s with avStreamPending := -1 } else s, [])
  else if s.avStreamPending = -1 then ({ s with avStreamPending := 0, attached := true }, [])
  else (s, [])

/-- One step. -/
def step (s : MainLoop) : LoopAction → MainLoop × List Op
  | .sigusr1 => ({ s with avStreamPending := 1 }, [])
  | .sigusr2 => ({ s with avStreamPending := -1 }, [])
  | .head elapsed again => s.head elapsed again
  | .accept full =>
    let c := Client.fresh .ready
    ({ s with clients := (if full then { c.mark .done with output := true } else c) :: s.clients },
      [])
  | .wake i timedOut selected => s.update i .block fun c => ([c.wake timedOut selected], [])
  | .turn i input => s.update i .ready (Client.turn (s.avStreamPending != 0) input)
  | .giveBack i => s.update i .thread fun c => ([c.giveBack], [])

/-- The state after one step. -/
def next (s : MainLoop) (action : LoopAction) : MainLoop := (s.step action).1

end MainLoop

end BoaIpcam.Blocks
