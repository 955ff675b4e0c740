import BoaIpcam.Intake.Options
import BoaIpcam.Tunnel.Receive
import BoaIpcam.Uri.Logline

/-!
# The requests of a connection

`read_header` of `read.c` reads a connection into `client_stream`, cuts the header into lines and
hands them to `process_logline` and `process_option_line`; at the empty line it calls
`process_header_end`. The body of a POST is copied to a file piece by piece, and the script is
started when the file is complete. A connection that is kept alive starts over with the bytes that
have been read but not parsed.

What `process_header_end` and the answer do is an input of each turn. `client_stream` is the list of
the bytes that have been read.
-/
namespace BoaIpcam.Intake

/-! ## The header -/

/-- A request whose header is read. `headerLine` and `headerEnd` are positions in
`client_stream`. -/
structure Incoming where
  /-- How the bytes so far end. -/
  status : HeaderStatus
  /-- The bytes that were received. -/
  clientStream : List UInt8
  /-- The next byte. -/
  parsePos : ℕ
  /-- The start of the line. -/
  headerLine : ℕ
  /-- Its end. -/
  headerEnd : ℕ
  /-- The first line, when it has ended. -/
  logline : Option Logline
  /-- What the other lines have set. -/
  fields : Fields
deriving DecidableEq

/-- `new_request`, with the bytes that were moved to it. -/
def Incoming.new (clientStream : List UInt8) : Incoming :=
  ⟨.readHeader, clientStream, 0, 0, 0, none, .new⟩

/-- The first part of the loop of `read_header`: the `switch` and the next position. -/
def Incoming.check (r : Incoming) (c : UInt8) : Incoming :=
  { r with
    status := r.status.next c
    headerEnd := if r.status = .readHeader ∧ (c = 13 ∨ c = 10) then r.parsePos else r.headerEnd
    parsePos := r.parsePos + 1 }

/-- The string at `header_line` after its end was overwritten. -/
def Incoming.line (r : Incoming) : List UInt8 :=
  (r.clientStream.drop r.headerLine).takeWhile (· ≠ 0)

/-- How the loop of `read_header` goes on or ends: all bytes are parsed, a line is refused with or
without a page, or `process_header_end` is called. -/
inductive Parsed
  | more
  | refused
  | dropped
  | ended
deriving DecidableEq, Repr

/-- A later line was handed to `process_option_line`. -/
def Incoming.endOption (r : Incoming) : Option Fields → Incoming × Parsed
  | none => (r, .dropped)
  | some fields => ({ r with fields, headerLine := r.parsePos }, .more)

/-- The first line was handed to `process_logline`. -/
def Incoming.endFirst (r : Incoming) (logline : Logline) : Incoming × Parsed :=
  let r := { r with logline := some logline }
  if logline.answer ≠ .accepted then (r, .refused)
  else if logline.simple then (r, .ended)
  else ({ r with headerLine := r.parsePos }, .more)

/-- The second part of the loop: a line has ended. -/
def Incoming.endLine (kaMax : ℕ) (r : Incoming) : Incoming × Parsed :=
  let r := { r with clientStream := r.clientStream.set r.headerEnd 0 }
  if r.logline.isSome then r.endOption (processOptionLine kaMax r.line r.fields)
  else r.endFirst (processLogline r.clientStream)

/-- The loop of `read_header` over some more bytes of `client_stream`. -/
def Incoming.parse (kaMax : ℕ) : ℕ → Incoming → Incoming × Parsed
  | 0, r => (r, .more)
  | count + 1, r =>
    let r := r.check (r.clientStream.getD r.parsePos 0)
    if r.status = .oneLf then
      let next := r.endLine kaMax
      if next.2 = .more then next.1.parse kaMax count else next
    else if r.status = .bodyRead then (r, .ended)
    else r.parse kaMax count

/-- `boa_atoi`. -/
def boaAtoi (s : List UInt8) : ℤ :=
  if s.head?.any isDigit then
    let retval := atoi s
    if retval < 0 then -1
    else if s <+: decimal retval.toNat then retval
    else -1
  else -1

/-! ## The body -/

/-- A POST whose body is read. The bytes from `header_line` to `header_end` stand at a position of
`client_stream` first and of `buffer` then; `stored` is the file `post_data_fd`. -/
structure Upload where
  /-- Whether the next step reads from the client. -/
  reading : Bool
  /-- Where the bytes stand. -/
  start : ℕ
  /-- The bytes that are not stored yet. -/
  chunk : List UInt8
  /-- The size that the header announces. -/
  filesize : ℕ
  /-- How much of it was stored. -/
  filepos : ℕ
  /-- What was stored. -/
  stored : List UInt8
deriving DecidableEq, Repr

/-- What a request is doing. -/
inductive Phase
  /-- Its header is read. -/
  | header
  /-- Its body is read. -/
  | body (upload : Upload)
  /-- Its script is started with the file, and what remains is to answer. -/
  | script (stored : List UInt8)
  /-- It is answered. -/
  | answered
  /-- The rest of the connection is read by somebody else (RTSP over HTTP, a script that reads the
  socket). -/
  | away
  /-- The connection is closed. -/
  | closed
deriving DecidableEq, Repr

/-- The input lines of the configuration. -/
structure Config where
  /-- `ka_max`, how many requests a connection is kept for. -/
  kaMax : ℕ
  /-- `single_post_limit`, the greatest body. -/
  singlePostLimit : ℕ

/-- A header that is handed to `process_header_end`. -/
structure Head where
  /-- The first line. -/
  logline : Logline
  /-- What the other lines set. -/
  fields : Fields
deriving DecidableEq

/-- A connection: what the client has still to send, the request, what it is doing, `kacount`, and
the headers that were handed to `process_header_end`. -/
structure Connection where
  /-- What the client has still to send. -/
  incoming : List UInt8
  /-- The request. -/
  req : Incoming
  /-- What it is doing. -/
  phase : Phase
  /-- How many requests may still come. -/
  kacount : ℕ
  /-- The headers that were handed over. -/
  heads : List Head

/-- What `read` of the socket does: it gives some bytes, at least one, of those that are there. A
connection that the client has closed or that is broken gives no more. -/
inductive Input
  | ready (more : ℕ)
  | wouldBlock
  | interrupted
  | ended
deriving DecidableEq, Repr

/-- What `process_header_end` does: it returns zero, or a request is begun, or the connection is left
to somebody else. -/
inductive Verdict
  | refused
  | begun
  | elsewhere
deriving DecidableEq, Repr

/-- What happens to a connection: a turn of the main loop with what the socket, `process_header_end`
and the file do, the end of the answer, and a time-out of `select.c`. The answer may give up the
connection. -/
inductive Event
  | turn (input : Input) (verdict : Verdict) (file : Relay.Written)
  | finished (keeps : Bool)
  | timedOut
deriving DecidableEq, Repr

/-- The end of `free_request`. -/
def Connection.free (c : Connection) (keeps : Bool) : Connection :=
  if keeps ∧ c.req.fields.keepalive = .active ∧ 0 < c.kacount then
    { c with
      req := Incoming.new (c.req.clientStream.drop c.req.parsePos)
      phase := .header
      kacount := c.kacount - 1 }
  else { c with phase := .closed }

/-- A page that gives up the connection, as `SQUASH_KA` does. -/
def Connection.page (c : Connection) (phase : Phase) : Connection :=
  { c with phase, req := { c.req with fields := { c.req.fields with keepalive := .stopped } } }

/-- The part of `read_header` behind the header of a POST. -/
def Connection.startBody (config : Config) (c : Connection) : Connection :=
  match c.req.fields.contentLength with
  | none => c.page .answered
  | some text =>
    let contentLength := boaAtoi text
    if contentLength ≤ 0 then c.page .answered
    else if config.singlePostLimit ≠ 0 ∧ (config.singlePostLimit : ℤ) < contentLength then
      c.page .answered
    else
      let upload : Upload :=
        { reading := false
          start := c.req.parsePos
          chunk := (c.req.clientStream.drop c.req.parsePos).take contentLength.toNat
          filesize := contentLength.toNat
          filepos := 0
          stored := [] }
      { c with phase := .body upload }

/-- `read_header` when the header is complete. After a POST of HTTP/0.9 it goes on to read a header,
and calls `process_header_end` once more at the end of it. -/
def Connection.headerEnds (config : Config) (verdict : Verdict) (c : Connection)
    (logline : Logline) : Connection :=
  let head : Head := ⟨logline, c.req.fields⟩
  let c := { c with heads := c.heads ++ [head] }
  match verdict with
  | .refused => { c with phase := .answered }
  | .elsewhere => { c with phase := .away }
  | .begun =>
    if logline.method = some .post then
      if logline.simple then c else c.startBody config
    else { c with phase := .answered }

/-- `read_header`. When `client_stream` is full the request is freed as others are, so what follows
on a connection that is kept alive is read as a new request. -/
def Connection.readHeader (config : Config) (input : Input) (verdict : Verdict)
    (c : Connection) : Connection :=
  let parsed := c.req.parse config.kaMax (c.req.clientStream.length - c.req.parsePos)
  let c := { c with req := parsed.1 }
  match parsed.2, c.req.logline with
  | .ended, some logline => c.headerEnds config verdict logline
  | .ended, none => { c with phase := .answered }
  | .refused, _ => c.page .answered
  | .dropped, _ => c.free true
  | .more, _ =>
    let bufBytesLeft := clientStreamSize - c.req.clientStream.length
    if bufBytesLeft < 1 then c.free true
    else match input with
      | .ready more =>
        let bytes := c.incoming.take (min (more + 1) bufBytesLeft)
        { c with
          req := { c.req with clientStream := c.req.clientStream ++ bytes }
          incoming := c.incoming.drop bytes.length }
      | .ended => { c with phase := .closed }
      | _ => c

/-- `read_body`. A read that is interrupted ends the request. -/
def Connection.readBody (input : Input) (upload : Upload) (c : Connection) : Connection :=
  let bytesFree := bufferSize - upload.chunk.length
  let bytesToRead := min (upload.filesize - upload.filepos) bytesFree
  if bytesToRead = 0 then { c with phase := .body { upload with reading := false } }
  else match input with
    | .ready more =>
      let bytes := c.incoming.take (min (more + 1) bytesToRead)
      if bytes = [] then c
      else { c with
        phase := .body { upload with reading := false, chunk := upload.chunk ++ bytes }
        incoming := c.incoming.drop bytes.length }
    | .wouldBlock => c
    | _ => c.page .answered

/-- `write_body`. -/
def Connection.writeBody (file : Relay.Written) (upload : Upload) (c : Connection) : Connection :=
  let bytesToWrite := min upload.chunk.length (upload.filesize - upload.filepos)
  if bytesToWrite = 0 then
    if upload.filesize ≤ upload.filepos then c.page (.script upload.stored)
    else { c with phase := .body { upload with reading := true, start := 0, chunk := [] } }
  else match file with
    | .took amount =>
      let written := (upload.chunk.take bytesToWrite).take amount
      let upload := { upload with
        start := upload.start + written.length
        chunk := upload.chunk.drop written.length
        filepos := upload.filepos + written.length
        stored := upload.stored ++ written }
      { c with phase := .body upload }
    | .failed => c.page .answered
    | _ => c

/-- An event of a connection. -/
def Connection.next (config : Config) (c : Connection) (event : Event) : Connection :=
  match c.phase, event with
  | .closed, _ => c
  | .away, _ => c
  | _, .timedOut => { c with phase := .closed }
  | .header, .turn input verdict _ => c.readHeader config input verdict
  | .body upload, .turn input _ file =>
    if upload.reading then c.readBody input upload else c.writeBody file upload
  | .script _, .finished keeps => c.free keeps
  | .answered, .finished keeps => c.free keeps
  | _, _ => c

/-- A turn that finds `client_stream` full before the header has ended, or that begins a POST of
HTTP/0.9. -/
def Connection.strays (config : Config) (c : Connection) : Event → Bool
  | .turn _ verdict _ =>
    let parsed := c.req.parse config.kaMax (c.req.clientStream.length - c.req.parsePos)
    let full := parsed.2 = .more ∧ clientStreamSize ≤ parsed.1.clientStream.length
    let simplePost := parsed.2 = .ended ∧ verdict = .begun ∧
      parsed.1.logline.any fun logline => logline.method = some .post ∧ logline.simple
    c.phase = .header ∧ (full ∨ simplePost)
  | _ => false

/-- No turn of some events strays. -/
def Connection.neverStrays (config : Config) : Connection → List Event → Bool
  | _, [] => true
  | c, event :: events => !c.strays config event && (c.next config event).neverStrays config events

/-- Some events. -/
def Connection.run (config : Config) (c : Connection) (events : List Event) : Connection :=
  events.foldl (Connection.next config) c

/-- A connection that was accepted. -/
def Connection.accepted (config : Config) (stream : List UInt8) : Connection :=
  ⟨stream, .new [], .header, config.kaMax, []⟩

end BoaIpcam.Intake
