import BoaIpcam.Relay.CgiHeader

/-!
# The relay of a script's or a file's bytes

`pipe.c` reads what a script or a large file gives into the buffer and writes it to the client, and
`process_get` writes a mapped file. A turn of the main loop flushes the buffer or does one of these
steps; the pipe and the socket answer it.
-/
namespace BoaIpcam.Relay

open Cells

/-! ## The pipe -/

/-- What `read` does on the pipe. It is ready when the writer has left bytes or has closed its end;
it gives at least one byte then, and at most as many as are asked for. -/
inductive Pipe
  | ready (more : ℕ)
  | wouldBlock
  | interrupted
  | failed
deriving DecidableEq, Repr

/-- The system's answers to a turn. -/
structure Answers where
  /-- What the pipe gives. -/
  pipe : Pipe
  /-- What the socket takes. -/
  socket : Written
deriving DecidableEq, Repr

/-- A request with what its writer has not been read of yet, and what the client got. -/
structure Exchange where
  /-- The request. -/
  req : Request
  /-- What was not read yet. -/
  rest : List UInt8
  /-- What the client got. -/
  sent : List UInt8
  /-- Whether the request is freed. -/
  freed : Bool

/-- `read_from_pipe`: the request, the bytes left in the pipe, the bytes the socket took and the
return value. -/
def readFromPipe (info : Info) (answers : Answers) (r : Request) (rest : List UInt8) :
    Request × List UInt8 × List UInt8 × ℤ :=
  let bytesToRead := bufferSize - r.headerEnd
  if bytesToRead = 0 then
    if r.cgiStatus = .parse then
      let r := { r with cgiStatus := .buffer, buffer := put r.buffer r.headerEnd [0] }
      let header := processCgiHeader info answers.socket r
      (header.1, rest, header.2)
    else ({ r with status := .pipeWrite }, rest, [], 1)
  else match answers.pipe with
    | .interrupted => (r, rest, [], 1)
    | .wouldBlock => (r, rest, [], -1)
    | .failed => ({ r with status := .dead }, rest, [], 0)
    | .ready more =>
      if rest = [] then
        let r := { r with status := .pipeWrite }
        if r.cgiStatus = .parse then
          let r := { r with cgiStatus := .done, buffer := put r.buffer r.headerEnd [0] }
          let header := processCgiHeader info answers.socket r
          (header.1, rest, header.2)
        else ({ r with cgiStatus := .done }, rest, [], 1)
      else
        let bytes := rest.take (min (more + 1) bytesToRead)
        ({ r with
          buffer := put r.buffer r.headerEnd bytes
          headerEnd := r.headerEnd + bytes.length }, rest.drop bytes.length, [], 1)

/-- `write_from_pipe`. -/
def writeFromPipe (info : Info) (answers : Answers) (r : Request) :
    Request × List UInt8 × ℤ :=
  if r.headerEnd - r.headerLine = 0 then
    if r.cgiStatus = .done then (r, [], 0)
    else ({ r with status := .pipeRead, headerEnd := 0, headerLine := 0 }, [], 1)
  else match answers.socket with
    | .wouldBlock => (r, [], -1)
    | .interrupted => (r, [], 1)
    | .failed =>
      -- a dead request writes and sends nothing of the page
      let page := sendError info answers.socket { r with status := .dead }
      (page.1, page.2, 0)
    | .took amount =>
      let sent := (slice r.buffer r.headerLine r.headerEnd).take amount
      ({ r with
        headerLine := r.headerLine + sent.length
        filepos := r.filepos + sent.length }, sent, 1)

/-- `SOCKETBUF_SIZE`. -/
def socketbufSize : ℕ := 8192

/-- `process_get` of a mapped file. -/
def processGet (answers : Answers) (r : Request) : Request × List UInt8 × ℤ :=
  let bytesToWrite := min (r.filesize - r.filepos) socketbufSize
  match answers.socket with
  | .wouldBlock => (r, [], -1)
  | .took amount =>
    let sent := ((r.dataMem.drop r.filepos).take bytesToWrite).take amount
    let r := { r with filepos := r.filepos + sent.length }
    (r, sent, if r.filepos = r.filesize then 0 else 1)
  | _ => ({ r with status := .dead }, [], 0)

/-! ## The main loop -/

/-- `free_request`, which leaves a request whose buffer is not empty. -/
def freeRequest (s : Exchange) : Exchange :=
  if s.req.bufferEnd ≠ 0 ∧ s.req.status ≠ .dead then
    { s with req := { s.req with status := .done } }
  else { s with freed := true }

/-- The first `switch` of `process_requests`, with the flush before it. -/
def handle (info : Info) (answers : Answers) (r : Request) (rest : List UInt8) :
    Request × List UInt8 × List UInt8 × ℤ :=
  if r.bufferEnd ≠ 0 ∧ r.status ≠ .dead ∧ r.status ≠ .done then
    let flushed := reqFlush answers.socket r
    if flushed.2.2 = -2 then ({ flushed.1 with status := .dead }, rest, flushed.2.1, 0)
    else (flushed.1, rest, flushed.2.1, if 0 ≤ flushed.2.2 then 1 else flushed.2.2)
  else match r.status with
    | .write =>
      let got := processGet answers r
      (got.1, rest, got.2)
    | .pipeRead => readFromPipe info answers r rest
    | .pipeWrite =>
      let wrote := writeFromPipe info answers r
      (wrote.1, rest, wrote.2)
    | .done =>
      let flushed := reqFlush answers.socket r
      if flushed.2.2 = -2 then ({ flushed.1 with status := .dead }, rest, flushed.2.1, 0)
      else (flushed.1, rest, flushed.2.1, if 0 < flushed.2.2 then 1 else flushed.2.2)
    | .dead => (squashKa { r with bufferEnd := 0 }, rest, [], 0)

/-- A turn of the main loop for a request. A request that waits comes back for another turn. -/
def turn (info : Info) (s : Exchange) (answers : Answers) : Exchange :=
  if s.freed then s
  else
    let handled := handle info answers s.req s.rest
    let next : Exchange := ⟨handled.1, handled.2.1, s.sent ++ handled.2.2.1, false⟩
    if handled.2.2.2 = 0 then freeRequest next else next

/-- Some turns. -/
def turns (info : Info) (s : Exchange) (answers : List Answers) : Exchange :=
  answers.foldl (turn info) s

/-! ## The start -/

/-- `MAX_FILE_MMAP`. -/
def maxFileMmap : ℕ := 100 * 1024

/-- An error page. The address in it has at most 1024 characters, so that the page fits. -/
structure ErrorPage where
  /-- Its status. -/
  code : ℕ
  /-- Its status line. -/
  line : List UInt8
  /-- Its body, with the escaped address. -/
  body : List UInt8
  /-- The page fits the buffer. -/
  short : line.length + body.length + 124 ≤ bufferSize

/-- `init_get` of a file that is there, is not parsed and has changed since the client's copy: the
request, what the pipe gives, the bytes the socket took and the return value. Where `find_mmap`
returns NULL there is the page that `errno` gets. The memory does not give `SIGBUS`. -/
def initGet (info : Info) (written : Written) (content : List UInt8) (unmapped : Option ErrorPage)
    (r : Request) : Request × List UInt8 × List UInt8 × ℤ :=
  let r := { r with status := .write, filesize := content.length }
  if r.method = .head ∨ r.filesize = 0 then (sendRequestOk info r, [], [], 0)
  else if r.filesize > maxFileMmap then
    let r := { sendRequestOk info r with status := .pipeRead, cgiStatus := .buffer }
    let flushed := reqFlush written r
    ({ flushed.1 with headerLine := 0, headerEnd := 0 }, content, flushed.2.1, 1)
  else
    match unmapped with
    | some page =>
      let sent := sendErrorPage page.code page.line page.body info written { r with bufferEnd := 0 }
      (sent.1, [], sent.2, 0)
    | none =>
      let r := sendRequestOk info { r with dataMem := content }
      if 0 < bufferSize - r.bufferEnd then
        let bytes := min (bufferSize - r.bufferEnd) r.filesize
        let r := { r with
          buffer := put r.buffer r.bufferEnd (r.dataMem.take bytes)
          bufferEnd := r.bufferEnd + bytes
          filepos := r.filepos + bytes }
        if r.filesize = r.filepos then
          let flushed := reqFlush written r
          ({ flushed.1 with status := .done }, [], flushed.2.1, 1)
        else (r, [], [], 1)
      else (r, [], [], 1)

/-- A request for a file after `process_header_end`. -/
def fileStart (info : Info) (written : Written) (content : List UInt8) (unmapped : Option ErrorPage)
    (r : Request) : Exchange :=
  let got := initGet info written content unmapped r
  let next : Exchange := ⟨got.1, got.2.1, got.2.2.1, false⟩
  if got.2.2.2 = 0 then freeRequest next else next

/-- A request for a script after `init_cgi`, whose process writes the output to the pipe. -/
def cgiStart (output : List UInt8) (r : Request) : Exchange :=
  ⟨{ squashKa r with
      status := .pipeRead
      cgiStatus := .parse
      headerLine := bufferSize / 2
      headerEnd := bufferSize / 2
      filepos := 0 }, output, [], false⟩

end BoaIpcam.Relay
