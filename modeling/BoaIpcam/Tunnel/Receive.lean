import BoaIpcam.Base64
import BoaIpcam.Lib.Frames
import BoaIpcam.Lib.Run

/-!
# RTSP over HTTP, the direction from the client

The client sends RTSP requests as the base64 text in the body of a POST. `read_header` reads the
header and moves what it has read of the body to the front of `client_stream`; the thread of
`rtsp_o_http.c` reads the rest, and `incomingRequestHandler1` decodes what is there into `buffer`
and dispatches each text up to an empty line.

`parse_pos` is zero after `read_header`, and the handler resets it, so `client_stream` holds
only text that has not been decoded. What `parseRTSPRequestString` and the handlers of the
commands do to the session is the parameter `respond`; it says whether `fSessionIsActive` is
still true. The socket to the client stays open.
-/
namespace BoaIpcam

open Frames

/-- `CLIENT_STREAM_SIZE`. -/
def clientStreamSize : Nat := 8192

/-- `BUFFER_SIZE`. -/
def bufferSize : Nat := clientStreamSize

/-- `RTSP_BUFFER_SIZE`, the size of `fRequestBuffer`. -/
def rtspBufferSize : Nat := 10000

/-! ## The header -/

/-- The states of `read_header`. -/
inductive HeaderStatus where
  | readHeader
  | oneCr
  | oneLf
  | twoCr
  | bodyRead
deriving DecidableEq, Repr

/-- The `switch` of `read_header`. -/
def HeaderStatus.next : HeaderStatus → UInt8 → HeaderStatus
  | .readHeader, c => if c = 13 then .oneCr else if c = 10 then .oneLf else .readHeader
  | .oneCr, c => if c = 10 then .oneLf else if c ≠ 13 then .readHeader else .oneCr
  | .oneLf, c => if c = 13 then .twoCr else if c = 10 then .bodyRead else .readHeader
  | .twoCr, c => if c = 10 then .bodyRead else if c ≠ 13 then .readHeader else .twoCr
  | .bodyRead, _ => .bodyRead

/-- The loop of `read_header` over the bytes that are there, and what it leaves of them. The
lines of the header are accepted by `process_logline` and `process_option_line`. -/
def readHeader : HeaderStatus → List UInt8 → HeaderStatus × List UInt8
  | status, [] => (status, [])
  | .bodyRead, rest => (.bodyRead, rest)
  | status, c :: rest => readHeader (status.next c) rest

/-! ## The session -/

/-- The session and what it has been given: `fSessionIsActive`, and the texts dispatched to
`parseRTSPRequestString`. -/
structure Dialogue (σ : Type) where
  /-- The session. -/
  session : σ
  /-- `fSessionIsActive`. -/
  active : Bool
  /-- The texts that were dispatched. -/
  dispatched : List (List UInt8)

namespace Dialogue

variable {σ : Type}

/-- Dispatch a text. -/
def say (respond : σ → List UInt8 → σ × Bool) (dialogue : Dialogue σ) (text : List UInt8) :
    Dialogue σ :=
  ⟨(respond dialogue.session text).1, (respond dialogue.session text).2,
    dialogue.dispatched ++ [text]⟩

/-- Dispatch texts as long as the session is active. -/
def sayAll (respond : σ → List UInt8 → σ × Bool) (dialogue : Dialogue σ) :
    List (List UInt8) → Dialogue σ
  | [] => dialogue
  | text :: texts => if dialogue.active then (dialogue.say respond text).sayAll respond texts
      else dialogue

end Dialogue

/-! ## The handler -/

/-- The marker between two requests. -/
def emptyLine : List UInt8 := [13, 10, 13, 10]

/-- The variables of `incomingRequestHandler1`. The bytes are `buffer[0..buffer_end)`, and
`requestBuffer` is the text in `fRequestBuffer`, from an earlier round when `bytesRead` is. -/
structure Handler (σ : Type) where
  /-- The bytes. -/
  buffer : List UInt8
  /-- `buffer_start`. -/
  bufferStart : Nat
  /-- How much of a request was read before. -/
  bytesRead : Nat
  /-- The text in `fRequestBuffer`. -/
  requestBuffer : List UInt8
  /-- What the session was given. -/
  dialogue : Dialogue σ

namespace Handler

variable {σ : Type}

/-- The bytes that have not been dispatched. -/
def rest (h : Handler σ) : List UInt8 := h.buffer.drop h.bufferStart

/-- The empty line was found: the text up to it is copied and leaves the buffer. -/
def take (h : Handler σ) (i : Nat) : Handler σ :=
  { h with
    bytesRead := i + 4
    requestBuffer := h.rest.take (i + 4)
    buffer := if h.buffer.length ≤ h.bufferStart + (i + 4) then [] else h.buffer
    bufferStart := if h.buffer.length ≤ h.bufferStart + (i + 4) then 0 else h.bufferStart + (i + 4) }

/-- The body of the loop after the scan. -/
def dispatch (respond : σ → List UInt8 → σ × Bool) (h : Handler σ) : Handler σ :=
  if h.bytesRead ≠ 0 ∧ h.bytesRead < rtspBufferSize then
    { h with dialogue := h.dialogue.say respond h.requestBuffer }
  else h

/-- The condition of the loop. -/
def Goes (h : Handler σ) : Prop := h.dialogue.active = true ∧ h.bufferStart < h.buffer.length

instance (h : Handler σ) : Decidable h.Goes := inferInstanceAs (Decidable (_ ∧ _))

/-- The loop, for at most the given number of rounds. When fewer than four bytes are left the scan
is skipped, and a text that was dispatched before is dispatched again. -/
def loop (respond : σ → List UInt8 → σ × Bool) : Nat → Handler σ → Option (Handler σ)
  | 0, _ => none
  | rounds + 1, h =>
    if h.buffer.length < h.bufferStart + 4 then
      let h := h.dispatch respond
      if h.Goes then h.loop respond rounds else some h
    else
      match find emptyLine h.rest with
      | none => some h
      | some i =>
        let h := (h.take i).dispatch respond
        if h.Goes then h.loop respond rounds else some h

end Handler

/-! ## The request -/

/-- The POST, as far as the tunnel is concerned. In `client_stream` there are the bytes of a header
that has not ended, or the text of the body that has not been decoded. The last two fields are
all bytes that were read and all text that was decoded. -/
structure Post (σ : Type) where
  /-- The state of the header. -/
  status : HeaderStatus
  /-- The bytes of a header that has not ended. -/
  headerBytes : Nat
  /-- The text that was not decoded. -/
  stream : List UInt8
  /-- What was decoded. -/
  buffer : List UInt8
  /-- `buffer_start`. -/
  bufferStart : Nat
  /-- What the session was given. -/
  dialogue : Dialogue σ
  /-- All bytes that were read. -/
  received : List UInt8
  /-- All text that was decoded. -/
  taken : List UInt8

namespace Post

variable {σ : Type}

/-- A new request. -/
def fresh (session : σ) : Post σ := ⟨.readHeader, 0, [], [], 0, ⟨session, true, []⟩, [], []⟩

/-- `client_stream_pos`. -/
def clientStreamPos (post : Post σ) : Nat := post.headerBytes + post.stream.length

/-- A read that returns these bytes, which fit into `client_stream`, and `read_header` after it
as long as the header has not ended. -/
def read (post : Post σ) (bytes : List UInt8) : Option (Post σ) :=
  if bytes = [] ∨ clientStreamSize < post.clientStreamPos + bytes.length then none
  else if post.status = .bodyRead then
    some { post with stream := post.stream ++ bytes, received := post.received ++ bytes }
  else
    match readHeader post.status bytes with
    | (.bodyRead, left) => some { post with
        status := .bodyRead, headerBytes := 0, stream := left, buffer := [], bufferStart := 0
        received := post.received ++ bytes }
    | (status, _) => some { post with
        status, headerBytes := post.headerBytes + bytes.length
        received := post.received ++ bytes }

/-- `update_record` calls the handler: there is text, and the session has not been closed. -/
def Called (post : Post σ) : Prop :=
  post.status = .bodyRead ∧ post.stream ≠ [] ∧ post.dialogue.active = true

instance (post : Post σ) : Decidable post.Called := inferInstanceAs (Decidable (_ ∧ _ ∧ _))

/-- The string in `client_stream`. -/
def text (post : Post σ) : List UInt8 := post.stream.takeWhile (· ≠ 0)

/-- `buffer[0..buffer_end)` after `base64decode`: its return value minus one is added to
`buffer_end`. -/
def decoded (post : Post σ) : List UInt8 :=
  (post.buffer ++ base64decode post.text (bufferSize - post.buffer.length)).dropLast

/-- The variables when the handler starts its loop. -/
def entry (post : Post σ) : Handler σ := ⟨post.decoded, post.bufferStart, 0, [], post.dialogue⟩

/-- The POST when the handler returns. A session that is no longer active is closed. -/
def finish (post : Post σ) (h : Handler σ) : Post σ :=
  { post with
    stream := []
    buffer := h.buffer
    bufferStart := h.bufferStart
    dialogue := { h.dialogue with active := h.dialogue.active && h.bytesRead < rtspBufferSize }
    taken := post.taken ++ post.text }

/-- `incomingRequestHandler1`, when it is called and its loop is over within the given number of
rounds. -/
def handle (respond : σ → List UInt8 → σ × Bool) (rounds : Nat) (post : Post σ) :
    Option (Post σ) :=
  if post.Called then (post.entry.loop respond rounds).map post.finish else some post

/-- What happens to the POST: bytes arrive, or the thread looks at it. -/
inductive Act where
  | read (bytes : List UInt8)
  | handle

/-- One action that returns. -/
def Step (respond : σ → List UInt8 → σ × Bool) (post : Post σ) : Act → Post σ → Prop
  | .read bytes, post' => post.read bytes = some post'
  | .handle, post' => ∃ rounds, post.handle respond rounds = some post'

end Post
end BoaIpcam
