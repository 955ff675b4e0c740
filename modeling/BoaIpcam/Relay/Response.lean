import BoaIpcam.Numeral
import BoaIpcam.Lib.Cells

/-!
# The buffer of a request and the responses

`buffer.c` fills the buffer of a request and sends what is in it; `response.c` writes the heads and
the error pages into it. A script's output is read into the same buffer, so the model keeps the
buffer as a memory and every pointer into it as a position.

The time, the type of the file and the like are a parameter, the structure `Info`.
-/
namespace BoaIpcam.Relay

open Cells

/-! ## The request -/

/-- `BUFFER_SIZE`; the buffer has one cell more. -/
def bufferSize : ℕ := 8192

/-- The values of `status` after the header of a request was read. -/
inductive Status
  | write
  | pipeRead
  | pipeWrite
  | done
  | dead
deriving DecidableEq, Repr

/-- `cgi_status`. -/
inductive CgiStatus
  | parse
  | buffer
  | done
deriving DecidableEq, Repr

/-- `method`. -/
inductive Method
  | get
  | head
  | post
deriving DecidableEq, Repr

/-- `keepalive`. -/
inductive Keepalive
  | inactive
  | stopped
  | active
deriving DecidableEq, Repr

/-- A request that is answered. The pointers `header_line` and `header_end` are positions in the
buffer; `dataMem` is the mapped file. -/
structure Request where
  /-- The method. -/
  method : Method
  /-- The request has no version. -/
  simple : Bool
  /-- A script answers it. -/
  isCgi : Bool
  /-- The state of the request. -/
  status : Status
  /-- The state of the script. -/
  cgiStatus : CgiStatus
  /-- Whether the connection is kept. -/
  keepalive : Keepalive
  /-- How many requests may still come. -/
  kacount : ℕ
  /-- The status of the response. -/
  responseStatus : ℕ
  /-- The name for a file that is saved. -/
  exportFile : Option (List UInt8)
  /-- The buffer. -/
  buffer : ℕ → UInt8
  /-- The first byte that waits. -/
  bufferStart : ℕ
  /-- The end of those that wait. -/
  bufferEnd : ℕ
  /-- A position in the buffer. -/
  headerLine : ℕ
  /-- Another one. -/
  headerEnd : ℕ
  /-- The mapped file. -/
  dataMem : List UInt8
  /-- Its size. -/
  filesize : ℕ
  /-- The size of what a page adds. -/
  extraSize : ℕ
  /-- How much of the file was sent. -/
  filepos : ℕ

/-- What `rfc822_time_buf` writes. -/
structure Rfc822Time where
  /-- The text. -/
  text : List UInt8
  /-- Its length is always the same. -/
  length_text : text.length = 29

/-- What the heads take from the rest of the system: the time, the time of the file,
`get_mime_type` of the request's file and `ka_timeout`. -/
structure Info where
  /-- The time. -/
  date : Rfc822Time
  /-- The time of the file. -/
  lastModified : Rfc822Time
  /-- The type of the file. -/
  mimeType : List UInt8
  /-- `ka_timeout`. -/
  kaTimeout : ℕ

/-! ## Writing to the buffer -/

/-- `req_write`. -/
def reqWrite (r : Request) (msg : List UInt8) : Request :=
  if msg.length = 0 ∨ r.status = .dead then r
  else if r.bufferEnd + msg.length > bufferSize then { r with status := .dead }
  else { r with
    buffer := put r.buffer r.bufferEnd msg
    bufferEnd := r.bufferEnd + msg.length }

/-- `req_write` of several texts. -/
def reqWrites (r : Request) (msgs : List (List UInt8)) : Request := msgs.foldl reqWrite r

/-- A C string that is escaped: in the buffer itself, from a position on, or elsewhere. -/
inductive Text
  | inBuffer (position : ℕ)
  | own (bytes : List UInt8)

/-- A byte of a C string. -/
def Text.byte (buffer : ℕ → UInt8) : Text → ℕ → UInt8
  | .inBuffer position, i => buffer (position + i)
  | .own bytes, i => bytes.getD i 0

/-- The characters of `build_needs_escape` that stay as they are. -/
def special : List UInt8 :=
  ascii "ABCDEFGHIJKLMNOPQRSTUVWXYZabcdefghijklmnopqrstuvwxyz0123456789-_.!~*'():@&=+$,/?"

/-- `_needs_escape`, as `build_needs_escape` makes it: the bit of each special character is
cleared. -/
def needsEscapeTable : ℕ → UInt32 :=
  special.foldl (fun table j =>
    Function.update table (j.toNat / 32)
      (table (j.toNat / 32) &&& ~~~((1 : UInt32) <<< (j.toUInt32 % 32))))
    fun _ => 0xFFFFFFFF

/-- `needs_escape`. -/
def needsEscape (c : UInt8) : Bool :=
  128 ≤ c ∨ needsEscapeTable (c.toNat / 32) &&& ((1 : UInt32) <<< (c.toUInt32 % 32)) ≠ 0

/-- `INT_TO_HEX`. -/
def intToHex (x : UInt8) : UInt8 := if 10 ≤ x then 65 + (x - 10) else 48 + x

/-- What `req_write_escape_http` writes for a character; `char` is unsigned on the device. -/
def escapedHttp (c : UInt8) : List UInt8 :=
  if needsEscape c then [37, intToHex (c >>> 4), intToHex (c &&& 15)] else [c]

/-- What `req_write_escape_html` writes for a character. -/
def escapedHtml (c : UInt8) : List UInt8 :=
  if c = 62 then ascii "&gt;"
  else if c = 60 then ascii "&lt;"
  else if c = 38 then ascii "&amp;"
  else if c = 34 then ascii "&quot;"
  else [c]

/-- The loop of `req_write_escape_http` and `req_write_escape_html`: the buffer, `dest` and `left`.
Each turn takes something from `left`, so that it ends. -/
def escapeLoop (escaped : UInt8 → List UInt8) (msg : Text) :
    ℕ → (ℕ → UInt8) → ℕ → ℕ → ℤ → (ℕ → UInt8) × ℕ × ℤ
  | 0, buffer, _, dest, left => (buffer, dest, left)
  | turns + 1, buffer, i, dest, left =>
    if msg.byte buffer i ≠ 0 ∧ 0 < left then
      let out := escaped (msg.byte buffer i)
      escapeLoop escaped msg turns (put buffer dest out) (i + 1) (dest + out.length)
        (left - out.length)
    else (buffer, dest, left)

/-- The two functions that escape, with what they write for a character and their guard band. -/
def reqWriteEscape (escaped : UInt8 → List UInt8) (guard : ℕ) (r : Request) (msg : Text) :
    Request :=
  let left : ℤ := bufferSize - r.bufferEnd - guard
  let out := escapeLoop escaped msg left.toNat r.buffer 0 r.bufferEnd left
  let next := { r with buffer := out.1, bufferEnd := out.2.1 }
  if out.2.2 = 0 then { next with status := .dead } else next

/-- `req_write_escape_http`. -/
def reqWriteEscapeHttp (r : Request) (msg : Text) : Request := reqWriteEscape escapedHttp 3 r msg

/-- `req_write_escape_html`. -/
def reqWriteEscapeHtml (r : Request) (msg : Text) : Request := reqWriteEscape escapedHtml 5 r msg

/-- What `write` or `SSL_write` does: it takes at most as much as it is offered. -/
inductive Written
  | took (amount : ℕ)
  | wouldBlock
  | interrupted
  | failed
deriving DecidableEq, Repr

/-- `req_flush`: the request, the bytes the socket took and the return value. -/
def reqFlush (written : Written) (r : Request) : Request × List UInt8 × ℤ :=
  let settle (r : Request) : Request :=
    if r.bufferStart = r.bufferEnd then { r with bufferStart := 0, bufferEnd := 0 } else r
  if r.status = .dead then (r, [], -2)
  else if r.bufferEnd - r.bufferStart ≠ 0 then
    match written with
    | .wouldBlock => (r, [], -1)
    | .took amount =>
      let sent := (slice r.buffer r.bufferStart r.bufferEnd).take amount
      let next := settle { r with bufferStart := r.bufferStart + sent.length }
      (next, sent, next.bufferEnd)
    | _ => ({ r with bufferStart := 0, bufferEnd := 0, status := .dead }, [], -2)
  else (settle r, [], (settle r).bufferEnd)

/-! ## Heads -/

/-- `SQUASH_KA`. -/
def squashKa (r : Request) : Request := { r with keepalive := .stopped }

/-- The end of a line. -/
def crlf : List UInt8 := [13, 10]

/-- The texts of `print_ka_phrase`. -/
def kaPhrase (info : Info) (r : Request) : List (List UInt8) :=
  if 0 < r.kacount ∧ r.keepalive = .active ∧ r.responseStatus < 500 then
    [ascii "Connection: Keep-Alive\r\nKeep-Alive: timeout=", decimal info.kaTimeout,
      ascii ", max=", decimal r.kacount, crlf]
  else [ascii "Connection: close\r\n"]

/-- The texts of `print_http_headers`. -/
def httpHeaders (info : Info) (r : Request) : List (List UInt8) :=
  (ascii "Date: " ++ info.date.text ++ ascii "\r\nServer: Boa/0.94.13\r\n") :: kaPhrase info r

/-- The texts of `print_content_type`, `print_content_length` and `print_last_modified`, with the
name of an exported file. -/
def fileHeaders (info : Info) (r : Request) : List (List UInt8) :=
  [ascii "Content-Type: ", info.mimeType, crlf] ++
  (match r.exportFile with
    | none => []
    | some name => [ascii "Content-Disposition: attachment; filename=", name, crlf]) ++
  [ascii "Content-Length: ", decimal (r.filesize + r.extraSize), crlf,
    ascii "Last-Modified: " ++ info.lastModified.text ++ crlf, crlf]

/-- `R_REQUEST_OK`, `R_MOVED_TEMP`, `R_BAD_REQUEST`, `R_ERROR` and `R_BAD_GATEWAY`. -/
def rRequestOk : ℕ := 200
def rMovedTemp : ℕ := 302
def rBadRequest : ℕ := 400
def rError : ℕ := 500
def rBadGateway : ℕ := 502

/-- The texts of `send_r_request_ok`. -/
def okTexts (info : Info) (r : Request) : List (List UInt8) :=
  ascii "HTTP/1.1 200 OK\r\n" :: httpHeaders info r ++ if r.isCgi then [] else fileHeaders info r

/-- `send_r_request_ok`. -/
def sendRequestOk (info : Info) (r : Request) : Request :=
  let r := { r with responseStatus := rRequestOk }
  if r.simple then r else reqWrites r (okTexts info r)

/-! ## Pages -/

/-- The line `Content-Type` of a page. -/
def htmlType : List UInt8 := ascii "Content-Type: text/html; charset=ISO-8859-1\r\n"

/-- The texts of an error page: the head, unless the request is of HTTP/0.9, and the body, unless
it is a HEAD. -/
def errorTexts (line body : List UInt8) (info : Info) (r : Request) : List (List UInt8) :=
  (if r.simple then [] else line :: httpHeaders info r ++ [htmlType ++ crlf]) ++
    if r.method = .head then [] else [body]

/-- The functions that send an error page, with their status, status line and body. -/
def sendErrorPage (code : ℕ) (line body : List UInt8) (info : Info) (written : Written)
    (r : Request) : Request × List UInt8 :=
  let r := { squashKa r with responseStatus := code }
  let flushed := reqFlush written (reqWrites r (errorTexts line body info r))
  (flushed.1, flushed.2.1)

/-- The body of `send_r_bad_request`. -/
def badRequestBody : List UInt8 :=
  ascii "<HTML><HEAD><TITLE>400 Bad Request</TITLE></HEAD>\n<BODY><H1>400 Bad Request</H1>\n" ++
  ascii "Your client has issued a malformed or illegal request.\n</BODY></HTML>\n"

/-- `send_r_bad_request`. -/
def sendBadRequest : Info → Written → Request → Request × List UInt8 :=
  sendErrorPage rBadRequest (ascii "HTTP/1.0 400 Bad Request\r\n") badRequestBody

/-- The body of `send_r_error`. -/
def errorBody : List UInt8 :=
  ascii "<HTML><HEAD><TITLE>500 Server Error</TITLE></HEAD>\n<BODY><H1>500 Server Error</H1>\n" ++
  ascii "The server encountered an internal error and could not complete your request.\n" ++
  ascii "</BODY></HTML>\n"

/-- `send_r_error`. -/
def sendError : Info → Written → Request → Request × List UInt8 :=
  sendErrorPage rError (ascii "HTTP/1.0 500 Server Error\r\n") errorBody

/-- The body of `send_r_bad_gateway`. -/
def badGatewayBody : List UInt8 :=
  ascii "<HTML><HEAD><TITLE>502 Bad Gateway</TITLE></HEAD>\n<BODY><H1>502 Bad Gateway</H1>\n" ++
  ascii "The CGI was not CGI/1.1 compliant.\n</BODY></HTML>\n"

/-- `send_r_bad_gateway`. -/
def sendBadGateway : Info → Written → Request → Request × List UInt8 :=
  sendErrorPage rBadGateway (ascii "HTTP/1.0 502 Bad Gateway\r\n") badGatewayBody

/-- The bytes of a C string in the buffer. -/
def cstr (buffer : ℕ → UInt8) (position : ℕ) : List UInt8 :=
  (slice buffer position (bufferSize + 1)).takeWhile (· ≠ 0)

/-- The texts of the page `302 Moved Temporarily` around the address. -/
def movedFront : List UInt8 :=
  ascii "<HTML><HEAD><TITLE>302 Moved Temporarily</TITLE></HEAD>\n<BODY>\n<H1>302 Moved</H1>" ++
  ascii "The document has moved\n<A HREF=\""
def movedBack : List UInt8 := ascii "\">here</A>.\n</BODY></HTML>\n"

/-- The header lines of the script after the address; none is the empty text. -/
def writeMore (moreHdr : Option ℕ) (r : Request) : Request :=
  match moreHdr with
  | none => r
  | some position => reqWrite r (cstr r.buffer position)

/-- The head of the page of `send_r_moved_temp`. -/
def writeMovedHead (info : Info) (url : ℕ) (moreHdr : Option ℕ) (r : Request) : Request :=
  if r.simple then r
  else
    let r := reqWrites r (ascii "HTTP/1.0 302 Moved Temporarily\r\n" :: httpHeaders info r ++
      [htmlType, ascii "Location: "])
    let r := reqWriteEscapeHttp r (.inBuffer url)
    let r := writeMore moreHdr (reqWrite r crlf)
    reqWrite r (crlf ++ crlf)

/-- The body of the page of `send_r_moved_temp`. -/
def writeMovedBody (url : ℕ) (r : Request) : Request :=
  if r.method = .head then r
  else reqWrite (reqWriteEscapeHtml (reqWrite r movedFront) (.inBuffer url)) movedBack

/-- `send_r_moved_temp`. The address and the other lines are in the buffer. -/
def sendMovedTemp (info : Info) (written : Written) (url : ℕ) (moreHdr : Option ℕ) (r : Request) :
    Request × List UInt8 :=
  let r := { squashKa r with responseStatus := rMovedTemp }
  let flushed := reqFlush written (writeMovedBody url (writeMovedHead info url moreHdr r))
  (flushed.1, flushed.2.1)

end BoaIpcam.Relay
