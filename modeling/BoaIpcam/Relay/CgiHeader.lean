import BoaIpcam.Ptz.Visca
import BoaIpcam.Relay.Response

/-!
# The header of a script

`process_cgi_header` looks at what a script has written at the front of its output, from
`header_line` on: a status, a location or neither. The script's output is in the second half of the
buffer then, and the head of the response is written into the first.
-/
namespace BoaIpcam.Relay

open Cells
open Visca (strstr)

/-- `strncasecmp` of the front of a text with a word is zero. -/
def startsWith (word text : List UInt8) : Prop := StrCaseEq (text.take word.length) word

instance (word text : List UInt8) : Decidable (startsWith word text) :=
  inferInstanceAs (Decidable (StrCaseEq (text.take word.length) word))

/-- Where the line before the empty line ends: the empty line is searched with a carriage return
first, then without. -/
def headerEndOf (text : List UInt8) : Option ℕ :=
  match strstr [10, 13, 10] text with
  | some c => some c
  | none => strstr [10, 10] text

/-- From the newline `c` to the end of the header, the way a HEAD and a request of HTTP/0.9 find
it. -/
def pastHeader (buffer : ℕ → UInt8) (c : ℕ) : ℕ := if buffer (c + 1) = 13 then c + 2 else c + 1

/-- `while (*c2 == '\r') --c2`. -/
def backOverReturns (buffer : ℕ → UInt8) : ℕ → ℕ
  | 0 => 0
  | c2 + 1 => if buffer (c2 + 1) = 13 then backOverReturns buffer c2 else c2 + 1

/-- `while ((*c2 == '\n' || *c2 == '\r') && c2 < req->header_end) ++c2`, with the bytes up to the
end as turns. -/
def overLineEnds (buffer : ℕ → UInt8) : ℕ → ℕ → ℕ
  | 0, c2 => c2
  | turns + 1, c2 =>
    if buffer c2 = 10 ∨ buffer c2 = 13 then overLineEnds buffer turns (c2 + 1) else c2

/-- The position of the newline after a position, for `strchr`. -/
def newlineAfter (buffer : ℕ → UInt8) (position : ℕ) : Option ℕ :=
  (strstr [10] (cstr buffer position)).map (position + ·)

/-- The branch of `process_cgi_header` for a location. -/
def locationHeader (info : Info) (written : Written) (buf : ℕ) (r : Request) :
    Request × List UInt8 :=
  if r.buffer (buf + 10) = 47 then
    let page := sendBadRequest info written r
    ({ page.1 with status := .done }, page.2)
  else
    match newlineAfter r.buffer (buf + 10) with
    | none => (r, [])   -- "cannot ever equal NULL"
    | some newline =>
      let cut := backOverReturns r.buffer (newline - 1) + 1
      let r := { r with buffer := put r.buffer cut [0] }
      let c2 := overLineEnds r.buffer (r.headerEnd - (cut + 1)) (cut + 1)
      let page := sendMovedTemp info written (buf + 10)
        (if c2 = r.headerEnd then none else some c2) r
      ({ page.1 with status := .done }, page.2)

/-- Move the script's bytes behind what is buffered. -/
def moveBehind (r : Request) : Request :=
  let last := r.bufferEnd + (r.headerEnd - r.headerLine)
  { r with
    buffer := put r.buffer r.bufferEnd (slice r.buffer r.headerLine r.headerEnd)
    bufferEnd := last
    headerLine := last
    headerEnd := last }

/-- The branch of `process_cgi_header` for a header with neither: the head of the response is
written and the script's bytes are moved behind it. A HEAD moves only the header. -/
def plainHeader (info : Info) (written : Written) (c : ℕ) (r : Request) :
    Request × List UInt8 × ℤ :=
  let r := sendRequestOk info r
  let r := if r.method = .head then
    { r with headerEnd := pastHeader r.buffer c, cgiStatus := .done } else r
  if r.bufferEnd + (r.headerEnd - r.headerLine) > bufferSize then
    let page := sendError info written { r with bufferStart := 0, bufferEnd := 0 }
    (page.1, page.2, 0)
  else
    let flushed := reqFlush written (moveBehind r)
    (flushed.1, flushed.2.1, if r.method = .head then 0 else 1)

/-- `process_cgi_header`: the request, the bytes the socket took and the return value. -/
def processCgiHeader (info : Info) (written : Written) (r : Request) :
    Request × List UInt8 × ℤ :=
  let r := if r.cgiStatus = .done then r else { r with cgiStatus := .buffer }
  let buf := r.headerLine
  let text := cstr r.buffer buf
  match headerEndOf text with
  | none =>
    let page := sendBadGateway info written r
    (page.1, page.2, 0)
  | some c =>
    if r.simple then ({ r with headerLine := pastHeader r.buffer (buf + c) }, [], 1)
    else if startsWith (ascii "Status: ") text then
      ({ r with
        headerLine := buf - 1
        buffer := put r.buffer (buf - 1) (ascii "HTTP/1.0 ") }, [], 1)
    else if startsWith (ascii "Location: ") text then
      let page := locationHeader info written buf r
      (page.1, page.2, 1)
    else plainHeader info written (buf + c) r

end BoaIpcam.Relay
