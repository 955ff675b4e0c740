import BoaIpcam.Api.Commands
import BoaIpcam.Printf
import Mathlib.Data.List.OfFn

/-!
# Replies from a local buffer

A handler of `request.c` prints its reply into an array on the stack and adds up what `sprintf`
returns. It writes the header with that sum as the length, and then appends the reply with
`sprintf(req_bufptr(req), buf)`: the reply is a format itself, without arguments. The array is not
initialised, so a reply to which nothing was printed is what the stack held. A write behind the
array, a string without its NUL and a conversion without its argument are undefined, and so is a
value that a call takes from a division by zero or from a word that is longer than its array.
-/
namespace BoaIpcam.Nipca

open Printf

/-! ## The local buffer -/

/-- The array `buf` and the sum `size`. -/
structure LocalBuffer where
  /-- What the array holds. -/
  bytes : List UInt8
  /-- The sum of the lengths. -/
  size : Nat

namespace LocalBuffer

/-- A text and its NUL at `buf + size`, none when they do not fit. -/
def append (buf : LocalBuffer) (text : List UInt8) : Option LocalBuffer :=
  if buf.size + text.length < buf.bytes.length then
    some ⟨buf.bytes.take buf.size ++ text ++ 0 :: buf.bytes.drop (buf.size + text.length + 1),
      buf.size + text.length⟩
  else none

/-- `size += sprintf(buf+size, …)`. -/
def sprintf (buf : LocalBuffer) (call : Print) : Option LocalBuffer :=
  (Printf.sprintf (ascii call.fmt) call.args).bind buf.append

/-- The string at `buf`, none when there is no NUL. -/
def string (buf : LocalBuffer) : Option (List UInt8) :=
  if 0 ∈ buf.bytes then some (untilNul buf.bytes) else none

end LocalBuffer

/-! ## Replies -/

/-- A reply of a handler. -/
structure Reply where
  /-- The size of the local buffer. -/
  capacity : Nat
  /-- The calls that print to it. -/
  prints : List Print
  /-- Whether the values of the calls are computed: nothing is divided by zero, and no word is read
  behind the array that it is read into. -/
  computed : Bool := true

/-- What `rfc822_time_buf` writes. -/
structure TimeText where
  /-- The text. -/
  text : List UInt8
  /-- Its length is always the same. -/
  fixed : text.length = 29

/-- The times of a header: `last_modified` of the request and the current time. -/
structure Times where
  /-- The time of the request's file. -/
  lastModified : TimeText
  /-- The current time. -/
  current : TimeText

/-- `\r\n`. -/
def crlf : List UInt8 := [13, 10]

/-- `print_last_modified`. -/
def printLastModified (times : Times) : List UInt8 :=
  ascii "Last-Modified: " ++ times.lastModified.text ++ crlf

/-- `print_dlink_http_headers`. -/
def printDlinkHttpHeaders (times : Times) : List UInt8 :=
  ascii "Date: " ++ times.current.text ++ crlf ++ ascii "Server: dcs-lig-httpd" ++ crlf

/-- The texts that `send_request_dlink_ok` writes. -/
def dlinkOk (times : Times) (size : Nat) : List (List UInt8) :=
  [ascii "HTTP/1.1 200 OK" ++ crlf,
    printLastModified times,
    ascii "Cache-Control: no-cache, no-store, must-revalidate" ++ crlf,
    ascii "Pragma: no-cache" ++ crlf,
    ascii "Content-type: text/plain" ++ crlf,
    ascii "Content-Length: ", decimal size, crlf,
    ascii "Connection: close" ++ crlf,
    printDlinkHttpHeaders times,
    crlf]

/-- Texts that are written one after the other with `req_write`. -/
def reqWrites (response : Response) (msgs : List (List UInt8)) : Response :=
  msgs.foldl Response.reqWrite response

/-- `end_line`. -/
def endLine (response : Response) : Response := response.sprintf (ascii "0" ++ crlf ++ crlf)

namespace Reply

variable (reply : Reply)

/-- The calls on a stack. -/
def fill (stack : Fin reply.capacity → UInt8) : Option LocalBuffer :=
  reply.prints.foldlM LocalBuffer.sprintf ⟨List.ofFn stack, 0⟩

/-- The calls, and a response of the sum and of what the local buffer prints as a format. -/
def send (respond : Nat → List UInt8 → Response) (stack : Fin reply.capacity → UInt8) :
    Option Response := do
  guard (reply.computed = true)
  let buf ← reply.fill stack
  let fmt ← buf.string
  let body ← Printf.sprintf fmt []
  some (respond buf.size body)

/-- `send_request_dlink_ok(req, size)` and `sprintf(req_bufptr(req), buf)`. -/
def answer (stack : Fin reply.capacity → UInt8) (times : Times) : Option Response :=
  reply.send (fun size body => (reqWrites .empty (dlinkOk times size)).sprintf body) stack

/-- What the calls print. -/
def text : List UInt8 := reply.prints.flatMap Print.text

/-- How much the calls print, from the lengths of their strings and numbers. -/
def width : Nat := (reply.prints.map Print.width).sum

/-- The values of the calls are computed, no string that is printed has a `%`, what is printed fits
both buffers, and a reply to which nothing is printed finds a NUL on the stack. -/
structure Plain (stack : Fin reply.capacity → UInt8) (header : Nat) : Prop where
  /-- All values are computed. -/
  computed : reply.computed = true
  /-- No string has a percent sign. -/
  strings : ∀ call ∈ reply.prints, ∀ string ∈ strings call.pieces, 37 ∉ string
  /-- The body fits the array. -/
  room : reply.width < reply.capacity
  /-- The body fits the response. -/
  response : header + reply.width ≤ Response.bufferSize
  /-- Without a body the stack holds an empty text. -/
  printed : reply.prints = [] → (List.ofFn stack).head? = some 0

end Reply

/-! ## What the local buffer holds -/

/-- The array has so many bytes and holds a text, and the sum is the length of the text. -/
structure LocalBuffer.Holds (buf : LocalBuffer) (capacity : Nat) (text : List UInt8) : Prop where
  /-- The array has its size. -/
  array : buf.bytes.length = capacity
  /-- The sum is the length. -/
  sum : buf.size = text.length
  /-- The array begins with the text. -/
  front : buf.bytes.take text.length = text

/-- The array holds a text with its NUL. -/
structure LocalBuffer.Ends (buf : LocalBuffer) (capacity : Nat) (text : List UInt8) : Prop
    extends buf.Holds capacity text where
  /-- A NUL is behind the text. -/
  nul : ∃ rest, buf.bytes = text ++ 0 :: rest

section Fill

variable {buf : LocalBuffer} {capacity : Nat} {text : List UInt8}

/-- A text with its NUL is the string. -/
theorem LocalBuffer.Ends.string (h : buf.Ends capacity text) (noNul : 0 ∉ text) :
    buf.string = some text := by
  obtain ⟨rest, bytes⟩ := h.nul
  have member : 0 ∈ buf.bytes := by
    rw [bytes]
    exact List.mem_append_right _ List.mem_cons_self
  have solid : ∀ c ∈ text, decide (c ≠ 0) = true := by
    intro c among
    simpa using fun zero : c = 0 => noNul (zero ▸ among)
  rw [LocalBuffer.string, if_pos member, untilNul, bytes, List.takeWhile_append_of_pos solid,
    List.takeWhile_cons_of_neg (by simp), List.append_nil]

/-- A call whose text fits leaves the text and its NUL. -/
theorem LocalBuffer.Holds.sprintf (h : buf.Holds capacity text) (call : Print)
    (room : text.length + call.text.length < capacity) :
    ∃ next, buf.sprintf call = some next ∧ next.Ends capacity (text ++ call.text) := by
  have front : buf.bytes.take buf.size = text := h.sum ▸ h.front
  have fits : buf.size + call.text.length < buf.bytes.length := by
    rw [h.sum, h.array]
    exact room
  refine ⟨⟨buf.bytes.take buf.size ++ call.text ++
    0 :: buf.bytes.drop (buf.size + call.text.length + 1), buf.size + call.text.length⟩,
    ?_, ⟨⟨?_, ?_, ?_⟩, buf.bytes.drop (buf.size + call.text.length + 1), ?_⟩⟩
  · rw [LocalBuffer.sprintf, call.sprintf_eq_some, Option.bind_some, LocalBuffer.append,
      if_pos fits]
  · have array := h.array
    have sum := h.sum
    simp only [front, List.length_append, List.length_cons, List.length_drop]
    omega
  · rw [h.sum, List.length_append]
  · rw [front]
    exact List.take_left
  · rw [front]

/-- A call whose text does not fit is undefined. -/
theorem LocalBuffer.Holds.sprintf_none (h : buf.Holds capacity text) (call : Print)
    (full : capacity ≤ text.length + call.text.length) : buf.sprintf call = none := by
  have long : ¬buf.size + call.text.length < buf.bytes.length := by
    rw [h.sum, h.array]
    omega
  rw [LocalBuffer.sprintf, call.sprintf_eq_some, Option.bind_some, LocalBuffer.append, if_neg long]

/-- Calls whose texts fit leave the texts, with a NUL behind the last. -/
theorem LocalBuffer.Holds.foldlM (h : buf.Holds capacity text) (prints : List Print)
    (room : text.length + (prints.flatMap Print.text).length < capacity) :
    ∃ next, prints.foldlM LocalBuffer.sprintf buf = some next ∧
      next.Holds capacity (text ++ prints.flatMap Print.text) ∧
      (prints ≠ [] → next.Ends capacity (text ++ prints.flatMap Print.text)) := by
  induction prints generalizing buf text with
  | nil =>
    refine ⟨buf, rfl, ?_, fun some => absurd rfl some⟩
    rw [List.flatMap_nil, List.append_nil]
    exact h
  | cons call prints ih =>
    rw [List.flatMap_cons, List.length_append] at room
    obtain ⟨next, first, ends⟩ := h.sprintf call (by omega)
    have behind : (text ++ call.text).length + (prints.flatMap Print.text).length < capacity := by
      rw [List.length_append]
      omega
    obtain ⟨last, run, holds, nul⟩ := ih ends.toHolds behind
    rw [List.flatMap_cons, ← List.append_assoc]
    refine ⟨last, ?_, holds, fun _ => ?_⟩
    · rw [List.foldlM_cons, first]
      exact run
    · cases prints with
      | nil =>
        cases run
        rw [List.flatMap_nil, List.append_nil]
        exact ends
      | cons => exact nul (List.cons_ne_nil _ _)

/-- Calls whose texts do not fit are undefined. -/
theorem LocalBuffer.Holds.foldlM_none (h : buf.Holds capacity text) {prints : List Print}
    (some : prints ≠ []) (full : capacity ≤ text.length + (prints.flatMap Print.text).length) :
    prints.foldlM LocalBuffer.sprintf buf = none := by
  induction prints generalizing buf text with
  | nil => exact absurd rfl some
  | cons call prints ih =>
    rw [List.flatMap_cons, List.length_append] at full
    rw [List.foldlM_cons]
    by_cases room : text.length + call.text.length < capacity
    · obtain ⟨next, first, ends⟩ := h.sprintf call room
      have more : prints ≠ [] := by
        rintro rfl
        rw [List.flatMap_nil, List.length_nil] at full
        omega
      rw [first]
      refine ih ends.toHolds more ?_
      rw [List.length_append]
      omega
    · rw [h.sprintf_none call (by omega)]
      rfl

end Fill

/-! ## What is sent -/

namespace Reply

variable (reply : Reply) (stack : Fin reply.capacity → UInt8)

/-- The text is as long as the sum of the calls. -/
theorem length_text : reply.text.length = reply.width := by
  rw [text, List.length_flatMap, width]
  exact congrArg List.sum (List.map_congr_left fun call _ => call.length_text)

/-- The text has no NUL. -/
theorem zero_not_mem_text : 0 ∉ reply.text := by
  intro member
  obtain ⟨call, -, among⟩ := List.mem_flatMap.mp member
  exact (flatMap_text_plain call.pieces_eq_some.2).1 among

/-- The stack before the first call. -/
theorem holds_stack : LocalBuffer.Holds ⟨List.ofFn stack, 0⟩ reply.capacity [] :=
  ⟨List.length_ofFn, rfl, rfl⟩

/-- The local buffer is a format that prints a body, and the sum of the calls is a size. -/
def Prints (body : List UInt8) (size : Nat) : Prop :=
  ∃ buf fmt, reply.fill stack = some buf ∧ buf.string = some fmt ∧
    Printf.sprintf fmt [] = some body ∧ buf.size = size

/-- A reply to which nothing is printed is the stack as a format. -/
theorem prints_of_nil (nothing : reply.prints = []) {body : List UInt8} {size : Nat} :
    reply.Prints stack body size ↔
      0 ∈ List.ofFn stack ∧ Printf.sprintf (untilNul (List.ofFn stack)) [] = some body ∧
        size = 0 := by
  have start : reply.fill stack = some ⟨List.ofFn stack, 0⟩ := by
    rw [fill, nothing]
    rfl
  constructor
  · rintro ⟨buf, fmt, run, string, out, rfl⟩
    rw [start] at run
    cases run
    unfold LocalBuffer.string at string
    split at string
    · rename_i member
      cases string
      exact ⟨member, out, rfl⟩
    · cases string
  · rintro ⟨member, out, rfl⟩
    exact ⟨_, _, start, if_pos member, out, rfl⟩

/-- A reply to which something is printed is the text as a format, when it fits. -/
theorem prints_of_ne_nil (some : reply.prints ≠ []) {body : List UInt8} {size : Nat} :
    reply.Prints stack body size ↔
      reply.width < reply.capacity ∧ Printf.sprintf reply.text [] = .some body ∧
        size = reply.width := by
  have start := reply.holds_stack stack
  have length : (reply.prints.flatMap Print.text).length = reply.width := reply.length_text
  by_cases room : reply.width < reply.capacity
  · obtain ⟨next, run, holds, ends⟩ := start.foldlM reply.prints (by
      rw [List.length_nil, length, Nat.zero_add]
      exact room)
    rw [List.nil_append] at holds ends
    have string : next.string = .some reply.text :=
      (ends some).string reply.zero_not_mem_text
    have sum : next.size = reply.width := holds.sum.trans length
    constructor
    · rintro ⟨buf, fmt, run', string', out, rfl⟩
      rw [fill, run] at run'
      cases run'
      rw [string] at string'
      cases string'
      exact ⟨room, out, sum⟩
    · rintro ⟨-, out, rfl⟩
      exact ⟨next, reply.text, run, string, out, sum⟩
  · have undefined : reply.fill stack = none := by
      refine start.foldlM_none some ?_
      rw [List.length_nil, length]
      omega
    constructor
    · rintro ⟨buf, fmt, run, -⟩
      rw [undefined] at run
      cases run
    · exact fun fits => absurd fits.1 room

/-- The sum of the calls is the length of the text. -/
theorem Prints.size_eq {body : List UInt8} {size : Nat} (prints : reply.Prints stack body size) :
    size = reply.width := by
  by_cases nothing : reply.prints = []
  · have zero := ((reply.prints_of_nil stack nothing).mp prints).2.2
    rw [zero, width, nothing]
    rfl
  · exact ((reply.prints_of_ne_nil stack nothing).mp prints).2.2

end Reply

end BoaIpcam.Nipca
