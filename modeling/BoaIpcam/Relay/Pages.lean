import BoaIpcam.Relay.Writing

/-!
# The pages of a request that closes

The error pages and the page of a redirection are sent by requests that are not kept alive. Each
is a fixed text around the date and, for a redirection, the address and the header lines after it.
-/
namespace BoaIpcam.Relay

open Cells

/-- The lines of `print_http_headers` without keep-alive. -/
def closing (info : Info) : List UInt8 :=
  ascii "Date: " ++ info.date.text ++ ascii "\r\nServer: Boa/0.94.13\r\n" ++
    ascii "Connection: close\r\n"

/-- A request that is not kept alive. -/
theorem httpHeaders_stopped (info : Info) {r : Request} (stopped : r.keepalive = .stopped) :
    (httpHeaders info r).flatten = closing info := by
  have closed : ¬(0 < r.kacount ∧ r.keepalive = .active ∧ r.responseStatus < 500) := by
    rintro ⟨-, active, -⟩
    rw [stopped] at active
    cases active
  rw [httpHeaders, kaPhrase, if_neg closed, List.flatten_cons, List.flatten_singleton, closing]

/-- These lines are short. -/
theorem length_closing (info : Info) : (closing info).length = 77 := by
  have texts : (ascii "Date: ").length = 6 ∧ (ascii "\r\nServer: Boa/0.94.13\r\n").length = 23 ∧
      (ascii "Connection: close\r\n").length = 19 := by decide
  rw [closing, List.length_append, List.length_append, List.length_append, texts.1, texts.2.1,
    texts.2.2, info.date.length_text]

/-- The bytes of an error page. -/
def errorPage (line body : List UInt8) (info : Info) (method : Method) (simple : Bool) :
    List UInt8 :=
  (if simple then [] else line ++ closing info ++ (htmlType ++ crlf)) ++
    if method = .head then [] else body

/-- An error page is its line, the closing lines and its body. -/
theorem length_errorPage (line body : List UInt8) (info : Info) (method : Method) (simple : Bool) :
    (errorPage line body info method simple).length ≤ line.length + body.length + 124 := by
  have type : (htmlType ++ crlf).length = 47 := by decide
  rw [errorPage, List.length_append]
  split <;> split <;> simp only [List.length_append, List.length_nil, length_closing] at type ⊢ <;>
    omega

/-- The texts that make an error page. -/
theorem flatten_errorTexts (line body : List UInt8) (info : Info) {r : Request}
    (stopped : r.keepalive = .stopped) :
    (errorTexts line body info r).flatten = errorPage line body info r.method r.simple := by
  rw [errorTexts, errorPage, List.flatten_append]
  congr 1
  · split
    · rfl
    · rw [List.flatten_append, List.flatten_cons, httpHeaders_stopped info stopped,
        List.flatten_singleton]
  · split
    · rfl
    · rw [List.flatten_singleton]

/-- The bytes of the page of a redirection; `more` is the header lines of the script after the
address. -/
def movedPage (info : Info) (method : Method) (simple : Bool) (url more : List UInt8) :
    List UInt8 :=
  (if simple then [] else ascii "HTTP/1.0 302 Moved Temporarily\r\n" ++ closing info ++
    (htmlType ++ ascii "Location: ") ++ url.flatMap escapedHttp ++ crlf ++ more ++ (crlf ++ crlf)) ++
  if method = .head then [] else movedFront ++ url.flatMap escapedHtml ++ movedBack

/-! ## Sending a page -/

/-- The socket fails. -/
def Fails (written : Written) : Prop := written = .failed ∨ written = .interrupted

/-- A page was put in the buffer and flushed once: the socket took its front and the rest waits, or
the socket failed. -/
def Answered (written : Written) (r : Request) (page : List UInt8)
    (out : Request × List UInt8) : Prop :=
  (∃ rest, page = out.2 ++ rest ∧ Buffered out.1 rest ∧ out.1.status = r.status) ∨
    (Fails written ∧ out.2 = [] ∧ out.1.status = .dead ∧ Buffered out.1 [])

/-- A page that waits is flushed. -/
theorem answered_flush {r : Request} {page : List UInt8} (written : Written)
    (buffered : Buffered r page) (alive : r.status ≠ .dead) :
    Answered written r page ((reqFlush written r).1, (reqFlush written r).2.1) := by
  rcases reqFlush_cases written buffered alive with
    ⟨start, stop, rest, sent, result, split, left⟩ | ⟨fails, -, result⟩
  · rw [result]
    exact .inl ⟨rest, split, left, rfl⟩
  · rw [result]
    exact .inr ⟨fails, rfl, rfl, buffered_empty rfl rfl⟩

/-- An error page is sent whole. -/
theorem sendErrorPage_answered (code : ℕ) {line body : List UInt8} (info : Info)
    (written : Written) {r : Request} (empty : Buffered r []) (alive : r.status ≠ .dead)
    (short : line.length + body.length + 124 ≤ bufferSize) :
    Answered written r (errorPage line body info r.method r.simple)
      (sendErrorPage code line body info written r) := by
  have zero := empty.nil_iff.mp rfl
  have page := flatten_errorTexts line body info (r := { squashKa r with responseStatus := code }) rfl
  have bound := length_errorPage line body info r.method r.simple
  have fits : r.bufferEnd + (errorTexts line body info
      { squashKa r with responseStatus := code }).flatten.length ≤ bufferSize := by
    rw [page]
    show r.bufferEnd + (errorPage line body info r.method r.simple).length ≤ bufferSize
    omega
  have written_ : reqWrites { squashKa r with responseStatus := code }
      (errorTexts line body info { squashKa r with responseStatus := code }) = _ :=
    reqWrites_of_fits alive fits
  have prepared : Buffered { squashKa r with responseStatus := code } [] :=
    ⟨empty.held, empty.proper, empty.bounded, empty.reset⟩
  rw [sendErrorPage]
  simp only [written_]
  rw [page] at fits ⊢
  exact answered_flush written (prepared.push fits) alive

/-! ## The page of a redirection -/

/-- A C string behind what is appended stays as it is. -/
theorem cstr_push {r : Request} {bytes : List UInt8} {position : ℕ}
    (behind : r.bufferEnd + bytes.length ≤ position) :
    cstr (r.push bytes).buffer position = cstr r.buffer position := by
  rw [cstr, cstr]
  show (slice (put r.buffer r.bufferEnd bytes) position _).takeWhile _ = _
  rw [slice_put_beside (.inr behind)]

section Half

variable {r : Request} {front msg : List UInt8} (zero : r.bufferEnd = 0) (alive : r.status ≠ .dead)

include zero alive

/-- A text in the first half. -/
theorem push_reqWrite (fits : (front ++ msg).length ≤ bufferSize / 2) :
    reqWrite (r.push front) msg = r.push (front ++ msg) := by
  rw [← Request.push_push]
  apply reqWrite_of_fits (show (r.push front).status ≠ .dead from alive)
  show r.bufferEnd + front.length + msg.length ≤ bufferSize
  rw [List.length_append] at fits
  simp only [bufferSize] at fits ⊢
  omega

omit alive in
/-- A C string of the second half is escaped into the first. -/
theorem push_reqWriteEscape {escaped : UInt8 → List UInt8} (some : ∀ c, escaped c ≠ [])
    {guard url : ℕ} (small : guard ≤ 5) {text : List UInt8} (behind : bufferSize / 2 ≤ url)
    (solid : ∀ c ∈ text, c ≠ 0) (there : slice r.buffer url (url + text.length) = text)
    (ends : r.buffer (url + text.length) = 0)
    (fits : (front ++ text.flatMap escaped).length ≤ bufferSize / 2) :
    reqWriteEscape escaped guard (r.push front) (.inBuffer url) =
      r.push (front ++ text.flatMap escaped) := by
  rw [List.length_append] at fits
  have kept : slice (r.push front).buffer url (url + text.length) = text := by
    show slice (put r.buffer r.bufferEnd front) _ _ = text
    rw [slice_put_beside (.inr (by omega)), there]
  have stop : (r.push front).buffer (url + text.length) = 0 := by
    show put r.buffer r.bufferEnd front _ = 0
    rw [put_after (by omega), ends]
  have holds : (Text.inBuffer url).Holds text (bufferSize / 2) (r.push front).buffer 0 :=
    Text.holds_inBuffer solid behind kept stop
  have place : (r.push front).bufferEnd = front.length := by
    show r.bufferEnd + front.length = front.length
    omega
  rw [← Request.push_push]
  apply reqWriteEscape_of_holds some holds
  · rw [place]
    exact fits
  · rw [place]
    simp only [bufferSize] at fits ⊢
    omega

end Half

/-- The head of the page of a redirection. -/
def movedHead (info : Info) (url more : List UInt8) : List UInt8 :=
  ascii "HTTP/1.0 302 Moved Temporarily\r\n" ++ closing info ++
    (htmlType ++ ascii "Location: ") ++ url.flatMap escapedHttp ++ crlf ++ more ++ (crlf ++ crlf)

/-- The body of the page of a redirection. -/
def movedBody (url : List UInt8) : List UInt8 :=
  movedFront ++ url.flatMap escapedHtml ++ movedBack

/-- The address and the other lines of a script's header, behind the half of the buffer. -/
structure Redirects (r : Request) (url : ℕ) (moreHdr : Option ℕ) (text more : List UInt8) :
    Prop where
  /-- The address is behind the half of the buffer. -/
  behind : bufferSize / 2 ≤ url
  /-- It has no NUL. -/
  solid : ∀ c ∈ text, c ≠ 0
  /-- It stands there. -/
  there : slice r.buffer url (url + text.length) = text
  /-- A NUL is behind it. -/
  ends : r.buffer (url + text.length) = 0
  /-- So are the other lines, if there are any. -/
  rest : (moreHdr = none ∧ more = []) ∨
    ∃ position, moreHdr = some position ∧ bufferSize / 2 ≤ position ∧
      cstr r.buffer position = more

/-- The head of the page is written in front of the script's bytes. -/
theorem writeMovedHead_eq (info : Info) {r : Request} {url : ℕ} {moreHdr : Option ℕ}
    {text more : List UInt8} (zero : r.bufferEnd = 0) (alive : r.status ≠ .dead)
    (stopped : r.keepalive = .stopped) (redirects : Redirects r url moreHdr text more)
    (full : ¬r.simple = true) (fits : (movedHead info text more).length ≤ bufferSize / 2) :
    writeMovedHead info url moreHdr r = r.push (movedHead info text more) := by
  have lines : (ascii "HTTP/1.0 302 Moved Temporarily\r\n" :: httpHeaders info r ++
      [htmlType, ascii "Location: "]).flatten = ascii "HTTP/1.0 302 Moved Temporarily\r\n" ++
        closing info ++ (htmlType ++ ascii "Location: ") := by
    rw [List.flatten_append, List.flatten_cons, httpHeaders_stopped info stopped,
      List.flatten_cons, List.flatten_singleton]
  rw [movedHead] at fits ⊢
  rw [writeMovedHead, if_neg full]
  generalize ascii "HTTP/1.0 302 Moved Temporarily\r\n" ++ closing info ++
    (htmlType ++ ascii "Location: ") = front at lines fits ⊢
  simp only [List.length_append] at fits
  have first : reqWrites r (ascii "HTTP/1.0 302 Moved Temporarily\r\n" :: httpHeaders info r ++
      [htmlType, ascii "Location: "]) = r.push front := by
    rw [reqWrites_of_fits alive, lines]
    rw [lines, zero]
    simp only [bufferSize] at fits ⊢
    omega
  have second : reqWriteEscapeHttp (r.push front) (.inBuffer url) =
      r.push (front ++ text.flatMap escapedHttp) := by
    apply push_reqWriteEscape zero escapedHttp_ne_nil (by omega) redirects.behind redirects.solid
      redirects.there redirects.ends
    rw [List.length_append]
    omega
  have third : reqWrite (r.push (front ++ text.flatMap escapedHttp)) crlf =
      r.push (front ++ text.flatMap escapedHttp ++ crlf) := by
    apply push_reqWrite zero alive
    simp only [List.length_append]
    omega
  have fourth : writeMore moreHdr (r.push (front ++ text.flatMap escapedHttp ++ crlf)) =
      r.push (front ++ text.flatMap escapedHttp ++ crlf ++ more) := by
    rcases redirects.rest with ⟨rfl, rfl⟩ | ⟨position, rfl, behind, rfl⟩
    · rw [List.append_nil, writeMore]
    · have kept : cstr (r.push (front ++ text.flatMap escapedHttp ++ crlf)).buffer position =
          cstr r.buffer position := by
        apply cstr_push
        simp only [List.length_append]
        omega
      rw [writeMore, kept]
      apply push_reqWrite zero alive
      simp only [List.length_append]
      omega
  simp only [first, second, third, fourth]
  apply push_reqWrite zero alive
  simp only [List.length_append]
  omega

/-- The body of the page is written behind its head. -/
theorem writeMovedBody_eq {r : Request} {url : ℕ} {moreHdr : Option ℕ}
    {front text more : List UInt8} (zero : r.bufferEnd = 0) (alive : r.status ≠ .dead)
    (redirects : Redirects r url moreHdr text more) (bodied : r.method ≠ .head)
    (fits : (front ++ movedBody text).length ≤ bufferSize / 2) :
    writeMovedBody url (r.push front) = r.push (front ++ movedBody text) := by
  rw [movedBody] at fits ⊢
  simp only [List.length_append] at fits
  have first : reqWrite (r.push front) movedFront = r.push (front ++ movedFront) := by
    apply push_reqWrite zero alive
    rw [List.length_append]
    omega
  have second : reqWriteEscapeHtml (r.push (front ++ movedFront)) (.inBuffer url) =
      r.push (front ++ movedFront ++ text.flatMap escapedHtml) := by
    apply push_reqWriteEscape zero escapedHtml_ne_nil (by omega) redirects.behind redirects.solid
      redirects.there redirects.ends
    simp only [List.length_append]
    omega
  have third : reqWrite (r.push (front ++ movedFront ++ text.flatMap escapedHtml)) movedBack =
      r.push (front ++ movedFront ++ text.flatMap escapedHtml ++ movedBack) := by
    apply push_reqWrite zero alive
    simp only [List.length_append]
    omega
  rw [writeMovedBody, if_neg (show ¬(r.push front).method = .head from bodied), first, second, third]
  simp only [List.append_assoc]

/-- The page of a redirection is sent whole when it fits in front of the script's bytes. -/
theorem sendMovedTemp_answered (info : Info) (written : Written) {r : Request} {url : ℕ}
    {moreHdr : Option ℕ} {text more : List UInt8} (empty : Buffered r []) (alive : r.status ≠ .dead)
    (redirects : Redirects r url moreHdr text more)
    (fits : (movedPage info r.method r.simple text more).length ≤ bufferSize / 2) :
    Answered written r (movedPage info r.method r.simple text more)
      (sendMovedTemp info written url moreHdr r) := by
  let q : Request := { squashKa r with responseStatus := rMovedTemp }
  have qZero : q.bufferEnd = 0 := empty.nil_iff.mp rfl
  have qAlive : q.status ≠ .dead := alive
  have prepared : Buffered q [] := ⟨empty.held, empty.proper, empty.bounded, empty.reset⟩
  have same : Redirects q url moreHdr text more :=
    ⟨redirects.behind, redirects.solid, redirects.there, redirects.ends, redirects.rest⟩
  let head : List UInt8 := if r.simple then [] else movedHead info text more
  let body : List UInt8 := if r.method = .head then [] else movedBody text
  have page : movedPage info r.method r.simple text more = head ++ body := rfl
  rw [page, List.length_append] at fits
  have headed : writeMovedHead info url moreHdr q = q.push head := by
    by_cases simple : r.simple
    · have none : head = [] := if_pos simple
      rw [writeMovedHead, if_pos (show q.simple = true from simple), none, Request.push_nil]
    · have whole : head = movedHead info text more := if_neg simple
      rw [whole]
      exact writeMovedHead_eq info qZero qAlive rfl same simple (by rw [← whole]; omega)
  have bodied : writeMovedBody url (q.push head) = q.push (head ++ body) := by
    by_cases method : r.method = .head
    · have none : body = [] := if_pos method
      rw [writeMovedBody, if_pos (show (q.push head).method = .head from method), none,
        List.append_nil]
    · have whole : body = movedBody text := if_neg method
      rw [whole]
      exact writeMovedBody_eq qZero qAlive same method
        (by rw [List.length_append, ← whole]; omega)
  have waits : Buffered (q.push (head ++ body)) ([] ++ (head ++ body)) := by
    apply prepared.push
    rw [qZero, List.length_append]
    simp only [bufferSize] at fits ⊢
    omega
  have sent : sendMovedTemp info written url moreHdr r =
      ((reqFlush written (q.push (head ++ body))).1,
        (reqFlush written (q.push (head ++ body))).2.1) := by
    rw [← bodied, ← headed]
    rfl
  rw [sent, page]
  exact answered_flush written waits alive

end BoaIpcam.Relay
