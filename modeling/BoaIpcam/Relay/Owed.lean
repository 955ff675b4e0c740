import BoaIpcam.Relay.Pipe
import BoaIpcam.Relay.Relayed

/-!
# What a request still owes its client

While a request is answered the bytes its client has yet to get stand in the buffer, in the part of
the buffer between the two pointers, in the mapped file and in the pipe. Every step of the request
gives the socket the front of these bytes, or the socket or the pipe fails and nothing more is sent.
-/
namespace BoaIpcam.Relay

open Cells
open Visca (strstr)

/-! ## The bytes that are owed -/

/-- What a request still owes its client: it is reading a script's header, moving bytes from the
pipe, writing a mapped file, or it has only its buffer left. -/
inductive Owes (info : Info) (r : Request) (rest owed : List UInt8) : Prop
  | parses (status : r.status = .pipeRead) (cgi : r.cgiStatus = .parse) (empty : Buffered r [])
      (line : r.headerLine = bufferSize / 2) (proper : bufferSize / 2 ≤ r.headerEnd)
      (bounded : r.headerEnd ≤ bufferSize) (stopped : r.keepalive = .stopped)
      (isCgi : r.isCgi = true)
      (fits : RedirectFits info r.method r.simple
        (slice r.buffer (bufferSize / 2) r.headerEnd ++ rest))
      (all : owed = relayed info r.method r.simple
        (slice r.buffer (bufferSize / 2) r.headerEnd ++ rest))
  | pipes (bytes : List UInt8) (status : r.status = .pipeRead ∨ r.status = .pipeWrite)
      (cgi : r.cgiStatus ≠ .parse) (buffered : Buffered r bytes)
      (proper : r.headerLine ≤ r.headerEnd) (bounded : r.headerEnd ≤ bufferSize)
      (ended : r.cgiStatus = .done → r.status = .pipeWrite ∧ rest = [])
      (all : owed = bytes ++ slice r.buffer r.headerLine r.headerEnd ++ rest)
  | writes (bytes : List UInt8) (status : r.status = .write) (buffered : Buffered r bytes)
      (size : r.filesize = r.dataMem.length) (more : r.filepos < r.filesize)
      (all : owed = bytes ++ r.dataMem.drop r.filepos)
  | closes (status : r.status = .done) (buffered : Buffered r owed)

/-- A request that is finished but for its buffer. -/
def Ends (r : Request) (owed : List UInt8) : Prop := r.status ≠ .dead ∧ Buffered r owed

/-- A request after a failure: it sends nothing any more. -/
def Lost (r : Request) : Prop := r.status = .dead ∨ (r.status = .done ∧ Buffered r [])

/-- What a step leads to: the socket took the front of what was owed, or something failed. -/
def Handed (info : Info) (fails : Prop) (owed : List UInt8)
    (out : Request × List UInt8 × List UInt8 × ℤ) : Prop :=
  (∃ left, owed = out.2.2.1 ++ left ∧
    ((out.2.2.2 ≠ 0 ∧ Owes info out.1 out.2.1 left) ∨ (out.2.2.2 = 0 ∧ Ends out.1 left))) ∨
  (fails ∧ out.2.2.1 = [] ∧ Lost out.1)

/-! ## The header of a script -/

/-- A request whose script's header is processed. -/
structure Parsing (r : Request) (seen rest : List UInt8) : Prop where
  /-- Nothing waits for the client. -/
  empty : Buffered r []
  /-- The header starts at the half of the buffer. -/
  line : r.headerLine = bufferSize / 2
  /-- It does not end before. -/
  proper : bufferSize / 2 ≤ r.headerEnd
  /-- It ends in the buffer. -/
  bounded : r.headerEnd ≤ bufferSize
  /-- It is what was read. -/
  there : slice r.buffer (bufferSize / 2) r.headerEnd = seen
  /-- A NUL is behind it. -/
  ends : r.buffer r.headerEnd = 0
  /-- The pipe is read, or the header is written. -/
  status : r.status = .pipeRead ∨ r.status = .pipeWrite
  /-- The script is buffered, or it has ended. -/
  cgi : r.cgiStatus = .buffer ∨ (r.cgiStatus = .done ∧ r.status = .pipeWrite ∧ rest = [])
  /-- The connection is not kept. -/
  stopped : r.keepalive = .stopped
  /-- The request is that of a script. -/
  isCgi : r.isCgi = true
  /-- The script's bytes begin with it. -/
  front : seenOf (seen ++ rest) = seen

namespace Parsing

variable {r : Request} {seen rest : List UInt8} (parsing : Parsing r seen rest)

include parsing

/-- The request is alive. -/
theorem alive : r.status ≠ .dead := by
  rcases parsing.status with status | status <;> rw [status] <;> decide

/-- The pointers enclose what was seen. -/
theorem length_seen : bufferSize / 2 + seen.length = r.headerEnd := by
  have size := congrArg List.length parsing.there
  rw [length_slice] at size
  have proper := parsing.proper
  omega

/-- The C string at the pointer is the text of the front. -/
theorem cstr_line : cstr r.buffer r.headerLine = textOf (seen ++ rest) := by
  rw [textOf, parsing.front, parsing.line, cstr_of_slice parsing.proper parsing.bounded parsing.ends,
    parsing.there]

/-- A byte of what was seen. -/
theorem byte {offset : ℕ} (inside : offset < seen.length) :
    r.buffer (bufferSize / 2 + offset) = seen.getD offset 0 := by
  have length := parsing.length_seen
  have cell : (slice r.buffer (bufferSize / 2) r.headerEnd)[offset]? =
      some (r.buffer (bufferSize / 2 + offset)) := getElem?_slice (by omega)
  rw [parsing.there] at cell
  rw [List.getD_eq_getElem?_getD, cell, Option.getD_some]

/-- A byte of the text. -/
theorem text_byte {offset : ℕ} {d : UInt8} (there : (textOf (seen ++ rest))[offset]? = some d) :
    offset < seen.length ∧ r.buffer (bufferSize / 2 + offset) = d := by
  rw [textOf, parsing.front] at there
  obtain ⟨inside, -⟩ := List.getElem?_eq_some_iff.mp there
  obtain ⟨tail, whole⟩ := List.takeWhile_prefix (p := fun c : UInt8 => c ≠ 0) (l := seen)
  have value : (seen.takeWhile (· ≠ 0) ++ tail)[offset]? = some d := by
    rw [List.getElem?_append_left inside, there]
  rw [whole] at value
  obtain ⟨short, -⟩ := List.getElem?_eq_some_iff.mp value
  rw [parsing.byte short, List.getD_eq_getElem?_getD, value, Option.getD_some]
  exact ⟨short, rfl⟩

/-- The end of a header lies in what was seen. -/
theorem past {c : ℕ} (found : headerEndOf (textOf (seen ++ rest)) = some c) :
    pastHeader r.buffer (bufferSize / 2 + c) = bufferSize / 2 + pastOf seen c ∧
      pastOf seen c ≤ seen.length := by
  obtain ⟨-, next⟩ := headerEndOf_some found
  rw [pastHeader, pastOf, Nat.add_assoc]
  rcases next with plain | ⟨returns, newline⟩
  · obtain ⟨inside, value⟩ := parsing.text_byte plain
    rw [← parsing.byte inside, value, if_neg (by decide), if_neg (by decide)]
    omega
  · obtain ⟨inside, value⟩ := parsing.text_byte returns
    obtain ⟨more, -⟩ := parsing.text_byte newline
    rw [← parsing.byte inside, value, if_pos rfl, if_pos rfl]
    omega

end Parsing

/-- A page that ends the request. -/
theorem handed_page {info : Info} {written : Written} {r : Request} {page rest : List UInt8}
    {out : Request × List UInt8} (alive : r.status ≠ .dead)
    (answered : Answered written r page out) :
    Handed info (Fails written) page (out.1, rest, out.2, 0) := by
  rcases answered with ⟨left, split, buffered, status⟩ | ⟨fails, none, dead, -⟩
  · exact .inl ⟨left, split, .inr ⟨rfl, by rw [status]; exact alive, buffered⟩⟩
  · exact .inr ⟨fails, none, .inl dead⟩

/-- A page after which the request is done. -/
theorem handed_done {info : Info} {written : Written} {r : Request} {page rest : List UInt8}
    {out : Request × List UInt8} (answered : Answered written r page out) :
    Handed info (Fails written) page ({ out.1 with status := .done }, rest, out.2, 1) := by
  rcases answered with ⟨left, split, buffered, -⟩ | ⟨fails, none, -, buffered⟩
  · refine .inl ⟨left, split, .inl ⟨Int.one_ne_zero, .closes rfl ?_⟩⟩
    exact ⟨buffered.held, buffered.proper, buffered.bounded, buffered.reset⟩
  · refine .inr ⟨fails, none, .inr ⟨rfl, ?_⟩⟩
    exact ⟨buffered.held, buffered.proper, buffered.bounded, buffered.reset⟩

/-- The end of the front whose items meet a test. -/
theorem drop_takeWhile {α : Type} {test : α → Bool} {items : List α} {amount : ℕ}
    (inside : amount ≤ (items.takeWhile test).length) :
    (items.drop amount).takeWhile test = (items.takeWhile test).drop amount := by
  induction items generalizing amount with
  | nil => simp
  | cons item items ih =>
    cases amount with
    | zero => rfl
    | succ amount =>
      rw [List.takeWhile_cons] at inside ⊢
      split at inside
      · rename_i meets
        rw [if_pos meets, List.drop_succ_cons, List.drop_succ_cons]
        exact ih (by simpa using inside)
      · simp at inside

/-- A line `Location` has a newline behind it, and no carriage return before the address. -/
theorem location_line {text : List UInt8} {c : ℕ} (found : headerEndOf text = some c)
    (starts : startsWith (ascii "Location: ") text) :
    10 < text.length ∧ (10 : UInt8) ∈ text.drop 10 ∧ text.getD 9 0 ≠ 13 := by
  obtain ⟨newline, next⟩ := headerEndOf_some found
  have length : c + 1 < text.length := by
    rcases next with plain | ⟨returns, -⟩
    · exact (List.getElem?_eq_some_iff.mp plain).1
    · exact (List.getElem?_eq_some_iff.mp returns).1
  -- the word holds neither a newline nor a carriage return
  have letter : ∀ offset < 10, ∀ d, text[offset]? = some d →
      (ascii "Location: ").map toLower = (text.take 10).map toLower →
      toLower d ∈ (ascii "Location: ").map toLower := by
    intro offset few d there same
    rw [same]
    apply List.mem_map_of_mem
    exact List.mem_of_getElem? (i := offset) (by rw [List.getElem?_take_of_lt few, there])
  have same : (ascii "Location: ").map toLower = (text.take 10).map toLower := starts.symm
  have far : 10 ≤ c := by
    by_contra near
    have member := letter c (by omega) 10 newline same
    revert member
    decide
  refine ⟨by omega, ?_, ?_⟩
  · apply List.mem_of_getElem? (i := c - 10)
    rw [List.getElem?_drop, Nat.add_sub_cancel' far]
    exact newline
  · intro returns
    have cell : text[9]? = some 13 := by
      rw [List.getD_eq_getElem?_getD, List.getElem?_eq_getElem (by omega), Option.getD_some] at returns
      rw [List.getElem?_eq_getElem (by omega), returns]
    have member := letter 9 (by omega) 13 cell same
    revert member
    decide

/-- The head of a script's response is short. -/
theorem length_cgiHead (info : Info) : (cgiHead info).length = 94 := by
  have line : (ascii "HTTP/1.1 200 OK\r\n").length = 17 := by decide
  rw [cgiHead, List.length_append, line, length_closing]

/-- The bytes between the pointers are moved behind what waits. -/
theorem buffered_moveBehind {r : Request} {waiting bytes : List UInt8}
    (buffered : Buffered r waiting) (there : slice r.buffer r.headerLine r.headerEnd = bytes)
    (fits : r.bufferEnd + (r.headerEnd - r.headerLine) ≤ bufferSize) :
    Buffered (moveBehind r) (waiting ++ bytes) := by
  have size : bytes.length = r.headerEnd - r.headerLine := by
    rw [← there, length_slice]
  have pushed := buffered.push (by rw [size]; exact fits : r.bufferEnd + bytes.length ≤ bufferSize)
  rw [Request.push, size, ← there] at pushed
  rw [← there]
  exact ⟨pushed.held, pushed.proper, pushed.bounded, pushed.reset⟩

/-- What `process_cgi_header` does with the bytes it moves, when they fit. -/
theorem plainHeader_eq {info : Info} {written : Written} {c : ℕ} {r q moved : Request}
    (ok : sendRequestOk info r = q)
    (cut : (if q.method = .head then
      { q with headerEnd := pastHeader q.buffer c, cgiStatus := .done } else q) = moved)
    (fits : moved.bufferEnd + (moved.headerEnd - moved.headerLine) ≤ bufferSize) :
    plainHeader info written c r = ((reqFlush written (moveBehind moved)).1,
      (reqFlush written (moveBehind moved)).2.1, if moved.method = .head then 0 else 1) := by
  rw [plainHeader, ok]
  simp only [cut]
  rw [if_neg (by omega)]

namespace Parsing

variable {info : Info} {r : Request} {seen rest : List UInt8} (parsing : Parsing r seen rest)

include parsing

/-- The status of the header is settled already. -/
theorem cgi_settled :
    (if r.cgiStatus = .done then r else { r with cgiStatus := .buffer }) = r := by
  rcases parsing.cgi with buffer | ⟨done, -⟩
  · obtain ⟨⟩ := r
    simp only at buffer
    subst buffer
    rfl
  · rw [if_pos done]

/-- The header is not read any more. -/
theorem cgi_ne : r.cgiStatus ≠ .parse := by
  rcases parsing.cgi with buffer | ⟨done, -⟩
  · rw [buffer]
    decide
  · rw [done]
    decide

/-- The pipe has nothing more when the script is done. -/
theorem ended (done : r.cgiStatus = .done) : r.status = .pipeWrite ∧ rest = [] := by
  rcases parsing.cgi with buffer | ⟨-, ended⟩
  · rw [buffer] at done
    cases done
  · exact ended

/-- The script's bytes from an offset on are moved through the pipe. -/
theorem pipes {q : Request} (offset : ℕ) (word : List UInt8) (line : q.headerLine ≤ r.headerEnd)
    (stop : q.headerEnd = r.headerEnd) (status : q.status = r.status)
    (cgi : q.cgiStatus = r.cgiStatus) (empty : Buffered q []) (few : offset ≤ seen.length)
    (held : slice q.buffer q.headerLine r.headerEnd = word ++ seen.drop offset) :
    Owes info q rest (word ++ (seen ++ rest).drop offset) := by
  refine .pipes [] (by rw [status]; exact parsing.status) (by rw [cgi]; exact parsing.cgi_ne) empty
    (by rw [stop]; exact line) (by rw [stop]; exact parsing.bounded) ?_ ?_
  · intro done
    rw [cgi] at done
    rw [status]
    exact parsing.ended done
  · rw [stop, held, List.nil_append, List.append_assoc, List.drop_append_of_le_length few]

/-- HTTP/0.9: the header is skipped. -/
theorem simple_handed {c : ℕ} (found : headerEndOf (textOf (seen ++ rest)) = some c)
    (fails : Prop) :
    Handed info fails ((seen ++ rest).drop (pastOf seen c))
      ({ r with headerLine := pastHeader r.buffer (bufferSize / 2 + c) }, rest, [], 1) := by
  obtain ⟨past, inside⟩ := parsing.past found
  have length := parsing.length_seen
  refine .inl ⟨_, rfl, .inl ⟨Int.one_ne_zero, ?_⟩⟩
  rw [past]
  refine parsing.pipes (pastOf seen c) [] ?_ rfl rfl rfl ?_ inside ?_
  · show bufferSize / 2 + pastOf seen c ≤ r.headerEnd
    omega
  · exact ⟨parsing.empty.held, parsing.empty.proper, parsing.empty.bounded, parsing.empty.reset⟩
  · show slice r.buffer (bufferSize / 2 + pastOf seen c) r.headerEnd = _
    rw [← drop_slice, parsing.there, List.nil_append]

/-- A status: the word `Status: ` is overwritten by the protocol's name. -/
theorem status_handed (starts : startsWith (ascii "Status: ") (textOf (seen ++ rest)))
    (fails : Prop) :
    Handed info fails (ascii "HTTP/1.0 " ++ (seen ++ rest).drop 8)
      ({ r with
        headerLine := bufferSize / 2 - 1
        buffer := put r.buffer (bufferSize / 2 - 1) (ascii "HTTP/1.0 ") }, rest, [], 1) := by
  have length := parsing.length_seen
  have word : (ascii "HTTP/1.0 ").length = 9 := by decide
  have half : bufferSize / 2 = 4096 := rfl
  have long : 8 ≤ seen.length := by
    have same := congrArg List.length starts
    have size : (ascii "Status: ").length = 8 := by decide
    rw [List.length_map, List.length_map, List.length_take, size, textOf, parsing.front] at same
    have shorter := (List.takeWhile_prefix (p := fun c : UInt8 => c ≠ 0) (l := seen)).length_le
    omega
  refine .inl ⟨_, rfl, .inl ⟨Int.one_ne_zero, ?_⟩⟩
  refine parsing.pipes 8 (ascii "HTTP/1.0 ") ?_ rfl rfl rfl ?_ long ?_
  · show bufferSize / 2 - 1 ≤ r.headerEnd
    omega
  · have zero := parsing.empty.nil_iff.mp rfl
    have proper := parsing.empty.proper
    exact buffered_empty (by show r.bufferStart = 0; omega) zero
  · show slice (put r.buffer (bufferSize / 2 - 1) (ascii "HTTP/1.0 ")) (bufferSize / 2 - 1)
      r.headerEnd = _
    have written := slice_put r.buffer (bufferSize / 2 - 1) (ascii "HTTP/1.0 ")
    have behind : slice (put r.buffer (bufferSize / 2 - 1) (ascii "HTTP/1.0 "))
        (bufferSize / 2 - 1 + 9) r.headerEnd = seen.drop 8 := by
      rw [slice_put_beside (.inr (by rw [word])), ← parsing.there, drop_slice, half]
    rw [word] at written
    rw [← slice_append (by omega : bufferSize / 2 - 1 ≤ bufferSize / 2 - 1 + 9)
      (by omega : bufferSize / 2 - 1 + 9 ≤ r.headerEnd), written, behind]

/-- The text from an offset on. -/
theorem text_drop {offset : ℕ} (inside : offset ≤ (textOf (seen ++ rest)).length) :
    cstr r.buffer (bufferSize / 2 + offset) = (textOf (seen ++ rest)).drop offset := by
  have length := parsing.length_seen
  rw [textOf, parsing.front] at inside ⊢
  have shorter := (List.takeWhile_prefix (p := fun c : UInt8 => c ≠ 0) (l := seen)).length_le
  rw [cstr_of_slice (by omega) parsing.bounded parsing.ends, ← drop_slice, parsing.there,
    drop_takeWhile inside]

/-- A piece of the text is in the buffer. -/
theorem text_slice {offset : ℕ} {piece : List UInt8}
    (front : piece <+: (textOf (seen ++ rest)).drop offset) :
    slice r.buffer (bufferSize / 2 + offset) (bufferSize / 2 + offset + piece.length) = piece := by
  have length := parsing.length_seen
  rw [textOf, parsing.front] at front
  have whole : piece <+: seen.drop offset :=
    front.trans ((List.takeWhile_prefix _).drop offset)
  have fits := whole.length_le
  rw [List.length_drop] at fits
  rcases Nat.eq_zero_or_pos piece.length with none | some
  · rw [List.length_eq_zero_iff.mp none, List.length_nil, Nat.add_zero, slice_self]
  · rw [← take_slice piece.length (by omega : _ ≤ r.headerEnd), ← drop_slice, parsing.there]
    exact (List.prefix_iff_eq_take.mp whole).symm

/-- What is behind a cut and the line ends after it. -/
theorem more_behind {offset : ℕ} (inside : offset < seen.length) (buffer : ℕ → UInt8)
    (cut : buffer = put r.buffer (bufferSize / 2 + offset) [0]) (c2 : ℕ)
    (over_ : overLineEnds buffer (r.headerEnd - (bufferSize / 2 + offset + 1))
      (bufferSize / 2 + offset + 1) = c2) (more : List UInt8)
    (all : more = ((seen.drop (offset + 1)).dropWhile fun c => c = 10 ∨ c = 13).takeWhile (· ≠ 0)) :
    ((if c2 = r.headerEnd then none else some c2) = none ∧ more = []) ∨
      ∃ position, (if c2 = r.headerEnd then none else some c2) = some position ∧
        bufferSize / 2 ≤ position ∧ cstr buffer position = more := by
  have length := parsing.length_seen
  have rest_ : slice buffer (bufferSize / 2 + offset + 1) r.headerEnd = seen.drop (offset + 1) := by
    rw [cut, slice_put_beside (.inr (by simp)), ← parsing.there, drop_slice, Nat.add_assoc]
  have split := List.takeWhile_append_dropWhile (p := fun c : UInt8 => c = 10 ∨ c = 13)
    (l := seen.drop (offset + 1))
  have size := congrArg List.length split
  rw [List.length_append, List.length_drop] at size
  have turns : bufferSize / 2 + offset + 1 + (r.headerEnd - (bufferSize / 2 + offset + 1)) =
      r.headerEnd := by omega
  rw [overLineEnds_eq, turns, rest_] at over_
  by_cases last : c2 = r.headerEnd
  · have none : (seen.drop (offset + 1)).dropWhile (fun c => c = 10 ∨ c = 13) = [] :=
      List.length_eq_zero_iff.mp (by omega)
    refine .inl ⟨if_pos last, ?_⟩
    rw [all, none]
    rfl
  · refine .inr ⟨c2, if_neg last, by omega, ?_⟩
    have ends : buffer r.headerEnd = 0 := by
      rw [cut, put_after (by rw [List.length_singleton]; omega), parsing.ends]
    rw [all, cstr_of_slice (by omega) parsing.bounded ends, ← over_, ← drop_slice, rest_]
    congr 1
    conv_lhs => rw [← split]
    exact List.drop_left' (by simp)

/-- The request with the address ended by a NUL, and the lines behind it. -/
theorem redirects {c : ℕ} (found : headerEndOf (textOf (seen ++ rest)) = some c)
    (starts : startsWith (ascii "Location: ") (textOf (seen ++ rest))) :
    ∃ newline, newlineAfter r.buffer (bufferSize / 2 + 10) = some newline ∧
      ∃ cut, backOverReturns r.buffer (newline - 1) + 1 = cut ∧
      ∃ c2, overLineEnds (put r.buffer cut [0]) (r.headerEnd - (cut + 1)) (cut + 1) = c2 ∧
      Redirects { r with buffer := put r.buffer cut [0] } (bufferSize / 2 + 10)
        (if c2 = r.headerEnd then none else some c2) (locationUrl (textOf (seen ++ rest)))
        (locationMore seen (textOf (seen ++ rest))) := by
  obtain ⟨long, newline, stops⟩ := location_line found starts
  have shorter : (textOf (seen ++ rest)).length ≤ seen.length := by
    rw [textOf, parsing.front]
    exact (List.takeWhile_prefix _).length_le
  have byte : r.buffer (bufferSize / 2 + 10 - 1) ≠ 13 := by
    have nine : (textOf (seen ++ rest))[9]? = some ((textOf (seen ++ rest)).getD 9 0) := by
      rw [List.getD_eq_getElem _ _ (by omega), List.getElem?_eq_getElem]
    rw [show bufferSize / 2 + 10 - 1 = bufferSize / 2 + 9 from rfl, (parsing.text_byte nine).2]
    exact stops
  have lineFront : ((textOf (seen ++ rest)).drop 10).takeWhile (· ≠ 10) <+:
      (textOf (seen ++ rest)).drop 10 := List.takeWhile_prefix _
  have urlFront : locationUrl (textOf (seen ++ rest)) <+: (textOf (seen ++ rest)).drop 10 :=
    (List.rdropWhile_prefix _ _).trans lineFront
  have before : (locationUrl (textOf (seen ++ rest))).length <
      ((textOf (seen ++ rest)).drop 10).length := by
    have short := (List.rdropWhile_prefix (fun c : UInt8 => c = 13)
      (((textOf (seen ++ rest)).drop 10).takeWhile (· ≠ 10))).length_le
    have cell := (strstr_starts (strstr_byte newline)).length_le
    rw [List.length_drop, List.length_singleton] at cell
    rw [locationUrl]
    omega
  have solid : ∀ d ∈ locationUrl (textOf (seen ++ rest)), d ≠ 0 := by
    intro d member
    have inText : d ∈ textOf (seen ++ rest) := List.mem_of_mem_drop (urlFront.subset member)
    simpa using List.mem_takeWhile_imp inText
  refine ⟨_, ?_, bufferSize / 2 + 10 + (locationUrl (textOf (seen ++ rest))).length,
    backOverReturns_eq (by omega) byte (parsing.text_slice lineFront), _, rfl, ?_⟩
  · rw [newlineAfter, parsing.text_drop (by omega), strstr_byte newline, Option.map_some]
  · have place : bufferSize / 2 + 10 + (locationUrl (textOf (seen ++ rest))).length =
        bufferSize / 2 + ((locationUrl (textOf (seen ++ rest))).length + 10) := by omega
    rw [List.length_drop] at before
    refine ⟨by omega, solid, ?_, ?_, ?_⟩
    · show slice (put r.buffer _ [0]) _ _ = _
      rw [slice_put_beside (.inl (Nat.le_refl _))]
      exact parsing.text_slice urlFront
    · show put r.buffer _ [0] _ = 0
      simp [put]
    · have inside : (locationUrl (textOf (seen ++ rest))).length + 10 < seen.length := by omega
      refine parsing.more_behind inside _ (by rw [← place]) _ ?_ _ rfl
      rw [← place]

/-- A location: the page of a redirection, or of an error for one on this server. -/
theorem location_handed (written : Written) {c : ℕ}
    (found : headerEndOf (textOf (seen ++ rest)) = some c)
    (starts : startsWith (ascii "Location: ") (textOf (seen ++ rest)))
    (fits : RedirectFits info r.method r.simple (seen ++ rest)) :
    Handed info (Fails written)
      (if (textOf (seen ++ rest)).getD 10 0 = 47 then
        errorPage (ascii "HTTP/1.0 400 Bad Request\r\n") badRequestBody info r.method r.simple
      else movedPage info r.method r.simple (locationUrl (textOf (seen ++ rest)))
        (locationMore seen (textOf (seen ++ rest))))
      ((locationHeader info written (bufferSize / 2) r).1, rest,
        (locationHeader info written (bufferSize / 2) r).2, 1) := by
  obtain ⟨long, -, -⟩ := location_line found starts
  have ten : (textOf (seen ++ rest))[10]? = some ((textOf (seen ++ rest)).getD 10 0) := by
    rw [List.getD_eq_getElem _ _ long, List.getElem?_eq_getElem]
  have byte := (parsing.text_byte ten).2
  rw [locationHeader, byte]
  split
  · have short : (ascii "HTTP/1.0 400 Bad Request\r\n").length + badRequestBody.length + 124 ≤
        bufferSize := by
      set_option maxRecDepth 8000 in
      decide
    exact handed_done (sendErrorPage_answered rBadRequest info written parsing.empty parsing.alive
      short)
  · obtain ⟨newline, at_newline, cut, at_cut, c2, at_c2, behind⟩ := parsing.redirects found starts
    have page := fits starts
    rw [parsing.front] at page
    let q : Request := { r with buffer := put r.buffer cut [0] }
    have zero : q.bufferEnd = 0 := parsing.empty.nil_iff.mp rfl
    have start : q.bufferStart = 0 := by
      have proper := parsing.empty.proper
      have same : r.bufferEnd = 0 := zero
      show r.bufferStart = 0
      omega
    have answered := sendMovedTemp_answered info written (buffered_empty start zero)
      (show q.status ≠ .dead from parsing.alive) behind page
    simp only [at_newline, at_cut, at_c2]
    exact handed_done answered

/-- The head of the response is written in front of the script's bytes. -/
theorem ok_written (full : r.simple = false) :
    sendRequestOk info r = ({ r with responseStatus := rRequestOk } : Request).push (cgiHead info) := by
  let q : Request := { r with responseStatus := rRequestOk }
  have stopped : q.keepalive = .stopped := parsing.stopped
  have texts : (okTexts info q).flatten = cgiHead info := by
    rw [okTexts, if_pos (show q.isCgi = true from parsing.isCgi), List.append_nil,
      List.flatten_cons, httpHeaders_stopped info stopped, cgiHead]
  have zero : q.bufferEnd = 0 := parsing.empty.nil_iff.mp rfl
  rw [sendRequestOk, if_neg (by rw [full]; decide), ← texts]
  apply reqWrites_of_fits (show q.status ≠ .dead from parsing.alive)
  rw [texts, length_cgiHead, zero]
  decide

/-- Neither: the head of the response and the script's bytes behind it. -/
theorem plain_handed (written : Written) {c : ℕ} (full : r.simple = false)
    (found : headerEndOf (textOf (seen ++ rest)) = some c) :
    Handed info (Fails written)
      (cgiHead info ++ if r.method = .head then (seen ++ rest).take (pastOf seen c)
        else seen ++ rest)
      ((plainHeader info written (bufferSize / 2 + c) r).1, rest,
        (plainHeader info written (bufferSize / 2 + c) r).2) := by
  obtain ⟨past, inside⟩ := parsing.past found
  have length := parsing.length_seen
  have bounded := parsing.bounded
  have half : bufferSize / 2 = 4096 := rfl
  have whole : bufferSize = 8192 := rfl
  have zero : r.bufferEnd = 0 := parsing.empty.nil_iff.mp rfl
  let q : Request := ({ r with responseStatus := rRequestOk } : Request).push (cgiHead info)
  have stop : q.bufferEnd = 94 := by
    show r.bufferEnd + (cgiHead info).length = 94
    rw [zero, length_cgiHead]
  have waits : Buffered q ([] ++ cgiHead info) := by
    have prepared : Buffered ({ r with responseStatus := rRequestOk } : Request) [] :=
      ⟨parsing.empty.held, parsing.empty.proper, parsing.empty.bounded, parsing.empty.reset⟩
    apply prepared.push
    show r.bufferEnd + (cgiHead info).length ≤ bufferSize
    rw [zero, length_cgiHead]
    decide
  have line : q.headerLine = bufferSize / 2 := parsing.line
  -- the script's bytes are still there
  have kept : slice q.buffer (bufferSize / 2) r.headerEnd = seen := by
    rw [← parsing.there]
    show slice (put r.buffer r.bufferEnd (cgiHead info)) _ _ = _
    apply slice_put_beside
    rw [zero, length_cgiHead, half]
    omega
  by_cases method : r.method = .head
  · have same : pastHeader q.buffer (bufferSize / 2 + c) = bufferSize / 2 + pastOf seen c := by
      rw [← past, pastHeader, pastHeader]
      have cell : q.buffer (bufferSize / 2 + c + 1) = r.buffer (bufferSize / 2 + c + 1) := by
        show put r.buffer r.bufferEnd (cgiHead info) _ = _
        apply put_after
        rw [zero, length_cgiHead, half]
        omega
      rw [cell]
    let moved : Request := { q with
      headerEnd := bufferSize / 2 + pastOf seen c, cgiStatus := .done }
    have front : slice q.buffer (bufferSize / 2) (bufferSize / 2 + pastOf seen c) =
        (seen ++ rest).take (pastOf seen c) := by
      rw [← take_slice (pastOf seen c) (by omega : _ ≤ r.headerEnd), kept,
        List.take_append_of_le_length inside]
    have bytes : slice moved.buffer moved.headerLine moved.headerEnd =
        (seen ++ rest).take (pastOf seen c) := by
      show slice q.buffer q.headerLine (bufferSize / 2 + pastOf seen c) = _
      rw [line, front]
    have buffered : Buffered moved ([] ++ cgiHead info) :=
      ⟨waits.held, waits.proper, waits.bounded, waits.reset⟩
    have fits : moved.bufferEnd + (moved.headerEnd - moved.headerLine) ≤ bufferSize := by
      show q.bufferEnd + (bufferSize / 2 + pastOf seen c - q.headerLine) ≤ bufferSize
      omega
    have alive : (moveBehind moved).status ≠ .dead := parsing.alive
    have cut : (if q.method = .head then
        { q with headerEnd := pastHeader q.buffer (bufferSize / 2 + c), cgiStatus := .done }
        else q) = moved := by
      rw [if_pos (show q.method = .head from method), same]
    rw [plainHeader_eq (parsing.ok_written full) cut fits, if_pos method,
      if_pos (show moved.method = .head from method)]
    exact handed_page alive
      (answered_flush written (buffered_moveBehind buffered bytes fits) alive)
  · have bytes : slice q.buffer q.headerLine q.headerEnd = seen := by
      rw [line]
      exact kept
    have fits : q.bufferEnd + (q.headerEnd - q.headerLine) ≤ bufferSize := by
      show q.bufferEnd + (r.headerEnd - q.headerLine) ≤ bufferSize
      omega
    have alive : (moveBehind q).status ≠ .dead := parsing.alive
    rw [plainHeader_eq (parsing.ok_written full) (if_neg method) fits, if_neg method,
      if_neg (show ¬q.method = .head from method)]
    have behind := buffered_moveBehind waits bytes fits
    rcases reqFlush_cases written behind alive with
      ⟨start, stop', left, sent, result, split, remains⟩ | ⟨fails, -, result⟩
    · rw [result]
      have last : (moveBehind q).headerEnd ≤ bufferSize := fits
      refine .inl ⟨left ++ rest, ?_, .inl ⟨Int.one_ne_zero, ?_⟩⟩
      · rw [← List.append_assoc, ← List.append_assoc, ← split, List.nil_append]
      · refine .pipes left parsing.status parsing.cgi_ne remains (Nat.le_refl _) last
          parsing.ended ?_
        show left ++ rest =
          left ++ slice _ (moveBehind q).headerLine (moveBehind q).headerLine ++ rest
        rw [slice_self, List.append_nil]
    · rw [result]
      exact .inr ⟨fails, rfl, .inl rfl⟩

/-- `process_cgi_header` hands the client the front of its response. -/
theorem header_handed (written : Written) (fits : RedirectFits info r.method r.simple (seen ++ rest)) :
    Handed info (Fails written) (relayed info r.method r.simple (seen ++ rest))
      ((processCgiHeader info written r).1, rest, (processCgiHeader info written r).2) := by
  have gateway : (ascii "HTTP/1.0 502 Bad Gateway\r\n").length + badGatewayBody.length + 124 ≤
      bufferSize := by
    set_option maxRecDepth 8000 in
    decide
  rw [processCgiHeader, parsing.cgi_settled, parsing.cstr_line, relayed, parsing.front]
  cases found : headerEndOf (textOf (seen ++ rest)) with
  | none =>
    exact handed_page parsing.alive
      (sendErrorPage_answered rBadGateway info written parsing.empty parsing.alive gateway)
  | some c =>
    simp only [parsing.line]
    by_cases simple : r.simple = true
    · rw [if_pos simple, if_pos simple]
      exact parsing.simple_handed found _
    rw [if_neg simple, if_neg simple]
    by_cases status : startsWith (ascii "Status: ") (textOf (seen ++ rest))
    · rw [if_pos status, if_pos status]
      exact parsing.status_handed status _
    rw [if_neg status, if_neg status]
    by_cases location : startsWith (ascii "Location: ") (textOf (seen ++ rest))
    · rw [if_pos location, if_pos location]
      exact parsing.location_handed written found location fits
    rw [if_neg location, if_neg location]
    exact parsing.plain_handed written (Bool.eq_false_iff.mpr simple) found

end Parsing

end BoaIpcam.Relay
