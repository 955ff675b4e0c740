import BoaIpcam.Intake.Asked
import BoaIpcam.Lib.Feed

/-!
# The requests of a stream

A stream asks for one request after the other, as long as each keeps the connection alive. Over a
connection the server hands these requests to `process_header_end`, in this order, each once, and
a script gets exactly the body of its POST; neither depends on how the stream is cut into reads.
-/
namespace BoaIpcam.Intake

/-! ## The requests -/

/-- The header of a complete request, with the bytes behind it. -/
def Asked.heads : Asked → List (Head × List UInt8)
  | .complete head rest => [(head, rest)]
  | _ => []

/-- Where the next request begins, when the connection is kept alive. -/
def Asked.next : Asked → Option (List UInt8)
  | .complete head rest => if head.fields.keepalive = .active then some rest else none
  | .dropped fields rest => if fields.keepalive = .active then some rest else none
  | _ => none

/-- The headers that a connection asks for from a request on, with the bytes behind each, when so many
requests may follow it. -/
def requestsFrom (kaMax : ℕ) : ℕ → Asked → List (Head × List UInt8)
  | 0, a => a.heads
  | kacount + 1, a =>
    a.heads ++ a.next.elim [] fun rest => requestsFrom kaMax kacount (asked kaMax [] rest)

/-- The headers that a stream asks for. -/
def requests (kaMax : ℕ) (stream : List UInt8) : List (Head × List UInt8) :=
  requestsFrom kaMax kaMax (asked kaMax [] stream)

section

variable {kaMax kacount : ℕ} {fields : Fields} {rest : List UInt8}

/-- A request that was refused. -/
theorem requestsFrom_refused : requestsFrom kaMax kacount .refused = [] := by
  cases kacount <;> rfl

/-- What follows a complete request follows one that was dropped after the same lines. -/
theorem requestsFrom_complete (head : Head) :
    requestsFrom kaMax kacount (.complete head rest) =
      (head, rest) :: requestsFrom kaMax kacount (.dropped head.fields rest) := by
  cases kacount <;> rfl

/-- The next request. -/
theorem requestsFrom_kept (active : fields.keepalive = .active) (some : 0 < kacount) :
    requestsFrom kaMax kacount (.dropped fields rest) =
      requestsFrom kaMax (kacount - 1) (asked kaMax [] rest) := by
  cases kacount with
  | zero => exact absurd some (Nat.lt_irrefl 0)
  | succ kacount =>
    rw [requestsFrom, Asked.next, if_pos active]
    rfl

end

/-! ## The state of a connection -/

/-- The body of a POST is the part of the stream that its header announces. -/
def Stored (request : Head × List UInt8) (stored : List UInt8) : Prop :=
  ∃ text, request.1.fields.contentLength = some text ∧ 0 < boaAtoi text ∧
    (stored.length : ℤ) = boaAtoi text ∧ stored <+: request.2

/-- A body that is read: what was stored, what is in the buffer and what the client has still to send
of it are the body in this order, and the buffer is large enough. -/
structure Upload.Of (u : Upload) (incoming : List UInt8) (request : Head × List UInt8) : Prop where
  /-- The header announces the size. -/
  announced : ∃ text, request.1.fields.contentLength = some text ∧ 0 < boaAtoi text ∧
    (u.filesize : ℤ) = boaAtoi text
  /-- What was stored is counted. -/
  position : u.filepos = u.stored.length
  /-- No more was received than is announced. -/
  fits : u.stored.length + u.chunk.length ≤ u.filesize
  /-- What is stored, held and still to come is the body. -/
  body : u.stored ++ (u.chunk ++ incoming.take (u.filesize - (u.stored.length + u.chunk.length))) =
    request.2.take u.filesize
  /-- The bytes fit the buffer. -/
  room : u.start + u.chunk.length ≤ bufferSize
  /-- Nothing is held before the client is read. -/
  empty : u.reading = true → u.chunk = [] ∧ u.start = 0

namespace Connection

/-- The bytes that are not parsed, those that were read first. -/
def rest (c : Connection) : List UInt8 := c.req.unparsed ++ c.incoming

/-- How the headers that were handed on so far stand to those the stream asks for. -/
def Follows (kaMax : ℕ) (all done : List (Head × List UInt8)) (c : Connection) : Prop :=
  match c.phase with
  | .header => c.req.Reads ∧
      all = done ++ requestsFrom kaMax c.kacount (c.req.resume kaMax c.rest)
  | .answered => done <+: all ∧ (c.req.fields.keepalive = .active →
      all = done ++ requestsFrom kaMax c.kacount (.dropped c.req.fields c.rest))
  | .script stored => done <+: all ∧ c.req.fields.keepalive ≠ .active ∧
      ∃ request, done.getLast? = some request ∧ Stored request stored
  | .body upload => done <+: all ∧ ∃ request, done.getLast? = some request ∧
      upload.Of c.incoming request
  | .away => done <+: all
  | .closed => done <+: all

/-- A connection that has served its stream so far. -/
def Serves (kaMax : ℕ) (stream : List UInt8) (c : Connection) : Prop :=
  c.req.clientStream.length ≤ clientStreamSize ∧
    ∃ done, c.heads = done.map Prod.fst ∧ c.Follows kaMax (requests kaMax stream) done

variable {kaMax : ℕ} {stream : List UInt8} {c : Connection}

/-- A connection that was accepted. -/
theorem serves_accepted (config : Config) (stream : List UInt8) :
    (accepted config stream).Serves config.kaMax stream :=
  ⟨Nat.zero_le _, [], rfl, Incoming.reads_new [], rfl⟩

/-! ## Steps -/

/-- The headers handed on are a front of those the stream asks for. -/
theorem Follows.front {all done : List (Head × List UInt8)} (follows : c.Follows kaMax all done) :
    done <+: all := by
  unfold Follows at follows
  cases phase : c.phase <;> rw [phase] at follows
  · exact ⟨_, follows.2.symm⟩
  · exact follows.1
  · exact follows.1
  · exact follows.1
  · exact follows
  · exact follows

/-- A connection is closed. -/
theorem serves_closed (serves : c.Serves kaMax stream) :
    { c with phase := .closed }.Serves kaMax stream := by
  obtain ⟨short, done, heads, follows⟩ := serves
  exact ⟨short, done, heads, follows.front⟩

/-- A page that gives up the connection does not keep it. -/
theorem page_keepalive (phase : Phase) : (c.page phase).req.fields.keepalive ≠ .active := by
  intro active
  cases active

/-- A page that gives up the connection. -/
theorem serves_page (serves : c.Serves kaMax stream) :
    (c.page .answered).Serves kaMax stream := by
  obtain ⟨short, done, heads, follows⟩ := serves
  exact ⟨short, done, heads, follows.front, fun active => absurd active (page_keepalive _)⟩

/-- A request is freed, and the next one begins or the connection is closed. -/
theorem serves_free {keeps : Bool} {done : List (Head × List UInt8)}
    (short : c.req.clientStream.length ≤ clientStreamSize) (heads : c.heads = done.map Prod.fst)
    (front : done <+: requests kaMax stream)
    (active : c.req.fields.keepalive = .active →
      requests kaMax stream =
        done ++ requestsFrom kaMax c.kacount (.dropped c.req.fields c.rest)) :
    (c.free keeps).Serves kaMax stream := by
  rw [free]
  split
  · rename_i kept
    have less : (c.req.clientStream.drop c.req.parsePos).length ≤ clientStreamSize := by
      rw [List.length_drop]
      omega
    have all := active kept.2.1
    rw [requestsFrom_kept kept.2.1 kept.2.2] at all
    exact ⟨less, done, heads, Incoming.reads_new _, all⟩
  · exact ⟨short, done, heads, front⟩

/-- The header of a POST is complete. -/
theorem serves_startBody {config : Config} {done : List (Head × List UInt8)}
    {request : Head × List UInt8} (short : c.req.clientStream.length ≤ clientStreamSize)
    (inside : c.req.parsePos ≤ c.req.clientStream.length)
    (heads : c.heads = done.map Prod.fst) (front : done <+: requests kaMax stream)
    (last : done.getLast? = some request) (fields : request.1.fields = c.req.fields)
    (behind : request.2 = c.rest) : (c.startBody config).Serves kaMax stream := by
  have page : (c.page .answered).Serves kaMax stream :=
    ⟨short, done, heads, front, fun active => absurd active (page_keepalive _)⟩
  unfold startBody
  split
  · exact page
  · rename_i text announced
    dsimp only
    split
    · exact page
    · rename_i positive
      split
      · exact page
      · have size : ((boaAtoi text).toNat : ℤ) = boaAtoi text := Int.toNat_of_nonneg (by omega)
        refine ⟨short, done, heads, front, request, last, ?_⟩
        have split : ∀ n, c.req.unparsed.take n ++
            c.incoming.take (n - (0 + (c.req.unparsed.take n).length)) = c.rest.take n := by
          intro n
          rw [rest, List.take_append, List.length_take]
          congr 2
          omega
        have room : ∀ n, c.req.parsePos + (c.req.unparsed.take n).length ≤ bufferSize := by
          intro n
          have same : bufferSize = clientStreamSize := rfl
          rw [List.length_take, Incoming.unparsed, List.length_drop]
          omega
        have fits : ∀ n, 0 + (c.req.unparsed.take n).length ≤ n := by
          intro n
          rw [Nat.zero_add]
          exact List.length_take_le _ _
        refine ⟨⟨text, fields ▸ announced, by omega, size⟩, rfl, fits _, ?_, room _,
          fun reading => absurd reading Bool.false_ne_true⟩
        rw [behind]
        exact split _

/-- The header is complete. -/
theorem serves_headerEnds {config : Config} {verdict : Verdict} {logline : Logline}
    {done : List (Head × List UInt8)}
    (whole : ¬(verdict = .begun ∧ logline.method = some .post ∧ logline.simple)) (short : c.req.clientStream.length ≤ clientStreamSize)
    (inside : c.req.parsePos ≤ c.req.clientStream.length) (heads : c.heads = done.map Prod.fst)
    (all : requests kaMax stream = done ++ requestsFrom kaMax c.kacount
      (.complete ⟨logline, c.req.fields⟩ c.rest)) :
    (c.headerEnds config verdict logline).Serves kaMax stream := by
  rw [requestsFrom_complete] at all
  have head : c.heads ++ [(⟨logline, c.req.fields⟩ : Head)] =
      (done ++ [((⟨logline, c.req.fields⟩, c.rest) : Head × List UInt8)]).map Prod.fst := by
    rw [List.map_append, heads]
    rfl
  have more : requests kaMax stream = (done ++ [((⟨logline, c.req.fields⟩, c.rest) : Head × List UInt8)]) ++
      requestsFrom kaMax c.kacount (.dropped c.req.fields c.rest) := by
    rw [all, List.append_assoc]
    rfl
  have front : done ++ [((⟨logline, c.req.fields⟩, c.rest) : Head × List UInt8)] <+: requests kaMax stream :=
    ⟨_, more.symm⟩
  cases verdict with
  | refused => exact ⟨short, _, head, front, fun _ => more⟩
  | elsewhere => exact ⟨short, _, head, front⟩
  | begun =>
    unfold headerEnds
    dsimp only
    split
    · rename_i post
      split
      · rename_i simple
        exact absurd ⟨rfl, post, simple⟩ whole
      · exact serves_startBody short inside head front (List.getLast?_concat ..) rfl rfl
    · exact ⟨short, _, head, front, fun _ => more⟩

/-- The next bytes of the stream are read behind a text that is parsed. -/
theorem serves_push (serves : c.Serves kaMax stream) (phase : c.phase = .header)
    (parsed : c.req.unparsed = []) {bytes : List UInt8} {amount : ℕ}
    (fit : c.incoming.take (min amount (clientStreamSize - c.req.clientStream.length)) = bytes) :
    Serves kaMax stream { c with
      req := { c.req with clientStream := c.req.clientStream ++ bytes }
      incoming := c.incoming.drop bytes.length } := by
  obtain ⟨short, done, heads, follows⟩ := serves
  rw [Follows, phase] at follows
  obtain ⟨begun, all⟩ := follows
  rw [rest, parsed] at all
  obtain ⟨grown, left, same⟩ := @Incoming.reads_push c.req kaMax begun parsed bytes
  have less : bytes.length ≤ clientStreamSize - c.req.clientStream.length := by
    rw [← fit, List.length_take]
    omega
  have size : (c.req.clientStream ++ bytes).length = c.req.clientStream.length + bytes.length :=
    List.length_append
  refine ⟨?_, done, heads, ?_⟩
  · show (c.req.clientStream ++ bytes).length ≤ clientStreamSize
    omega
  · rw [Follows]
    simp only [phase]
    refine ⟨grown, ?_⟩
    have whole : bytes ++ c.incoming.drop bytes.length = c.incoming := by
      rw [← fit, Feeds.drop_length_take, List.take_append_drop]
    show _ = done ++ requestsFrom kaMax c.kacount ((c.req.push bytes).resume kaMax
      ((c.req.push bytes).unparsed ++ c.incoming.drop bytes.length))
    rw [left, whole, same]
    exact all

/-- `read_header` keeps the state. -/
theorem serves_readHeader {config : Config} {input : Input} {verdict : Verdict}
    {file : Relay.Written} (serves : c.Serves config.kaMax stream) (phase : c.phase = .header)
    (kept : c.strays config (.turn input verdict file) = false) :
    (c.readHeader config input verdict).Serves config.kaMax stream := by
  obtain ⟨short, done, heads, follows⟩ := serves
  rw [Follows, phase] at follows
  obtain ⟨reads, all⟩ := follows
  have count : c.req.unparsed.length = c.req.clientStream.length - c.req.parsePos :=
    List.length_drop
  have enough : c.req.parsePos + c.req.unparsed.length ≤ c.req.clientStream.length := by
    have inside := reads.inside
    omega
  obtain ⟨size, agrees⟩ := @Incoming.parse_agrees c.req config.kaMax _ reads rfl
  have inside := @Incoming.parse_inside c.req config.kaMax _ enough
  simp only [strays, decide_eq_false_iff_not, not_and, not_or, phase, true_implies] at kept
  rw [← count] at kept
  rw [readHeader, ← count]
  generalize c.req.parse config.kaMax c.req.unparsed.length = parsed at size agrees inside kept ⊢
  obtain ⟨next, outcome⟩ := parsed
  have short : next.clientStream.length ≤ clientStreamSize := by
    rw [size]
    exact short
  dsimp only at agrees inside ⊢
  cases outcome with
  | ended =>
    obtain ⟨logline, known, asks⟩ := agrees
    have asks : c.req.resume config.kaMax c.rest =
        .complete ⟨logline, next.fields⟩ (next.unparsed ++ c.incoming) := asks c.incoming
    rw [asks] at all
    simp only [known]
    have whole : ¬(verdict = .begun ∧ logline.method = some .post ∧ logline.simple) := by
      simpa [known] using kept.2
    exact serves_headerEnds whole short inside heads all
  | refused =>
    have asks : c.req.resume config.kaMax c.rest = .refused := agrees c.incoming
    rw [asks, requestsFrom_refused, List.append_nil] at all
    exact ⟨short, done, heads, ⟨[], by rw [all, List.append_nil]⟩, nofun⟩
  | dropped =>
    have asks : c.req.resume config.kaMax c.rest =
        .dropped next.fields (next.unparsed ++ c.incoming) := agrees c.incoming
    rw [asks] at all
    exact serves_free short heads ⟨_, all.symm⟩ fun _ => all
  | more =>
    obtain ⟨begun, parsed, asks⟩ := agrees
    have asks : c.req.resume config.kaMax c.rest = next.resume config.kaMax c.incoming :=
      asks c.incoming
    rw [asks] at all
    have front : done <+: requests config.kaMax stream := ⟨_, all.symm⟩
    have stays : Serves config.kaMax stream { c with req := next } := by
      refine ⟨short, done, heads, ?_⟩
      rw [Follows]
      simp only [phase]
      refine ⟨begun, ?_⟩
      rw [rest, parsed]
      exact all
    dsimp only
    split
    · rename_i full
      have room : ¬clientStreamSize ≤ next.clientStream.length := kept.1 rfl
      omega
    · rename_i room
      cases input with
      | ready more => exact serves_push stays phase parsed rfl
      | wouldBlock => exact stays
      | interrupted => exact stays
      | ended => exact ⟨short, done, heads, front⟩

/-- A body that is read has its state. -/
theorem serves_body {upload : Upload} {done : List (Head × List UInt8)}
    {request : Head × List UInt8} (short : c.req.clientStream.length ≤ clientStreamSize)
    (heads : c.heads = done.map Prod.fst) (front : done <+: requests kaMax stream)
    (last : done.getLast? = some request) (kept : upload.Of c.incoming request) :
    { c with phase := .body upload }.Serves kaMax stream :=
  ⟨short, done, heads, front, request, last, kept⟩

/-- `read_body` keeps the state. -/
theorem serves_readBody {input : Input} {upload : Upload} (serves : c.Serves kaMax stream)
    (phase : c.phase = .body upload) (reading : upload.reading = true) :
    (c.readBody input upload).Serves kaMax stream := by
  have page := serves_page serves
  have stays := serves
  obtain ⟨short, done, heads, follows⟩ := serves
  rw [Follows, phase] at follows
  obtain ⟨front, request, last, kept⟩ := follows
  obtain ⟨empty, start⟩ := kept.empty reading
  have idle : upload.chunk.length = 0 := List.length_eq_zero_iff.mpr empty
  unfold readBody
  dsimp only
  split
  · exact serves_body short heads front last
      ⟨kept.announced, kept.position, kept.fits, kept.body, kept.room, nofun⟩
  · cases input with
    | ready more =>
      dsimp only
      split
      · exact stays
      · generalize fit : c.incoming.take (min (more + 1) (min (upload.filesize - upload.filepos)
          (bufferSize - upload.chunk.length))) = bytes
        have less : bytes.length ≤ min (upload.filesize - upload.filepos)
            (bufferSize - upload.chunk.length) := by
          rw [← fit, List.length_take]
          omega
        have size : (upload.chunk ++ bytes).length = upload.chunk.length + bytes.length :=
          List.length_append
        have position := kept.position
        have fits := kept.fits
        have body := kept.body
        have room := kept.room
        have again : c.incoming.take bytes.length = bytes := by
          rw [← fit]
          exact Feeds.take_length_take _ _
        have split : c.incoming.take (upload.filesize - (upload.stored.length + upload.chunk.length)) =
            bytes ++ (c.incoming.drop bytes.length).take
              (upload.filesize - (upload.stored.length + (upload.chunk ++ bytes).length)) := by
          have parts : upload.filesize - (upload.stored.length + upload.chunk.length) =
              bytes.length +
                (upload.filesize - (upload.stored.length + (upload.chunk ++ bytes).length)) := by
            omega
          rw [parts, List.take_add, again]
        refine ⟨short, done, heads, front, request, last, kept.announced, position, ?_, ?_, ?_, nofun⟩
        · show upload.stored.length + (upload.chunk ++ bytes).length ≤ upload.filesize
          omega
        · rw [split] at body
          rw [← body, List.append_assoc]
        · show upload.start + (upload.chunk ++ bytes).length ≤ bufferSize
          rw [size, start]
          omega
    | wouldBlock => exact stays
    | interrupted => exact page
    | ended => exact page

/-- `write_body` keeps the state. -/
theorem serves_writeBody {file : Relay.Written} {upload : Upload} (serves : c.Serves kaMax stream)
    (phase : c.phase = .body upload) (writing : upload.reading = false) :
    (c.writeBody file upload).Serves kaMax stream := by
  have page := serves_page serves
  have stays := serves
  obtain ⟨short, done, heads, follows⟩ := serves
  rw [Follows, phase] at follows
  obtain ⟨front, request, last, kept⟩ := follows
  have position := kept.position
  have fits := kept.fits
  unfold writeBody
  dsimp only
  split
  · rename_i nothing
    split
    · rename_i full
      have size : upload.stored.length = upload.filesize := by omega
      have body := kept.body
      obtain ⟨text, given, positive, announced⟩ := kept.announced
      refine ⟨short, done, heads, front, nofun, request, last, text, given, positive, ?_, ?_⟩
      · rw [size]
        exact announced
      · have part : upload.stored <+: request.2.take upload.filesize := ⟨_, body⟩
        exact part.trans (List.take_prefix _ _)
    · rename_i less
      have empty : upload.chunk = [] := List.length_eq_zero_iff.mp (by omega)
      have body := kept.body
      have fits := kept.fits
      rw [empty] at body fits
      exact serves_body short heads front last
        ⟨kept.announced, position, fits, body, Nat.zero_le _, fun _ => ⟨rfl, rfl⟩⟩
  · cases file with
    | took amount =>
      dsimp only
      generalize fit : (upload.chunk.take (min upload.chunk.length
        (upload.filesize - upload.filepos))).take amount = written
      have less : written.length ≤ upload.chunk.length := by
        rw [← fit, List.length_take, List.length_take]
        omega
      have again : upload.chunk.take written.length = written := by
        rw [← fit, List.take_take, Feeds.take_length_take]
      have whole : written ++ upload.chunk.drop written.length = upload.chunk := by
        have parts := List.take_append_drop written.length upload.chunk
        rw [again] at parts
        exact parts
      have size : (upload.stored ++ written).length = upload.stored.length + written.length :=
        List.length_append
      have left : (upload.chunk.drop written.length).length =
          upload.chunk.length - written.length := List.length_drop
      have room := kept.room
      have body := kept.body
      have sum : (upload.stored ++ written).length + (upload.chunk.drop written.length).length =
          upload.stored.length + upload.chunk.length := by omega
      refine serves_body short heads front last ⟨kept.announced, ?_, ?_, ?_, ?_, ?_⟩
      · show upload.filepos + written.length = (upload.stored ++ written).length
        omega
      · rw [sum]
        exact fits
      · rw [sum, List.append_assoc, ← List.append_assoc written, whole]
        exact body
      · show upload.start + written.length + (upload.chunk.drop written.length).length ≤ bufferSize
        omega
      · intro reading
        have reading : upload.reading = true := reading
        rw [writing] at reading
        cases reading
    | wouldBlock => exact stays
    | interrupted => exact stays
    | failed => exact page

/-- An event keeps the state. -/
theorem serves_next {config : Config} {event : Event} (serves : c.Serves config.kaMax stream)
    (kept : c.strays config event = false) :
    (c.next config event).Serves config.kaMax stream := by
  have closed := serves_closed serves
  have stays := serves
  unfold next
  split
  · exact stays
  · exact stays
  · exact closed
  · rename_i phase
    exact serves_readHeader serves phase kept
  · rename_i phase
    split
    · rename_i reading
      exact serves_readBody serves phase reading
    · rename_i writing
      exact serves_writeBody serves phase (Bool.not_eq_true _ ▸ writing)
  · rename_i phase
    obtain ⟨short, done, heads, follows⟩ := serves
    rw [Follows, phase] at follows
    exact serves_free short heads follows.1 fun active => absurd active follows.2.1
  · rename_i phase
    obtain ⟨short, done, heads, follows⟩ := serves
    rw [Follows, phase] at follows
    exact serves_free short heads follows.1 follows.2
  · exact stays

/-- Events keep the state. -/
theorem serves_run {config : Config} {events : List Event} (serves : c.Serves config.kaMax stream)
    (kept : c.neverStrays config events = true) :
    (c.run config events).Serves config.kaMax stream := by
  induction events generalizing c with
  | nil => exact serves
  | cons event events ih =>
    rw [neverStrays, Bool.and_eq_true, Bool.not_eq_true'] at kept
    exact ih (serves_next serves kept.1) kept.2

/-! ## Runs -/

/-- A configuration. -/
def someConfig : Config := ⟨5, 0⟩

/-- In the same runs, the file that a script of a POST is started with is as long as the header
announces, and it is what follows the header in the stream. While the body is read, what is stored
and in the buffer is the front of it, and inside the buffer. -/
theorem post_stored (config : Config) (stream : List UInt8) (events : List Event)
    (kept : (accepted config stream).neverStrays config events = true) :
    (∀ stored, ((accepted config stream).run config events).phase = .script stored →
      ∃ request, (requests config.kaMax stream)[
          ((accepted config stream).run config events).heads.length - 1]? = some request ∧
        Stored request stored) ∧
    ∀ upload, ((accepted config stream).run config events).phase = .body upload →
      ∃ request, (requests config.kaMax stream)[
          ((accepted config stream).run config events).heads.length - 1]? = some request ∧
        upload.stored ++ upload.chunk <+: request.2 ∧
        upload.start + upload.chunk.length ≤ bufferSize := by
  have serves : ((accepted config stream).run config events).Serves config.kaMax stream :=
    serves_run (serves_accepted config stream) kept
  obtain ⟨short, done, heads, follows⟩ := serves
  have count : ((accepted config stream).run config events).heads.length = done.length := by
    rw [heads, List.length_map]
  have place : ∀ request, done.getLast? = some request →
      (requests config.kaMax stream)[done.length - 1]? = some request := by
    intro request last
    rw [List.getLast?_eq_getElem?] at last
    obtain ⟨more, all⟩ := follows.front
    rw [← all, List.getElem?_append_left (List.getElem?_eq_some_iff.mp last).1]
    exact last
  rw [count]
  constructor
  · intro stored phase
    rw [Follows, phase] at follows
    obtain ⟨-, -, request, last, kept⟩ := follows
    exact ⟨request, place request last, kept⟩
  · intro upload phase
    rw [Follows, phase] at follows
    obtain ⟨-, request, last, kept⟩ := follows
    refine ⟨request, place request last, ?_, kept.room⟩
    have body := kept.body
    rw [← List.append_assoc] at body
    have part : upload.stored ++ upload.chunk <+: request.2.take upload.filesize := ⟨_, body⟩
    exact part.trans (List.take_prefix _ _)

/-- A POST with a body of three bytes. -/
def somePost : List UInt8 :=
  ascii "POST /cgi-bin/a.cgi HTTP/1.0\nContent-Length: 3\n\na" ++ ascii "bcd"

/-- The header and one byte are read, then one byte after the other. -/
def postEvents : List Event :=
  [.turn (.ready 48) .begun .failed, .turn .wouldBlock .begun .failed] ++
    List.replicate 12 (.turn (.ready 0) .begun (.took 1))

/-- The script gets the body. -/
theorem post_stored_three : ∃ request, (requests someConfig.kaMax somePost)[0]? = some request ∧
    Stored request (ascii "abc") := by
  have phase : ((accepted someConfig somePost).run someConfig postEvents).phase =
      .script (ascii "abc") := by
    decide
  have count : ((accepted someConfig somePost).run someConfig postEvents).heads.length = 1 := by
    decide
  have kept : (accepted someConfig somePost).neverStrays someConfig postEvents = true := by
    decide
  have stored := (post_stored someConfig somePost postEvents kept).1 (ascii "abc") phase
  rw [count] at stored
  exact stored

end Connection

end BoaIpcam.Intake
