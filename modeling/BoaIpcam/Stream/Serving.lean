import BoaIpcam.Stream.Sending

/-!
# Serving a feed

A stream request serves a feed: the parts are the frames that the driver gave, each behind a header
that announces the bytes after it. The request keeps what is pending of the feed in two places, the
buffer and the frame, and the next part is loaded when both are used up. What the client got is a
prefix of the parts however the socket cut it, and the rest of them is what the request holds.
-/
namespace BoaIpcam.Stream

open Feeds

/-! ## Serving a feed -/

/-- A connection serves a feed of a preamble and some parts: its client got what was sent, and while
the request is alive the pending bytes are in its buffer and its frame. A request that is `DONE`
sends no more than its buffer, which is all that is pending when its connection is kept alive. -/
structure Serves {vol : Option (List UInt8)} (preamble : List UInt8) (parts : List (Part vol))
    (feed : Feed UInt8) (c : Connection) : Prop where
  /-- The feed sends the preamble and the parts. -/
  listed : feed.parts = preamble :: parts.map Part.text
  /-- The client got what was sent. -/
  sent : feed.sent = c.received
  /-- The request is no POST. -/
  get : c.request.status ≠ .body
  /-- The buffer and the frame make sense. -/
  sound : c.request.status ≠ .dead → c.request.Sound
  /-- What is in the buffer is sent next. -/
  pending : c.request.status ≠ .dead → c.request.buffered <+: feed.pending
  /-- The rest is in the buffer and the frame. -/
  whole : c.request.status = .write → feed.pending = c.request.buffered ++ c.request.framed
  /-- The rest is in the buffer. -/
  last : c.request.status = .done → c.request.keepalive = true → feed.pending = c.request.buffered
  /-- Nothing is pending when the connection has a new request. -/
  handed : c.place = .handed → feed.pending = []
  /-- Nothing follows before. -/
  behind : c.place ≠ .handed → c.behind = []
  /-- All parts but the last are complete. -/
  complete : ∀ init last, parts = init ++ [last] → init ≠ [] →
    preamble ++ init.flatMap Part.text <+: c.received

/-- When the request is freed now, nothing of a part is lost, unless its connection is closed. -/
def Spent (feed : Feed UInt8) (r : Request) : Prop :=
  r.keepalive = true → (r.status = .dead → feed.pending = []) ∧
    (r.status ≠ .dead → feed.pending = r.buffered)

section Serving

variable {vol : Option (List UInt8)} {preamble : List UInt8} {parts : List (Part vol)}
  {feed : Feed UInt8} {r : Request} {place : Place} {received behind : List UInt8} {c : Connection}

/-- What the feed has sent and what is pending are the preamble and the parts. -/
theorem Serves.text (serves : Serves preamble parts feed c) :
    c.received ++ feed.pending = preamble ++ parts.flatMap Part.text := by
  have whole := feed.whole
  rw [serves.listed, serves.sent, List.flatten_cons] at whole
  exact whole

/-- When nothing is pending the client got everything. -/
theorem Serves.all (serves : Serves preamble parts feed c) (idle : feed.pending = []) :
    c.received = preamble ++ parts.flatMap Part.text := by
  have text := serves.text
  rw [idle, List.append_nil] at text
  exact text

/-- A request that idles goes on serving. -/
theorem Serves.idles {r' : Request} (serves : Serves preamble parts feed ⟨r, place, received, behind⟩)
    (idles : Idles r r') :
    Serves preamble parts feed ⟨r', place, received, behind⟩ := by
  have buffered : r'.buffered = r.buffered := by
    rw [Request.buffered, idles.buffer, idles.start]
    rfl
  have framed : r'.framed = r.framed := by
    rw [Request.framed, idles.data, idles.filepos]
    rfl
  have status := idles.status
  refine ⟨serves.listed, serves.sent, fun body => serves.get (status.symm.trans body),
    fun alive => ?_, fun alive => ?_, fun write => ?_, fun ended kept => ?_, serves.handed,
    serves.behind, serves.complete⟩
  · have sound : r.Sound := serves.sound fun dead => alive (status.trans dead)
    refine ⟨?_, ?_, ?_⟩
    · rw [idles.buffer, idles.start]
      exact sound.start
    · rw [idles.buffer, idles.start]
      exact sound.empty
    · rw [idles.data, idles.filepos]
      exact sound.filepos
  · rw [buffered]
    exact serves.pending fun dead => alive (status.trans dead)
  · rw [buffered, framed]
    exact serves.whole (status.symm.trans write)
  · rw [buffered]
    exact serves.last (status.symm.trans ended) (idles.keepalive kept)

/-- A request goes to another place, but its connection has no new request. -/
theorem Serves.move (serves : Serves preamble parts feed ⟨r, place, received, behind⟩)
    (place' : Place) (before : place ≠ .handed) (after : place' ≠ .handed) :
    Serves preamble parts feed ⟨r, place', received, behind⟩ :=
  ⟨serves.listed, serves.sent, serves.get, serves.sound, serves.pending, serves.whole, serves.last,
    fun handed => absurd handed after, fun _ => serves.behind before, serves.complete⟩

/-- A request that is given up has sent what it has sent. -/
theorem Serves.give_up {r' : Request}
    (serves : Serves preamble parts feed ⟨r, place, received, behind⟩) (dead : r'.status = .dead) :
    Serves preamble parts feed ⟨r', place, received, behind⟩ := by
  refine ⟨serves.listed, serves.sent, fun body => ?_, fun alive => absurd dead alive,
    fun alive => absurd dead alive, fun write => ?_, fun ended => ?_, serves.handed, serves.behind,
    serves.complete⟩
  · cases dead.symm.trans body
  · cases dead.symm.trans write
  · cases dead.symm.trans ended

/-- What was complete stays complete when the client gets more. -/
theorem Serves.complete_more (serves : Serves preamble parts feed ⟨r, place, received, behind⟩)
    (more : List UInt8) (init : List (Part vol)) (last : Part vol) (cut : parts = init ++ [last])
    (some : init ≠ []) : preamble ++ init.flatMap Part.text <+: received ++ more :=
  (serves.complete init last cut some).trans (List.prefix_append _ _)

/-- A request that sends from its buffer. -/
theorem Serves.flush {r' : Request} (serves : Serves preamble parts feed ⟨r, .ready, received, behind⟩)
    (alive : r.status ≠ .dead) (amount : Nat) (sound : r'.Sound)
    (buffered : r'.buffered = r.buffered.drop amount) (framed : r'.framed = r.framed)
    (steady : Steady r r') :
    Serves preamble parts (feed.send (r.buffered.take amount).length)
      ⟨r', .ready, received ++ r.buffered.take amount, behind⟩ := by
  obtain ⟨rest, pending⟩ : r.buffered <+: feed.pending := serves.pending alive
  have inside : (r.buffered.take amount).length ≤ r.buffered.length := List.length_take_le' _ _
  have sent : feed.pending.take (r.buffered.take amount).length = r.buffered.take amount := by
    rw [← pending, List.take_append_of_le_length inside, take_length_take]
  have left : feed.pending.drop (r.buffered.take amount).length = r.buffered.drop amount ++ rest := by
    rw [← pending, List.drop_append_of_le_length inside, drop_length_take]
  have got : feed.sent = received := serves.sent
  refine ⟨serves.listed, ?_, fun body => serves.get (steady.status.symm.trans body), fun _ => sound,
    fun _ => ?_, fun write => ?_, fun ended kept => ?_, fun handed => (by cases handed),
    serves.behind, serves.complete_more _⟩
  · rw [Feed.send_sent, sent, got]
  · rw [buffered, Feed.send_pending, left]
    exact List.prefix_append _ _
  · have whole : feed.pending = r.buffered ++ r.framed :=
      serves.whole (steady.status.symm.trans write)
    rw [← pending] at whole
    rw [Feed.send_pending, left, buffered, framed, List.append_cancel_left whole]
  · have whole : feed.pending = r.buffered :=
      serves.last (steady.status.symm.trans ended) (steady.keepalive.symm.trans kept)
    have none : rest = [] := by
      rw [← pending] at whole
      exact List.append_right_eq_self.mp whole
    rw [Feed.send_pending, left, buffered, none, List.append_nil]

/-- A request that sends from its frame. -/
theorem Serves.write {mid : Request} (serves : Serves preamble parts feed ⟨r, .ready, received, behind⟩)
    (write : r.status = .write) (empty : r.buffer = []) (amount : Nat) (sound : mid.Sound)
    (buffer : mid.buffer = r.buffer)
    (framed : mid.framed = r.framed.drop (min amount bufferSize)) (steady : Steady r mid) :
    Serves preamble parts (feed.send (min amount bufferSize))
      ⟨mid, .ready, received ++ (r.framed.take bufferSize).take amount, behind⟩ := by
  have none : r.buffered = [] := by
    rw [Request.buffered, empty, List.drop_nil]
  have still : mid.buffered = [] := by
    rw [Request.buffered, buffer, empty, List.drop_nil]
  have whole : feed.pending = r.buffered ++ r.framed := serves.whole write
  rw [none, List.nil_append] at whole
  have got : feed.sent = received := serves.sent
  have status : mid.status = .write := steady.status.trans write
  refine ⟨serves.listed, ?_, ?_, fun _ => sound, fun _ => ?_, fun _ => ?_, fun ended => ?_,
    fun handed => (by cases handed), serves.behind, serves.complete_more _⟩
  · rw [Feed.send_sent, whole, got, List.take_take]
  · rw [status]
    decide
  · rw [still]
    exact List.nil_prefix
  · rw [still, framed, List.nil_append, Feed.send_pending, whole]
  · cases status.symm.trans ended

/-- A request whose buffer and frame are used up loads the next part. -/
theorem Serves.load {second : Nat} {next : Answer} {mid r' : Request}
    (serves : Serves preamble parts feed ⟨mid, .ready, received, behind⟩)
    (write : mid.status = .write) (empty : mid.buffer = []) (used : mid.framed = [])
    (loads : Loads vol second next mid r') :
    ∃ part : Part vol, part.block = next.block ∧ ∃ feed' : Feed UInt8,
      Serves preamble (parts ++ [part]) feed' ⟨r', .ready, received, behind⟩ := by
  obtain ⟨part, block, -, -, loaded⟩ := loads
  have sound : mid.Sound := serves.sound fun dead => by cases write.symm.trans dead
  have start := sound.empty empty
  have idle : feed.pending = [] := by
    have whole : feed.pending = mid.buffered ++ mid.framed := serves.whole write
    rw [whole, used, Request.buffered, empty, List.drop_nil, List.nil_append]
  have whole : received = preamble ++ parts.flatMap Part.text := serves.all idle
  have listed : (feed.load part.text idle).parts =
      preamble :: (parts ++ [part]).map Part.text := by
    rw [Feed.load_parts, serves.listed, List.map_append]
    rfl
  have complete : ∀ init last, parts ++ [part] = init ++ [last] → init ≠ [] →
      preamble ++ init.flatMap Part.text <+: received := by
    intro init last cut _
    obtain ⟨rfl, -⟩ := List.append_inj' cut rfl
    rw [whole]
  refine ⟨part, block, feed.load part.text idle, ?_⟩
  rcases loaded with dead | ⟨status, buffer, start', data, filepos⟩
  · refine ⟨listed, serves.sent, fun body => ?_, fun alive => absurd dead alive,
      fun alive => absurd dead alive, fun still => ?_, fun ended => ?_,
      fun handed => (by cases handed), serves.behind, complete⟩
    · cases dead.symm.trans body
    · cases dead.symm.trans still
    · cases dead.symm.trans ended
  · have status : r'.status = .write := status.trans write
    have start' : r'.bufferStart = 0 := start'.trans start
    have buffered : r'.buffered = part.header ++ part.extra := by
      rw [Request.buffered, start', List.drop_zero, buffer]
    refine ⟨listed, serves.sent, fun body => ?_, fun _ => ⟨fun some => ?_, fun _ => start', ?_⟩,
      fun _ => ?_, fun _ => ?_, fun ended => ?_, fun handed => (by cases handed),
      serves.behind, complete⟩
    · cases status.symm.trans body
    · show r'.bufferStart < r'.buffer.length
      rw [start']
      exact List.length_pos_of_ne_nil some
    · show r'.filepos ≤ r'.data.size
      rw [filepos]
      exact Nat.zero_le _
    · rw [buffered]
      exact List.prefix_append _ _
    · rw [buffered, Request.framed, data, filepos]
      rfl
    · cases status.symm.trans ended

/-! ## Turns -/

/-- A flush keeps a request serving. It fails only for a buffer that is not empty, and else leaves
nothing of a part behind when the frame is used up or the request is `DONE`. -/
theorem Serves.reqFlush (serves : Serves preamble parts feed ⟨r, .ready, received, behind⟩)
    (alive : r.status ≠ .dead) (written : Written) :
    ∃ feed' : Feed UInt8,
      Serves preamble parts feed' ⟨(reqFlush r written).1, .ready,
        received ++ (reqFlush r written).2.1, behind⟩ ∧
      (reqFlush r written).1.keepalive = r.keepalive ∧
      ((reqFlush r written).2.2 = -2 → (reqFlush r written).1.status = .dead ∧
        r.buffer ≠ [] ∧ written = .failed) ∧
      ((reqFlush r written).2.2 ≠ -2 →
        (reqFlush r written).1.lastStreamTime = r.lastStreamTime ∧
        (r.status = .write → r.framed = [] → Spent feed' (reqFlush r written).1) ∧
        (r.status = .done → Spent feed' (reqFlush r written).1)) := by
  have sound : r.Sound := serves.sound alive
  have write : r.status = .write → r.framed = [] → feed.pending = r.buffered := by
    intro write used
    have whole : feed.pending = r.buffered ++ r.framed := serves.whole write
    rw [whole, used, List.append_nil]
  rcases reqFlush_cases written sound alive with ⟨r', flush, dead, kept, some, failed⟩ |
    ⟨flush, blocked⟩ | ⟨r', amount, flush, -, sound', buffered, framed, steady⟩
  · rw [flush, List.append_nil]
    exact ⟨feed, serves.give_up dead, kept, fun _ => ⟨dead, some, failed⟩, fun other =>
      absurd rfl other⟩
  · rw [flush, List.append_nil]
    refine ⟨feed, serves, rfl, fun failed => absurd (show (-1 : Int) = -2 from failed) (by decide),
      fun _ => ⟨rfl, ?_, ?_⟩⟩
    · intro status used _
      exact ⟨fun dead => absurd dead alive, fun _ => write status used⟩
    · intro status keepalive
      exact ⟨fun dead => absurd dead alive, fun _ => serves.last status keepalive⟩
  · rw [flush]
    have flushed := serves.flush alive amount sound' buffered framed steady
    refine ⟨_, flushed, steady.keepalive, fun failed => ?_, fun _ => ⟨steady.time, ?_, ?_⟩⟩
    · dsimp only at failed
      omega
    · intro status used _
      have status' : r'.status = .write := steady.status.trans status
      have whole := flushed.whole status'
      refine ⟨fun dead => (by cases status'.symm.trans dead), fun _ => ?_⟩
      rw [whole]
      show r'.buffered ++ r'.framed = r'.buffered
      rw [framed, used, List.append_nil]
    · intro status keepalive
      have status' : r'.status = .done := steady.status.trans status
      exact ⟨fun dead => (by cases status'.symm.trans dead), fun _ => flushed.last status' keepalive⟩

/-- What a turn makes of a connection that serves a feed: it serves the parts and the frame that the
driver gave, and nothing of a part is lost when the turn ends the request. -/
def Turns {vol : Option (List UInt8)} (preamble : List UInt8) (parts : List (Part vol))
    (given : Option Block) (input : Input) (received behind : List UInt8)
    (turn : Request × List UInt8 × Int) : Prop :=
  ∃ parts' : List (Part vol), parts'.map Part.block = parts.map Part.block ++ given.toList ∧
    ∃ feed' : Feed UInt8,
      Serves preamble parts' feed' ⟨turn.1, .ready, received ++ turn.2.1, behind⟩ ∧
      (input.sigterm = false → turn.2.2 = 0 ∨ turn.1.late input.info.second = true →
        Spent feed' turn.1)

/-- A turn without a new part. -/
theorem Turns.same {input : Input} {turn : Request × List UInt8 × Int} (feed' : Feed UInt8)
    (serves : Serves preamble parts feed' ⟨turn.1, .ready, received ++ turn.2.1, behind⟩)
    (spent : input.sigterm = false → turn.2.2 = 0 ∨ turn.1.late input.info.second = true →
      Spent feed' turn.1) : Turns preamble parts none input received behind turn :=
  ⟨parts, (List.append_nil _).symm, feed', serves, spent⟩

/-- The time of a stream depends on the last video frame. -/
theorem late_congr {r' : Request} (time : r'.lastStreamTime = r.lastStreamTime) (second : Nat) :
    r'.late second = r.late second := by
  rw [Request.late, time]
  rfl

/-- A turn that begins with an empty buffer ends the stream inside a part when the frame cannot be
written, or when it is late and more of the part follows. -/
theorem Request.cutShort_get (write : r.status = .write) (empty : r.buffer = []) (input : Input) :
    r.cutShort input =
      if input.sigbus ∨ input.written = .failed then decide (r.framed ≠ [])
      else decide (r.late input.info.second ∧ (r.unsent input.written ≠ [] ∨
        input.written.isWrote ∧ (answer input r).any fun next => !next.stamped)) := by
  rw [Request.cutShort, if_neg (fun some => some empty), if_neg (fun other => other write)]

/-- A turn that begins with an empty buffer asks the driver when it sends the rest of the frame. -/
theorem Connection.given_get (write : r.status = .write) (empty : r.buffer = []) (input : Input) :
    Connection.given ⟨r, .ready, received, behind⟩ (.pass input) =
      if input.sigbus = false ∧ input.written.isWrote ∧ r.unsent input.written = [] then
        (answer input r).map Answer.block
      else none := by
  simp [Connection.given, write, empty]

/-- Behind an empty buffer the rest of the frame is pending. -/
theorem Serves.framed_pending (serves : Serves preamble parts feed ⟨r, place, received, behind⟩)
    (write : r.status = .write) (empty : r.buffer = []) : feed.pending = r.framed := by
  have all : feed.pending = r.buffered ++ r.framed := serves.whole write
  rw [all, Request.buffered, empty, List.drop_nil, List.nil_append]

/-- `process_get` gives a request up when its frame cannot be written. -/
theorem Serves.get_failed {r' : Request} {input : Input}
    (serves : Serves preamble parts feed ⟨r, .ready, received, behind⟩) (write : r.status = .write)
    (empty : r.buffer = [])
    (whole : r.keepalive = true → input.sigterm = false → r.cutShort input = false)
    (dead : r'.status = .dead) (kept : r'.keepalive = r.keepalive)
    (failed : input.sigbus = true ∨ input.written = .failed) :
    Turns preamble parts (Connection.given ⟨r, .ready, received, behind⟩ (.pass input)) input received
      behind (r', [], 0) := by
  have nothing : ¬(input.sigbus = false ∧ input.written.isWrote ∧ r.unsent input.written = []) := by
    rintro ⟨there, wrote, -⟩
    rcases failed with gone | failed
    · cases there.symm.trans gone
    · rw [failed] at wrote
      cases wrote
  rw [Connection.given_get write empty, if_neg nothing]
  apply Turns.same feed
  · rw [List.append_nil]
    exact serves.give_up dead
  · intro term _ keepalive
    have safe := whole (kept.symm.trans keepalive) term
    rw [Request.cutShort_get write empty, if_pos failed, decide_eq_false_iff_not, not_not] at safe
    exact ⟨fun _ => (serves.framed_pending write empty).trans safe, fun alive => absurd dead alive⟩

/-- `process_get` goes on later when the socket takes nothing. -/
theorem Serves.get_blocked {input : Input}
    (serves : Serves preamble parts feed ⟨r, .ready, received, behind⟩) (write : r.status = .write)
    (empty : r.buffer = [])
    (whole : r.keepalive = true → input.sigterm = false → r.cutShort input = false)
    (there : input.sigbus = false) (blocked : input.written = .wouldBlock) :
    Turns preamble parts (Connection.given ⟨r, .ready, received, behind⟩ (.pass input)) input received
      behind (r, [], -1) := by
  have nothing : ¬(input.sigbus = false ∧ input.written.isWrote ∧ r.unsent input.written = []) := by
    rintro ⟨-, wrote, -⟩
    rw [blocked] at wrote
    cases wrote
  rw [Connection.given_get write empty, if_neg nothing]
  apply Turns.same feed
  · rw [List.append_nil]
    exact serves
  · intro term ends keepalive
    have late : r.late input.info.second = true :=
      ends.resolve_left (show (-1 : Int) ≠ 0 by decide)
    have safe := whole keepalive term
    have calm : ¬(input.sigbus = true ∨ input.written = .failed) := by
      rw [there, blocked]
      decide
    rw [Request.cutShort_get write empty, if_neg calm, decide_eq_false_iff_not] at safe
    have used : r.framed = [] := by
      by_contra some
      apply safe
      rw [blocked]
      exact ⟨late, .inl some⟩
    refine ⟨fun dead => (by cases write.symm.trans dead), fun _ => ?_⟩
    rw [serves.framed_pending write empty, used, Request.buffered, empty, List.drop_nil]

/-- `process_get` sends of the frame, and loads the next part behind its end. -/
theorem Serves.get_wrote {r' mid : Request} {input : Input} {amount : Nat}
    (serves : Serves preamble parts feed ⟨r, .ready, received, behind⟩) (write : r.status = .write)
    (empty : r.buffer = [])
    (whole : r.keepalive = true → input.sigterm = false → r.cutShort input = false)
    (there : input.sigbus = false) (wrote : input.written = .wrote amount) (sound' : mid.Sound)
    (buffer : mid.buffer = r.buffer) (left : mid.framed = r.framed.drop (min amount bufferSize))
    (steady : Steady r mid)
    (next : mid.framed ≠ [] ∧ r' = mid ∨
      mid.framed = [] ∧ Asks vol input.info.second (answer input r) mid r') :
    Turns preamble parts (Connection.given ⟨r, .ready, received, behind⟩ (.pass input)) input received
      behind (r', (r.framed.take bufferSize).take amount, 1) := by
  have unsent : r.unsent input.written = mid.framed := by
    rw [wrote, left]
    rfl
  have calm : ¬(input.sigbus = true ∨ input.written = .failed) := by
    rw [there, wrote]
    rintro (gone | failed)
    · cases gone
    · cases failed
  have isWrote : input.written.isWrote = true := by
    rw [wrote]
    rfl
  have sends := serves.write write empty amount sound' buffer left steady
  rw [Request.cutShort_get write empty, if_neg calm] at whole
  rw [Connection.given_get write empty]
  rcases next with ⟨some, rfl⟩ | ⟨used, ⟨found, known, loads⟩ | ⟨unknown, idles⟩⟩
  · have nothing : ¬(input.sigbus = false ∧ input.written.isWrote ∧ r.unsent input.written = []) :=
      fun all => some (unsent.symm.trans all.2.2)
    rw [if_neg nothing]
    apply Turns.same _ sends
    intro term ends keepalive
    have late : r'.late input.info.second = true :=
      ends.resolve_left (show (1 : Int) ≠ 0 by decide)
    have safe := whole (steady.keepalive.symm.trans keepalive) term
    rw [decide_eq_false_iff_not] at safe
    rw [late_congr steady.time] at late
    exact absurd ⟨late, .inl fun none => some (unsent.symm.trans none)⟩ safe
  · rw [if_pos ⟨there, isWrote, unsent.trans used⟩, known]
    obtain ⟨part, block, feed', loaded⟩ :=
      sends.load (steady.status.trans write) (buffer.trans empty) used loads
    refine ⟨parts ++ [part], ?_, feed', loaded, ?_⟩
    · rw [List.map_append, List.map_singleton, block]
      rfl
    · obtain ⟨-, -, kept, time, -⟩ := loads
      intro term ends keepalive
      have late : r'.late input.info.second = true :=
        ends.resolve_left (show (1 : Int) ≠ 0 by decide)
      have safe := whole (steady.keepalive.symm.trans (kept.symm.trans keepalive)) term
      rw [decide_eq_false_iff_not, known] at safe
      cases stamped : found.stamped with
      | true =>
        -- A frame with a time stamp is not late.
        rw [stamped, if_pos rfl] at time
        rw [Request.late, time, decide_eq_true_iff] at late
        omega
      | false =>
        rw [stamped, if_neg Bool.false_ne_true] at time
        rw [late_congr (time.trans steady.time)] at late
        refine absurd ⟨late, .inr ⟨isWrote, ?_⟩⟩ safe
        rw [Option.any_some, stamped]
        rfl
  · rw [if_pos ⟨there, isWrote, unsent.trans used⟩, unknown]
    apply Turns.same _ (sends.idles idles)
    intro _ _ _
    have status : r'.status = .write := idles.status.trans (steady.status.trans write)
    have rest : (feed.send (min amount bufferSize)).pending = mid.buffered ++ mid.framed :=
      sends.whole (steady.status.trans write)
    refine ⟨fun dead => (by cases status.symm.trans dead), fun _ => ?_⟩
    rw [rest, used, List.append_nil, Request.buffered, Request.buffered, idles.buffer, idles.start]

/-- `process_get` keeps a request serving. -/
theorem Serves.processGet (serves : Serves preamble parts feed ⟨r, .ready, received, behind⟩)
    (write : r.status = .write) (empty : r.buffer = []) (input : Input)
    (whole : r.keepalive = true → input.sigterm = false → r.cutShort input = false) :
    Turns preamble parts (Connection.given ⟨r, .ready, received, behind⟩ (.pass input)) input received
      behind (processGet input r) := by
  have sound : r.Sound := serves.sound fun dead => by cases write.symm.trans dead
  rcases processGet_cases vol input sound with ⟨r', get, dead, kept, failed⟩ |
    ⟨get, there, blocked⟩ |
    ⟨r', mid, amount, get, there, wrote, sound', buffer, -, left, steady, next⟩
  · rw [get]
    exact serves.get_failed write empty whole dead kept failed
  · rw [get]
    exact serves.get_blocked write empty whole there blocked
  · rw [get]
    exact serves.get_wrote write empty whole there wrote sound' buffer left steady next

/-- What the main loop does with a request keeps it serving. -/
theorem Serves.serve (serves : Serves preamble parts feed ⟨r, .ready, received, behind⟩)
    (input : Input) (whole : r.keepalive = true → input.sigterm = false → r.status ≠ .dead →
      r.cutShort input = false) :
    Turns preamble parts (Connection.given ⟨r, .ready, received, behind⟩ (.pass input)) input received
      behind (serve input r) := by
  unfold Stream.serve
  split
  · rename_i flushes
    obtain ⟨some, alive, going⟩ := flushes
    have write : r.status = .write := by
      cases status : r.status with
      | write => rfl
      | body => exact absurd status serves.get
      | done => exact absurd status going
      | dead => exact absurd status alive
    have given : Connection.given ⟨r, .ready, received, behind⟩ (.pass input) = none := by
      simp [Connection.given, some]
    have cut : r.keepalive = true → input.sigterm = false →
        ¬(input.written = .failed ∨
          r.late input.info.second = true ∧ r.status = .write ∧ r.framed ≠ []) := by
      intro keepalive term
      have safe := whole keepalive term alive
      rw [Request.cutShort, if_pos some, decide_eq_false_iff_not] at safe
      exact safe
    obtain ⟨feed', flushed, kept, failed, went⟩ := serves.reqFlush alive input.written
    rw [given]
    dsimp only
    split
    · rename_i error
      refine Turns.same _ (flushed.give_up rfl) ?_
      intro term _ keepalive
      exact absurd (.inl (failed error).2.2) (cut (kept.symm.trans keepalive) term)
    · rename_i fine
      obtain ⟨time, spent, -⟩ := went fine
      have ends : input.sigterm = false →
          (Stream.reqFlush r input.written).1.late input.info.second = true →
            Spent feed' (Stream.reqFlush r input.written).1 := by
        intro term late keepalive
        rw [late_congr time] at late
        have used : r.framed = [] := by
          by_contra left
          exact cut (kept.symm.trans keepalive) term (.inr ⟨late, write, left⟩)
        exact spent write used keepalive
      split
      · exact Turns.same _ flushed fun term ended => ends term (ended.resolve_left Int.one_ne_zero)
      · rename_i negative
        refine Turns.same _ flushed fun term ended => ends term (ended.resolve_left ?_)
        intro zero
        exact negative (Int.le_of_eq zero.symm)
  · rename_i rests
    cases status : r.status with
    | write =>
      have empty : r.buffer = [] := by
        by_contra some
        exact rests ⟨some, by rw [status]; decide, by rw [status]; decide⟩
      exact serves.processGet status empty input fun keepalive term =>
        whole keepalive term (by rw [status]; decide)
    | body => exact absurd status serves.get
    | done =>
      have alive : r.status ≠ .dead := by
        rw [status]
        decide
      have given : Connection.given ⟨r, .ready, received, behind⟩ (.pass input) = none := by
        simp [Connection.given, status]
      obtain ⟨feed', flushed, kept, failed, went⟩ := serves.reqFlush alive input.written
      rw [given]
      dsimp only
      split
      · rename_i error
        refine Turns.same _ (flushed.give_up rfl) ?_
        intro term _ keepalive
        obtain ⟨-, some, failed⟩ := failed error
        have safe := whole (kept.symm.trans keepalive) term alive
        rw [Request.cutShort, if_pos some, decide_eq_false_iff_not] at safe
        exact absurd (.inl failed) safe
      · rename_i fine
        obtain ⟨-, -, spent⟩ := went fine
        split
        · exact Turns.same _ flushed fun _ _ => spent status
        · exact Turns.same _ flushed fun _ _ => spent status
    | dead =>
      have given : Connection.given ⟨r, .ready, received, behind⟩ (.pass input) = none := by
        simp [Connection.given, status]
      rw [given]
      refine Turns.same feed ?_ ?_
      · rw [List.append_nil]
        exact serves.give_up rfl
      · intro term ends keepalive
        cases keepalive

/-- `free_request` keeps a request serving of which nothing is lost. -/
theorem Serves.freeRequest (serves : Serves preamble parts feed ⟨r, .ready, received, behind⟩)
    (spent : Spent feed r) (granted : Bool) :
    Serves preamble parts feed (freeRequest granted ⟨r, .ready, received, behind⟩) := by
  unfold Stream.freeRequest
  dsimp only
  split
  · rename_i left
    refine ⟨serves.listed, serves.sent, fun body => (by cases body), fun _ => ?_,
      fun _ => serves.pending left.2, fun write => (by cases write),
      fun _ keepalive => (spent keepalive).2 left.2, fun handed => (by cases handed),
      serves.behind, serves.complete⟩
    have sound : r.Sound := serves.sound left.2
    exact ⟨sound.start, sound.empty, sound.filepos⟩
  · rename_i rests
    split
    · rename_i kept
      refine ⟨serves.listed, serves.sent, serves.get, serves.sound, serves.pending, serves.whole,
        serves.last, fun _ => ?_, fun other => absurd rfl other, serves.complete⟩
      obtain ⟨given_up, going⟩ := spent kept.1
      by_cases dead : r.status = .dead
      · exact given_up dead
      · have empty : r.buffer = [] := by
          by_contra some
          exact rests ⟨some, dead⟩
        rw [going dead, Request.buffered, empty, List.drop_nil]
    · exact serves.move _ (by decide) (by decide)

/-- The end of a turn keeps a request serving. -/
theorem Serves.after (serves : Serves preamble parts feed ⟨r, .ready, received, behind⟩)
    (granted : Bool) {ret : Int} (spent : ret = 0 → Spent feed r) :
    Serves preamble parts feed
      (Connection.after granted ret ⟨r, .ready, received, behind⟩) := by
  unfold Connection.after
  split
  · exact serves.move _ (by decide) (by decide)
  · split
    · rename_i zero
      exact serves.freeRequest (spent zero) granted
    · exact serves

/-- A turn of the main loop keeps a request serving. -/
theorem Serves.pass (serves : Serves preamble parts feed ⟨r, .ready, received, behind⟩)
    {input : Input} (whole : Connection.cuts ⟨r, .ready, received, behind⟩ (.pass input) = false) :
    ∃ parts' : List (Part vol), parts'.map Part.block = parts.map Part.block ++
        (Connection.given ⟨r, .ready, received, behind⟩ (.pass input)).toList ∧
      ∃ feed' : Feed UInt8,
        Serves preamble parts' feed' (pass input ⟨r, .ready, received, behind⟩) := by
  have cut : r.keepalive = true → input.sigterm = false → r.status ≠ .dead →
      r.cutShort input = false := by
    intro keepalive term alive
    by_contra short
    have cuts : Connection.cuts ⟨r, .ready, received, behind⟩ (.pass input) = true :=
      decide_eq_true ⟨rfl, keepalive, term, alive, Bool.not_eq_false _ ▸ short⟩
    cases whole.symm.trans cuts
  obtain ⟨parts', blocks, feed', served, spent⟩ := serves.serve input cut
  refine ⟨parts', blocks, feed', ?_⟩
  have calm : Serves preamble parts' feed' ⟨{ (Stream.serve input r).1 with
      busyAudio := true
      busyVideo := true
      keepalive := (Stream.serve input r).1.keepalive && !input.sigterm }, .ready,
      received ++ (Stream.serve input r).2.1, behind⟩ :=
    served.idles ⟨rfl, rfl, rfl, rfl, rfl, fun kept => (Bool.and_eq_true_iff.mp kept).1⟩
  apply calm.after
  intro zero keepalive
  obtain ⟨kept, term⟩ := Bool.and_eq_true_iff.mp keepalive
  have term : input.sigterm = false := (Bool.not_eq_true' _).mp term
  refine spent term ?_ kept
  by_cases late : (Stream.serve input r).1.late input.info.second = true
  · exact .inr late
  · have ret : (if (Stream.serve input r).1.late input.info.second then (0 : Int)
        else (Stream.serve input r).2.2) = 0 := zero
    rw [if_neg late] at ret
    exact .inl ret

/-- Every action of the main loop keeps a request serving. -/
theorem Serves.step (serves : Serves preamble parts feed c) {action : Action}
    (whole : c.cuts action = false) :
    ∃ parts' : List (Part vol), parts'.map Part.block =
        parts.map Part.block ++ (c.given action).toList ∧
      ∃ feed' : Feed UInt8, Serves preamble parts' feed' (c.step action) := by
  obtain ⟨r, place, received, behind⟩ := c
  have same (c' : Connection) (kept : Serves preamble parts feed c') :
      ∃ parts' : List (Part vol), parts'.map Part.block = parts.map Part.block ++ [] ∧
        ∃ feed' : Feed UInt8, Serves preamble parts' feed' c' :=
    ⟨parts, (List.append_nil _).symm, feed, kept⟩
  cases action with
  | pass input =>
    cases place with
    | ready => exact serves.pass whole
    | blocked => exact same _ serves
    | free => exact same _ serves
    | handed => exact same _ serves
  | wake timedOut =>
    cases place with
    | ready => exact same _ serves
    | blocked =>
      have ready := serves.move (.ready) (by decide) (by decide)
      cases timedOut with
      | false => exact same _ ready
      | true => exact same _ (ready.give_up rfl)
    | free => exact same _ serves
    | handed => exact same _ serves
  | restart granted =>
    cases place with
    | ready =>
      refine same _ (serves.freeRequest ?_ granted)
      intro keepalive
      have safe : ¬(r.status = .dead ∨ r.status = .write ∧ r.framed ≠ []) := by
        intro short
        have cuts : Connection.cuts ⟨r, .ready, received, behind⟩ (.restart granted) = true :=
          decide_eq_true ⟨rfl, keepalive, short⟩
        cases whole.symm.trans cuts
      refine ⟨fun dead => absurd (.inl dead) safe, fun alive => ?_⟩
      cases status : r.status with
      | write =>
        have used : r.framed = [] := by
          by_contra left
          exact safe (.inr ⟨status, left⟩)
        have rest : feed.pending = r.buffered ++ r.framed := serves.whole status
        rw [rest, used, List.append_nil]
      | body => exact absurd status serves.get
      | done => exact serves.last status keepalive
      | dead => exact absurd status alive
    | blocked => exact same _ serves
    | free => exact same _ serves
    | handed => exact same _ serves
  | next bytes =>
    cases place with
    | ready => exact same _ serves
    | blocked => exact same _ serves
    | free => exact same _ serves
    | handed =>
      refine same _ ⟨serves.listed, serves.sent, serves.get, serves.sound, serves.pending,
        serves.whole, serves.last, serves.handed, fun other => absurd rfl other, serves.complete⟩

/-- So does every run of the main loop. -/
theorem Serves.run (serves : Serves preamble parts feed c) {actions : List Action}
    (whole : c.neverCuts actions = true) :
    ∃ parts' : List (Part vol), parts'.map Part.block =
        parts.map Part.block ++ c.frames actions ∧
      ∃ feed' : Feed UInt8, Serves preamble parts' feed' (actions.foldl Connection.step c) := by
  induction actions generalizing parts feed c with
  | nil => exact ⟨parts, (List.append_nil _).symm, feed, serves⟩
  | cons action actions ih =>
    rw [Connection.neverCuts, Bool.and_eq_true, Bool.not_eq_true'] at whole
    obtain ⟨parts', blocks, feed', next⟩ := serves.step whole.1
    obtain ⟨parts'', blocks', last⟩ := ih next whole.2
    refine ⟨parts'', ?_, last⟩
    rw [blocks', blocks, List.append_assoc]
    rfl

/-- What is served is framed. -/
theorem Serves.framed (serves : Serves preamble parts feed c) : Framed preamble parts c where
  front := ⟨feed.pending, serves.text⟩
  behind some := by
    apply serves.all
    by_contra left
    exact some (serves.behind fun handed => left (serves.handed handed))
  complete := serves.complete
  rest write := by
    rw [List.append_assoc, ← serves.whole write]
    exact serves.text
  sent ready write input amount there wrote := by
    have sound : c.request.Sound := serves.sound (by rw [write]; decide)
    have received : ∀ (granted : Bool) (ret : Int) (c : Connection),
        (c.after granted ret).received = c.received := by
      intro granted ret c
      unfold Connection.after Stream.freeRequest
      split_ifs <;> rfl
    have turn : (c.step (.pass input)).received =
        c.received ++ (Stream.serve input c.request).2.1 := by
      have step : c.step (.pass input) = Stream.pass input c := by
        unfold Connection.step
        rw [ready]
      rw [step]
      exact received _ _ _
    rw [turn, Request.offered, Stream.serve]
    congr 1
    by_cases some : c.request.buffer ≠ []
    · have going : c.request.buffer ≠ [] ∧ c.request.status ≠ .dead ∧ c.request.status ≠ .done := by
        rw [write]
        exact ⟨some, by decide, by decide⟩
      have flush : (Stream.reqFlush c.request input.written).2.1 = c.request.buffered.take amount := by
        have left : (c.request.buffer.drop c.request.bufferStart).length ≠ 0 := by
          have less := sound.start some
          rw [List.length_drop]
          omega
        unfold Stream.reqFlush
        dsimp only
        rw [if_neg (by rw [write]; decide), if_pos left, wrote]
        rfl
      rw [if_pos going, if_pos some]
      dsimp only
      split_ifs <;> exact flush
    · rw [if_neg (fun going => some going.1), if_neg some, write]
      dsimp only
      rw [Stream.processGet, if_neg (by rw [there]; decide), wrote]
      rfl
  offers write none := by
    apply serves.all
    have sound : c.request.Sound := serves.sound (by rw [write]; decide)
    rw [serves.whole write]
    unfold Request.offered at none
    split at none
    · rename_i some
      have less := sound.start some
      have size := congrArg List.length none
      rw [Request.buffered, List.length_drop, List.length_nil] at size
      omega
    · rename_i empty
      have empty : c.request.buffer = [] := Decidable.not_not.mp empty
      have used : c.request.framed = [] := (List.take_eq_nil_iff.mp none).resolve_left (by decide)
      rw [Request.buffered, empty, used, List.drop_nil, List.nil_append]

end Serving

end BoaIpcam.Stream
