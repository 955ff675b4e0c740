import BoaIpcam.Relay.Owed

/-!
# The delivery of a response

A turn of the main loop hands the client the front of what it is owed. Over a whole run, however
the pipe and the socket answer, the client gets a prefix of its response, and when neither fails it
has got all of it once the request is freed.
-/
namespace BoaIpcam.Relay

open Cells

/-- The socket or the pipe fails in a turn. -/
def Failing (answers : Answers) : Prop := Fails answers.socket ∨ answers.pipe = .failed

variable {info : Info} {answers : Answers} {r : Request} {bytes rest owed : List UInt8}

/-- A request that waits is not freed. -/
theorem waiting_ne_zero : (-1 : ℤ) ≠ 0 := by decide

/-- A step in which the socket takes nothing and the request goes on. -/
theorem handed_none {fails : Prop} {ret : ℤ} (owes : Owes info r rest owed) (going : ret ≠ 0) :
    Handed info fails owed (r, rest, [], ret) :=
  .inl ⟨owed, (List.nil_append owed).symm, .inl ⟨going, owes⟩⟩

/-! ## One turn -/

/-- A request that moves bytes with something in its buffer flushes it first. -/
theorem flush_handed (buffered : Buffered r bytes) (waits : r.bufferEnd ≠ 0)
    (alive : r.status ≠ .dead) (going : r.status ≠ .done)
    (again : ∀ start stop left, Buffered { r with bufferStart := start, bufferEnd := stop } left →
      Owes info { r with bufferStart := start, bufferEnd := stop } rest (left ++ owed)) :
    Handed info (Failing answers) (bytes ++ owed) (handle info answers r rest) := by
  unfold handle
  rw [if_pos ⟨waits, alive, going⟩]
  rcases reqFlush_cases answers.socket buffered alive with
    ⟨start, stop, left, sent, result, split, remains⟩ | ⟨fails, -, result⟩
  · simp only [result]
    have kept := again start stop left remains
    refine .inl ⟨left ++ owed, by rw [split, List.append_assoc]; split_ifs <;> rfl, .inl ?_⟩
    by_cases blocked : answers.socket = .wouldBlock ∧ bytes ≠ []
    · simp only [if_pos blocked]
      exact ⟨waiting_ne_zero, kept⟩
    · have natural : ¬((stop : ℤ) = -2) := by omega
      have positive : (0 : ℤ) ≤ stop := by omega
      simp only [if_neg blocked, if_neg natural, if_pos positive]
      exact ⟨Int.one_ne_zero, kept⟩
  · simp only [result]
    exact .inr ⟨.inl fails, rfl, .inl rfl⟩

/-- A request that is done sends what is left in its buffer. -/
theorem done_handed (status : r.status = .done) (buffered : Buffered r owed) :
    Handed info (Failing answers) owed (handle info answers r rest) := by
  have alive : r.status ≠ .dead := by rw [status]; decide
  unfold handle
  rw [if_neg fun flushing => flushing.2.2 status, status]
  rcases reqFlush_cases answers.socket buffered alive with
    ⟨start, stop, left, sent, result, split, remains⟩ | ⟨fails, -, result⟩
  · simp only [result]
    have closes : Owes info { r with bufferStart := start, bufferEnd := stop } rest left :=
      .closes status remains
    by_cases blocked : answers.socket = .wouldBlock ∧ owed ≠ []
    · simp only [if_pos blocked]
      exact .inl ⟨left, split, .inl ⟨waiting_ne_zero, closes⟩⟩
    · have natural : ¬((stop : ℤ) = -2) := by omega
      simp only [if_neg blocked, if_neg natural]
      by_cases more : (0 : ℤ) < stop
      · simp only [if_pos more]
        exact .inl ⟨left, split, .inl ⟨Int.one_ne_zero, closes⟩⟩
      · simp only [if_neg more]
        have zero : (stop : ℤ) = 0 := by omega
        exact .inl ⟨left, split, .inr ⟨zero, alive, remains⟩⟩
  · simp only [result]
    exact .inr ⟨.inl fails, rfl, .inl rfl⟩

/-- The page that a dead request writes is not sent. -/
theorem sendError_dead (written : Written) (dead : r.status = .dead) :
    (sendError info written r).2 = [] ∧ (sendError info written r).1.status = .dead := by
  rw [sendError, sendErrorPage]
  have same : (reqWrites { squashKa r with responseStatus := rError } (errorTexts
      (ascii "HTTP/1.0 500 Server Error\r\n") errorBody info
        { squashKa r with responseStatus := rError })) =
      { squashKa r with responseStatus := rError } := reqWrites_dead _ dead
  simp only [same]
  unfold reqFlush
  rw [if_pos (show (squashKa r).status = .dead from dead)]
  exact ⟨rfl, dead⟩

/-- A step from the pipe to the socket. -/
theorem writeFromPipe_handed (status : r.status = .pipeWrite) (cgi : r.cgiStatus ≠ .parse)
    (empty : Buffered r []) (proper : r.headerLine ≤ r.headerEnd) (bounded : r.headerEnd ≤ bufferSize)
    (ended : r.cgiStatus = .done → rest = []) :
    Handed info (Failing answers) (slice r.buffer r.headerLine r.headerEnd ++ rest)
      ((writeFromPipe info answers r).1, rest, (writeFromPipe info answers r).2) := by
  unfold writeFromPipe
  by_cases sentAll : r.headerEnd - r.headerLine = 0
  · have none : slice r.buffer r.headerLine r.headerEnd = [] := by
      rw [show r.headerEnd = r.headerLine by omega, slice_self]
    rw [if_pos sentAll, none, List.nil_append]
    by_cases done : r.cgiStatus = .done
    · rw [if_pos done, ended done]
      refine .inl ⟨[], rfl, .inr ⟨rfl, ?_, empty⟩⟩
      rw [status]
      decide
    · rw [if_neg done]
      refine handed_none ?_ Int.one_ne_zero
      refine .pipes [] (.inl rfl) cgi ?_ (Nat.le_refl _) (Nat.zero_le _) (fun d => absurd d done) ?_
      · exact ⟨empty.held, empty.proper, empty.bounded, empty.reset⟩
      · show rest = [] ++ slice r.buffer 0 0 ++ rest
        rw [slice_self, List.nil_append, List.nil_append]
  · rw [if_neg sentAll]
    have same : Owes info r rest (slice r.buffer r.headerLine r.headerEnd ++ rest) :=
      .pipes [] (.inr status) cgi empty proper bounded (fun done => ⟨status, ended done⟩) rfl
    cases written : answers.socket with
    | wouldBlock => exact handed_none same waiting_ne_zero
    | interrupted => exact handed_none same Int.one_ne_zero
    | failed =>
      have dead := @sendError_dead info { r with status := .dead } .failed rfl
      exact .inr ⟨.inl (.inl written), dead.1, .inl dead.2⟩
    | took amount =>
      have size : (slice r.buffer r.headerLine r.headerEnd).length = r.headerEnd - r.headerLine :=
        length_slice
      have split := List.take_append_drop amount (slice r.buffer r.headerLine r.headerEnd)
      have lengths := congrArg List.length split
      rw [List.length_append] at lengths
      refine .inl ⟨(slice r.buffer r.headerLine r.headerEnd).drop amount ++ rest, ?_,
        .inl ⟨Int.one_ne_zero, ?_⟩⟩
      · show _ = (slice r.buffer r.headerLine r.headerEnd).take amount ++ _
        rw [← List.append_assoc, split]
      · refine .pipes [] (.inr status) cgi ?_ ?_ bounded (fun done => ⟨status, ended done⟩) ?_
        · exact ⟨empty.held, empty.proper, empty.bounded, empty.reset⟩
        · show r.headerLine + ((slice r.buffer r.headerLine r.headerEnd).take amount).length ≤
            r.headerEnd
          omega
        · show _ = [] ++ slice r.buffer
            (r.headerLine + ((slice r.buffer r.headerLine r.headerEnd).take amount).length)
            r.headerEnd ++ rest
          rw [slice_after, List.nil_append]

/-- The items after those that were taken. -/
theorem drop_taken {items : List UInt8} {amount : ℕ} :
    items.drop (items.take amount).length = items.drop amount := by
  rw [List.length_take]
  rcases Nat.le_total amount items.length with few | many
  · rw [Nat.min_eq_left few]
  · rw [Nat.min_eq_right many, List.drop_length, List.drop_eq_nil_of_le many]

/-- Bytes that are read from the pipe come behind those that are there. -/
theorem slice_read {amount : ℕ} (proper : r.headerLine ≤ r.headerEnd) :
    slice (put r.buffer r.headerEnd (rest.take amount)) r.headerLine
        (r.headerEnd + (rest.take amount).length) ++ rest.drop (rest.take amount).length =
      slice r.buffer r.headerLine r.headerEnd ++ rest := by
  rw [slice_put_end proper, drop_taken, List.append_assoc, List.take_append_drop]

/-- A step from a pipe whose header is not read any more. -/
theorem readFromPipe_handed (status : r.status = .pipeRead) (cgi : r.cgiStatus ≠ .parse)
    (empty : Buffered r []) (proper : r.headerLine ≤ r.headerEnd)
    (bounded : r.headerEnd ≤ bufferSize) (going : r.cgiStatus ≠ .done) :
    Handed info (Failing answers) (slice r.buffer r.headerLine r.headerEnd ++ rest)
      (readFromPipe info answers r rest) := by
  have same : Owes info r rest (slice r.buffer r.headerLine r.headerEnd ++ rest) :=
    .pipes [] (.inl status) cgi empty proper bounded (fun done => absurd done going) rfl
  unfold readFromPipe
  by_cases full : bufferSize - r.headerEnd = 0
  · rw [if_pos full, if_neg cgi]
    refine handed_none ?_ Int.one_ne_zero
    refine .pipes [] (.inr rfl) cgi ?_ proper bounded (fun done => absurd done going) rfl
    exact ⟨empty.held, empty.proper, empty.bounded, empty.reset⟩
  rw [if_neg full]
  cases piped : answers.pipe with
  | interrupted => exact handed_none same Int.one_ne_zero
  | wouldBlock => exact handed_none same waiting_ne_zero
  | failed => exact .inr ⟨.inr piped, rfl, .inl rfl⟩
  | ready more =>
    by_cases over_ : rest = []
    · simp only [if_pos over_, if_neg cgi]
      refine handed_none ?_ Int.one_ne_zero
      have parsed : CgiStatus.done ≠ .parse := by decide
      refine .pipes [] (.inr rfl) parsed ?_ proper bounded (fun _ => ⟨rfl, over_⟩) rfl
      exact ⟨empty.held, empty.proper, empty.bounded, empty.reset⟩
    · simp only [if_neg over_]
      have fits : (rest.take (min (more + 1) (bufferSize - r.headerEnd))).length ≤
          bufferSize - r.headerEnd := by
        rw [List.length_take]
        omega
      refine handed_none ?_ Int.one_ne_zero
      refine .pipes [] (.inl status) cgi ?_ ?_ ?_ (fun done => absurd done going) ?_
      · have zero := empty.nil_iff.mp rfl
        have start := empty.proper
        exact buffered_empty (by show r.bufferStart = 0; omega) zero
      · show r.headerLine ≤ r.headerEnd + _
        omega
      · show r.headerEnd + _ ≤ bufferSize
        omega
      · rw [List.nil_append]
        exact (slice_read proper).symm

/-- A step from the pipe of a script whose header is read. -/
theorem parse_handed (status : r.status = .pipeRead) (cgi : r.cgiStatus = .parse)
    (empty : Buffered r []) (line : r.headerLine = bufferSize / 2)
    (proper : bufferSize / 2 ≤ r.headerEnd) (bounded : r.headerEnd ≤ bufferSize)
    (stopped : r.keepalive = .stopped) (isCgi : r.isCgi = true)
    (fits : RedirectFits info r.method r.simple
      (slice r.buffer (bufferSize / 2) r.headerEnd ++ rest)) :
    Handed info (Failing answers)
      (relayed info r.method r.simple (slice r.buffer (bufferSize / 2) r.headerEnd ++ rest))
      (readFromPipe info answers r rest) := by
  have same : Owes info r rest
      (relayed info r.method r.simple (slice r.buffer (bufferSize / 2) r.headerEnd ++ rest)) :=
    .parses status cgi empty line proper bounded stopped isCgi fits rfl
  have zero : r.bufferEnd = 0 := empty.nil_iff.mp rfl
  have start : r.bufferStart = 0 := by
    have before := empty.proper
    omega
  -- the NUL that ends what was read is behind it
  have kept : slice (put r.buffer r.headerEnd [0]) (bufferSize / 2) r.headerEnd =
      slice r.buffer (bufferSize / 2) r.headerEnd := slice_put_beside (.inl (Nat.le_refl _))
  have ended : put r.buffer r.headerEnd [0] r.headerEnd = 0 := by simp [put]
  have size : (slice r.buffer (bufferSize / 2) r.headerEnd).length = r.headerEnd - bufferSize / 2 :=
    length_slice
  have half : bufferSize / 2 = 4096 := rfl
  have whole : bufferSize = 8192 := rfl
  have weaken : ∀ {owed out}, Handed info (Fails answers.socket) owed out →
      Handed info (Failing answers) owed out := by
    rintro owed out (sent | ⟨fails, lost⟩)
    · exact .inl sent
    · exact .inr ⟨.inl fails, lost⟩
  unfold readFromPipe
  by_cases full : bufferSize - r.headerEnd = 0
  · rw [if_pos full, if_pos cgi]
    have parsing : Parsing { r with
        cgiStatus := .buffer, buffer := put r.buffer r.headerEnd [0] }
        (slice r.buffer (bufferSize / 2) r.headerEnd) rest :=
      ⟨buffered_empty start zero, line, proper, bounded, kept, ended, .inl status, .inl rfl,
        stopped, isCgi, List.take_left' (by omega)⟩
    exact weaken (parsing.header_handed answers.socket fits)
  rw [if_neg full]
  cases piped : answers.pipe with
  | interrupted => exact handed_none same Int.one_ne_zero
  | wouldBlock => exact handed_none same waiting_ne_zero
  | failed => exact .inr ⟨.inr piped, rfl, .inl rfl⟩
  | ready more =>
    by_cases over_ : rest = []
    · simp only [if_pos over_, if_pos cgi]
      subst over_
      have front : seenOf (slice r.buffer (bufferSize / 2) r.headerEnd ++ []) =
          slice r.buffer (bufferSize / 2) r.headerEnd := by
        rw [List.append_nil, seenOf, List.take_of_length_le (by omega)]
      have parsing : Parsing { r with
          status := .pipeWrite, cgiStatus := .done, buffer := put r.buffer r.headerEnd [0] }
          (slice r.buffer (bufferSize / 2) r.headerEnd) [] :=
        ⟨buffered_empty start zero, line, proper, bounded, kept, ended, .inr rfl,
          .inr ⟨rfl, rfl, rfl⟩, stopped, isCgi, front⟩
      exact weaken (parsing.header_handed answers.socket fits)
    · simp only [if_neg over_]
      have few : (rest.take (min (more + 1) (bufferSize - r.headerEnd))).length ≤
          bufferSize - r.headerEnd := by
        rw [List.length_take]
        omega
      have all := @slice_read r rest (min (more + 1) (bufferSize - r.headerEnd))
        (by rw [line]; exact proper)
      rw [line] at all
      refine handed_none ?_ Int.one_ne_zero
      refine .parses status cgi (buffered_empty start zero) line ?_ ?_ stopped isCgi ?_ ?_
      · show bufferSize / 2 ≤ r.headerEnd + _
        omega
      · show r.headerEnd + _ ≤ bufferSize
        omega
      · show RedirectFits info r.method r.simple _
        rw [← all] at fits
        exact fits
      · rw [← all]

/-- A step from a mapped file. -/
theorem processGet_handed (status : r.status = .write) (empty : Buffered r [])
    (size : r.filesize = r.dataMem.length) (more : r.filepos < r.filesize) :
    Handed info (Failing answers) (r.dataMem.drop r.filepos)
      ((processGet answers r).1, rest, (processGet answers r).2) := by
  have same : Owes info r rest (r.dataMem.drop r.filepos) :=
    .writes [] status empty size more rfl
  unfold processGet
  cases written : answers.socket with
  | wouldBlock => exact handed_none same waiting_ne_zero
  | interrupted => exact .inr ⟨.inl (.inr written), rfl, .inl rfl⟩
  | failed => exact .inr ⟨.inl (.inl written), rfl, .inl rfl⟩
  | took amount =>
    simp only [List.take_take]
    generalize min amount (min (r.filesize - r.filepos) socketbufSize) = count
    have split := List.take_append_drop count (r.dataMem.drop r.filepos)
    have length : ((r.dataMem.drop r.filepos).take count).length ≤ r.filesize - r.filepos := by
      rw [List.length_take, List.length_drop, size]
      exact Nat.min_le_right _ _
    have left : r.dataMem.drop (r.filepos + ((r.dataMem.drop r.filepos).take count).length) =
        (r.dataMem.drop r.filepos).drop count := by
      rw [← List.drop_drop]
      exact drop_taken
    by_cases last : r.filepos + ((r.dataMem.drop r.filepos).take count).length = r.filesize
    · rw [if_pos last]
      have none : (r.dataMem.drop r.filepos).drop count = [] := by
        rw [← left, last, size, List.drop_length]
      refine .inl ⟨[], ?_, .inr ⟨rfl, ?_, ?_⟩⟩
      · rw [none] at split
        exact split.symm
      · show r.status ≠ .dead
        rw [status]
        decide
      · exact ⟨empty.held, empty.proper, empty.bounded, empty.reset⟩
    · rw [if_neg last]
      refine .inl ⟨(r.dataMem.drop r.filepos).drop count, split.symm, .inl ⟨Int.one_ne_zero, ?_⟩⟩
      refine .writes [] status ?_ size ?_ left.symm
      · exact ⟨empty.held, empty.proper, empty.bounded, empty.reset⟩
      · show r.filepos + ((r.dataMem.drop r.filepos).take count).length < r.filesize
        omega

/-- A turn hands the client the front of what it is owed. -/
theorem handle_handed (owes : Owes info r rest owed) :
    Handed info (Failing answers) owed (handle info answers r rest) := by
  cases owes with
  | parses status cgi empty line proper bounded stopped isCgi fits all =>
    unfold handle
    rw [if_neg fun flushing => flushing.1 (empty.nil_iff.mp rfl), status, all]
    exact parse_handed status cgi empty line proper bounded stopped isCgi fits
  | pipes bytes status cgi buffered proper bounded ended all =>
    have alive : r.status ≠ .dead := by rcases status with s | s <;> rw [s] <;> decide
    have going : r.status ≠ .done := by rcases status with s | s <;> rw [s] <;> decide
    rw [all, List.append_assoc]
    by_cases waits : r.bufferEnd ≠ 0
    · apply flush_handed buffered waits alive going
      intro start stop left remains
      exact .pipes left status cgi remains proper bounded ended (List.append_assoc _ _ _).symm
    · have none : bytes = [] := buffered.nil_iff.mpr (not_not.mp waits)
      subst none
      unfold handle
      rw [if_neg fun flushing => waits flushing.1, List.nil_append]
      rcases status with reads | writes
      · rw [reads]
        apply readFromPipe_handed reads cgi buffered proper bounded
        intro done
        have other := (ended done).1
        rw [reads] at other
        cases other
      · rw [writes]
        exact writeFromPipe_handed writes cgi buffered proper bounded fun done => (ended done).2
  | writes bytes status buffered size more all =>
    rw [all]
    by_cases waits : r.bufferEnd ≠ 0
    · apply flush_handed buffered waits (by rw [status]; decide) (by rw [status]; decide)
      intro start stop left remains
      exact .writes left status remains size more rfl
    · have none : bytes = [] := buffered.nil_iff.mpr (not_not.mp waits)
      subst none
      unfold handle
      rw [if_neg fun flushing => waits flushing.1, status, List.nil_append]
      exact processGet_handed status buffered size more
  | closes status buffered => exact done_handed status buffered

/-- After a failure nothing is sent and the request is over. -/
theorem handle_lost (lost : Lost r) : (handle info answers r rest).2.2.1 = [] ∧
    (handle info answers r rest).2.2.2 = 0 ∧ Lost (handle info answers r rest).1 := by
  unfold handle
  rcases lost with dead | ⟨done, empty⟩
  · rw [if_neg fun flushing => flushing.2.1 dead, dead]
    exact ⟨rfl, rfl, .inl rfl⟩
  · have alive : r.status ≠ .dead := by rw [done]; decide
    rw [if_neg fun flushing => flushing.2.2 done, done]
    rcases reqFlush_cases answers.socket empty alive with
      ⟨start, stop, left, sent, result, split, remains⟩ | ⟨-, some, -⟩
    · obtain ⟨none, nothing⟩ := List.append_eq_nil_iff.mp split.symm
      have zero : stop = 0 := remains.nil_iff.mp nothing
      subst none nothing zero
      have natural : ¬(((0 : ℕ) : ℤ) = -2) := by decide
      have stays : ¬((0 : ℤ) < ((0 : ℕ) : ℤ)) := by decide
      simp only [result, ne_eq, not_true_eq_false, and_false, if_false, if_neg natural, if_neg stays]
      exact ⟨trivial, rfl, .inr ⟨done, remains⟩⟩
    · exact absurd rfl some

/-! ## Whole runs -/

/-- The client has got the front of its response and is owed the rest, or the request is freed and
the client has got all of it. -/
def Delivers (info : Info) (expected : List UInt8) (s : Exchange) : Prop :=
  (s.freed = false ∧ ∃ left, expected = s.sent ++ left ∧ Owes info s.req s.rest left) ∨
    (s.freed = true ∧ s.sent = expected)

/-- The client has got the front of its response and gets no more. -/
def Broken (expected : List UInt8) (s : Exchange) : Prop := s.sent <+: expected ∧ Lost s.req

variable {expected : List UInt8} {s : Exchange}

/-- A request that is finished is freed, or kept until its buffer is sent. -/
theorem free_delivers {r : Request} {rest sent left : List UInt8} (split : expected = sent ++ left)
    (ends : Ends r left) : Delivers info expected (freeRequest ⟨r, rest, sent, false⟩) := by
  obtain ⟨alive, buffered⟩ := ends
  rw [freeRequest]
  by_cases waits : r.bufferEnd ≠ 0
  · rw [if_pos ⟨waits, alive⟩]
    refine .inl ⟨rfl, left, split, .closes rfl ?_⟩
    exact ⟨buffered.held, buffered.proper, buffered.bounded, buffered.reset⟩
  · rw [if_neg fun kept => waits kept.1]
    have none : left = [] := buffered.nil_iff.mpr (not_not.mp waits)
    rw [none, List.append_nil] at split
    exact .inr ⟨rfl, split.symm⟩

/-- A request that lost its client is freed. -/
theorem free_lost {r : Request} {rest sent : List UInt8} (lost : Lost r) :
    freeRequest ⟨r, rest, sent, false⟩ = ⟨r, rest, sent, true⟩ := by
  rw [freeRequest, if_neg]
  rintro ⟨waits, alive⟩
  rcases lost with dead | ⟨-, empty⟩
  · exact alive dead
  · exact waits (empty.nil_iff.mp rfl)

/-- A turn delivers, or fails and delivers nothing more. -/
theorem turn_delivers (delivers : Delivers info expected s) :
    Delivers info expected (turn info s answers) ∨
      (Failing answers ∧ Broken expected (turn info s answers)) := by
  rcases delivers with ⟨going, owed, split, owes⟩ | ⟨freed, all⟩
  · rw [turn, if_neg (by rw [going]; decide)]
    rcases @handle_handed info answers _ _ _ owes with
      ⟨left, handed, ⟨more, next⟩ | ⟨over_, ends⟩⟩ | ⟨fails, none, lost⟩
    · simp only [if_neg more]
      exact .inl (.inl ⟨rfl, left, by rw [split, handed, List.append_assoc], next⟩)
    · simp only [if_pos over_]
      exact .inl (free_delivers (by rw [split, handed, List.append_assoc]) ends)
    · refine .inr ⟨fails, ?_⟩
      simp only [none, List.append_nil]
      split
      · rw [free_lost lost]
        exact ⟨⟨owed, split.symm⟩, lost⟩
      · exact ⟨⟨owed, split.symm⟩, lost⟩
  · rw [turn, if_pos freed]
    exact .inl (.inr ⟨freed, all⟩)

/-- After a failure no turn sends anything. -/
theorem turn_broken (broken : Broken expected s) : Broken expected (turn info s answers) := by
  obtain ⟨front, lost⟩ := broken
  rw [turn]
  split
  · exact ⟨front, lost⟩
  · obtain ⟨none, over_, still⟩ := @handle_lost info answers _ s.rest lost
    simp only [none, List.append_nil, if_pos over_]
    rw [free_lost still]
    exact ⟨front, still⟩

/-- A run delivers, or some turn of it failed and nothing more was sent. -/
theorem turns_delivers {answers : List Answers}
    (start : Delivers info expected s ∨ Broken expected s) :
    (Delivers info expected (turns info s answers)) ∨ Broken expected (turns info s answers) := by
  induction answers generalizing s with
  | nil => exact start
  | cons a answers ih =>
    apply ih
    rcases start with delivers | broken
    · rcases @turn_delivers info a expected s delivers with more | ⟨-, broken⟩
      · exact .inl more
      · exact .inr broken
    · exact .inr (turn_broken broken)

/-- A run in which nothing fails delivers. -/
theorem turns_unbroken {answers : List Answers} (start : Delivers info expected s)
    (sound : ∀ a ∈ answers, ¬Failing a) : Delivers info expected (turns info s answers) := by
  induction answers generalizing s with
  | nil => exact start
  | cons a answers ih =>
    apply ih
    · rcases @turn_delivers info a expected s start with more | ⟨fails, -⟩
      · exact more
      · exact absurd fails (sound a List.mem_cons_self)
    · exact fun later member => sound later (List.mem_cons_of_mem a member)

/-- What was sent is the front of the response. -/
theorem sent_of_outcome (outcome : Delivers info expected s ∨ Broken expected s) :
    s.sent <+: expected := by
  rcases outcome with (⟨-, left, split, -⟩ | ⟨-, all⟩) | ⟨front, -⟩
  · exact ⟨left, split.symm⟩
  · rw [all]
  · exact front

end BoaIpcam.Relay
