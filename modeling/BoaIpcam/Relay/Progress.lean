import BoaIpcam.Relay.Delivery

/-!
# The end of a delivery

A turn in which the pipe and the socket are ready gives the client a byte, takes one from the pipe
or brings the request into a later phase. So the number of such turns is bounded, whatever turns in
which something has to wait come between them.
-/
namespace BoaIpcam.Relay

open Cells

/-! ## The phases of a request -/

/-- How many turns a request can take without a byte that moves. -/
def phase (r : Request) : ℕ :=
  match r.status with
  | .pipeRead => if r.cgiStatus = .parse then 5 else if r.headerEnd = bufferSize then 4 else 2
  | .pipeWrite => if r.cgiStatus = .done then 1 else 3
  | _ => 0

/-- No phase is earlier than the header's. -/
theorem phase_le (r : Request) : phase r ≤ 5 := by
  unfold phase
  split
  · split_ifs <;> omega
  · split <;> omega
  · omega

/-- The pipe and the socket are ready. -/
def Productive (answers : Answers) : Prop :=
  (∃ amount, answers.socket = .took (amount + 1)) ∧ ∃ more, answers.pipe = .ready more

/-- What is ready does not fail. -/
theorem Productive.sound {answers : Answers} (productive : Productive answers) :
    ¬Failing answers := by
  obtain ⟨⟨amount, took⟩, more, ready⟩ := productive
  rintro ((failed | interrupted) | failed)
  · rw [took] at failed
    cases failed
  · rw [took] at interrupted
    cases interrupted
  · rw [ready] at failed
    cases failed

/-- A byte goes to the client or comes from the pipe. -/
def Carries (rest : List UInt8) (out : Request × List UInt8 × List UInt8 × ℤ) : Prop :=
  out.2.2.1 ≠ [] ∨ out.2.1.length < rest.length

/-- What a turn moves: it never goes back, and it goes on when the pipe and the socket are ready. -/
structure Moves (answers : Answers) (r : Request) (rest : List UInt8)
    (out : Request × List UInt8 × List UInt8 × ℤ) : Prop where
  /-- The bytes to read do not become more. -/
  fewer : out.2.1.length ≤ rest.length
  /-- A byte is moved, or the phase is no higher. -/
  kept : Carries rest out ∨ phase out.1 ≤ phase r
  /-- With both ends ready a byte is moved, the phase is lower or the request is over. -/
  lower : Productive answers →
    Carries rest out ∨ phase out.1 < phase r ∨ (out.2.2.2 = 0 ∧ out.1.bufferEnd = 0)

variable {info : Info} {answers : Answers} {r : Request} {bytes rest owed : List UInt8}

/-- A turn that changes the phase. -/
theorem Moves.later {next : Request} {ret : ℤ} (earlier : phase next < phase r) :
    Moves answers r rest (next, rest, [], ret) :=
  ⟨Nat.le_refl _, .inr (Nat.le_of_lt earlier), fun _ => .inr (.inl earlier)⟩

/-- A turn in which the pipe or the socket is not ready. -/
theorem Moves.waits {next : Request} {ret : ℤ} (same : phase next ≤ phase r)
    (idle : ¬Productive answers) : Moves answers r rest (next, rest, [], ret) :=
  ⟨Nat.le_refl _, .inr same, fun productive => absurd productive idle⟩

/-- A socket that is ready takes something of what waits. -/
theorem take_ne_nil {bytes : List UInt8} (some : bytes ≠ []) (amount : ℕ) :
    bytes.take (amount + 1) ≠ [] := by
  cases bytes with
  | nil => exact absurd rfl some
  | cons c bytes => simp

/-- What the socket takes in a flush. -/
theorem reqFlush_took (amount : ℕ) (buffered : Buffered r bytes) (alive : r.status ≠ .dead) :
    (reqFlush (.took amount) r).2.1 = bytes.take amount := by
  have size : bytes.length = r.bufferEnd - r.bufferStart := by
    rw [← buffered.held, length_slice]
  unfold reqFlush
  rw [if_neg alive]
  by_cases idle : r.bufferEnd - r.bufferStart ≠ 0
  · rw [if_pos idle, buffered.held]
  · have none : bytes = [] := List.length_eq_zero_iff.mp (by omega)
    rw [if_neg idle, none, List.take_nil]

/-- A flush keeps the phase or takes it away. -/
theorem reqFlush_phase (written : Written) (r : Request) :
    phase (reqFlush written r).1 ≤ phase r := by
  unfold reqFlush
  by_cases dead : r.status = .dead
  · rw [if_pos dead]
  · rw [if_neg dead]
    by_cases idle : r.bufferEnd - r.bufferStart ≠ 0
    · rw [if_pos idle]
      cases written with
      | wouldBlock => exact Nat.le_refl _
      | took amount =>
        simp only
        split
        · exact Nat.le_refl _
        · exact Nat.le_refl _
      | interrupted => exact Nat.zero_le _
      | failed => exact Nat.zero_le _
    · rw [if_neg idle]
      simp only
      split
      · exact Nat.le_refl _
      · exact Nat.le_refl _

/-! ## The header is read once -/

/-- A text leaves the state of the header. -/
@[simp] theorem reqWrite_cgiStatus (r : Request) (msg : List UInt8) :
    (reqWrite r msg).cgiStatus = r.cgiStatus := by
  rw [reqWrite]
  split_ifs <;> rfl

/-- Texts leave the state of the header. -/
@[simp] theorem reqWrites_cgiStatus (r : Request) (msgs : List (List UInt8)) :
    (reqWrites r msgs).cgiStatus = r.cgiStatus := by
  induction msgs generalizing r with
  | nil => rfl
  | cons msg msgs ih =>
    rw [reqWrites, List.foldl_cons]
    exact (ih (reqWrite r msg)).trans (reqWrite_cgiStatus r msg)

/-- An escaped text leaves the state of the header. -/
@[simp] theorem reqWriteEscape_cgiStatus (escaped : UInt8 → List UInt8) (guard : ℕ) (r : Request)
    (msg : Text) : (reqWriteEscape escaped guard r msg).cgiStatus = r.cgiStatus := by
  rw [reqWriteEscape]
  simp only
  split <;> rfl

/-- A flush leaves the state of the header. -/
@[simp] theorem reqFlush_cgiStatus (written : Written) (r : Request) :
    (reqFlush written r).1.cgiStatus = r.cgiStatus := by
  unfold reqFlush
  split
  · rfl
  · split
    · cases written with
      | took amount =>
        simp only
        split <;> rfl
      | _ => rfl
    · simp only
      split <;> rfl

/-- The head of a response leaves the state of the header. -/
@[simp] theorem sendRequestOk_cgiStatus (r : Request) :
    (sendRequestOk info r).cgiStatus = r.cgiStatus := by
  rw [sendRequestOk]
  simp only
  split
  · rfl
  · rw [reqWrites_cgiStatus]

/-- An error page leaves the state of the header. -/
@[simp] theorem sendErrorPage_cgiStatus (code : ℕ) (line body : List UInt8) (written : Written)
    (r : Request) : (sendErrorPage code line body info written r).1.cgiStatus = r.cgiStatus := by
  rw [sendErrorPage]
  simp only [reqFlush_cgiStatus, reqWrites_cgiStatus]
  rfl

/-- The page of a redirection leaves the state of the header. -/
@[simp] theorem sendMovedTemp_cgiStatus (written : Written) (url : ℕ) (moreHdr : Option ℕ)
    (r : Request) : (sendMovedTemp info written url moreHdr r).1.cgiStatus = r.cgiStatus := by
  have more : ∀ q : Request, (writeMore moreHdr q).cgiStatus = q.cgiStatus := by
    intro q
    cases moreHdr with
    | none => rfl
    | some position => exact reqWrite_cgiStatus q _
  have head : ∀ q : Request, (writeMovedHead info url moreHdr q).cgiStatus = q.cgiStatus := by
    intro q
    rw [writeMovedHead]
    split
    · rfl
    · simp only [reqWrite_cgiStatus, more, reqWriteEscapeHttp, reqWriteEscape_cgiStatus,
        reqWrites_cgiStatus]
  have body : ∀ q : Request, (writeMovedBody url q).cgiStatus = q.cgiStatus := by
    intro q
    rw [writeMovedBody]
    split
    · rfl
    · simp only [reqWrite_cgiStatus, reqWriteEscapeHtml, reqWriteEscape_cgiStatus]
  rw [sendMovedTemp]
  simp only [reqFlush_cgiStatus, body, head]
  rfl

/-- A processed header is not processed again. -/
theorem processCgiHeader_cgiStatus (written : Written) (r : Request) :
    (processCgiHeader info written r).1.cgiStatus ≠ .parse := by
  rw [processCgiHeader]
  simp only
  generalize settled : (if r.cgiStatus = .done then r else { r with cgiStatus := .buffer }) = q
  have once : q.cgiStatus ≠ .parse := by
    rw [← settled]
    split
    · rename_i done
      rw [done]
      decide
    · show CgiStatus.buffer ≠ .parse
      decide
  cases headerEndOf (cstr q.buffer q.headerLine) with
  | none =>
    rw [sendBadGateway, sendErrorPage_cgiStatus]
    exact once
  | some c =>
    simp only
    split
    · exact once
    split
    · exact once
    split
    · rw [locationHeader]
      split
      · show (sendBadRequest info written q).1.cgiStatus ≠ .parse
        rw [sendBadRequest, sendErrorPage_cgiStatus]
        exact once
      · cases newlineAfter q.buffer (q.headerLine + 10) with
        | none => exact once
        | some newline =>
          simp only [sendMovedTemp_cgiStatus]
          exact once
    · rw [plainHeader]
      have kept : (sendRequestOk info q).cgiStatus ≠ .parse := by
        rw [sendRequestOk_cgiStatus]
        exact once
      generalize sendRequestOk info q = m at kept ⊢
      simp only
      generalize cut : (if m.method = .head then { m with
        headerEnd := pastHeader m.buffer (q.headerLine + c), cgiStatus := .done } else m) = n
      have parsed : n.cgiStatus ≠ .parse := by
        rw [← cut]
        split
        · show CgiStatus.done ≠ .parse
          decide
        · exact kept
      split
      · rw [sendError, sendErrorPage_cgiStatus]
        exact parsed
      · rw [reqFlush_cgiStatus]
        exact parsed

/-- A request whose header is read is in a later phase. -/
theorem phase_of_parsed (parsed : r.cgiStatus ≠ .parse) : phase r ≤ 4 := by
  unfold phase
  split
  · rw [if_neg parsed]
    split <;> omega
  · split <;> omega
  · omega

/-! ## One turn -/

/-- A turn that flushes a buffer with something in it. -/
theorem flush_moves (buffered : Buffered r bytes) (waits : r.bufferEnd ≠ 0)
    (alive : r.status ≠ .dead) (going : r.status ≠ .done) :
    Moves answers r rest (handle info answers r rest) := by
  have some : bytes ≠ [] := fun none => waits (buffered.nil_iff.mp none)
  have later := reqFlush_phase answers.socket r
  unfold handle
  rw [if_pos ⟨waits, alive, going⟩]
  have carries : Productive answers → (reqFlush answers.socket r).2.1 ≠ [] := by
    rintro ⟨⟨amount, took⟩, -⟩
    rw [took, reqFlush_took _ buffered alive]
    exact take_ne_nil some amount
  simp only
  split
  · exact ⟨Nat.le_refl _, .inr (Nat.zero_le _), fun productive => .inl (.inl (carries productive))⟩
  · exact ⟨Nat.le_refl _, .inr later, fun productive => .inl (.inl (carries productive))⟩

/-- A turn of a request that is done. -/
theorem done_moves (status : r.status = .done) (buffered : Buffered r owed) :
    Moves answers r rest (handle info answers r rest) := by
  have alive : r.status ≠ .dead := by rw [status]; decide
  have later := reqFlush_phase answers.socket r
  have whole : handle info answers r rest =
      (if (reqFlush answers.socket r).2.2 = -2 then
        ({ (reqFlush answers.socket r).1 with status := .dead }, rest,
          (reqFlush answers.socket r).2.1, 0)
      else ((reqFlush answers.socket r).1, rest, (reqFlush answers.socket r).2.1,
        if 0 < (reqFlush answers.socket r).2.2 then 1 else (reqFlush answers.socket r).2.2)) := by
    unfold handle
    rw [if_neg fun flushing => flushing.2.2 status, status]
  rw [whole]
  by_cases none : owed = []
  · -- nothing waits, and the request is freed
    have zero := buffered.nil_iff.mp none
    rcases reqFlush_cases answers.socket buffered alive with
      ⟨start, stop, left, sent, result, split, remains⟩ | ⟨-, some, -⟩
    · rw [none] at split
      obtain ⟨-, nothing⟩ := List.append_eq_nil_iff.mp split.symm
      have empty : stop = 0 := remains.nil_iff.mp nothing
      subst empty
      have natural : ¬(((0 : ℕ) : ℤ) = -2) := by decide
      have stays : ¬((0 : ℤ) < ((0 : ℕ) : ℤ)) := by decide
      rw [result] at later ⊢
      simp only [none, ne_eq, not_true_eq_false, and_false, if_false, if_neg natural, if_neg stays]
      exact ⟨Nat.le_refl _, .inr later, fun _ => .inr (.inr ⟨rfl, rfl⟩)⟩
    · exact absurd none some
  · have carries : Productive answers → (reqFlush answers.socket r).2.1 ≠ [] := by
      rintro ⟨⟨amount, took⟩, -⟩
      rw [took, reqFlush_took _ buffered alive]
      exact take_ne_nil none amount
    split
    · exact ⟨Nat.le_refl _, .inr (Nat.zero_le _), fun productive => .inl (.inl (carries productive))⟩
    · exact ⟨Nat.le_refl _, .inr later, fun productive => .inl (.inl (carries productive))⟩

/-- A turn that processes the header. -/
theorem header_moves (first : phase r = 5) (q : Request) :
    Moves answers r rest ((processCgiHeader info answers.socket q).1, rest,
      (processCgiHeader info answers.socket q).2) := by
  have four := phase_of_parsed (@processCgiHeader_cgiStatus info answers.socket q)
  have less : phase (processCgiHeader info answers.socket q).1 < phase r := by omega
  exact ⟨Nat.le_refl _, .inr (Nat.le_of_lt less), fun _ => .inr (.inl less)⟩

/-- A turn that reads from the pipe. -/
theorem readFromPipe_moves (status : r.status = .pipeRead) (bounded : r.headerEnd ≤ bufferSize) :
    Moves answers r rest (readFromPipe info answers r rest) := by
  have pipeWrite : ∀ q : Request, q.status = .pipeWrite → q.cgiStatus ≠ .parse → phase q ≤ 3 := by
    intro q writes _
    rw [phase, writes]
    simp only
    split <;> omega
  have parse : r.cgiStatus = .parse → phase r = 5 := by
    intro cgi
    rw [phase, status]
    exact if_pos cgi
  have early : 2 ≤ phase r := by
    rw [phase, status]
    simp only
    split_ifs <;> omega
  unfold readFromPipe
  by_cases full : bufferSize - r.headerEnd = 0
  · rw [if_pos full]
    by_cases cgi : r.cgiStatus = .parse
    · rw [if_pos cgi]
      exact header_moves (parse cgi) _
    · rw [if_neg cgi]
      apply Moves.later
      have four : phase r = 4 := by
        rw [phase, status]
        simp only
        rw [if_neg cgi, if_pos (by omega)]
      have three := pipeWrite { r with status := .pipeWrite } rfl cgi
      omega
  rw [if_neg full]
  cases piped : answers.pipe with
  | interrupted =>
    refine .waits (Nat.le_refl _) ?_
    rintro ⟨-, more, ready⟩
    rw [piped] at ready
    cases ready
  | wouldBlock =>
    refine .waits (Nat.le_refl _) ?_
    rintro ⟨-, more, ready⟩
    rw [piped] at ready
    cases ready
  | failed =>
    refine .waits (Nat.zero_le _) ?_
    rintro ⟨-, more, ready⟩
    rw [piped] at ready
    cases ready
  | ready more =>
    by_cases over_ : rest = []
    · simp only [if_pos over_]
      by_cases cgi : r.cgiStatus = .parse
      · rw [if_pos cgi]
        exact header_moves (parse cgi) _
      · rw [if_neg cgi]
        apply Moves.later
        have one : phase { r with status := .pipeWrite, cgiStatus := .done } = 1 := rfl
        omega
    · simp only [if_neg over_]
      have some : 0 < rest.length := List.length_pos_iff.mpr over_
      have shorter : (rest.drop (rest.take (min (more + 1) (bufferSize - r.headerEnd))).length).length <
          rest.length := by
        rw [List.length_drop, List.length_take]
        omega
      exact ⟨Nat.le_of_lt shorter, .inl (.inr shorter), fun _ => .inl (.inr shorter)⟩

/-- A turn that writes what came from the pipe. -/
theorem writeFromPipe_moves (status : r.status = .pipeWrite) (cgi : r.cgiStatus ≠ .parse)
    (empty : Buffered r []) :
    Moves answers r rest
      ((writeFromPipe info answers r).1, rest, (writeFromPipe info answers r).2) := by
  unfold writeFromPipe
  by_cases sentAll : r.headerEnd - r.headerLine = 0
  · rw [if_pos sentAll]
    by_cases done : r.cgiStatus = .done
    · rw [if_pos done]
      exact ⟨Nat.le_refl _, .inr (Nat.le_refl _), fun _ => .inr (.inr ⟨rfl, empty.nil_iff.mp rfl⟩)⟩
    · rw [if_neg done]
      have three : phase r = 3 := by
        rw [phase, status]
        exact if_neg done
      have two : phase { r with status := .pipeRead, headerEnd := 0, headerLine := 0 } = 2 := by
        rw [phase]
        simp only
        rw [if_neg cgi, if_neg (by decide)]
      exact .later (by rw [three]; exact two.trans_lt (by decide))
  · rw [if_neg sentAll]
    have idle : ∀ {written}, answers.socket = written → (∀ amount, written ≠ .took amount) →
        ¬Productive answers := by
      rintro written is other ⟨⟨amount, took⟩, -⟩
      exact other _ (is.symm.trans took)
    cases written : answers.socket with
    | wouldBlock => exact .waits (Nat.le_refl _) (idle written nofun)
    | interrupted => exact .waits (Nat.le_refl _) (idle written nofun)
    | failed =>
      have dead := @sendError_dead info { r with status := .dead } .failed rfl
      simp only [dead.1]
      apply Moves.waits _ (idle written nofun)
      rw [phase, dead.2]
      exact Nat.zero_le _
    | took amount =>
      have some : slice r.buffer r.headerLine r.headerEnd ≠ [] := by
        intro none
        have size := congrArg List.length none
        rw [length_slice, List.length_nil] at size
        omega
      refine ⟨Nat.le_refl _, .inr (Nat.le_refl _), ?_⟩
      rintro ⟨⟨more, took⟩, -⟩
      rw [written] at took
      cases took
      exact .inl (.inl (take_ne_nil some more))

/-- A turn that writes a mapped file. -/
theorem processGet_moves (size : r.filesize = r.dataMem.length) (more : r.filepos < r.filesize) :
    Moves answers r rest ((processGet answers r).1, rest, (processGet answers r).2) := by
  unfold processGet
  have idle : ∀ {written}, answers.socket = written → (∀ amount, written ≠ .took amount) →
      ¬Productive answers := by
    rintro written is other ⟨⟨amount, took⟩, -⟩
    exact other _ (is.symm.trans took)
  cases written : answers.socket with
  | wouldBlock => exact .waits (Nat.le_refl _) (idle written nofun)
  | interrupted => exact .waits (Nat.zero_le _) (idle written nofun)
  | failed => exact .waits (Nat.zero_le _) (idle written nofun)
  | took amount =>
    refine ⟨Nat.le_refl _, .inr (Nat.le_refl _), ?_⟩
    rintro ⟨⟨some, took⟩, -⟩
    rw [written] at took
    cases took
    refine .inl (.inl ?_)
    show ((r.dataMem.drop r.filepos).take (min (r.filesize - r.filepos) socketbufSize)).take
      (some + 1) ≠ []
    apply take_ne_nil
    intro none
    have length := congrArg List.length none
    rw [List.length_take, List.length_drop, List.length_nil, socketbufSize] at length
    omega

/-- Every turn moves. -/
theorem handle_moves (owes : Owes info r rest owed) :
    Moves answers r rest (handle info answers r rest) := by
  cases owes with
  | parses status cgi empty line proper bounded stopped isCgi fits all =>
    unfold handle
    rw [if_neg fun flushing => flushing.1 (empty.nil_iff.mp rfl), status]
    exact readFromPipe_moves status bounded
  | pipes bytes status cgi buffered proper bounded ended all =>
    have alive : r.status ≠ .dead := by rcases status with s | s <;> rw [s] <;> decide
    have going : r.status ≠ .done := by rcases status with s | s <;> rw [s] <;> decide
    by_cases waits : r.bufferEnd ≠ 0
    · exact flush_moves buffered waits alive going
    · have none : bytes = [] := buffered.nil_iff.mpr (not_not.mp waits)
      subst none
      unfold handle
      rw [if_neg fun flushing => waits flushing.1]
      rcases status with reads | writes
      · rw [reads]
        exact readFromPipe_moves reads bounded
      · rw [writes]
        exact writeFromPipe_moves writes cgi buffered
  | writes bytes status buffered size more all =>
    by_cases waits : r.bufferEnd ≠ 0
    · exact flush_moves buffered waits (by rw [status]; decide) (by rw [status]; decide)
    · unfold handle
      rw [if_neg fun flushing => waits flushing.1, status]
      exact processGet_moves size more
  | closes status buffered => exact done_moves status buffered

/-! ## Whole runs -/

/-- How many turns in which the pipe and the socket are ready a request can still take. -/
def weight (expected : List UInt8) (s : Exchange) : ℕ :=
  if s.freed then 0
  else 6 * (expected.length - s.sent.length + s.rest.length) + phase s.req + 1

variable {expected : List UInt8} {s : Exchange}

/-- A finished request is freed or is in its last phase. -/
theorem weight_free (r : Request) (rest sent : List UInt8) :
    weight expected (freeRequest ⟨r, rest, sent, false⟩) ≤
        6 * (expected.length - sent.length + rest.length) + 1 ∧
      (r.bufferEnd = 0 → weight expected (freeRequest ⟨r, rest, sent, false⟩) = 0) := by
  rw [freeRequest]
  split
  · rename_i waits
    refine ⟨Nat.le_refl _, fun zero => absurd zero waits.1⟩
  · exact ⟨Nat.zero_le _, fun _ => rfl⟩

/-- A turn takes no weight on, and takes some off when the pipe and the socket are ready. -/
theorem weight_turn (delivers : Delivers info expected s) :
    weight expected (turn info s answers) ≤ weight expected s ∧
      (Productive answers → weight expected (turn info s answers) ≤ weight expected s - 1) := by
  rcases delivers with ⟨going, owed, split, owes⟩ | ⟨freed, all⟩
  · have moves := @handle_moves info answers _ _ _ owes
    have front : s.sent.length + (handle info answers s.req s.rest).2.2.1.length ≤
        expected.length := by
      have handed := @handle_handed info answers _ _ _ owes
      rw [split, List.length_append]
      rcases handed with ⟨left, whole, -⟩ | ⟨-, none, -⟩
      · rw [whole, List.length_append]
        omega
      · rw [none, List.length_nil]
        omega
    have before : weight expected s =
        6 * (expected.length - s.sent.length + s.rest.length) + phase s.req + 1 := by
      rw [weight, if_neg (by rw [going]; decide)]
    rw [turn, if_neg (by rw [going]; decide), before]
    obtain ⟨fewer, kept, lower⟩ := moves
    generalize handle info answers s.req s.rest = out at front fewer kept lower
    obtain ⟨q, rest, sent, ret⟩ := out
    have five := phase_le q
    have carried : Carries s.rest (q, rest, sent, ret) →
        expected.length - (s.sent ++ sent).length + rest.length <
          expected.length - s.sent.length + s.rest.length := by
      rw [List.length_append]
      rintro (some | less)
      · have wide := List.length_pos_iff.mpr some
        simp only at front fewer wide
        omega
      · simp only at front less
        omega
    have never : expected.length - (s.sent ++ sent).length + rest.length ≤
        expected.length - s.sent.length + s.rest.length := by
      rw [List.length_append]
      simp only at front fewer
      omega
    simp only
    by_cases over_ : ret = 0
    · rw [if_pos over_]
      obtain ⟨last, gone⟩ := @weight_free expected q rest (s.sent ++ sent)
      constructor
      · omega
      · intro productive
        rcases lower productive with carries | earlier | ⟨-, empty⟩
        · have less := carried carries
          omega
        · simp only at earlier
          omega
        · rw [gone empty]
          omega
    · rw [if_neg over_]
      have after : weight expected ⟨q, rest, s.sent ++ sent, false⟩ =
          6 * (expected.length - (s.sent ++ sent).length + rest.length) + phase q + 1 := rfl
      rw [after]
      constructor
      · rcases kept with carries | same
        · have less := carried carries
          omega
        · simp only at same
          omega
      · intro productive
        rcases lower productive with carries | earlier | ⟨finished, -⟩
        · have less := carried carries
          omega
        · simp only at earlier
          omega
        · exact absurd finished over_
  · rw [turn, if_pos freed, weight, if_pos freed]
    exact ⟨Nat.le_refl _, fun _ => Nat.le_refl _⟩

/-- A run in which nothing fails and the pipe and the socket are ready often enough ends. -/
theorem turns_end {answers : List Answers} (delivers : Delivers info expected s)
    (sound : ∀ a ∈ answers, ¬Failing a) {ready : Answers → Bool}
    (productive : ∀ a, ready a = true → Productive a)
    (enough : weight expected s ≤ answers.countP ready) :
    (turns info s answers).freed = true := by
  have free : ∀ t : Exchange, weight expected t = 0 → t.freed = true := by
    intro t zero
    by_contra going
    rw [weight, if_neg going] at zero
    omega
  induction answers generalizing s with
  | nil => exact free s (by simpa using enough)
  | cons a answers ih =>
    obtain ⟨never, off⟩ := @weight_turn info a expected s delivers
    have next : Delivers info expected (turn info s a) := by
      rcases @turn_delivers info a expected s delivers with more | ⟨fails, -⟩
      · exact more
      · exact absurd fails (sound a List.mem_cons_self)
    apply ih next fun later member => sound later (List.mem_cons_of_mem a member)
    rw [List.countP_cons] at enough
    by_cases now : ready a = true
    · have less := off (productive a now)
      rw [if_pos now] at enough
      omega
    · rw [if_neg now] at enough
      omega

end BoaIpcam.Relay
