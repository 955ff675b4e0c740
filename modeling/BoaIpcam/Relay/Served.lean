import BoaIpcam.Relay.Progress

/-!
# Scripts and files

A script's response goes through the pipe; a file goes through the pipe when it is large and is
mapped otherwise. In every case what the client gets is a function of the output or of the file, and
the request ends.
-/
namespace BoaIpcam.Relay

open Cells

/-! ## Scripts -/

/-- A request whose buffer is empty. -/
def Fresh (r : Request) : Prop := r.bufferStart = 0 ∧ r.bufferEnd = 0 ∧ r.filepos = 0

/-- A request as `new_request` makes it, once its header was read. -/
def Request.new (method : Method) (isCgi : Bool) : Request :=
  ⟨method, false, isCgi, .write, .parse, .inactive, 0, 0, none, fun _ => 0, 0, 0, 0, 0, [], 0, 0, 0⟩

/-- The start of the epoch, as `rfc822_time_buf` writes it. -/
def epochText : List UInt8 := ascii "Thu, 01 Jan 1970 00:00:00 GMT"

theorem length_epochText : epochText.length = 29 := by decide

/-- The heads at the start of the epoch. -/
def Info.atEpoch : Info :=
  ⟨⟨epochText, length_epochText⟩, ⟨epochText, length_epochText⟩, ascii "text/html", 10⟩

/-- A turn in which the pipe gives a byte and the socket takes one. -/
def oneByte : Answers := ⟨.ready 0, .took 1⟩

/-- Such a turn is productive. -/
theorem productive_oneByte {a : Answers} (is : decide (a = oneByte) = true) : Productive a := by
  rw [of_decide_eq_true is]
  exact ⟨⟨0, rfl⟩, 0, rfl⟩

/-- Such turns do not fail. -/
theorem sound_oneByte (count : ℕ) : ∀ a ∈ List.replicate count oneByte, ¬Failing a := by
  intro a member
  rw [List.eq_of_mem_replicate member]
  exact (productive_oneByte (decide_eq_true rfl)).sound

/-- All of them count. -/
theorem count_oneByte (count : ℕ) :
    (List.replicate count oneByte).countP (fun a => decide (a = oneByte)) = count := by
  rw [List.countP_replicate, if_pos (decide_eq_true rfl)]

variable {info : Info} {r : Request}

/-- A request for a script is owed the response to its output. -/
theorem cgiStart_delivers {output : List UInt8} (fresh : Fresh r) (script : r.isCgi = true)
    (fits : RedirectFits info r.method r.simple output) :
    Delivers info (relayed info r.method r.simple output) (cgiStart output r) := by
  have whole : output = slice r.buffer (bufferSize / 2) (bufferSize / 2) ++ output := by
    rw [slice_self, List.nil_append]
  have half : bufferSize / 2 ≤ bufferSize := by decide
  refine .inl ⟨rfl, _, (List.nil_append _).symm, ?_⟩
  refine .parses rfl rfl (buffered_empty fresh.1 fresh.2.1) rfl (Nat.le_refl _) half rfl
    script ?_ ?_
  · rw [whole] at fits
    exact fits
  · exact congrArg (relayed info r.method r.simple) whole

/-- However the pipe and the socket answer, the client of a script gets a front of the response to
the script's output. When nothing fails and the pipe and the socket are ready often enough, the
client gets all of it and the request is freed. -/
theorem cgi_relayed (info : Info) (r : Request) (output : List UInt8) (fresh : Fresh r)
    (script : r.isCgi = true) (fits : RedirectFits info r.method r.simple output)
    (answers : List Answers) :
    (turns info (cgiStart output r) answers).sent <+: relayed info r.method r.simple output ∧
      ∀ ready : Answers → Bool, (∀ a, ready a = true → Productive a) →
        (∀ a ∈ answers, ¬Failing a) →
        6 * ((relayed info r.method r.simple output).length + output.length + 1) ≤
          answers.countP ready →
        (turns info (cgiStart output r) answers).freed = true ∧
          (turns info (cgiStart output r) answers).sent = relayed info r.method r.simple output := by
  have start := cgiStart_delivers fresh script fits
  refine ⟨sent_of_outcome (turns_delivers (.inl start)), ?_⟩
  intro ready productive sound enough
  have light : weight (relayed info r.method r.simple output) (cgiStart output r) =
      6 * ((relayed info r.method r.simple output).length - 0 + output.length) + 5 + 1 := rfl
  have freed := turns_end start sound productive (by omega)
  rcases turns_unbroken start sound with ⟨going, -⟩ | ⟨-, all⟩
  · rw [freed] at going
    cases going
  · exact ⟨freed, all⟩

/-- A script that gives a status, byte by byte. -/
theorem cgi_relayed_status : (turns Info.atEpoch
    (cgiStart (ascii "Status: 404\n\nhi") (Request.new .get true)) (List.replicate 192 oneByte)).sent =
      ascii "HTTP/1.0 404\n\nhi" := by
  have fits : RedirectFits Info.atEpoch .get false (ascii "Status: 404\n\nhi") := by
    intro starts
    revert starts
    decide
  have response : relayed Info.atEpoch .get false (ascii "Status: 404\n\nhi") =
      ascii "HTTP/1.0 404\n\nhi" := by decide
  have enough : 6 * ((relayed Info.atEpoch .get false (ascii "Status: 404\n\nhi")).length +
      (ascii "Status: 404\n\nhi").length + 1) ≤
        (List.replicate 192 oneByte).countP (fun a => decide (a = oneByte)) := by
    rw [response, count_oneByte]
    decide
  have all := cgi_relayed Info.atEpoch (Request.new .get true) (ascii "Status: 404\n\nhi")
    ⟨rfl, rfl, rfl⟩ rfl fits (List.replicate 192 oneByte)
  exact (all.2 _ (fun a => productive_oneByte) (sound_oneByte 192) enough).2.trans response

/-! ## Files -/

/-- The head of the response to a request for a file. -/
def fileHead (info : Info) (content : List UInt8) (r : Request) : List UInt8 :=
  if r.simple then []
  else (okTexts info { r with
    status := .write, filesize := content.length, responseStatus := rRequestOk }).flatten

/-- The page that is sent instead of a file that cannot be mapped. -/
def refusal (content : List UInt8) (unmapped : Option ErrorPage) (r : Request) : Option ErrorPage :=
  if r.method = .head ∨ content.length = 0 ∨ content.length > maxFileMmap then none else unmapped

/-- The response to a request for a file: the head and the file, for HEAD the head alone, and an error
page for a file that should be mapped and cannot. -/
def fileResponse (info : Info) (content : List UInt8) (unmapped : Option ErrorPage) (r : Request) :
    List UInt8 :=
  match refusal content unmapped r with
  | some page => errorPage page.line page.body info r.method r.simple
  | none => fileHead info content r ++ if r.method = .head then [] else content

/-- The response where nothing is refused. -/
theorem fileResponse_none {info : Info} {content : List UInt8} {unmapped : Option ErrorPage}
    {r : Request} (granted : refusal content unmapped r = none) :
    fileResponse info content unmapped r =
      fileHead info content r ++ if r.method = .head then [] else content := by
  rw [fileResponse, granted]

/-- The request for a file with the head of the response in its buffer. -/
def headed (info : Info) (content mapped : List UInt8) (r : Request) : Request :=
  ({ r with
    status := .write
    filesize := content.length
    responseStatus := rRequestOk
    dataMem := mapped } : Request).push (fileHead info content r)

/-- The head of the response is written to an empty buffer. -/
theorem sendRequestOk_file (content mapped : List UInt8) (empty : r.bufferEnd = 0)
    (fits : (fileHead info content r).length ≤ bufferSize) :
    sendRequestOk info
        { r with status := .write, filesize := content.length, dataMem := mapped } =
      headed info content mapped r := by
  have alive : Status.write ≠ .dead := by decide
  rw [sendRequestOk, headed, fileHead]
  rw [fileHead] at fits
  by_cases short : r.simple = true
  · rw [if_pos short, if_pos short, Request.push_nil]
  · rw [if_neg short] at fits
    rw [if_neg short, if_neg short]
    have texts : okTexts info { r with
          status := .write, filesize := content.length, dataMem := mapped,
          responseStatus := rRequestOk } =
        okTexts info { r with
          status := .write, filesize := content.length, responseStatus := rRequestOk } := rfl
    rw [← texts] at fits ⊢
    apply reqWrites_of_fits alive
    show r.bufferEnd + _ ≤ bufferSize
    rw [empty, Nat.zero_add]
    exact fits

/-- The head waits in the buffer. -/
theorem buffered_headed (content mapped : List UInt8) (start : r.bufferStart = 0)
    (stop : r.bufferEnd = 0) (fits : (fileHead info content r).length ≤ bufferSize) :
    Buffered (headed info content mapped r) (fileHead info content r) := by
  have prepared : Buffered ({ r with
      status := .write, filesize := content.length, responseStatus := rRequestOk,
      dataMem := mapped } : Request) [] := buffered_empty start stop
  have waits := prepared.push (by
    show r.bufferEnd + (fileHead info content r).length ≤ bufferSize
    rw [stop, Nat.zero_add]
    exact fits)
  rwa [List.nil_append] at waits

/-- A large file is sent through the pipe. -/
theorem largeFile_delivers {content : List UInt8} (written : Written) {next : Request}
    (waits : Buffered next (fileHead info content r)) (status : next.status = .pipeRead)
    (cgi : next.cgiStatus = .buffer) :
    Delivers info (fileHead info content r ++ content)
        ⟨{ (reqFlush written next).1 with headerLine := 0, headerEnd := 0 }, content,
          (reqFlush written next).2.1, false⟩ ∨
      (Fails written ∧ Broken (fileHead info content r ++ content)
        ⟨{ (reqFlush written next).1 with headerLine := 0, headerEnd := 0 }, content,
          (reqFlush written next).2.1, false⟩) := by
  have alive : next.status ≠ .dead := by rw [status]; decide
  rcases reqFlush_cases written waits alive with
    ⟨start, stop, left, sent, result, split, remains⟩ | ⟨fails, -, result⟩
  · rw [result]
    refine .inl (.inl ⟨rfl, left ++ content, by rw [split, List.append_assoc], ?_⟩)
    refine .pipes left (.inl status) ?_ ?_ (Nat.le_refl _) (Nat.zero_le _) ?_ ?_
    · show next.cgiStatus ≠ .parse
      rw [cgi]
      decide
    · exact ⟨remains.held, remains.proper, remains.bounded, remains.reset⟩
    · intro done
      rw [show next.cgiStatus = .done from done] at cgi
      cases cgi
    · show left ++ content = left ++ slice next.buffer 0 0 ++ content
      rw [slice_self, List.append_nil]
  · rw [result]
    exact .inr ⟨fails, List.nil_prefix, .inl rfl⟩

/-- A mapped file that is copied to the buffer whole. -/
theorem smallFile_delivers {expected : List UInt8} (written : Written) {next : Request}
    (waits : Buffered next expected) (status : next.status = .write) :
    Delivers info expected
        ⟨{ (reqFlush written next).1 with status := .done }, [], (reqFlush written next).2.1, false⟩ ∨
      (Fails written ∧ Broken expected
        ⟨{ (reqFlush written next).1 with status := .done }, [], (reqFlush written next).2.1,
          false⟩) := by
  have alive : next.status ≠ .dead := by rw [status]; decide
  rcases reqFlush_cases written waits alive with
    ⟨start, stop, left, sent, result, split, remains⟩ | ⟨fails, -, result⟩
  · rw [result]
    refine .inl (.inl ⟨rfl, left, split, .closes rfl ?_⟩)
    exact ⟨remains.held, remains.proper, remains.bounded, remains.reset⟩
  · rw [result]
    exact .inr ⟨fails, List.nil_prefix, .inr ⟨rfl, buffered_empty rfl rfl⟩⟩

/-- A file that is mapped goes behind the head as far as the buffer takes it. -/
theorem mappedFile_delivers {content : List UInt8} (written : Written) (full : r.method ≠ .head)
    (some : content.length ≠ 0) (small : ¬content.length > maxFileMmap) (fresh : Fresh r)
    (fits : (fileHead info content r).length ≤ bufferSize) :
    Delivers info (fileHead info content r ++ content) (fileStart info written content none r) ∨
      (Fails written ∧
        Broken (fileHead info content r ++ content) (fileStart info written content none r)) := by
  obtain ⟨start, stop, position⟩ := fresh
  have plain := @sendRequestOk_file info r content content stop fits
  have waits := @buffered_headed info r content content start stop fits
  let q : Request := headed info content content r
  have only : ¬(r.method = .head ∨ content.length = 0) := not_or.mpr ⟨full, some⟩
  have mapped : initGet info written content none r =
      if 0 < bufferSize - q.bufferEnd then
        let bytes := min (bufferSize - q.bufferEnd) content.length
        let next : Request := { q with
          buffer := put q.buffer q.bufferEnd (content.take bytes)
          bufferEnd := q.bufferEnd + bytes
          filepos := r.filepos + bytes }
        if content.length = next.filepos then
          ({ (reqFlush written next).1 with status := .done }, [], (reqFlush written next).2.1, 1)
        else (next, [], [], 1)
      else (q, [], [], 1) := by
    rw [initGet]
    refine (if_neg only).trans ((if_neg small).trans ?_)
    simp only [plain]
    rfl
  have none : q.filepos = 0 := position
  rw [fileStart, mapped]
  by_cases room : 0 < bufferSize - q.bufferEnd
  · rw [if_pos room]
    have bytes : (content.take (min (bufferSize - q.bufferEnd) content.length)).length =
        min (bufferSize - q.bufferEnd) content.length := by
      rw [List.length_take]
      omega
    have pushed := waits.push (by rw [bytes]; omega :
      q.bufferEnd + (content.take (min (bufferSize - q.bufferEnd) content.length)).length ≤
        bufferSize)
    rw [Request.push, bytes] at pushed
    by_cases whole : content.length = r.filepos + min (bufferSize - q.bufferEnd) content.length
    · -- the whole file fits
      simp only [if_pos whole]
      have all : content.take (min (bufferSize - q.bufferEnd) content.length) = content :=
        List.take_of_length_le (by omega)
      rw [all] at pushed ⊢
      refine smallFile_delivers written ?_ rfl
      exact ⟨pushed.held, pushed.proper, pushed.bounded, pushed.reset⟩
    · simp only [if_neg whole]
      refine .inl (.inl ⟨rfl, _, (List.nil_append _).symm, ?_⟩)
      refine .writes _ rfl ⟨pushed.held, pushed.proper, pushed.bounded, pushed.reset⟩ rfl ?_ ?_
      · show r.filepos + min (bufferSize - q.bufferEnd) content.length < content.length
        omega
      · show _ = fileHead info content r ++ _ ++
          content.drop (r.filepos + min (bufferSize - q.bufferEnd) content.length)
        rw [position, Nat.zero_add, List.append_assoc, List.take_append_drop]
  · rw [if_neg room]
    refine .inl (.inl ⟨rfl, _, (List.nil_append _).symm, ?_⟩)
    refine .writes _ rfl waits rfl ?_ ?_
    · show r.filepos < content.length
      omega
    · show _ = _ ++ content.drop r.filepos
      rw [position, List.drop_zero]

/-- A file that cannot be mapped is answered with a page. -/
theorem unmappedFile_delivers {content : List UInt8} {page : ErrorPage} (written : Written)
    (full : r.method ≠ .head) (some : content.length ≠ 0)
    (small : ¬content.length > maxFileMmap) (start : r.bufferStart = 0) :
    Delivers info (errorPage page.line page.body info r.method r.simple)
        (fileStart info written content (.some page) r) ∨
      (Fails written ∧ Broken (errorPage page.line page.body info r.method r.simple)
        (fileStart info written content (.some page) r)) := by
  let emptied : Request :=
    { r with status := .write, filesize := content.length, bufferEnd := 0 }
  have alive : emptied.status ≠ .dead := by
    show Status.write ≠ .dead
    decide
  have answered := @sendErrorPage_answered page.code page.line page.body info written emptied
    (buffered_empty start rfl) alive page.short
  have result : fileStart info written content (.some page) r =
      freeRequest ⟨(sendErrorPage page.code page.line page.body info written emptied).1, [],
        (sendErrorPage page.code page.line page.body info written emptied).2, false⟩ := by
    rw [fileStart, initGet]
    dsimp only
    rw [if_neg (not_or.mpr ⟨full, some⟩), if_neg small]
    rfl
  rw [result]
  rcases answered with ⟨left, split, buffered, status⟩ | ⟨fails, nothing, dead, -⟩
  · refine .inl (free_delivers split ⟨?_, buffered⟩)
    rw [status]
    exact alive
  · rw [nothing, free_lost (.inl dead)]
    exact .inr ⟨fails, List.nil_prefix, .inl dead⟩

/-- A request for a file is owed its head and its content, or a page. -/
theorem fileStart_delivers {content : List UInt8} (unmapped : Option ErrorPage) (written : Written)
    (fresh : Fresh r) (fits : (fileHead info content r).length ≤ bufferSize) :
    Delivers info (fileResponse info content unmapped r)
        (fileStart info written content unmapped r) ∨
      (Fails written ∧ Broken (fileResponse info content unmapped r)
        (fileStart info written content unmapped r)) := by
  obtain ⟨start, stop, position⟩ := fresh
  have plain := @sendRequestOk_file info r content r.dataMem stop fits
  by_cases only : r.method = .head ∨ content.length = 0
  · -- only the head is sent
    have granted : refusal content unmapped r = none :=
      if_pos (only.elim .inl fun empty => .inr (.inl empty))
    have response : fileResponse info content unmapped r = fileHead info content r := by
      rw [fileResponse_none granted]
      rcases only with method | empty
      · rw [if_pos method, List.append_nil]
      · rw [List.length_eq_zero_iff.mp empty, ite_self, List.append_nil]
    have result : initGet info written content unmapped r =
        (headed info content r.dataMem r, [], [], 0) := by
      unfold initGet
      rw [← plain]
      exact if_pos only
    have alive : Status.write ≠ .dead := by decide
    rw [response, fileStart, result]
    exact .inl (free_delivers (List.nil_append _).symm
      ⟨alive, buffered_headed content r.dataMem start stop fits⟩)
  obtain ⟨full, some⟩ := not_or.mp only
  by_cases large : content.length > maxFileMmap
  · have waits := @buffered_headed info r content r.dataMem start stop fits
    have response : fileResponse info content unmapped r = fileHead info content r ++ content := by
      rw [fileResponse_none (if_pos (.inr (.inr large))), if_neg full]
    have result : initGet info written content unmapped r =
        ({ (reqFlush written { headed info content r.dataMem r with
            status := .pipeRead, cgiStatus := .buffer }).1 with headerLine := 0, headerEnd := 0 },
          content, (reqFlush written { headed info content r.dataMem r with
            status := .pipeRead, cgiStatus := .buffer }).2.1, 1) := by
      unfold initGet
      rw [← plain]
      exact (if_neg only).trans (if_pos large)
    rw [response, fileStart, result]
    refine largeFile_delivers written ?_ rfl rfl
    exact ⟨waits.held, waits.proper, waits.bounded, waits.reset⟩
  · have asks : refusal content unmapped r = unmapped := by
      refine if_neg ?_
      rintro (head | empty | long)
      · exact full head
      · exact some empty
      · exact large long
    cases unmapped with
    | none =>
      rw [fileResponse_none asks, if_neg full]
      exact mappedFile_delivers written full some large ⟨start, stop, position⟩ fits
    | some page =>
      have response : fileResponse info content (Option.some page) r =
          errorPage page.line page.body info r.method r.simple := by
        rw [fileResponse, asks]
      rw [response]
      exact unmappedFile_delivers written full some large start

/-- The pipe gives the file at most once. -/
theorem fileStart_rest (content : List UInt8) (unmapped : Option ErrorPage) (written : Written)
    (r : Request) : (fileStart info written content unmapped r).rest.length ≤ content.length := by
  have free : ∀ s : Exchange, (freeRequest s).rest = s.rest := by
    intro s
    rw [freeRequest]
    split <;> rfl
  have pipe : (initGet info written content unmapped r).2.1.length ≤ content.length := by
    unfold initGet
    cases unmapped with
    | none =>
      simp only
      split_ifs <;> first | exact Nat.zero_le _ | exact Nat.le_refl _
    | some page =>
      simp only
      split_ifs <;> first | exact Nat.zero_le _ | exact Nat.le_refl _
  rw [fileStart]
  split
  · rw [free]
    exact pipe
  · exact pipe

/-- However the pipe and the socket answer, the client gets a front of the head and the file,
whether the file is mapped or goes through the pipe, of the head for HEAD, and of the error page of a
file that cannot be mapped. When nothing fails and the pipe and the socket are ready often enough,
the client gets all of it and the request is freed. -/
theorem file_served (info : Info) (r : Request) (content : List UInt8)
    (unmapped : Option ErrorPage) (fresh : Fresh r)
    (fits : (fileHead info content r).length ≤ bufferSize) (written : Written)
    (answers : List Answers) :
    (turns info (fileStart info written content unmapped r) answers).sent <+:
        fileResponse info content unmapped r ∧
      ∀ ready : Answers → Bool, (∀ a, ready a = true → Productive a) →
        ¬Fails written → (∀ a ∈ answers, ¬Failing a) →
        12 * ((fileResponse info content unmapped r).length + content.length + 1) ≤
          answers.countP ready →
        (turns info (fileStart info written content unmapped r) answers).freed = true ∧
          (turns info (fileStart info written content unmapped r) answers).sent =
            fileResponse info content unmapped r := by
  have started := @fileStart_delivers info r content unmapped written fresh fits
  constructor
  · apply sent_of_outcome
    apply turns_delivers
    rcases started with delivers | ⟨-, broken⟩
    · exact .inl delivers
    · exact .inr broken
  intro ready productive kept sound enough
  have start : Delivers info (fileResponse info content unmapped r)
      (fileStart info written content unmapped r) := by
    rcases started with delivers | ⟨fails, -⟩
    · exact delivers
    · exact absurd fails kept
  have light : weight (fileResponse info content unmapped r)
      (fileStart info written content unmapped r) ≤
        12 * ((fileResponse info content unmapped r).length + content.length + 1) := by
    have rest := @fileStart_rest info content unmapped written r
    have five := phase_le (fileStart info written content unmapped r).req
    rw [weight]
    split <;> omega
  have freed := turns_end start sound productive (light.trans enough)
  rcases turns_unbroken start sound with ⟨going, -⟩ | ⟨-, all⟩
  · rw [freed] at going
    cases going
  · exact ⟨freed, all⟩

/-- A small file of an HTTP/0.9 request, byte by byte. -/
theorem file_served_small : (turns Info.atEpoch (fileStart Info.atEpoch (.took 1) (ascii "hello") none
    { Request.new .get false with simple := true }) (List.replicate 132 oneByte)).sent =
      ascii "hello" := by
  have head : fileHead Info.atEpoch (ascii "hello") { Request.new .get false with simple := true } =
      [] := rfl
  have response : fileResponse Info.atEpoch (ascii "hello") none
      { Request.new .get false with simple := true } = ascii "hello" := rfl
  have fits : (fileHead Info.atEpoch (ascii "hello")
      { Request.new .get false with simple := true }).length ≤ bufferSize := by
    rw [head]
    exact Nat.zero_le _
  have enough : 12 * ((fileResponse Info.atEpoch (ascii "hello") none
      { Request.new .get false with simple := true }).length + (ascii "hello").length + 1) ≤
        (List.replicate 132 oneByte).countP (fun a => decide (a = oneByte)) := by
    rw [response, count_oneByte]
    decide
  have kept : ¬Fails (.took 1) := by
    rintro (failed | interrupted)
    · cases failed
    · cases interrupted
  have all := file_served Info.atEpoch { Request.new .get false with simple := true }
    (ascii "hello") none ⟨rfl, rfl, rfl⟩ fits (.took 1) (List.replicate 132 oneByte)
  exact (all.2 _ (fun a => productive_oneByte) kept (sound_oneByte 132) enough).2.trans response

end BoaIpcam.Relay
