import BoaIpcam.Request.MainLoop
import BoaIpcam.Request.Ownership

/-!
# Restarting the driver

While the driver is detached, no request should have frame data to send, and no step should touch a
frame. That is so in every run in which each stream that has a frame is on `request_ready` when the
driver is detached, with nothing in its buffer, and a detached driver gives no frame.
-/
namespace BoaIpcam.Blocks

open TransitionSystem

/-! ## Frames while the driver is down -/

/-- The operation reads what the driver has locked, or gives it back. -/
def Touches : Op → Prop
  | .take _ => False
  | .use block => block.tag.IsLock
  | .release _ block => block.tag.IsLock

/-- A stream request with frame data to send. -/
def FrameLeft (r : Request) : Prop :=
  r.httpStream ≠ none ∧ (∃ block ∈ r.dataMem, block.tag.IsLock) ∧ r.filepos < r.filesize

/-- While the driver is detached, no request has frame data to send, and the step does not touch any
frame. -/
def Undisturbed (s : MainLoop) (action : LoopAction) : Prop :=
  s.attached = false →
    (∀ c ∈ s.clients, ¬FrameLeft c.request) ∧ ∀ op ∈ (s.step action).2, ¬Touches op

/-- The request has no frame locked. -/
def Idle (r : Request) : Prop := r.httpStream ≠ none → r.video = 0 ∧ r.audio = 0

/-- The driver has no frame for `process_get`. -/
def Turn.GivesNone (turn : Turn) : Prop :=
  turn.video = none ∧ (turn.asksAudio = true → turn.audio = none)

/-- The driver has no audio frame for `uri_appro_audio`, which does not ask whether there is a
restart. -/
def Read.GivesNone (read : Read) : Prop :=
  ∀ offer, read = .run .approAudio offer → offer.audioEnabled = true → offer.audio = none

/-- When the driver is detached, every request with a frame is on `request_ready`, and nothing is in
its buffer or it is dead; and a detached driver gives no frame. -/
def Spared (s : MainLoop) : LoopAction → Prop
  | .head _ _ => s.avStreamPending = 1 → ∀ c ∈ s.clients, ¬Idle c.request →
      c.place = .ready ∧ (c.output = false ∨ c.request.status = .dead)
  | .turn _ input => s.attached = false → input.turn.GivesNone ∧ input.read.GivesNone
  | _ => True

/-! ## Requests without frames -/

section Requests

variable {r : Request}

/-- A request that is no stream sends from no frame. -/
theorem IsPage.unlocked (h : IsPage r) {block : Block} (data : r.dataMem = some block) :
    ¬block.tag.IsLock := by
  intro lock
  rcases Multiset.mem_add.mp (h.data block data) with mapped | page
  · have entry : r.mmapEntry = some block := by simpa using mapped
    exact lock.2.2 (h.entry block entry)
  · by_cases memory : r.isMemory = true
    · obtain ⟨id, heap⟩ := h.memory memory
      cases data.symm.trans heap
      exact lock.1 rfl
    · rw [if_neg memory] at page
      exact Multiset.notMem_zero block page

/-- A stream without frames owns none. -/
theorem frames_idle (kind : Kind) (stream : Fin 16) (idle : r.video = 0 ∧ r.audio = 0) :
    frames kind stream r = 0 := by
  unfold frames videoSet
  rw [idle.1, idle.2]
  cases kind.codec <;> rfl

/-- A request without frames sends from none. -/
theorem Sound.unlocked (h : Sound r) (idle : Idle r) {block : Block}
    (data : r.dataMem = some block) : ¬block.tag.IsLock := by
  cases type : r.httpStream with
  | none =>
    rw [Sound, type] at h
    exact IsPage.unlocked h data
  | some pair =>
    obtain ⟨kind, stream⟩ := pair
    rw [Sound, type] at h
    have owns := IsStream.data h block data
    rw [frames_idle kind stream (idle (type ▸ Option.some_ne_none _))] at owns
    exact absurd owns (Multiset.notMem_zero block)

/-- So it has no frame data to send. -/
theorem Sound.frameless (h : Sound r) (idle : Idle r) : ¬FrameLeft r :=
  fun ⟨_, ⟨_, data, lock⟩, _⟩ => h.unlocked idle data lock

/-- The texts of a request are no frames. -/
theorem texts_unlocked (texts : Texts) {block : Block}
    (mem : block ∈ texts.blocks.1 ∨ block ∈ texts.blocks.2) : ¬block.tag.IsLock := by
  intro lock
  rcases mem with mem | mem
  · obtain ⟨id, -, rfl⟩ := List.mem_map.mp mem
    exact lock.1 rfl
  · obtain ⟨id, -, rfl⟩ := List.mem_map.mp mem
    exact lock.1 rfl

/-- Without frames, `free_request` unlocks nothing. -/
theorem Sound.releaseData_untouching (h : Sound r) (idle : Idle r) :
    ∀ op ∈ releaseData r, ¬Touches op := by
  intro op mem
  unfold releaseData at mem
  split at mem
  · rename_i kind stream type
    obtain ⟨video, audio⟩ := idle (type ▸ Option.some_ne_none _)
    unfold unlockFrames at mem
    rw [video, audio] at mem
    cases kind <;> exact absurd mem List.not_mem_nil
  · rename_i type
    rw [Sound, type] at h
    unfold unmap at mem
    split at mem
    · rename_i mapped entry
      cases List.mem_singleton.mp mem
      exact fun lock => lock.2.2 (IsPage.entry h mapped entry)
    · rename_i entry data original
      have clash := (IsPage.original h entry).symm.trans original
      cases clash
    · rename_i data _ sends _
      cases List.mem_singleton.mp mem
      exact IsPage.unlocked h sends
    · exact absurd mem List.not_mem_nil

/-- Without frames, `free_request` touches none. -/
theorem Sound.freeRequest_untouching (h : Sound r) (idle : Idle r) :
    ∀ op ∈ Blocks.freeRequest r, ¬Touches op := by
  intro op mem
  rcases List.mem_append.mp mem with mem | mem
  · rcases List.mem_append.mp mem with mem | mem
    · rcases List.mem_append.mp mem with mem | mem
      · exact h.releaseData_untouching idle op mem
      · obtain ⟨block, inside, rfl⟩ := List.mem_map.mp mem
        exact texts_unlocked r.texts (.inl inside)
    · split at mem
      · obtain ⟨block, inside, rfl⟩ := List.mem_map.mp mem
        exact h.unlocked idle (Option.mem_toList.mp inside)
      · exact absurd mem List.not_mem_nil
  · obtain ⟨block, inside, rfl⟩ := List.mem_map.mp mem
    exact texts_unlocked r.texts (.inr inside)

/-! ## Steps while the driver gives no frame -/

variable {turn : Turn}

/-- There is no audio frame. -/
theorem orAudio_nothing (none : turn.GivesNone) (next : Request → Request × List Op) :
    orAudio turn next r = next r := by
  unfold orAudio
  split
  · rename_i asks
    rw [none.2 asks]
  · rfl

/-- There is no video frame. -/
theorem nextVideo_nothing (none : turn.GivesNone) (codec : Codec) (stream : Fin 16) (more : Nat) :
    nextVideo codec stream more turn r = (r, []) := by
  rw [nextVideo, none.1]

/-- At the end of a block, nothing but the status changes, and at most a frame is locked. -/
theorem nextBlock_nothing (none : turn.GivesNone) :
    (∃ status, (nextBlock turn r).1 = { r with status }) ∧
      ∀ op ∈ (nextBlock turn r).2, ¬Touches op := by
  have same : (∃ status, r = { r with status }) ∧ ∀ op ∈ ([] : List Op), ¬Touches op :=
    ⟨⟨r.status, rfl⟩, nofun⟩
  unfold nextBlock
  split
  · rw [orAudio_nothing none, nextVideo_nothing none]
    exact same
  · rw [orAudio_nothing none, nextVideo_nothing none]
    exact same
  · rw [orAudio_nothing none, nextVideo_nothing none]
    exact same
  · rw [orAudio_nothing none, nextVideo_nothing none]
    exact same
  · rw [nextVideo_nothing none]
    exact same
  · rw [nextVideo_nothing none]
    exact same
  · rw [orAudio_nothing none, nextAvc, none.1]
    refine ⟨same.1, fun op mem => ?_⟩
    dsimp only at mem
    split at mem
    · obtain ⟨frame, -, rfl⟩ := List.mem_map.mp mem
      exact id
    · exact absurd mem List.not_mem_nil
  · rw [orAudio_nothing none]
    exact same
  · exact ⟨⟨.done, rfl⟩, nofun⟩

/-- `process_get` gets no frame and touches none. -/
theorem Sound.processGet_untouching (h : Sound r) (idle : Idle r) (none : turn.GivesNone) :
    Idle (Blocks.processGet turn r).1 ∧ ∀ op ∈ (Blocks.processGet turn r).2, ¬Touches op := by
  have uses : ∀ op ∈ (if min (r.filesize - r.filepos) socketbufSize = 0 then []
      else r.dataMem.toList.map Ledger.Entry.use : List Op), ¬Touches op := by
    intro op mem
    split at mem
    · exact absurd mem List.not_mem_nil
    · obtain ⟨block, inside, rfl⟩ := List.mem_map.mp mem
      exact h.unlocked idle (Option.mem_toList.mp inside)
  unfold Blocks.processGet
  split
  · exact ⟨idle, uses⟩
  · exact ⟨idle, uses⟩
  · exact ⟨idle, uses⟩
  · rename_i amount _
    dsimp only
    split
    · obtain ⟨⟨status, same⟩, untouching⟩ := nextBlock_nothing (r := { r with
        filepos := r.filepos + min amount (min (r.filesize - r.filepos) socketbufSize) }) none
      refine ⟨?_, fun op mem => ?_⟩
      · rw [same]
        exact idle
      · rcases List.mem_append.mp mem with mem | mem
        · exact uses op mem
        · exact untouching op mem
    · exact ⟨idle, uses⟩

end Requests

/-! ## Handlers during a restart -/

section Handlers

variable {texts : Texts} {offer : Offer}

/-- The handler leaves no frame behind and touches none. -/
def Untouching (outcome : Handled) : Prop :=
  Idle outcome.1 ∧ ∀ op ∈ outcome.2.1, ¬Touches op

/-- Only the first lines of a stream handler were run. -/
theorem untouching_begin (kind : Kind) (stream : Fin 16) :
    Untouching (begin_ kind stream (.fresh texts), [], false) := ⟨fun _ => ⟨rfl, rfl⟩, nofun⟩

/-- The streams that lock a frame are refused. -/
theorem untouching_getStream (refused : offer.refused = true) (kind : Kind) (codec : Codec)
    (stream : Fin 16) : Untouching (getStream kind codec stream offer (.fresh texts)) := by
  rw [getStream, if_pos refused]
  exact untouching_begin kind stream

/-- So are those that lock the VOL data before. -/
theorem untouching_getVolStream (refused : offer.refused = true) (kind : Kind) (stream : Fin 16) :
    Untouching (getVolStream kind stream offer (.fresh texts)) := by
  rw [getVolStream, if_pos refused]
  exact untouching_begin kind stream

/-- The AVC stream is refused. -/
theorem untouching_getStreamAvc (refused : offer.refused = true) :
    Untouching (getStreamAvc offer (.fresh texts)) := by
  rw [getStreamAvc, if_pos (.inr refused)]
  exact untouching_begin .avc 0

/-- An audio stream is refused, or there is no frame. -/
theorem untouching_getAudioStream (kind : Kind) (checks : Bool)
    (nothing : checks = true ∧ offer.refused = true ∨
      (offer.audioEnabled = true → offer.audio = none)) :
    Untouching (getAudioStream kind checks offer (.fresh texts)) := by
  unfold getAudioStream
  dsimp only
  split
  · exact untouching_begin kind 0
  · rename_i asks
    rcases nothing with refused | nothing
    · exact absurd (.inr refused) asks
    · rw [nothing (by_contra fun off => asks (.inl off))]
      exact untouching_begin kind 0

/-- The number of a stream that some handlers test. -/
theorem untouching_checked (idx : Int) {handler : Fin 16 → Offer → Request → Handled}
    (each : ∀ stream, Untouching (handler stream offer (.fresh texts))) :
    Untouching (checked idx handler offer (.fresh texts)) := by
  unfold checked
  split
  · exact ⟨fun stream => absurd rfl stream, nofun⟩
  · exact each _

/-- A page touches no frame. -/
theorem untouching_memoryPage : Untouching (memoryPage offer (.fresh texts)) := by
  unfold memoryPage
  split
  · exact ⟨fun stream => absurd rfl stream, nofun⟩
  · rename_i block _
    refine ⟨fun stream => absurd rfl stream, fun op mem => ?_⟩
    rcases List.mem_cons.mp mem with rfl | mem
    · exact id
    · cases List.mem_singleton.mp mem
      exact fun lock => lock.1 rfl

/-- What is copied behind the header is part of the file. -/
theorem copyFile_untouching {r : Request} (type : r.httpStream = none) {mapped : Block}
    (entry : mapped.tag = .entry) : Untouching (copyFile offer mapped r) := by
  have uses : ∀ op ∈ ([.use mapped] : List Op), ¬Touches op := by
    intro op mem
    cases List.mem_singleton.mp mem
    exact fun lock => lock.2.2 entry
  unfold copyFile
  dsimp only
  split
  · split
    · exact ⟨fun stream => absurd type stream, uses⟩
    · split
      · exact ⟨fun stream => absurd type stream, uses⟩
      · exact ⟨fun stream => absurd type stream, uses⟩
  · exact ⟨fun stream => absurd type stream, nofun⟩

/-- `init_get` touches no frame. -/
theorem untouching_initGet : Untouching (initGet offer (.fresh texts)) := by
  have page {ops : List Op} {goes : Bool} {r : Request} (type : r.httpStream = none)
      (untouching : ∀ op ∈ ops, ¬Touches op) : Untouching (r, ops, goes) :=
    ⟨fun stream => absurd type stream, untouching⟩
  have behind {block : Block} {outcome : Handled} (untouching : Untouching outcome) :
      Untouching (outcome.1, .take block :: outcome.2.1, outcome.2.2) := by
    refine ⟨untouching.1, fun op mem => ?_⟩
    rcases List.mem_cons.mp mem with rfl | mem
    · exact id
    · exact untouching.2 op mem
  unfold initGet
  split
  · exact page rfl nofun
  · refine page rfl fun op mem => ?_
    rcases List.mem_append.mp mem with mem | mem
    · obtain ⟨id, -, rfl⟩ := List.mem_map.mp mem
      exact fun lock => lock.1 rfl
    · obtain ⟨id, -, rfl⟩ := List.mem_map.mp mem
      exact fun touched => touched
  · split
    · exact page rfl nofun
    · dsimp only
      split
      · exact page rfl nofun
      · split
        · exact page rfl nofun
        · split
          · exact page rfl nofun
          · split
            · refine page rfl fun op mem => ?_
              simp only [List.mem_cons, List.not_mem_nil, or_false] at mem
              rcases mem with rfl | rfl | rfl | rfl
              · exact id
              · exact id
              · exact fun lock => lock.2.2 rfl
              · exact fun lock => lock.1 rfl
            · exact behind (copyFile_untouching rfl rfl)

/-- During a restart, and without an audio frame for `uri_appro_audio`, no handler leaves a frame
behind or touches one. -/
theorem Handler.untouching (handler : Handler) (refused : offer.refused = true)
    (none : handler = .approAudio → offer.audioEnabled = true → offer.audio = none) :
    Untouching (handler.run offer (.fresh texts)) := by
  cases handler with
  | get => exact untouching_initGet
  | iniHtm => exact untouching_memoryPage
  | keywordHtm => exact untouching_memoryPage
  | cmdlistHtm => exact untouching_memoryPage
  | jpegImage index => exact untouching_getStream refused .jpeg .mjpeg index
  | dlinkJpeg => exact untouching_getStream refused .jpeg .mjpeg 0
  | mjpeg index => exact untouching_getStream refused .mjpeg .mjpeg index
  | mpeg4 index => exact untouching_getVolStream refused .mpeg4 index
  | h264 index => exact untouching_getStream refused .h264 .h264 index
  | avc => exact untouching_getStreamAvc refused
  | httpMjpeg index => exact untouching_getStream refused .httpMjpeg .mjpeg index
  | dlinkMjpeg idx => exact untouching_checked idx (untouching_getStream refused .mjpeg .mjpeg)
  | dlinkMpeg4 idx => exact untouching_checked idx (untouching_getVolStream refused .dlinkMpeg4)
  | dlinkH264 idx => exact untouching_checked idx (untouching_getStream refused .dlinkH264 .h264)
  | dlinkAudio => exact untouching_getAudioStream .audioG726 true (.inl ⟨rfl, refused⟩)
  | approAudio => exact untouching_getAudioStream .audioStream false (.inr (none rfl))
  | dlinkVideoMjpeg idx =>
    exact untouching_checked idx (untouching_getStream refused .mjpeg .mjpeg)
  | dlinkVideoMpeg4 idx =>
    exact untouching_checked idx (untouching_getVolStream refused .dlinkMpeg4)
  | dlinkVideoH264 idx =>
    exact untouching_checked idx (untouching_getStream refused .dlinkH264 .h264)

end Handlers

/-! ## Requests of the main loop -/

/-- The fields of a request are sound, and nothing was done with one that is not read yet. -/
structure Client.Fine (c : Client) : Prop where
  /-- Its fields are sound. -/
  sound : Sound c.request
  /-- A request that is not read has its texts only. -/
  unread : c.reading = true → c.request = .fresh c.request.texts

/-- A step of requests without frames leaves them without frames and touches none. -/
def Kept (down : Prop) (outcome : List Client × List Op) : Prop :=
  (∀ c ∈ outcome.1, c.Fine ∧ (down → Idle c.request)) ∧ (down → ∀ op ∈ outcome.2, ¬Touches op)

section Clients

variable {c : Client} {down : Prop} {restarting : Bool} {input : Input}

/-- A new request. -/
theorem fine_fresh (place : Place) :
    (Client.fresh place).Fine ∧ Idle (Client.fresh place).request :=
  ⟨⟨(isPage_fresh _ 0 .write).sound, fun _ => rfl⟩, fun stream => absurd rfl stream⟩

/-- A request that gets another status, another place or other output. -/
theorem Client.Fine.marked (fine : c.Fine) (status : Status) (notify output : Bool)
    (place : Place) :
    Client.Fine ⟨{ c.request with status }, false, notify, output, place⟩ :=
  ⟨fine.sound.mark status c.request.filepos, nofun⟩

/-- One request and nothing done. -/
theorem kept_single (fine : c.Fine) (idle : down → Idle c.request) : Kept down ([c], []) := by
  refine ⟨fun c' mem => ?_, fun _ => nofun⟩
  cases List.mem_singleton.mp mem
  exact ⟨fine, idle⟩

/-- `free_request`. -/
theorem Client.Fine.free (fine : c.Fine) (idle : down → Idle c.request) (again : Bool) :
    Kept down (c.free again) := by
  unfold Client.free
  split
  · exact kept_single (fine.marked .done c.notify c.output c.place) idle
  · refine ⟨fun c' mem => ?_, fun set => fine.sound.freeRequest_untouching (idle set)⟩
    cases again with
    | false => exact absurd mem List.not_mem_nil
    | true =>
      cases List.mem_singleton.mp mem
      exact ⟨(fine_fresh .block).1, fun _ => (fine_fresh .block).2⟩

/-- A request that is freed for good was without output or dead. -/
theorem Client.free_mem {again : Bool} (nothing : c.output = false ∨ c.request.status = .dead)
    {c' : Client} (mem : c' ∈ (c.free again).1) : Idle c'.request := by
  have gone : ¬(c.output ∧ c.request.status ≠ .dead) := by
    rintro ⟨output, alive⟩
    rcases nothing with empty | dead
    · exact nomatch output.symm.trans empty
    · exact alive dead
  rw [Client.free, if_neg gone] at mem
  cases again with
  | false => exact absurd mem List.not_mem_nil
  | true =>
    cases List.mem_singleton.mp mem
    exact (fine_fresh .block).2

/-- Before the driver is detached. -/
theorem Client.Fine.detach (fine : c.Fine) (again : Bool)
    (spared : ¬Idle c.request → c.place = .ready ∧ (c.output = false ∨ c.request.status = .dead)) :
    (∀ c' ∈ (c.detach again).1, c'.Fine ∧ Idle c'.request) ∧
      (Idle c.request → ∀ op ∈ (c.detach again).2, ¬Touches op) := by
  by_cases idle : Idle c.request
  · have kept : Kept True (c.detach again) := by
      unfold Client.detach
      split
      · exact fine.free (fun _ => idle) again
      · exact kept_single fine fun _ => idle
    exact ⟨fun c' mem => ⟨(kept.1 c' mem).1, (kept.1 c' mem).2 trivial⟩, fun _ => kept.2 trivial⟩
  · obtain ⟨ready, nothing⟩ := spared idle
    have stream : c.request.httpStream ≠ none := fun page => idle fun other => absurd page other
    have freed : c.detach again = c.free again := if_pos ⟨ready, .inl stream⟩
    rw [freed]
    have kept : Kept False (c.free again) := fine.free False.elim again
    exact ⟨fun c' mem => ⟨(kept.1 c' mem).1, free_mem nothing mem⟩, fun set => absurd set idle⟩

/-- Reading a request. -/
theorem Client.Fine.read (fine : c.Fine) (reading : c.reading = true)
    (idle : down → Idle c.request) (none : down → restarting = true ∧ input.read.GivesNone) :
    (c.read restarting input).1.Fine ∧ (down → Idle (c.read restarting input).1.request ∧
      ∀ op ∈ (c.read restarting input).2.1, ¬Touches op) := by
  have fresh := fine.unread reading
  unfold Client.read
  cases arrived : input.read with
  | nothing => exact ⟨fine, fun set => ⟨idle set, nofun⟩⟩
  | part texts =>
    dsimp only
    rw [fresh]
    exact ⟨⟨(isPage_fresh texts 0 .write).sound, fun _ => rfl⟩,
      fun _ => ⟨fun stream => absurd rfl stream, nofun⟩⟩
  | answer status notify goes =>
    exact ⟨fine.marked status notify input.printed c.place, fun set => ⟨idle set, nofun⟩⟩
  | run handler offer =>
    dsimp only
    rw [fresh]
    obtain ⟨_, -, sound, -⟩ := @Handler.opens c.request.texts
      { offer with refused := offer.refused || restarting } handler
    refine ⟨⟨sound, nofun⟩, fun set => ?_⟩
    obtain ⟨restarts, silent⟩ := none set
    refine handler.untouching (by rw [restarts, Bool.or_true]) fun same => ?_
    exact silent offer (arrived.trans (congrArg (Read.run · offer) same))
  | thread => exact ⟨fine, fun set => ⟨idle set, nofun⟩⟩

/-- Sending from a request. -/
theorem Client.Fine.get (fine : c.Fine) (reading : ¬c.reading = true)
    (idle : down → Idle c.request) (none : down → input.turn.GivesNone) :
    (c.get input).1.Fine ∧ (down → Idle (c.get input).1.request ∧
      ∀ op ∈ (c.get input).2.1, ¬Touches op) := by
  unfold Client.get
  split
  · exact ⟨⟨fine.sound, fine.unread⟩, fun set => ⟨idle set, nofun⟩⟩
  · obtain ⟨_, -, sound, -⟩ := fine.sound.processGet input.turn
    exact ⟨⟨sound, fun read => absurd read reading⟩,
      fun set => fine.sound.processGet_untouching (idle set) (none set)⟩

/-- The `switch` over the status. -/
theorem Client.Fine.serve (fine : c.Fine) (idle : down → Idle c.request)
    (none : down → restarting = true ∧ input.turn.GivesNone ∧ input.read.GivesNone) :
    (c.serve restarting input).1.Fine ∧ (down → Idle (c.serve restarting input).1.request ∧
      ∀ op ∈ (c.serve restarting input).2.1, ¬Touches op) := by
  have waits (output : Bool) : ({ c with output } : Client).Fine ∧
      (down → Idle c.request ∧ ∀ op ∈ ([] : List Op), ¬Touches op) :=
    ⟨⟨fine.sound, fine.unread⟩, fun set => ⟨idle set, nofun⟩⟩
  have marks (status : Status) (output : Bool) : ({ c.mark status with output } : Client).Fine ∧
      (down → Idle (c.mark status).request ∧ ∀ op ∈ ([] : List Op), ¬Touches op) :=
    ⟨fine.marked status c.notify output c.place, fun set => ⟨idle set, nofun⟩⟩
  unfold Client.serve
  split
  · cases input.flush with
    | blocked => exact waits c.output
    | failed => exact marks .dead false
    | left => exact waits c.output
    | sent => exact waits false
  · by_cases reading : c.reading = true
    · rw [if_pos reading]
      exact fine.read reading idle fun set => ⟨(none set).1, (none set).2.2⟩
    · rw [if_neg reading]
      cases c.request.status with
      | write => exact fine.get reading idle fun set => (none set).2.1
      | pipeRead => exact marks input.pipe.1 input.printed
      | dead => exact waits false
      | done =>
        dsimp only
        split
        · cases input.flush with
          | blocked => exact waits c.output
          | failed => exact marks .dead false
          | left => exact waits c.output
          | sent => exact waits false
        · exact waits c.output

/-- A turn of a request. -/
theorem Client.Fine.turn (fine : c.Fine) (idle : down → Idle c.request)
    (none : down → restarting = true ∧ input.turn.GivesNone ∧ input.read.GivesNone) :
    Kept down (c.turn restarting input) := by
  obtain ⟨fine', quiet⟩ := fine.serve idle none
  have one (place : Place) : Kept down
      ([{ (c.serve restarting input).1 with place }], (c.serve restarting input).2.1) := by
    refine ⟨fun c' mem => ?_, fun set => (quiet set).2⟩
    cases List.mem_singleton.mp mem
    exact ⟨⟨fine'.sound, fine'.unread⟩, fun set => (quiet set).1⟩
  unfold Client.turn
  dsimp only
  split
  · exact one .block
  · have freed := fine'.free (fun set => (quiet set).1) input.again
    refine ⟨freed.1, fun set op mem => ?_⟩
    rcases List.mem_append.mp mem with mem | mem
    · exact (quiet set).2 op mem
    · exact freed.2 set op mem
  · exact one _
  · exact one .thread

/-- A blocked request wakes up. -/
theorem Client.Fine.wake (fine : c.Fine) (timedOut selected : Bool) :
    (c.wake timedOut selected).Fine ∧
      (Idle c.request → Idle (c.wake timedOut selected).request) := by
  have moved {c : Client} (fine : c.Fine) :
      (if selected ∨ c.request.status = .dead then { c with place := .ready } else c).Fine ∧
        (Idle c.request →
          Idle (if selected ∨ c.request.status = .dead then { c with place := .ready }
            else c).request) := by
    split
    · exact ⟨⟨fine.sound, fine.unread⟩, fun idle => idle⟩
    · exact ⟨fine, fun idle => idle⟩
  cases timedOut with
  | false => exact moved fine
  | true => exact moved (fine.marked .dead c.notify c.output c.place)

end Clients

/-! ## Runs of the main loop -/

namespace MainLoop

/-- Every request is fine, and while the driver is detached the restart is not over and no request
has a frame. -/
structure Fine (s : MainLoop) : Prop where
  /-- Every request is fine. -/
  each : ∀ c ∈ s.clients, c.Fine
  /-- Without the driver nobody has a frame. -/
  idle : s.attached = false → ∀ c ∈ s.clients, Idle c.request
  /-- Without the driver the restart is not over. -/
  pending : s.attached = false → s.avStreamPending ≠ 0

variable {s : MainLoop}

/-- Before the first request. -/
theorem fine_boot : boot.Fine where
  each _ mem := absurd mem List.not_mem_nil
  idle _ _ mem := absurd mem List.not_mem_nil
  pending detached := absurd detached Bool.noConfusion

/-- One request takes a step. -/
theorem Fine.update (fine : s.Fine) (i : Nat) (place : Place)
    {outcome : Client → List Client × List Op}
    (kept : ∀ c ∈ s.clients, Kept (s.attached = false) (outcome c)) :
    (s.update i place outcome).1.Fine ∧
      (s.attached = false → ∀ op ∈ (s.update i place outcome).2, ¬Touches op) := by
  have still : s.Fine ∧ (s.attached = false → ∀ op ∈ ([] : List Op), ¬Touches op) :=
    ⟨fine, fun _ => nofun⟩
  unfold MainLoop.update
  split
  · exact still
  · rename_i c found
    have member : c ∈ s.clients := List.mem_of_getElem? found
    split
    · have all : ∀ c' ∈ s.clients.take i ++ (outcome c).1 ++ s.clients.drop (i + 1),
          c'.Fine ∧ (s.attached = false → Idle c'.request) := by
        intro c' mem
        have old (mem : c' ∈ s.clients) : c'.Fine ∧ (s.attached = false → Idle c'.request) :=
          ⟨fine.each c' mem, fun set => fine.idle set c' mem⟩
        rcases List.mem_append.mp mem with mem | mem
        · rcases List.mem_append.mp mem with mem | mem
          · exact old (List.mem_of_mem_take mem)
          · exact (kept c member).1 c' mem
        · exact old (List.mem_of_mem_drop mem)
      exact ⟨⟨fun c' mem => (all c' mem).1, fun set c' mem => (all c' mem).2 set, fine.pending⟩,
        (kept c member).2⟩
    · exact still

/-- The head of a pass. -/
theorem Fine.head (fine : s.Fine) (elapsed : Bool) (again : Nat → Bool)
    (spared : Spared s (.head elapsed again)) :
    (s.head elapsed again).1.Fine ∧
      (s.attached = false → ∀ op ∈ (s.head elapsed again).2, ¬Touches op) := by
  unfold MainLoop.head
  split
  · rename_i announced
    have each {outcome : List Client × List Op}
        (mem : outcome ∈ s.clients.mapIdx fun i c => c.detach (again i)) :
        ∃ c ∈ s.clients, ∃ more, outcome = c.detach more := by
      obtain ⟨i, inside, same⟩ := List.mem_mapIdx.mp mem
      exact ⟨s.clients[i], List.getElem_mem inside, again i, same.symm⟩
    have all : ∀ c' ∈ (s.clients.mapIdx fun i c => c.detach (again i)).flatMap Prod.fst,
        c'.Fine ∧ Idle c'.request := by
      intro c' mem
      obtain ⟨outcome, inside, mem⟩ := List.mem_flatMap.mp mem
      obtain ⟨c, member, more, rfl⟩ := each inside
      exact ((fine.each c member).detach more (spared announced c member)).1 c' mem
    refine ⟨⟨fun c' mem => (all c' mem).1, fun _ c' mem => (all c' mem).2, fun _ => nofun⟩, ?_⟩
    intro detached op mem
    obtain ⟨outcome, inside, mem⟩ := List.mem_flatMap.mp mem
    obtain ⟨c, member, more, rfl⟩ := each inside
    exact ((fine.each c member).detach more (spared announced c member)).2
      (fine.idle detached c member) op mem
  · split
    · refine ⟨?_, fun _ => nofun⟩
      split
      · exact ⟨fine.each, fine.idle, fun _ => nofun⟩
      · exact fine
    · split
      · exact ⟨⟨fine.each, nofun, nofun⟩, fun _ => nofun⟩
      · exact ⟨fine, fun _ => nofun⟩

/-- A step keeps the requests fine and touches no frame while the driver is detached. -/
theorem Fine.step (fine : s.Fine) (action : LoopAction) (spared : Spared s action) :
    (s.step action).1.Fine ∧
      (s.attached = false → ∀ op ∈ (s.step action).2, ¬Touches op) := by
  have one {c : Client} (member : c ∈ s.clients) (c' : Client) (fine' : c'.Fine)
      (same : Idle c.request → Idle c'.request) : Kept (s.attached = false) ([c'], []) :=
    kept_single fine' fun set => same (fine.idle set c member)
  cases action with
  | sigusr1 => exact ⟨⟨fine.each, fine.idle, fun _ => nofun⟩, fun _ => nofun⟩
  | sigusr2 => exact ⟨⟨fine.each, fine.idle, fun _ => nofun⟩, fun _ => nofun⟩
  | head elapsed again => exact fine.head elapsed again spared
  | accept full =>
    have new : ∀ c ∈ (if full then { (Client.fresh .ready).mark .done with output := true }
        else Client.fresh .ready) :: s.clients, c.Fine ∧ (s.attached = false → Idle c.request) := by
      intro c mem
      rcases List.mem_cons.mp mem with rfl | mem
      · split
        · exact ⟨(fine_fresh .ready).1.marked .done false true .ready,
            fun _ => (fine_fresh .ready).2⟩
        · exact ⟨(fine_fresh .ready).1, fun _ => (fine_fresh .ready).2⟩
      · exact ⟨fine.each c mem, fun set => fine.idle set c mem⟩
    exact ⟨⟨fun c mem => (new c mem).1, fun set c mem => (new c mem).2 set, fine.pending⟩,
      fun _ => nofun⟩
  | wake i timedOut selected =>
    refine fine.update i .block fun c member => ?_
    obtain ⟨fine', idle⟩ := (fine.each c member).wake timedOut selected
    exact one member _ fine' idle
  | turn i input =>
    refine fine.update i .ready fun c member => (fine.each c member).turn
      (fun set => fine.idle set c member) fun set => ⟨?_, spared set⟩
    exact bne_iff_ne.mpr (fine.pending set)
  | giveBack i =>
    refine fine.update i .thread fun c member => one member _ ?_ fun idle => idle
    exact (fine.each c member).marked .done c.notify false .ready

end MainLoop

/-- In every run in which the driver is detached when each stream with a frame is on `request_ready`
with nothing in its buffer, and gives no frame before it is attached again, no request has frame
data to send and no frame is touched while it is detached. -/
theorem restart_undisturbed {actions : List LoopAction}
    (spared : Throughout MainLoop.next Spared .boot actions) :
    Throughout MainLoop.next Undisturbed .boot actions ∧
      ((actions.foldl MainLoop.next .boot).attached = false →
        ∀ c ∈ (actions.foldl MainLoop.next .boot).clients, ¬FrameLeft c.request) := by
  have frameless {s : MainLoop} (fine : s.Fine) (detached : s.attached = false) :
      ∀ c ∈ s.clients, ¬FrameLeft c.request :=
    fun c mem => (fine.each c mem).sound.frameless (fine.idle detached c mem)
  constructor
  · refine spared.of_invariant MainLoop.Fine (fun s action fine met => ?_) MainLoop.fine_boot
    obtain ⟨fine', quiet⟩ := fine.step action met
    exact ⟨fun detached => ⟨frameless fine detached, quiet detached⟩, fine'⟩
  · exact frameless (spared.foldl_invariant
      (fun s action fine met => (fine.step action met).1) MainLoop.fine_boot)

/-- What a handler finds when the driver has a frame of 9000 bytes with the serial 7. -/
def streamOffer : Offer :=
  { pageOffer with block := none, video := some ⟨7, Nat.le_of_ble_eq_true rfl, 9000⟩ }

/-- There is a first stream. -/
theorem firstStream : 0 < 16 := by decide

/-- What a turn finds when the socket takes everything and the driver has no frame. -/
def quietInput : Input where
  flush := .sent
  read := .run (.mjpeg ⟨0, firstStream⟩) streamOffer
  turn := ⟨.wrote 0, false, none, none, false, none⟩
  pipe := (.done, .complete)
  printed := true
  late := false
  again := false

/-- What a turn finds when the socket takes nothing. -/
def stuckInput : Input :=
  { quietInput with turn := ⟨.wouldBlock, false, none, none, false, none⟩, printed := false }

/-- A client watches a stream, whose header is sent before the restart. -/
def watchedRestart : List LoopAction :=
  [.accept false, .turn 0 quietInput, .turn 0 quietInput, .sigusr1, .head false fun _ => false,
    .head true fun _ => false, .head false fun _ => false]

/-- The stream is freed before the driver is detached. -/
theorem restart_undisturbed_watched :
    Throughout MainLoop.next Undisturbed .boot watchedRestart ∧
      ((watchedRestart.foldl MainLoop.next .boot).attached = false →
        ∀ c ∈ (watchedRestart.foldl MainLoop.next .boot).clients, ¬FrameLeft c.request) := by
  have attached {input : Input} {i : Nat} {s : MainLoop} (up : s.attached = true) :
      Spared s (.turn i input) := fun down => nomatch up.symm.trans down
  have calm {elapsed : Bool} {again : Nat → Bool} {s : MainLoop} (pending : s.avStreamPending ≠ 1) :
      Spared s (.head elapsed again) := fun announced => absurd announced pending
  have alone : ∀ c ∈ ((watchedRestart.take 4).foldl MainLoop.next .boot).clients,
      c.place = .ready ∧ c.output = false := by decide
  refine restart_undisturbed ⟨trivial, attached rfl, attached rfl, trivial, ?_, calm nofun,
    calm nofun, trivial⟩
  intro _ c member _
  obtain ⟨ready, empty⟩ := alone c member
  exact ⟨ready, .inl empty⟩

/-- A stream whose socket takes nothing is on `request_block` when the driver is detached, with all
of its frame to send. -/
theorem blocked_stream_disturbed :
    ¬∀ actions, Throughout MainLoop.next Undisturbed .boot actions := by
  intro all
  have run := all [.accept false, .turn 0 quietInput, .turn 0 quietInput, .turn 0 stuckInput,
    .sigusr1, .head false fun _ => false, .wake 0 false true]
  obtain ⟨-, -, -, -, -, -, disturbed, -⟩ := run
  refine (disturbed rfl).1 _ List.mem_cons_self
    ⟨?_, ⟨⟨.video .mjpeg 0, 7⟩, rfl, ?_, ?_, ?_⟩, Nat.le_of_ble_eq_true rfl⟩
  all_goals
    intro same
    cases same

end BoaIpcam.Blocks
