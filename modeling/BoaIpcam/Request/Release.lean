import BoaIpcam.Lib.Run
import BoaIpcam.Request.Blocks
import Mathlib.Tactic.Abel

/-!
# Releasing what a request owns

`owned` is what the fields of a request say it owns, apart from its texts. Every step of a request
keeps the books: what is held is what it owns and what was lost before. `free_request` gives back
what is owned, with two exceptions: a page that was built in memory is unmapped, and the audio frame
of a stream of `URI_HTTP_MJPEG` stays locked.
-/
namespace BoaIpcam.Blocks

open Ledger TransitionSystem

/-! ## When everything is released -/

/-- The handler takes no block that nothing gives back: no page is built in memory, and the VOL data
is not locked, except for an AVC stream that has a frame as well. -/
def Handler.StartsClean (offer : Offer) : Handler → Prop
  | .iniHtm | .keywordHtm | .cmdlistHtm => offer.block = none
  | .mpeg4 _ => offer.refused = true ∨ offer.vol = none
  | .dlinkMpeg4 idx | .dlinkVideoMpeg4 idx =>
    (idx < 0 ∨ idx > 2) ∨ offer.refused = true ∨ offer.vol = none
  | .avc => offer.sharedMemory = false ∨ offer.refused = true ∨ offer.vol = none ∨
      offer.video.isSome = true
  | _ => True

/-- The turn sends the last byte of the block. -/
def EndsBlock (r : Request) (turn : Turn) : Prop :=
  ∃ amount, turn.written = .wrote amount ∧
    r.filepos + min amount (min (r.filesize - r.filepos) socketbufSize) = r.filesize

/-- The turn gets an audio frame. -/
def Turn.GetsAudio (turn : Turn) : Prop := turn.asksAudio = true ∧ turn.audio.isSome = true

/-- At the end of a block, the turn locks a frame that nothing unlocks: an audio frame of a stream
of `URI_HTTP_MJPEG`, or the frame that is locked after an error of an AVC stream. -/
def Turn.Loses (turn : Turn) : Kind → Prop
  | .httpMjpeg => turn.GetsAudio
  | .avc => ¬turn.GetsAudio ∧ turn.video.isNone = true ∧ turn.lockError = true ∧
      turn.relocked.isSome = true
  | _ => False

/-- The action locks a frame that nothing unlocks. -/
def Loses (r : Request) : Action → Prop
  | .turn turn => r.status = .write ∧ EndsBlock r turn ∧
      ∃ stream ∈ r.httpStream, turn.Loses stream.1
  | _ => False

/-! ## What a request owns -/

/-- The format of the frames of a type of stream. -/
def Kind.codec : Kind → Option Codec
  | .jpeg => some .mjpeg
  | .mjpeg => some .mjpeg
  | .mpeg4 => some .mpeg4
  | .h264 => some .h264
  | .audioG726 => none
  | .dlinkMpeg4 => some .mpeg4
  | .httpMjpeg => some .mjpeg
  | .audioStream => none
  | .avc => some .avc
  | .dlinkH264 => some .h264

/-- The frame that a `serial_lock` says. -/
def lockSet (tag : Tag) (lock : Nat) : Multiset Block := if lock > 0 then {⟨tag, lock⟩} else 0

/-- The video frame of a stream. -/
def videoSet (kind : Kind) (stream : Fin 16) (r : Request) : Multiset Block :=
  match kind.codec with
  | some codec => lockSet (.video codec stream) r.video
  | none => 0

/-- The frames of a stream. -/
def frames (kind : Kind) (stream : Fin 16) (r : Request) : Multiset Block :=
  videoSet kind stream r + lockSet .audio r.audio

/-- The mapping and the page of a request that is no stream. -/
def pages (r : Request) : Multiset Block :=
  (r.mmapEntry.toList : Multiset Block) +
    if r.isMemory then (r.dataMem.toList : Multiset Block) else 0

/-- What a request owns apart from its texts. -/
def owned (r : Request) : Multiset Block :=
  match r.httpStream with
  | some (kind, stream) => frames kind stream r
  | none => pages r

/-- Its texts. -/
def textSet (texts : Texts) : Multiset Block :=
  ((texts.blocks.1 ++ texts.blocks.2 : List Block) : Multiset Block)

/-- The fields of a stream request. -/
structure IsStream (r : Request) (kind : Kind) (stream : Fin 16) : Prop where
  /-- It is a stream. -/
  type : r.httpStream = some (kind, stream)
  /-- Nothing comes from `malloc`. -/
  memory : r.isMemory = false
  /-- What is sent is one of its frames. -/
  data : ∀ block, r.dataMem = some block → block ∈ frames kind stream r
  /-- JPEG has no audio. -/
  silent : kind = .jpeg → r.audio = 0
  /-- AVC has one stream. -/
  avc : kind = .avc → stream = 0

/-- The fields of a request that is no stream. -/
structure IsPage (r : Request) : Prop where
  /-- It is no stream. -/
  type : r.httpStream = none
  /-- What is sent is one of its blocks. -/
  data : ∀ block, r.dataMem = some block → block ∈ pages r
  /-- The mapping is one of the cache. -/
  entry : ∀ block, r.mmapEntry = some block → block.tag = .entry
  /-- What comes from `malloc` is sent. -/
  memory : r.isMemory = true → ∃ id, r.dataMem = some ⟨.heap, id⟩
  /-- A mapping in front of a page has an entry. -/
  original : r.mmapEntry = none → r.mmapPtr = none

/-- The fields of a request. -/
def Sound (r : Request) : Prop :=
  match r.httpStream with
  | some (kind, stream) => IsStream r kind stream
  | none => IsPage r

/-- A stream request is sound. -/
theorem IsStream.sound {r : Request} {kind : Kind} {stream : Fin 16} (h : IsStream r kind stream) :
    Sound r := by
  rw [Sound, h.type]
  exact h

/-- So is another request. -/
theorem IsPage.sound {r : Request} (h : IsPage r) : Sound r := by
  rw [Sound, h.type]
  exact h

/-- What a stream request owns. -/
theorem IsStream.owned {r : Request} {kind : Kind} {stream : Fin 16} (h : IsStream r kind stream) :
    owned r = frames kind stream r := by
  rw [Blocks.owned, h.type]

/-- What another request owns. -/
theorem IsPage.owned {r : Request} (h : IsPage r) : owned r = pages r := by
  rw [Blocks.owned, h.type]

/-- What a request sends from is its own. -/
theorem Sound.data {r : Request} (h : Sound r) {block : Block} (data : r.dataMem = some block) :
    block ∈ owned r := by
  unfold Sound at h
  split at h
  · rw [h.owned]
    exact h.data block data
  · rw [h.owned]
    exact h.data block data

/-! ## Frames -/

/-- The tags of locks. -/
def Tag.IsLock (tag : Tag) : Prop := tag ≠ .heap ∧ tag ≠ .mapping ∧ tag ≠ .entry

/-- A video frame is a lock. -/
theorem isLock_video (codec : Codec) (stream : Fin 16) : (Tag.video codec stream).IsLock :=
  ⟨nofun, nofun, nofun⟩

/-- An audio frame is a lock. -/
theorem isLock_audio : Tag.audio.IsLock := ⟨nofun, nofun, nofun⟩

/-- VOL data is a lock. -/
theorem isLock_vol (codec : Codec) (stream : Fin 16) : (Tag.vol codec stream).IsLock :=
  ⟨nofun, nofun, nofun⟩

/-- A lock is given back by unlocking. -/
theorem fits_unlock {tag : Tag} (lock : tag.IsLock) (id : Nat) :
    fits .unlock ⟨tag, id⟩ = true := decide_eq_true lock

/-- A frame has a serial. -/
theorem lockSet_frame (tag : Tag) (frame : Frame) :
    lockSet tag frame.serial = {⟨tag, frame.serial⟩} := if_pos frame.positive

/-- Unlocking gives back the frame of a `serial_lock`. -/
theorem settle_unlock {tag : Tag} (lock : tag.IsLock) (serial : Nat) :
    settle fits (lockSet tag serial) (unlock tag serial) = some 0 := by
  unfold lockSet unlock
  by_cases locked : serial > 0
  · rw [if_pos locked, if_pos locked]
    exact settle_release (fits_unlock lock serial)
  · rw [if_neg locked, if_neg locked]
    rfl

/-- Locking the next frame replaces the one before. -/
theorem settle_relock {tag : Tag} (lock : tag.IsLock) (serial : Nat) (frame : Frame) :
    settle fits (lockSet tag serial) (relock tag serial frame) =
      some (lockSet tag frame.serial) := by
  rw [relock, settle_take, ← Multiset.singleton_add, add_comm, lockSet_frame]
  have unlocked := settle_frame (settle_unlock lock serial) {⟨tag, frame.serial⟩}
  rwa [zero_add] at unlocked

section Streams

variable {r : Request} {kind : Kind} {stream : Fin 16} {codec : Codec}

/-- The step of a stream request keeps the books and loses some frames. -/
def Feeds (kind : Kind) (stream : Fin 16) (r : Request) (outcome : Request × List Op)
    (lost : Multiset Block) : Prop :=
  settle fits (frames kind stream r) outcome.2 = some (frames kind stream outcome.1 + lost) ∧
    IsStream outcome.1 kind stream ∧ outcome.1.texts = r.texts

/-- Nothing is done. -/
theorem IsStream.idle (h : IsStream r kind stream) : Feeds kind stream r (r, []) 0 := by
  refine ⟨?_, h, rfl⟩
  rw [add_zero]
  rfl

/-- The next video frame replaces the one before. -/
theorem IsStream.setVideo (h : IsStream r kind stream) (coded : kind.codec = some codec)
    (more : Nat) (frame : Frame) :
    Feeds kind stream r (setVideo codec stream more frame r) 0 := by
  have held (r : Request) : frames kind stream r =
      lockSet (.video codec stream) r.video + lockSet .audio r.audio := by
    rw [frames, videoSet, coded]
  refine ⟨?_, ⟨h.type, h.memory, ?_, h.silent, h.avc⟩, rfl⟩
  · rw [held, held, add_zero]
    exact settle_frame (settle_relock (isLock_video codec stream) r.video frame) _
  · intro block data
    cases data
    rw [held]
    refine Multiset.mem_add.mpr (.inl ?_)
    show _ ∈ lockSet (.video codec stream) frame.serial
    rw [lockSet_frame]
    exact Multiset.mem_singleton_self _

/-- So does the next audio frame. -/
theorem IsStream.setAudio (h : IsStream r kind stream) (heard : kind ≠ .jpeg) (frame : Frame) :
    Feeds kind stream r (setAudio frame r) 0 := by
  refine ⟨?_, ⟨h.type, h.memory, ?_, fun jpeg => absurd jpeg heard, h.avc⟩, rfl⟩
  · rw [add_zero]
    unfold frames
    rw [add_comm, add_comm (videoSet _ _ _)]
    exact settle_frame (settle_relock isLock_audio r.audio frame) _
  · intro block data
    cases data
    refine Multiset.mem_add.mpr (.inr ?_)
    show _ ∈ lockSet .audio frame.serial
    rw [lockSet_frame]
    exact Multiset.mem_singleton_self _

/-- Asking for a video frame. -/
theorem IsStream.nextVideo (h : IsStream r kind stream) (coded : kind.codec = some codec)
    (more : Nat) (turn : Turn) :
    Feeds kind stream r (nextVideo codec stream more turn r) 0 := by
  unfold Blocks.nextVideo
  split
  · exact h.setVideo coded more _
  · exact h.idle

/-- Asking for an AVC frame loses the frame that is locked after an error. -/
theorem IsStream.nextAvc (h : IsStream r .avc stream) (turn : Turn) :
    ∃ lost, Feeds .avc stream r (nextAvc stream turn r) lost ∧
      (lost = 0 ↔ ¬(turn.video.isNone = true ∧ turn.lockError = true ∧
        turn.relocked.isSome = true)) := by
  unfold Blocks.nextAvc
  cases turn.video with
  | some frame => exact ⟨0, h.setVideo rfl 0 frame, iff_of_true rfl nofun⟩
  | none =>
    cases turn.lockError with
    | false => exact ⟨0, h.idle, iff_of_true rfl nofun⟩
    | true =>
      cases turn.relocked with
      | none => exact ⟨0, h.idle, iff_of_true rfl nofun⟩
      | some frame =>
        refine ⟨{⟨.video .avc stream, frame.serial⟩}, ⟨?_, h, rfl⟩, ?_⟩
        · rw [add_comm, Multiset.singleton_add]
          rfl
        · exact iff_of_false (Multiset.singleton_ne_zero _) fun none => none ⟨rfl, rfl, rfl⟩

/-- An audio frame, or else the next step. -/
theorem IsStream.orAudio (h : IsStream r kind stream) (heard : kind ≠ .jpeg) (turn : Turn)
    {next : Request → Request × List Op} {lost : Multiset Block}
    (feeds : Feeds kind stream r (next r) lost) :
    ∃ lost', Feeds kind stream r (orAudio turn next r) lost' ∧
      (lost' = 0 ↔ turn.GetsAudio ∨ lost = 0) := by
  unfold Blocks.orAudio Turn.GetsAudio
  cases turn.asksAudio with
  | false => exact ⟨lost, feeds, by simp⟩
  | true =>
    cases turn.audio with
    | none => exact ⟨lost, feeds, by simp⟩
    | some frame => exact ⟨0, h.setAudio heard frame, by simp⟩

/-- The type of a stream stays, and so does an audio frame, which only a turn gets. -/
theorem orAudio_audio (turn : Turn) {next : Request → Request × List Op}
    (keeps : (next r).1.audio = r.audio) :
    (orAudio turn next r).1.audio = 0 ↔ r.audio = 0 ∧ ¬turn.GetsAudio := by
  unfold orAudio Turn.GetsAudio
  cases turn.asksAudio with
  | false => simp [keeps]
  | true =>
    cases turn.audio with
    | none => simp [keeps]
    | some frame =>
      have locked : frame.serial ≠ 0 := Nat.ne_of_gt frame.positive
      simp [setAudio, locked]

/-- A stream of `URI_HTTP_MJPEG` has an audio frame locked, which `free_request` does not unlock. -/
def Unheard (r : Request) : Prop :=
  ∃ stream, r.httpStream = some (.httpMjpeg, stream) ∧ r.audio ≠ 0

/-- Other streams do not. -/
theorem IsStream.heard (h : IsStream r kind stream) (other : kind ≠ .httpMjpeg) : ¬Unheard r := by
  rintro ⟨stream', type, -⟩
  rw [h.type] at type
  cases type
  exact other rfl

/-- At the end of a block of a request that sends only one, the request is done. -/
theorem nextBlock_done (turn : Turn) (single : ∀ kind stream, r.httpStream = some (kind, stream) →
    kind = .jpeg ∨ kind = .audioStream) :
    Blocks.nextBlock turn r = ({ r with status := .done }, []) := by
  unfold Blocks.nextBlock
  split
  all_goals first
    | rfl
    | rename_i type
      rcases single _ _ type with same | same <;> cases same

/-- The end of a block of a stream request. -/
theorem IsStream.nextBlock (h : IsStream r kind stream) (turn : Turn) :
    ∃ lost, Feeds kind stream r (nextBlock turn r) lost ∧
      (lost = 0 ∧ ¬Unheard (nextBlock turn r).1 ↔ ¬Unheard r ∧ ¬turn.Loses kind) := by
  -- Every type but two loses nothing.
  have keeps (other : kind ≠ .httpMjpeg) (loses : ¬turn.Loses kind)
      (feeds : Feeds kind stream r (Blocks.nextBlock turn r) 0) :
      ∃ lost, Feeds kind stream r (Blocks.nextBlock turn r) lost ∧
        (lost = 0 ∧ ¬Unheard (Blocks.nextBlock turn r).1 ↔ ¬Unheard r ∧ ¬turn.Loses kind) :=
    ⟨0, feeds, iff_of_true ⟨rfl, feeds.2.1.heard other⟩ ⟨h.heard other, loses⟩⟩
  have audio (heard : kind ≠ .jpeg) {next : Request → Request × List Op}
      (feeds : Feeds kind stream r (next r) 0) :
      Feeds kind stream r (Blocks.orAudio turn next r) 0 := by
    obtain ⟨lost, feeds', none⟩ := h.orAudio heard turn feeds
    rwa [none.mpr (.inr rfl)] at feeds'
  have finished : Feeds kind stream r ({ r with status := .done }, []) 0 :=
    ⟨by rw [add_zero]; rfl, ⟨h.type, h.memory, h.data, h.silent, h.avc⟩, rfl⟩
  have type := h.type
  cases kind with
  | jpeg =>
    refine keeps nofun nofun ?_
    rw [nextBlock_done turn (by simp [type])]
    exact finished
  | audioStream =>
    refine keeps nofun nofun ?_
    rw [nextBlock_done turn (by simp [type])]
    exact finished
  | mjpeg =>
    refine keeps nofun nofun ?_
    rw [Blocks.nextBlock, type]
    exact audio nofun (h.nextVideo rfl 1 turn)
  | mpeg4 =>
    refine keeps nofun nofun ?_
    rw [Blocks.nextBlock, type]
    exact audio nofun (h.nextVideo rfl 0 turn)
  | h264 =>
    refine keeps nofun nofun ?_
    rw [Blocks.nextBlock, type]
    exact audio nofun (h.nextVideo rfl 0 turn)
  | dlinkMpeg4 =>
    refine keeps nofun nofun ?_
    rw [Blocks.nextBlock, type]
    exact h.nextVideo rfl 0 turn
  | dlinkH264 =>
    refine keeps nofun nofun ?_
    rw [Blocks.nextBlock, type]
    exact h.nextVideo rfl 0 turn
  | audioG726 =>
    refine keeps nofun nofun ?_
    rw [Blocks.nextBlock, type]
    exact @audio nofun (fun r => (r, [])) h.idle
  | httpMjpeg =>
    have feeds := audio nofun (h.nextVideo rfl 0 turn)
    have sound : (Blocks.nextVideo .mjpeg stream 0 turn r).1.audio = r.audio := by
      unfold Blocks.nextVideo
      split <;> rfl
    have silent := orAudio_audio turn sound
    have unheard {r : Request} (h : IsStream r .httpMjpeg stream) :
        ¬Unheard r ↔ r.audio = 0 := by
      constructor
      · exact fun none => by_contra fun locked => none ⟨stream, h.type, locked⟩
      · exact fun none ⟨_, _, locked⟩ => locked none
    rw [Blocks.nextBlock, type]
    refine ⟨0, feeds, ?_⟩
    rw [unheard feeds.2.1, unheard h, silent]
    exact ⟨fun both => both.2, fun both => ⟨rfl, both⟩⟩
  | avc =>
    obtain ⟨lost, feeds, none⟩ := h.nextAvc turn
    obtain ⟨lost', feeds', none'⟩ := h.orAudio nofun turn feeds
    rw [Blocks.nextBlock, type]
    refine ⟨lost', feeds', ?_⟩
    rw [none', none, Turn.Loses]
    have quiet := feeds'.2.1.heard (show Kind.avc ≠ .httpMjpeg from nofun)
    have quiet' := h.heard (show Kind.avc ≠ .httpMjpeg from nofun)
    simp only [quiet, quiet', not_false_eq_true, and_true, true_and, not_and, ← or_iff_not_imp_left]

end Streams

/-! ## Steps -/

section Steps

variable {r : Request}

/-- A request that sends a page built in memory, with no mapping behind it. -/
def BuiltPage (r : Request) : Prop :=
  r.httpStream = none ∧ r.mmapEntry = none ∧ r.dataMem.isSome = true

/-- A step keeps the books: what is held afterwards is what the request owns and what the step
lost. -/
def Books (r : Request) (outcome : Request × List Op) (loses : Prop) : Prop :=
  ∃ lost, settle fits (owned r) outcome.2 = some (owned outcome.1 + lost) ∧
    Sound outcome.1 ∧ outcome.1.texts = r.texts ∧ (BuiltPage outcome.1 ↔ BuiltPage r) ∧
    (lost = 0 ∧ ¬Unheard outcome.1 ↔ ¬Unheard r ∧ ¬loses)

/-- The status and the position do not matter. -/
theorem Sound.mark (h : Sound r) (status : Status) (filepos : Nat) :
    Sound { r with status, filepos } := by
  unfold Sound at h
  split at h
  · rename_i kind stream type
    have marked : IsStream { r with status, filepos } kind stream :=
      ⟨h.type, h.memory, h.data, h.silent, h.avc⟩
    exact marked.sound
  · have marked : IsPage { r with status, filepos } :=
      ⟨h.type, h.data, h.entry, h.memory, h.original⟩
    exact marked.sound

/-- So a change of them keeps the books. -/
theorem Sound.marked (h : Sound r) (status : Status) (filepos : Nat) {loses : Prop}
    (keeps : ¬loses) : Books r ({ r with status, filepos }, []) loses := by
  refine ⟨0, ?_, h.mark status filepos, rfl, Iff.rfl, ?_⟩
  · rw [add_zero]
    rfl
  · exact ⟨fun none => ⟨none.2, keeps⟩, fun none => ⟨rfl, none.1⟩⟩

/-- Using what a request sends from keeps the books. -/
theorem Sound.uses (h : Sound r) (bytes : Nat) :
    settle fits (owned r) (if bytes = 0 then [] else r.dataMem.toList.map .use) =
      some (owned r) := by
  split
  · rfl
  cases data : r.dataMem with
  | none => rfl
  | some block => exact settle_use (h.data data)

/-- A ledger of uses in front. -/
theorem Books.after {outcome : Request × List Op} {loses : Prop} {uses : List Op}
    (books : Books r outcome loses) (used : settle fits (owned r) uses = some (owned r)) :
    Books r (outcome.1, uses ++ outcome.2) loses := by
  obtain ⟨lost, settled, rest⟩ := books
  exact ⟨lost, (settle_append_of_settle used _).trans settled, rest⟩

/-- The end of a block keeps the books. -/
theorem Sound.nextBlock (h : Sound r) (turn : Turn) :
    Books r (nextBlock turn r) (∃ stream ∈ r.httpStream, turn.Loses stream.1) := by
  cases type : r.httpStream with
  | none =>
    rw [nextBlock_done turn fun kind stream stream_type => nomatch type.symm.trans stream_type]
    exact h.marked .done r.filepos fun ⟨_, mem, _⟩ => nomatch mem
  | some pair =>
    obtain ⟨kind, stream⟩ := pair
    have streaming : IsStream r kind stream := by
      rw [Sound, type] at h
      exact h
    obtain ⟨lost, ⟨settled, still, texts⟩, none⟩ := streaming.nextBlock turn
    refine ⟨lost, ?_, still.sound, texts, ?_, ?_⟩
    · rw [streaming.owned, still.owned]
      exact settled
    · exact iff_of_false (fun built => nomatch still.type.symm.trans built.1)
        fun built => nomatch type.symm.trans built.1
    · simp only [none, Option.mem_def, Option.some.injEq, exists_eq_left']

/-- `process_get` keeps the books. -/
theorem Sound.processGet (h : Sound r) (turn : Turn) :
    Books r (processGet turn r)
      (EndsBlock r turn ∧ ∃ stream ∈ r.httpStream, turn.Loses stream.1) := by
  have used := h.uses (min (r.filesize - r.filepos) socketbufSize)
  unfold Blocks.processGet
  cases written : turn.written with
  | sigbus =>
    have keeps : ¬(EndsBlock r turn ∧ ∃ stream ∈ r.httpStream, turn.Loses stream.1) := by
      rintro ⟨⟨amount, wrote, -⟩, -⟩
      exact nomatch written.symm.trans wrote
    simpa only [List.append_nil] using (h.marked .dead r.filepos keeps).after used
  | failed =>
    have keeps : ¬(EndsBlock r turn ∧ ∃ stream ∈ r.httpStream, turn.Loses stream.1) := by
      rintro ⟨⟨amount, wrote, -⟩, -⟩
      exact nomatch written.symm.trans wrote
    simpa only [List.append_nil] using (h.marked .dead r.filepos keeps).after used
  | wouldBlock =>
    have keeps : ¬(EndsBlock r turn ∧ ∃ stream ∈ r.httpStream, turn.Loses stream.1) := by
      rintro ⟨⟨amount, wrote, -⟩, -⟩
      exact nomatch written.symm.trans wrote
    simpa only [List.append_nil] using (h.marked r.status r.filepos keeps).after used
  | wrote amount =>
    dsimp only
    split
    · rename_i ends
      have end_ : EndsBlock r turn := ⟨amount, written, ends⟩
      have next := (h.mark r.status
        (r.filepos + min amount (min (r.filesize - r.filepos) socketbufSize))).nextBlock turn
      simp only [end_, true_and]
      exact next.after used
    · rename_i more
      have keeps : ¬(EndsBlock r turn ∧ ∃ stream ∈ r.httpStream, turn.Loses stream.1) := by
        rintro ⟨⟨amount', wrote, ends⟩, -⟩
        cases written.symm.trans wrote
        exact more ends
      simpa only [List.append_nil] using (h.marked r.status _ keeps).after used

/-- Every action keeps the books. -/
theorem Sound.step (h : Sound r) (action : Action) :
    Books r (step r action, stepOps r action) (Loses r action) := by
  cases action with
  | finish => exact h.marked .done r.filepos nofun
  | die => exact h.marked .dead r.filepos nofun
  | turn turn =>
    unfold Blocks.step stepOps Loses
    by_cases write : r.status = .write
    · simp only [write, if_true, true_and]
      exact h.processGet turn
    · simp only [write, if_false, false_and]
      exact h.marked r.status r.filepos nofun

/-- So does every run of actions. -/
theorem Sound.run (h : Sound r) (actions : List Action) :
    ∃ lost, settle fits (owned r) (runOps r actions) =
        some (owned (actions.foldl Blocks.step r) + lost) ∧
      Sound (actions.foldl Blocks.step r) ∧ (actions.foldl Blocks.step r).texts = r.texts ∧
      (BuiltPage (actions.foldl Blocks.step r) ↔ BuiltPage r) ∧
      (lost = 0 ∧ ¬Unheard (actions.foldl Blocks.step r) ↔
        ¬Unheard r ∧ Throughout Blocks.step (fun r action => ¬Loses r action) r actions) := by
  induction actions generalizing r with
  | nil =>
    refine ⟨0, ?_, h, rfl, Iff.rfl, ⟨fun none => ⟨none.2, trivial⟩, fun none => ⟨rfl, none.1⟩⟩⟩
    rw [add_zero]
    rfl
  | cons action actions ih =>
    obtain ⟨first, settled, sound, texts, built, none⟩ := h.step action
    obtain ⟨rest, settled', sound', texts', built', none'⟩ := ih sound
    refine ⟨rest + first, ?_, sound', texts'.trans texts, built'.trans built, ?_⟩
    · rw [runOps, settle_append_of_settle settled, ← add_assoc]
      exact settle_frame settled' first
    · show rest + first = 0 ∧ ¬Unheard (actions.foldl Blocks.step (Blocks.step r action)) ↔
        ¬Unheard r ∧ ¬Loses r action ∧ Throughout Blocks.step (fun r action => ¬Loses r action)
          (Blocks.step r action) actions
      rw [nothing_left_iff, and_right_comm, none', ← and_assoc, ← none]
      constructor
      · rintro ⟨⟨unheard, clean⟩, nothing⟩
        exact ⟨⟨nothing, unheard⟩, clean⟩
      · rintro ⟨⟨nothing, unheard⟩, clean⟩
        exact ⟨⟨unheard, clean⟩, nothing⟩

end Steps

/-! ## The end of a request -/

section Freeing

variable {r : Request}

/-- The audio frame that `free_request` leaves locked. -/
def unheardSet (r : Request) : Multiset Block :=
  match r.httpStream with
  | some (.httpMjpeg, _) => lockSet .audio r.audio
  | _ => 0

/-- It is there when the request has one. -/
theorem unheardSet_eq_zero_iff : unheardSet r = 0 ↔ ¬Unheard r := by
  unfold unheardSet Unheard
  split
  · rename_i stream type
    rw [type]
    by_cases locked : r.audio > 0
    · rw [lockSet, if_pos locked]
      refine iff_of_false (Multiset.singleton_ne_zero _) fun none => none ⟨stream, rfl, ?_⟩
      exact Nat.ne_of_gt locked
    · rw [lockSet, if_neg locked]
      refine iff_of_true rfl ?_
      rintro ⟨_, _, some⟩
      exact locked (Nat.pos_of_ne_zero some)
  · rename_i other
    refine iff_of_true rfl ?_
    rintro ⟨stream, type, _⟩
    exact other stream type

/-- A page that is left for `free`. -/
def pageSet (r : Request) : Multiset Block :=
  if r.isMemory then (r.dataMem.toList : Multiset Block) else 0

/-- The frames of a stream are unlocked, but for one. -/
theorem settle_unlockFrames {kind : Kind} {stream : Fin 16} (h : IsStream r kind stream) :
    settle fits (frames kind stream r) (unlockFrames kind stream r) = some (unheardSet r) := by
  have both (codec : Codec) (stream : Fin 16) :
      settle fits (lockSet (.video codec stream) r.video + lockSet .audio r.audio)
        (unlock (.video codec stream) r.video ++ unlock .audio r.audio) = some 0 := by
    have first := settle_frame (settle_unlock (isLock_video codec stream) r.video)
      (lockSet .audio r.audio)
    rw [zero_add] at first
    rw [settle_append_of_settle first]
    exact settle_unlock isLock_audio r.audio
  have alone : settle fits (0 + lockSet .audio r.audio) (unlock .audio r.audio) = some 0 := by
    rw [zero_add]
    exact settle_unlock isLock_audio r.audio
  have type := h.type
  cases kind with
  | jpeg =>
    have silent : lockSet .audio r.audio = 0 := by
      rw [h.silent rfl]
      rfl
    rw [unheardSet, type, frames, silent, add_zero]
    exact settle_unlock (isLock_video .mjpeg stream) r.video
  | httpMjpeg =>
    rw [unheardSet, type, frames]
    have first := settle_frame (settle_unlock (isLock_video .mjpeg stream) r.video)
      (lockSet .audio r.audio)
    rwa [zero_add] at first
  | mjpeg => rw [unheardSet, type]; exact both .mjpeg stream
  | mpeg4 => rw [unheardSet, type]; exact both .mpeg4 stream
  | h264 => rw [unheardSet, type]; exact both .h264 stream
  | dlinkMpeg4 => rw [unheardSet, type]; exact both .mpeg4 stream
  | dlinkH264 => rw [unheardSet, type]; exact both .h264 stream
  | audioG726 => rw [unheardSet, type]; exact alone
  | audioStream => rw [unheardSet, type]; exact alone
  | avc =>
    have zero := h.avc rfl
    subst zero
    rw [unheardSet, type]
    exact both .avc 0

/-- The first branches of `free_request` leave the page and one frame. -/
theorem Sound.release (h : Sound r) (other : ¬BuiltPage r) :
    settle fits (owned r) (releaseData r) = some (pageSet r + unheardSet r) := by
  unfold Sound at h
  split at h
  · rename_i kind stream type
    have unlocks : releaseData r = unlockFrames kind stream r := by rw [releaseData, type]
    rw [h.owned, unlocks, settle_unlockFrames h, pageSet, h.memory, if_neg Bool.false_ne_true, zero_add]
  · rename_i type
    have unmaps : releaseData r = unmap r := by rw [releaseData, type]
    rw [h.owned, unmaps]
    have silent : unheardSet r = 0 := unheardSet_eq_zero_iff.mpr fun ⟨_, streams, _⟩ =>
      nomatch type.symm.trans streams
    rw [silent, add_zero]
    unfold pages unmap pageSet
    cases entry : r.mmapEntry with
    | some mapped =>
      have right : fits .releaseMmap mapped = true := decide_eq_true (h.entry mapped entry)
      exact settle_release right
    | none =>
      cases data : r.dataMem with
      | some block => exact absurd ⟨type, entry, by rw [data]; rfl⟩ other
      | none =>
        rw [Option.toList_none, Multiset.coe_nil, zero_add]
        rfl

/-- A page that was built in memory is unmapped, which spoils the ledger. -/
theorem Sound.misfit (h : Sound r) (built : BuiltPage r) (held : Multiset Block) :
    settle fits held (freeRequest r) = none := by
  obtain ⟨type, entry, data⟩ := built
  have page : IsPage r := by
    rw [Sound, type] at h
    exact h
  obtain ⟨block, data⟩ := Option.isSome_iff_exists.mp data
  have wrong : fits .munmap block = false := by
    have mem := page.data block data
    rw [pages, entry, Option.toList_none, Multiset.coe_nil, zero_add] at mem
    split at mem
    · rename_i memory
      obtain ⟨id, data'⟩ := page.memory memory
      cases data.symm.trans data'
      rfl
    · exact absurd mem (Multiset.notMem_zero block)
  have unmaps : unmap r = [.release .munmap block] := by
    rw [unmap, entry, data, page.original entry]
  rw [freeRequest, releaseData, type]
  dsimp only
  rw [unmaps, List.append_assoc, List.append_assoc, List.singleton_append]
  exact settle_misfit wrong

/-- A text is a block for `free`. -/
theorem fits_texts (texts : Texts) :
    (∀ block ∈ texts.blocks.1, fits .free block = true) ∧
      ∀ block ∈ texts.blocks.2, fits .free block = true := by
  constructor
  all_goals
    intro block mem
    obtain ⟨id, -, rfl⟩ := List.mem_map.mp mem
    rfl

/-- `free_request` gives back what a request owns, but for one frame. -/
theorem Sound.freeRequest (h : Sound r) (other : ¬BuiltPage r) (lost : Multiset Block) :
    settle fits (textSet r.texts + owned r + lost) (freeRequest r) =
      some (unheardSet r + lost) := by
  have books : textSet r.texts + owned r + lost =
      owned r + ((r.texts.blocks.1 : Multiset Block) +
        ((r.texts.blocks.2 : Multiset Block) + lost)) := by
    rw [textSet, ← Multiset.coe_add]
    abel
  have released := settle_frame (h.release other)
    ((r.texts.blocks.1 : Multiset Block) + ((r.texts.blocks.2 : Multiset Block) + lost))
  have first : pageSet r + unheardSet r +
      ((r.texts.blocks.1 : Multiset Block) + ((r.texts.blocks.2 : Multiset Block) + lost)) =
      (r.texts.blocks.1 : Multiset Block) +
        (pageSet r + ((r.texts.blocks.2 : Multiset Block) + (unheardSet r + lost))) := by
    abel
  have page : settle fits
      (pageSet r + ((r.texts.blocks.2 : Multiset Block) + (unheardSet r + lost)))
      (if r.isMemory then r.dataMem.toList.map (.release .free) else []) =
      some ((r.texts.blocks.2 : Multiset Block) + (unheardSet r + lost)) := by
    unfold pageSet
    split
    · rename_i memory
      refine settle_releases _ _ fun block mem => ?_
      have data : r.dataMem = some block := by simpa using mem
      have heap : ∃ id, r.dataMem = some ⟨.heap, id⟩ := by
        unfold Sound at h
        split at h
        · exact nomatch h.memory.symm.trans memory
        · exact h.memory memory
      obtain ⟨id, data'⟩ := heap
      cases data.symm.trans data'
      rfl
    · rw [zero_add]
      rfl
  obtain ⟨early, late⟩ := fits_texts r.texts
  rw [books, Blocks.freeRequest, List.append_assoc, List.append_assoc,
    settle_append_of_settle released, first, settle_append_of_settle (settle_releases _ _ early),
    settle_append_of_settle page]
  exact settle_releases _ _ late

end Freeing

end BoaIpcam.Blocks
