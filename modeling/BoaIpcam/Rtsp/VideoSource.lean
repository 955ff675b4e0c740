import Mathlib.Data.UInt
import BoaIpcam.Lib.Pieces
import BoaIpcam.Lib.Run

/-!
# The video source of the RTSP server

`VideoOpenFileSource::readFromFile` of `ApproInput.cpp` copies the next frame into the buffer of the
sink, or as much of it as the sink has room for. What is left of a frame stays in a chain of
buffers for the next call: the frame itself, and before an MPEG-4 I frame a header with the VOL
data. The heads of the chain and that header are kept in `dbuffer`.

The driver is a parameter of a call: what `get_mjpeg_data`, `get_mpeg4_data` or `get_h264_data` and
`GetAVData` answer in it.
-/
namespace BoaIpcam.Rtsp

/-! ## The driver -/

/-- A block of driver memory. The pointer reaches beyond the block. -/
structure AvData where
  /-- The bytes. -/
  ptr : Nat → UInt8
  /-- How many there are. -/
  size : Nat
  /-- The time in milliseconds. -/
  timestamp : Nat

/-- The bytes of a block. -/
def AvData.bytes (data : AvData) : List UInt8 := (List.range data.size).map data.ptr

@[simp] theorem AvData.length_bytes (data : AvData) : data.bytes.length = data.size := by
  rw [AvData.bytes, List.length_map, List.length_range]

/-- The part of `STREAM_DATA` that is used here. -/
structure StreamData where
  /-- The block. -/
  avData : AvData
  /-- The serial of the frame that is locked. -/
  serialLock : Int

/-- `memset(&stream, 0, sizeof(stream))`. -/
def StreamData.zero : StreamData := ⟨⟨fun _ => 0, 0, 0⟩, 0⟩

/-- The release of the library the server is built with, `LIVE` or `LIVE_20110616`. -/
inductive LiveName
  | live
  | live20110616
deriving DecidableEq, Repr

/-- The types that have a branch in `readFromFile`. -/
inductive VideoType
  | mjpeg
  | mpeg4
  | h264
deriving DecidableEq, Repr

/-- What one call finds: the room of the sink, the flag that asks for an I frame, the frame that the
driver has, if any, and its VOL data, if they can be locked. -/
structure Call where
  /-- The room of the sink. -/
  fMaxSize : Nat
  /-- Whether an I frame is asked for. -/
  sendiframe : Bool
  /-- The frame of the driver. -/
  got : Option StreamData
  /-- Its VOL data. -/
  vol : Option AvData

/-! ## The source -/

/-- The size of `buf_t` and of `dbuffer`. -/
def sizeofBuf : Nat := 12

@[inherit_doc sizeofBuf] def sizeofDbuffer : Nat := 1024

/-- `mpeg4_header`. -/
def mpeg4Header : List UInt8 := [0x00, 0x00, 0x01, 0xb0, 0x01, 0x00, 0x00, 0x01, 0xb5, 0x09]

/-- A source. The chain is empty when `now_buf_ptr` is `NULL`. -/
structure VideoSource where
  /-- The frame that was fetched last. -/
  stream : StreamData
  /-- The size that was set then. -/
  totalsize : Nat
  /-- The chain of buffers. -/
  nowBuf : List (List UInt8)

/-- The constructor. -/
def VideoSource.new : VideoSource := ⟨.zero, 0, []⟩

/-- What the `switch` comes to: it returns 0, it returns -1, it leaves a length below zero for
`memcpy`, or it has a chain and has written so much into `dbuffer`. -/
inductive Fetched
  | again (source : VideoSource)
  | closed (source : VideoSource)
  | wild
  | loaded (source : VideoSource) (stored : Nat)

/-- The stream that a call starts from when it looks for an MPEG-4 or H.264 frame. -/
def VideoSource.forIframe (source : VideoSource) (call : Call) : VideoSource :=
  if call.sendiframe then { source with stream := .zero } else source

/-- The branch for MJPEG. -/
def VideoSource.fetchMjpeg (source : VideoSource) (call : Call) : Fetched :=
  match call.got with
  | none => .again source
  | some stream =>
    .loaded ⟨stream, stream.avData.size, [stream.avData.bytes]⟩ sizeofBuf

/-- Whether a MPEG-4 frame is a P frame. -/
def isPFrame (data : AvData) : Bool := data.ptr 4 &&& 0xC0 ≠ 0

/-- The branch for MPEG-4. -/
def VideoSource.fetchMpeg4 (source : VideoSource) (call : Call) : Fetched :=
  match call.got with
  | none => .again (source.forIframe call)
  | some stream =>
    if isPFrame stream.avData then
      .loaded ⟨stream, stream.avData.size, [stream.avData.bytes]⟩ sizeofBuf
    else
      match call.vol with
      | none => .closed ⟨stream, source.totalsize, []⟩
      | some vol =>
        .loaded ⟨stream, mpeg4Header.length + vol.size + stream.avData.size,
            [mpeg4Header ++ vol.bytes, stream.avData.bytes]⟩
          (2 * sizeofBuf + mpeg4Header.length + vol.size)

/-- Whether the start code of an IDR picture is at a position. -/
def isIdrAt (data : AvData) (i : Nat) : Bool :=
  data.ptr i = 0 ∧ data.ptr (i + 1) = 0 ∧ data.ptr (i + 2) = 0 ∧ data.ptr (i + 3) = 1 ∧
    data.ptr (i + 4) &&& 0x1F = 5

/-- How much of a frame the older release is not given: the start code, and before an IDR picture
whatever comes first. -/
def nalStart (data : AvData) : Option Nat :=
  if data.ptr 4 &&& 0x1F ≤ 5 then some 4
  else ((List.range' 5 (data.size - 5)).find? (isIdrAt data)).map (· + 4)

/-- The branch for H.264, up to the last `#if`. -/
def VideoSource.fetchH264 (name : LiveName) (source : VideoSource) (call : Call) : Fetched :=
  match call.got with
  | none => .again (source.forIframe call)
  | some stream =>
    match name with
    | .live20110616 => .loaded ⟨stream, source.totalsize, [stream.avData.bytes]⟩ sizeofBuf
    | .live =>
      match nalStart stream.avData with
      | none => .closed ⟨stream, source.totalsize, [stream.avData.bytes]⟩
      | some start =>
        if start ≤ stream.avData.size then
          .loaded ⟨stream, stream.avData.size - start, [stream.avData.bytes.drop start]⟩ sizeofBuf
        else .wild

/-- The `switch`. A source that has a chain goes on with it. -/
def VideoSource.fetch (name : LiveName) (type : VideoType) (source : VideoSource) (call : Call) :
    Fetched :=
  if source.nowBuf = [] then
    match type with
    | .mjpeg => source.fetchMjpeg call
    | .mpeg4 => source.fetchMpeg4 call
    | .h264 => source.fetchH264 name call
  else .loaded source 0

/-- The size that the rest of the call takes for that of the frame. -/
def VideoSource.retotal (name : LiveName) (type : VideoType) (source : VideoSource) : VideoSource :=
  if type = .h264 ∧ name = .live20110616 then
    { source with totalsize := (source.nowBuf.headD []).length }
  else source

/-- What a call leaves for the sink. `fTo` is what it wrote there, `unlocked` the frame it gave back
and `stored` how far it wrote into `dbuffer`. -/
structure Outcome where
  /-- The result. -/
  ret : Int
  /-- Whether the driver was asked. -/
  asked : Bool
  /-- The frame that was given back. -/
  unlocked : Option Int
  /-- Whether an I frame is still asked for. -/
  sendiframe : Bool
  /-- How far `dbuffer` was written. -/
  stored : Nat
  /-- What was written for the sink. -/
  fTo : List UInt8
  /-- `fFrameSize`. -/
  fFrameSize : Nat
  /-- `fNumTruncatedBytes`. -/
  fNumTruncatedBytes : Nat
  /-- `fPresentationTime`. -/
  fPresentationTime : Nat × Nat
deriving DecidableEq, Repr

/-- The part after the `switch`. -/
def VideoSource.deliver (source : VideoSource) (outcome : Outcome) (fMaxSize : Nat) :
    VideoSource × Outcome :=
  let truncated := if source.totalsize > fMaxSize then source.totalsize - fMaxSize else 0
  let available := if source.totalsize > fMaxSize then fMaxSize else source.totalsize
  let (copied, left) := Pieces.take available source.nowBuf
  ({ source with nowBuf := if truncated = 0 then [] else left },
    { outcome with
      ret := 1
      fTo := copied
      fFrameSize := available
      fNumTruncatedBytes := truncated
      fPresentationTime :=
        (source.stream.avData.timestamp / 1000, source.stream.avData.timestamp % 1000 * 1000) })

/-- The part of an outcome that the `switch` decides: it looks for a frame when there is no chain,
and gives the frame before it back when an I frame is asked for. -/
def VideoSource.before (type : VideoType) (source : VideoSource) (call : Call) : Outcome :=
  let renewed := source.nowBuf = [] ∧ type ≠ .mjpeg ∧ call.sendiframe = true
  { ret := 0
    asked := source.nowBuf = []
    unlocked :=
      if renewed ∧ source.stream.serialLock ≠ 0 then some source.stream.serialLock else none
    sendiframe := if renewed ∧ call.got.isSome then false else call.sendiframe
    stored := 0
    fTo := []
    fFrameSize := 0
    fNumTruncatedBytes := 0
    fPresentationTime := (0, 0) }

/-- `VideoOpenFileSource::readFromFile`, none when `memcpy` gets a length below zero. -/
def VideoSource.readFromFile (name : LiveName) (type : VideoType) (source : VideoSource)
    (call : Call) : Option (VideoSource × Outcome) :=
  match source.fetch name type call with
  | .again next => some (next, source.before type call)
  | .closed next => some (next, { source.before type call with ret := -1 })
  | .wild => none
  | .loaded next stored =>
    some ((next.retotal name type).deliver { source.before type call with stored } call.fMaxSize)

/-! ## Sessions -/

/-- A call that was made. -/
structure Step where
  /-- What it found. -/
  call : Call
  /-- What it left. -/
  outcome : Outcome

/-- A source with the calls that were made. -/
structure Session where
  /-- The source. -/
  source : VideoSource
  /-- The calls. -/
  steps : List Step
  /-- A call has returned -1. -/
  closed : Bool
  /-- A call has copied a negative length. -/
  wild : Bool

/-- A session of a new source. -/
def Session.new : Session := ⟨.new, [], false, false⟩

/-- The next call. There is none after -1, which closes the source. -/
def Session.read (name : LiveName) (type : VideoType) (session : Session) (call : Call) :
    Session :=
  if session.closed then session
  else
    match session.source.readFromFile name type call with
    | none => { session with closed := true, wild := true }
    | some (source, outcome) =>
      { session with
        source
        steps := session.steps ++ [⟨call, outcome⟩]
        closed := outcome.ret < 0 }

/-! ## Whole frames -/

/-- The frame that a call found, with the header and the VOL data before an MPEG-4 I frame. -/
def Call.frame (type : VideoType) (call : Call) : List UInt8 :=
  match call.got with
  | none => []
  | some stream =>
    if type = .mpeg4 ∧ isPFrame stream.avData = false then
      mpeg4Header ++ (call.vol.map AvData.bytes).getD [] ++ stream.avData.bytes
    else stream.avData.bytes

/-- The frames that the calls took. -/
def taken (type : VideoType) (steps : List Step) : List UInt8 :=
  steps.flatMap fun step =>
    if step.outcome.ret = 1 ∧ step.outcome.asked then step.call.frame type else []

/-- What the sink got: the first `fFrameSize` bytes of each call. -/
def delivered (steps : List Step) : List UInt8 :=
  steps.flatMap fun step =>
    if step.outcome.ret = 1 then step.outcome.fTo.take step.outcome.fFrameSize else []

/-- `fNumTruncatedBytes` of the last call that wrote a frame. -/
def truncated (steps : List Step) : Nat :=
  steps.foldl (fun left step =>
    if step.outcome.ret = 1 then step.outcome.fNumTruncatedBytes else left) 0

/-- The frames of a session arrive whole: what the sink got and so many bytes as the last call
announced are the frames in order, no call announces more than it wrote, a call looks for a frame
exactly when nothing is left of the one before, and `dbuffer` is not overrun. -/
structure Session.Whole (type : VideoType) (session : Session) : Prop where
  /-- The frames come in order, up to what was announced. -/
  order : ∃ rest, taken type session.steps = delivered session.steps ++ rest ∧
    rest.length = truncated session.steps
  /-- What was announced was written. -/
  written : ∀ step ∈ session.steps, step.outcome.fFrameSize ≤ step.outcome.fTo.length
  /-- A frame is asked for when nothing is left. -/
  next : ∀ before step after, session.steps = before ++ step :: after →
    (step.outcome.asked = true ↔ truncated before = 0)
  /-- `dbuffer` is not overrun. -/
  inside : ∀ step ∈ session.steps, step.outcome.stored ≤ sizeofDbuffer
  /-- No negative length was copied. -/
  tame : session.wild = false

/-- The condition on a call of an open source: it does not go on with a frame that was cut, unless it
takes the size of what is left; it does not take the front off an H.264 frame; and the VOL data
before an I frame fit behind the heads of the chain. -/
structure Session.Meets (name : LiveName) (type : VideoType) (session : Session) (call : Call) :
    Prop where
  /-- A frame that was cut is H.264 of the newer release. -/
  uncut : session.closed = false → session.source.nowBuf ≠ [] →
    type = .h264 ∧ name = .live20110616
  /-- No front of an H.264 frame is taken off. -/
  front : ∀ stream, session.closed = false → call.got = some stream → type = .h264 →
    name = .live → nalStart stream.avData = none
  /-- The VOL data fit. -/
  fits : ∀ stream vol, session.closed = false → call.got = some stream → type = .mpeg4 →
    isPFrame stream.avData = false → call.vol = some vol →
      2 * sizeofBuf + mpeg4Header.length + vol.size ≤ sizeofDbuffer

/-! ## One call -/

/-- The bytes that a call has for the sink: what is left of a frame, or else a whole one. -/
def VideoSource.text (type : VideoType) (source : VideoSource) (call : Call) : List UInt8 :=
  if source.nowBuf = [] then call.frame type else source.nowBuf.flatten

/-- A chain between two calls: it has something left, and for H.264 it is one piece. -/
structure VideoSource.Tidy (type : VideoType) (source : VideoSource) : Prop where
  /-- An empty chain has no buffers. -/
  some_left : source.nowBuf.flatten = [] → source.nowBuf = []
  /-- For H.264 there is one buffer at most. -/
  single : type = .h264 → source.nowBuf.length ≤ 1

/-- A chain that the sink gets from: all of it is the text of the call, and its size is right. -/
structure VideoSource.Loaded (name : LiveName) (type : VideoType) (source next : VideoSource)
    (call : Call) (stored : Nat) : Prop where
  /-- The chain is the text of the call. -/
  text : next.nowBuf.flatten = source.text type call
  /-- Its size is right. -/
  total : (next.retotal name type).totalsize = next.nowBuf.flatten.length
  /-- For H.264 there is one buffer at most. -/
  single : type = .h264 → next.nowBuf.length ≤ 1
  /-- `dbuffer` is not overrun. -/
  inside : stored ≤ sizeofDbuffer

/-- The chain of a call that goes on with one is left as it is before the size is taken. -/
theorem retotal_nowBuf (name : LiveName) (type : VideoType) (source : VideoSource) :
    (source.retotal name type).nowBuf = source.nowBuf := by
  unfold VideoSource.retotal
  split <;> rfl

/-- One piece is as long as its chain. -/
theorem retotal_single {source : VideoSource} (single : source.nowBuf.length ≤ 1) :
    (source.retotal .live20110616 .h264).totalsize = source.nowBuf.flatten.length := by
  rw [VideoSource.retotal, if_pos ⟨rfl, rfl⟩]
  match pieces : source.nowBuf, single with
  | [], _ => rfl
  | [piece], _ => simp

/-- The `switch` of a call that meets the condition. -/
theorem fetch_cases {name : LiveName} {type : VideoType} {session : Session} {call : Call}
    (tidy : session.source.Tidy type) (opened : session.closed = false)
    (met : session.Meets name type call) :
    (∃ next, session.source.fetch name type call = .again next ∧ session.source.nowBuf = [] ∧
        next.nowBuf = []) ∨
      (∃ next, session.source.fetch name type call = .closed next) ∨
      ∃ next stored, session.source.fetch name type call = .loaded next stored ∧
        session.source.Loaded name type next call stored := by
  unfold VideoSource.fetch
  by_cases empty : session.source.nowBuf = []
  · rw [if_pos empty]
    have text : session.source.text type call = call.frame type := if_pos empty
    have renewed : (session.source.forIframe call).nowBuf = [] := by
      unfold VideoSource.forIframe
      split <;> exact empty
    cases type with
    | mjpeg =>
      dsimp only
      unfold VideoSource.fetchMjpeg
      cases got : call.got with
      | none => exact .inl ⟨_, rfl, empty, empty⟩
      | some stream =>
        refine .inr (.inr ⟨_, _, rfl, ?_, ?_, nofun, by decide⟩)
        · rw [text, Call.frame, got]
          exact List.append_nil _
        · simp [VideoSource.retotal]
    | mpeg4 =>
      dsimp only
      unfold VideoSource.fetchMpeg4
      cases got : call.got with
      | none => exact .inl ⟨_, rfl, empty, renewed⟩
      | some stream =>
        dsimp only
        cases predicted : isPFrame stream.avData with
        | true =>
          refine .inr (.inr ⟨_, _, rfl, ?_, ?_, nofun, by decide⟩)
          · rw [text, Call.frame, got]
            simp [predicted]
          · simp [VideoSource.retotal]
        | false =>
          cases vol : call.vol with
          | none => exact .inr (.inl ⟨_, rfl⟩)
          | some data =>
            have fits := met.fits stream data opened got rfl predicted vol
            refine .inr (.inr ⟨_, _, rfl, ?_, ?_, nofun, fits⟩)
            · rw [text, Call.frame, got]
              simp [predicted, vol]
            · simp [VideoSource.retotal, Nat.add_assoc]
    | h264 =>
      dsimp only
      unfold VideoSource.fetchH264
      cases got : call.got with
      | none => exact .inl ⟨_, rfl, empty, renewed⟩
      | some stream =>
        cases name with
        | live =>
          dsimp only
          rw [met.front stream opened got rfl rfl]
          exact .inr (.inl ⟨_, rfl⟩)
        | live20110616 =>
          refine .inr (.inr ⟨_, _, rfl, ?_, ?_, fun _ => Nat.le_refl 1, by decide⟩)
          · rw [text, Call.frame, got]
            simp
          · exact retotal_single (Nat.le_refl 1)
  · rw [if_neg empty]
    obtain ⟨rfl, rfl⟩ := met.uncut opened empty
    have single := tidy.single rfl
    refine .inr (.inr ⟨_, _, rfl, ?_, retotal_single single, fun _ => single, Nat.zero_le _⟩)
    exact (if_neg empty).symm

/-- The part after the `switch`, for a chain with the right size. -/
theorem deliver_spec {source : VideoSource} (outcome : Outcome) (fMaxSize : Nat)
    (total : source.totalsize = source.nowBuf.flatten.length) :
    (source.deliver outcome fMaxSize).1.nowBuf.flatten = source.nowBuf.flatten.drop fMaxSize ∧
      ((source.deliver outcome fMaxSize).1.nowBuf.flatten = [] →
        (source.deliver outcome fMaxSize).1.nowBuf = []) ∧
      (source.deliver outcome fMaxSize).1.nowBuf.length ≤ source.nowBuf.length ∧
      (source.deliver outcome fMaxSize).2.fTo = source.nowBuf.flatten.take fMaxSize ∧
      (source.deliver outcome fMaxSize).2.fFrameSize =
        (source.nowBuf.flatten.take fMaxSize).length ∧
      (source.deliver outcome fMaxSize).2.fNumTruncatedBytes =
        (source.nowBuf.flatten.drop fMaxSize).length := by
  unfold VideoSource.deliver
  rw [total, List.length_take, List.length_drop]
  dsimp only
  by_cases cut : source.nowBuf.flatten.length > fMaxSize
  · obtain ⟨taken, left⟩ := Pieces.take_flatten fMaxSize source.nowBuf
    rw [if_pos cut, if_pos cut, if_neg (by omega)]
    refine ⟨left, fun none => ?_, Pieces.take_length_le _ _, taken, by omega, rfl⟩
    rw [left] at none
    have short := List.drop_eq_nil_iff.mp none
    omega
  · obtain ⟨taken, left⟩ := Pieces.take_flatten source.nowBuf.flatten.length source.nowBuf
    rw [if_neg cut, if_neg cut, if_pos rfl]
    refine ⟨?_, fun _ => rfl, Nat.zero_le _, ?_, by omega, by omega⟩
    · rw [List.drop_eq_nil_of_le (by omega)]
      rfl
    · rw [taken, List.take_of_length_le (by omega), List.take_of_length_le (by omega)]

/-! ## Whole sessions -/

/-- What holds between the calls of a session: what is left of the last frame is in the chain. -/
structure Session.Sound (type : VideoType) (session : Session) : Prop where
  /-- The frames arrive whole. -/
  whole : session.Whole type
  /-- The chain is tidy. -/
  tidy : session.closed = false → session.source.Tidy type
  /-- It holds what is left of the frames. -/
  chain : session.closed = false →
    taken type session.steps = delivered session.steps ++ session.source.nowBuf.flatten
  /-- It is as long as was announced. -/
  left : session.closed = false →
    session.source.nowBuf.flatten.length = truncated session.steps

/-- What is left after one more call. -/
theorem truncated_append (steps : List Step) (step : Step) :
    truncated (steps ++ [step]) =
      if step.outcome.ret = 1 then step.outcome.fNumTruncatedBytes else truncated steps := by
  rw [truncated, List.foldl_append]
  rfl

/-- What the sink got after one more call. -/
theorem delivered_append (steps : List Step) (step : Step) :
    delivered (steps ++ [step]) = delivered steps ++
      if step.outcome.ret = 1 then step.outcome.fTo.take step.outcome.fFrameSize else [] := by
  rw [delivered, List.flatMap_append, List.flatMap_singleton]
  rfl

/-- The frames that were taken after one more call. -/
theorem taken_append (type : VideoType) (steps : List Step) (step : Step) :
    taken type (steps ++ [step]) = taken type steps ++
      if step.outcome.ret = 1 ∧ step.outcome.asked then step.call.frame type else [] := by
  rw [taken, List.flatMap_append, List.flatMap_singleton]
  rfl

/-- One more call keeps a session whole, when it announces what it wrote, looks for a frame exactly
when nothing is left, stays inside `dbuffer`, and its bytes and what is left are the frames. -/
theorem Session.Whole.snoc {type : VideoType} {session next : Session} {step : Step}
    (whole : session.Whole type) (steps : next.steps = session.steps ++ [step])
    (tame : next.wild = false)
    (order : ∃ rest, taken type next.steps = delivered next.steps ++ rest ∧
      rest.length = truncated next.steps)
    (written : step.outcome.fFrameSize ≤ step.outcome.fTo.length)
    (asks : step.outcome.asked = true ↔ truncated session.steps = 0)
    (inside : step.outcome.stored ≤ sizeofDbuffer) : next.Whole type := by
  refine ⟨order, fun made member => ?_, fun before made after cut => ?_, fun made member => ?_, tame⟩
  · rw [steps, List.mem_append, List.mem_singleton] at member
    rcases member with earlier | rfl
    · exact whole.written made earlier
    · exact written
  · rw [steps] at cut
    rcases List.eq_nil_or_concat after with rfl | ⟨middle, last, rfl⟩
    · obtain ⟨rfl, one⟩ := List.append_inj' cut rfl
      cases one
      exact asks
    · rw [List.concat_eq_append, ← List.cons_append, ← List.append_assoc] at cut
      obtain ⟨earlier, -⟩ := List.append_inj' cut rfl
      exact whole.next before made middle earlier
  · rw [steps, List.mem_append, List.mem_singleton] at member
    rcases member with earlier | rfl
    · exact whole.inside made earlier
    · exact inside

/-- A source looks for a frame exactly when nothing is left of the one before. -/
theorem Session.Sound.asks {type : VideoType} {session : Session} (sound : session.Sound type)
    (opened : session.closed = false) :
    session.source.nowBuf = [] ↔ truncated session.steps = 0 := by
  rw [← sound.left opened, List.length_eq_zero_iff]
  refine ⟨fun empty => ?_, (sound.tidy opened).some_left⟩
  rw [empty]
  rfl

/-- A call that writes no frame and leaves nothing, or closes the source. -/
theorem Session.Sound.idle {type : VideoType} {session : Session} {source : VideoSource}
    {call : Call} {outcome : Outcome} (sound : session.Sound type)
    (opened : session.closed = false) (idle : outcome.ret ≠ 1) (announced : outcome.fFrameSize = 0)
    (asked : outcome.asked = decide (session.source.nowBuf = [])) (stored : outcome.stored = 0)
    (none : ¬outcome.ret < 0 → session.source.nowBuf = [] ∧ source.nowBuf = []) :
    Session.Sound type { session with
      source, steps := session.steps ++ [⟨call, outcome⟩], closed := outcome.ret < 0 } := by
  have taken_eq : taken type (session.steps ++ [⟨call, outcome⟩]) = taken type session.steps := by
    rw [taken_append, if_neg (fun met => idle met.1), List.append_nil]
  have delivered_eq : delivered (session.steps ++ [⟨call, outcome⟩]) = delivered session.steps := by
    rw [delivered_append, if_neg idle, List.append_nil]
  have truncated_eq : truncated (session.steps ++ [⟨call, outcome⟩]) = truncated session.steps := by
    rw [truncated_append, if_neg idle]
  have empty : decide (outcome.ret < 0) = false →
      session.source.nowBuf = [] ∧ source.nowBuf = [] := by
    intro stays
    exact none (of_decide_eq_false stays)
  constructor
  · refine sound.whole.snoc rfl sound.whole.tame ?_ ?_ ?_ ?_
    · dsimp only
      rw [taken_eq, delivered_eq, truncated_eq]
      exact sound.whole.order
    · rw [announced]
      exact Nat.zero_le _
    · rw [asked, decide_eq_true_iff]
      exact sound.asks opened
    · rw [stored]
      exact Nat.zero_le _
  · intro stays
    obtain ⟨-, after⟩ := empty stays
    exact ⟨fun _ => after, fun _ => by rw [after]; exact Nat.zero_le _⟩
  · intro stays
    obtain ⟨before, after⟩ := empty stays
    have chain := sound.chain opened
    dsimp only
    rw [taken_eq, delivered_eq, after, chain, before]
  · intro stays
    obtain ⟨before, after⟩ := empty stays
    have left := sound.left opened
    dsimp only
    rw [truncated_eq, after, ← left, before]

/-- A call that writes a frame, or the next part of one. -/
theorem Session.Sound.frame {type : VideoType} {session : Session} {source : VideoSource}
    {call : Call} {outcome : Outcome} (sound : session.Sound type)
    (opened : session.closed = false) (wrote : outcome.ret = 1)
    (announced : outcome.fFrameSize = outcome.fTo.length)
    (asked : outcome.asked = decide (session.source.nowBuf = []))
    (stored : outcome.stored ≤ sizeofDbuffer)
    (text : session.source.text type call = outcome.fTo ++ source.nowBuf.flatten)
    (left : outcome.fNumTruncatedBytes = source.nowBuf.flatten.length)
    (tidy : source.Tidy type) :
    Session.Sound type { session with
      source, steps := session.steps ++ [⟨call, outcome⟩], closed := outcome.ret < 0 } := by
  have chain : taken type (session.steps ++ [⟨call, outcome⟩]) =
      delivered (session.steps ++ [⟨call, outcome⟩]) ++ source.nowBuf.flatten := by
    rw [taken_append, delivered_append, if_pos wrote, announced, List.take_length,
      sound.chain opened]
    unfold VideoSource.text at text
    by_cases empty : session.source.nowBuf = []
    · rw [if_pos empty] at text
      rw [if_pos ⟨wrote, by rw [asked, decide_eq_true empty]⟩, empty, text]
      simp
    · rw [if_neg empty] at text
      rw [if_neg (fun met => empty (of_decide_eq_true (asked ▸ met.2))), text]
      simp
  have rest : source.nowBuf.flatten.length = truncated (session.steps ++ [⟨call, outcome⟩]) := by
    rw [truncated_append, if_pos wrote, left]
  refine ⟨sound.whole.snoc rfl sound.whole.tame ⟨_, chain, rest⟩ (Nat.le_of_eq announced) ?_ stored,
    fun _ => tidy, fun _ => chain, fun _ => rest⟩
  rw [asked, decide_eq_true_iff]
  exact sound.asks opened

/-- A call that meets the condition. -/
theorem Session.Sound.read {name : LiveName} {type : VideoType} {session : Session} {call : Call}
    (sound : session.Sound type) (met : session.Meets name type call) :
    (session.read name type call).Sound type := by
  cases opened : session.closed with
  | true =>
    rw [Session.read, if_pos opened]
    exact sound
  | false =>
    have tidy := sound.tidy opened
    rw [Session.read, if_neg (by rw [opened]; decide), VideoSource.readFromFile]
    rcases fetch_cases tidy opened met with ⟨next, fetched, before, after⟩ | ⟨next, fetched⟩ |
      ⟨next, stored, fetched, loaded⟩
    · rw [fetched]
      exact sound.idle opened (show (0 : Int) ≠ 1 by decide) rfl rfl rfl fun _ => ⟨before, after⟩
    · rw [fetched]
      exact sound.idle opened (show (-1 : Int) ≠ 1 by decide) rfl rfl rfl fun stays =>
        absurd (show (-1 : Int) < 0 by decide) stays
    · rw [fetched]
      have total := loaded.total
      rw [← retotal_nowBuf name type next] at total
      obtain ⟨rest, empty, shorter, copied, announced, left⟩ :=
        deliver_spec { session.source.before type call with stored } call.fMaxSize total
      rw [retotal_nowBuf] at rest shorter copied announced left
      have single : type = .h264 → _ := fun h264 => Nat.le_trans shorter (loaded.single h264)
      refine sound.frame opened rfl ?_ rfl loaded.inside ?_ ?_ ⟨empty, single⟩
      · exact announced.trans (congrArg List.length copied).symm
      · refine Eq.trans ?_ (congrArg₂ (· ++ ·) copied rest).symm
        rw [List.take_append_drop, loaded.text]
      · exact left.trans (congrArg List.length rest).symm

/-- Before the first call everything is whole. -/
theorem Session.whole_new (type : VideoType) : Session.new.Whole type where
  order := ⟨[], rfl, rfl⟩
  written step there := absurd there List.not_mem_nil
  next before step after cut := by
    have length := congrArg List.length cut
    rw [List.length_append, List.length_cons] at length
    exact absurd length (Nat.succ_ne_zero _).symm
  inside step there := absurd there List.not_mem_nil
  tame := rfl

/-- In a session whose calls meet the condition the frames arrive whole, after every call. -/
theorem frames_arrive_whole (name : LiveName) (type : VideoType) (calls : List Call)
    (met : TransitionSystem.Throughout (Session.read name type) (Session.Meets name type) .new
      calls) :
    (calls.foldl (Session.read name type) .new).Whole type := by
  have start : Session.new.Sound type :=
    ⟨Session.whole_new type, fun _ => ⟨fun _ => rfl, fun _ => Nat.zero_le _⟩, fun _ => rfl,
      fun _ => rfl⟩
  exact (met.foldl_invariant (fun _ _ sound met => sound.read met) start).whole

/-- A block with these bytes, and zeros behind them. -/
def AvData.ofBytes (bytes : List UInt8) : AvData := ⟨fun i => bytes.getD i 0, bytes.length, 0⟩

/-- An H.264 frame of six bytes for a sink with room for four, and the call for the rest of it. -/
def cutFrame : List Call :=
  [⟨4, false, some ⟨.ofBytes [0, 0, 0, 1, 0x65, 7], 1⟩, none⟩, ⟨4, false, none, none⟩]

/-- A frame that is cut is delivered whole by two calls. -/
theorem frames_arrive_whole_cut :
    (cutFrame.foldl (Session.read .live20110616 .h264) .new).Whole .h264 ∧
    (cutFrame.foldl (Session.read .live20110616 .h264) .new).steps.map (·.outcome.fTo) =
      [[0, 0, 0, 1], [0x65, 7]] := by
  constructor
  · apply frames_arrive_whole .live20110616 .h264 cutFrame
    refine ⟨⟨fun _ cut => absurd rfl cut, fun _ _ _ _ => nofun, fun _ _ _ _ => nofun⟩,
      ⟨fun _ _ => ⟨rfl, rfl⟩, fun _ _ _ _ => nofun, fun _ _ _ _ => nofun⟩, trivial⟩
  · rfl

/-- A JPEG frame of five bytes for a sink with room for three: the second call announces three
bytes, but two are left. -/
theorem cut_frame_not_whole :
    ¬(([⟨3, false, some ⟨.ofBytes [1, 2, 3, 4, 5], 1⟩, none⟩, ⟨3, false, none, none⟩] :
      List Call).foldl (Session.read .live20110616 .mjpeg) .new).Whole .mjpeg := by
  intro whole
  have second := whole.written _ (List.mem_of_getElem? (i := 1) rfl)
  exact absurd second (by decide)

end BoaIpcam.Rtsp
