import BoaIpcam.Stream.Framed
import BoaIpcam.Lib.Feed

/-!
# What a turn sends and loads

`req_flush` sends from the buffer and `process_get` from the frame. When the frame is used up
`process_get` loads what the driver has, or leaves the request as it is; nothing else changes what is
still to be sent.
-/
namespace BoaIpcam.Stream

open Feeds

/-! ## The next part -/

/-- The next part is loaded: the request points to its block, and the rest of it is in the buffer, or
the request is given up. -/
def Loads (vol : Option (List UInt8)) (second : Nat) (next : Answer) (r r' : Request) : Prop :=
  ∃ part : Part vol, part.block = next.block ∧ r'.keepalive = r.keepalive ∧
    r'.lastStreamTime = (if next.stamped then second else r.lastStreamTime) ∧
    (r'.status = .dead ∨
      r'.status = r.status ∧ r'.buffer = part.header ++ part.extra ∧
        r'.bufferStart = r.bufferStart ∧ r'.data = part.block ∧ r'.filepos = 0)

/-- Nothing changes in what a request has to send. -/
structure Idles (r r' : Request) : Prop where
  /-- The status stays. -/
  status : r'.status = r.status
  /-- The buffer stays. -/
  buffer : r'.buffer = r.buffer
  /-- The position in the buffer stays. -/
  start : r'.bufferStart = r.bufferStart
  /-- The block stays. -/
  data : r'.data = r.data
  /-- The position in the block stays. -/
  filepos : r'.filepos = r.filepos
  /-- The connection is not kept alive if it was not. -/
  keepalive : r'.keepalive = true → r.keepalive = true

/-- A part that was put into the buffer of a request that points to a new block. -/
theorem Filled.loads {vol : Option (List UInt8)} {second : Nat} {next : Answer} {r mid r' : Request}
    (filled : Filled vol mid r') (data : mid.data = next.block)
    (keepalive : mid.keepalive = r.keepalive)
    (time : mid.lastStreamTime = if next.stamped then second else r.lastStreamTime)
    (status : mid.status = r.status) (empty : mid.buffer = [])
    (start : mid.bufferStart = r.bufferStart) (filepos : mid.filepos = 0) :
    Loads vol second next r r' := by
  obtain ⟨part, same, filled | ⟨front, dead⟩⟩ := filled
  · subst filled
    refine ⟨part, same.trans data, keepalive, time, .inr ⟨status, ?_, start, same.symm, filepos⟩⟩
    change mid.buffer ++ _ = _
    rw [empty, List.nil_append]
  · subst dead
    exact ⟨part, same.trans data, keepalive, time, .inl rfl⟩

/-- An empty line and the header of a part that has no more bytes. -/
theorem filled_partHeader {vol : Option (List UInt8)} {type : List UInt8}
    (tags lines : Request → List (List UInt8)) (r : Request) (typed : (10 : UInt8) ∉ type)
    (same : ∀ front, tags { r with buffer := front } = tags r)
    (tagged : (tags r).flatten = unlines (lines r)) (all : ∀ line ∈ lines r, IsLine line)
    (none : r.extraSize = 0) :
    Filled vol r (reqWrites (reqWrite r crlf)
      (partHeader type (tags (reqWrite r crlf)) (reqWrite r crlf))) :=
  Headed.bare (headed_partHeader true type tags r same)
    (announces_partHeader r (openLine_cases true) typed tagged all) none

/-- The header of an audio frame behind an empty line. -/
theorem filled_audioHeaders {vol : Option (List UInt8)} (info : Info) (r : Request)
    (none : r.extraSize = 0) : Filled vol r (printAudioHeaders info (reqWrite r crlf)) := by
  have typed : (10 : UInt8) ∉ (audioLines info.audioCodec).1 := by
    cases info.audioCodec <;> decide
  exact filled_partHeader (audioTags info) (audioTagLines info) r typed
    (fun _ => rfl) (audioTags_eq info r) (isLine_audioTagLines info r) none

/-- The header of a video frame behind an empty line. -/
theorem filled_videoHeaders {vol : Option (List UInt8)} {type : List UInt8} (info : Info)
    (r : Request) (typed : (10 : UInt8) ∉ type) (none : r.extraSize = 0) :
    Filled vol r (reqWrites (reqWrite r crlf)
      (partHeader type (videoTags info (reqWrite r crlf)) (reqWrite r crlf))) :=
  filled_partHeader (videoTags info) (videoLines info) r typed (fun _ => rfl)
    (videoTags_eq info r) (isLine_videoLines info r) none

/-- The request to which a branch adds the header of a frame. -/
def Branch.framed (b : Branch) (info : Info) (frame : AvData) (r : Request) : Request :=
  { setData { r with video := frame } ⟨frame.ptr, frame.size + b.more⟩ with
    lastStreamTime := if b.stamped then info.second else r.lastStreamTime
    extraSize := b.extra }

/-- A branch loads the frame when its header is put into the buffer. -/
theorem Branch.load_loads {vol : Option (List UInt8)} (b : Branch) (info : Info) (frame : AvData)
    {r : Request}
    (filled : Filled vol (b.framed info frame r) (b.header info
      (if b.line then reqWrite (b.framed info frame r) crlf else b.framed info frame r))) :
    Loads vol info.second ⟨⟨frame.ptr, frame.size + b.more⟩, b.stamped⟩ r (b.load info frame r) :=
  filled.loads rfl rfl rfl rfl rfl rfl rfl

/-- The branches of `process_get` load the frame that the driver gave. -/
theorem load_loads (vol : Option (List UInt8)) (info : Info) (frame : AvData) {r : Request}
    (video : r.kind ≠ .audioG726) :
    Loads vol info.second ⟨⟨frame.ptr, frame.size + (branch r.kind).more⟩, (branch r.kind).stamped⟩ r
      ((branch r.kind).load info frame r) := by
  apply Branch.load_loads
  have extra : ((branch r.kind).framed info frame r).extraSize = (branch r.kind).extra := rfl
  generalize (branch r.kind).framed info frame r = framed at extra
  cases kind : r.kind <;> rw [kind] at extra
  case mjpeg =>
    exact Headed.jpeg (headed_partHeader true (ascii "image/jpeg") (videoTags info) framed
      fun _ => rfl) (announces_partHeader framed (openLine_cases true) (by decide)
        (videoTags_eq info framed) (isLine_videoLines info framed)) extra info
  case mpeg4 => exact filled_videoHeaders info framed (by decide) extra
  case h264 | avc => exact filled_videoHeaders info framed (by decide) extra
  case httpMjpeg => exact filled_videoHeaders info framed (by decide) extra
  case dlinkMpeg4 | dlinkH264 =>
    simp only [branch, Bool.false_eq_true, if_false]
    exact Headed.bare (headed_acsVideo info framed) (announces_acsVideo info framed) extra
  case audioG726 => exact absurd kind video

/-- What a request does when it asks for the next part: it loads what the driver has, or nothing
changes. -/
def Asks (vol : Option (List UInt8)) (second : Nat) (next : Option Answer) (r r' : Request) : Prop :=
  (∃ found, next = some found ∧ Loads vol second found r r') ∨ next = none ∧ Idles r r'

/-- A request that idles before a part is loaded. -/
theorem Loads.of_idles {vol : Option (List UInt8)} {second : Nat} {next : Answer}
    {r mid r' : Request} (idles : Idles r mid) (keepalive : mid.keepalive = r.keepalive)
    (time : mid.lastStreamTime = r.lastStreamTime) (loads : Loads vol second next mid r') :
    Loads vol second next r r' := by
  obtain ⟨part, block, kept, stamped, loaded⟩ := loads
  rw [idles.status, idles.start] at loaded
  rw [time] at stamped
  exact ⟨part, block, kept.trans keepalive, stamped, loaded⟩

/-- `audio_get` loads an audio frame or leaves what there is. -/
theorem audioGet_cases (vol : Option (List UInt8)) (input : Input) (r : Request) :
    (∃ found, audioAnswer input r = some found ∧ 0 < (audioGet input r).2 ∧
        Loads vol input.info.second found r (audioGet input r).1) ∨
      audioAnswer input r = none ∧ ¬0 < (audioGet input r).2 ∧ Idles r (audioGet input r).1 ∧
        (audioGet input r).1.kind = r.kind ∧ (audioGet input r).1.keepalive = r.keepalive ∧
        (audioGet input r).1.lastStreamTime = r.lastStreamTime := by
  unfold audioGet audioAnswer
  dsimp only
  split
  · exact .inr ⟨rfl, show ¬(0 : Int) < 0 by decide, ⟨rfl, rfl, rfl, rfl, rfl, id⟩, rfl, rfl, rfl⟩
  · cases input.audio with
    | none =>
      exact .inr ⟨rfl, show ¬(0 : Int) < -1 by decide, ⟨rfl, rfl, rfl, rfl, rfl, id⟩, rfl, rfl, rfl⟩
    | some frame =>
      refine .inl ⟨_, rfl, show (0 : Int) < 1 by decide, ?_⟩
      dsimp only
      exact (filled_audioHeaders input.info _ rfl).loads rfl rfl rfl rfl rfl rfl rfl

/-- Asking for a video frame loads the next part or leaves what there is. -/
theorem getVideo_asks (vol : Option (List UInt8)) (input : Input) {r : Request}
    (video : r.kind ≠ .audioG726) :
    Asks vol input.info.second (videoAnswer input r) r (getVideo input r) := by
  unfold getVideo videoAnswer
  cases input.video with
  | some frame => exact .inl ⟨_, rfl, load_loads vol input.info frame video⟩
  | none =>
    dsimp only
    split <;> exact .inr ⟨rfl, ⟨rfl, rfl, rfl, rfl, rfl, id⟩⟩

/-- At the end of a frame the next part is loaded or nothing changes. -/
theorem nextPart_asks (vol : Option (List UInt8)) (input : Input) (r : Request) :
    Asks vol input.info.second (answer input r) r (nextPart input r) := by
  unfold nextPart answer
  by_cases audio : r.kind = .audioG726
  · rw [if_pos audio, if_pos audio, getAudio]
    dsimp only
    split
    · exact .inr ⟨rfl, ⟨rfl, rfl, rfl, rfl, rfl, id⟩⟩
    · cases input.audio with
      | none => exact .inr ⟨rfl, ⟨rfl, rfl, rfl, rfl, rfl, id⟩⟩
      | some frame =>
        refine .inl ⟨_, rfl, ?_⟩
        exact Filled.loads (Headed.bare (.inl rfl) (announces_acsAudio input.info _ rfl) rfl)
          rfl rfl rfl rfl rfl rfl rfl
  · rw [if_neg audio, if_neg audio]
    split
    · dsimp only
      rcases audioGet_cases vol input r with
        ⟨found, given, got, loads⟩ | ⟨given, none, idles, kind, keepalive, time⟩
      · rw [if_pos got, given]
        exact .inl ⟨found, rfl, loads⟩
      · rw [if_neg none, given, Option.none_or]
        have video := getVideo_asks vol input (r := (audioGet input r).1) (kind ▸ audio)
        have same : videoAnswer input (audioGet input r).1 = videoAnswer input r := by
          rw [videoAnswer, kind]
          rfl
        rw [same] at video
        rcases video with ⟨found, given, loads⟩ | ⟨given, again⟩
        · exact .inl ⟨found, given, loads.of_idles idles keepalive time⟩
        · refine .inr ⟨given, ?_, ?_, ?_, ?_, ?_, ?_⟩
          · exact again.status.trans idles.status
          · exact again.buffer.trans idles.buffer
          · exact again.start.trans idles.start
          · exact again.data.trans idles.data
          · exact again.filepos.trans idles.filepos
          · exact fun kept => idles.keepalive (again.keepalive kept)
    · rcases getVideo_asks vol input (r := { r with busyAudio := false }) audio with
        ⟨found, given, loads⟩ | ⟨given, again⟩
      · exact .inl ⟨found, given, loads⟩
      · exact .inr ⟨given, ⟨again.status, again.buffer, again.start, again.data, again.filepos,
          again.keepalive⟩⟩

/-! ## What is sent -/

/-- What a request keeps of its buffer and its frame makes sense. -/
structure Request.Sound (r : Request) : Prop where
  /-- A buffer that is not empty has something to send. -/
  start : r.buffer ≠ [] → r.bufferStart < r.buffer.length
  /-- An empty buffer starts at its start. -/
  empty : r.buffer = [] → r.bufferStart = 0
  /-- The position is in the block. -/
  filepos : r.filepos ≤ r.data.size

/-- Some sending leaves everything else of a request as it is. -/
structure Steady (r r' : Request) : Prop where
  /-- The status stays. -/
  status : r'.status = r.status
  /-- The connection is kept alive as before. -/
  keepalive : r'.keepalive = r.keepalive
  /-- The time of the last video frame stays. -/
  time : r'.lastStreamTime = r.lastStreamTime

/-- Using the buffer again from its start loses nothing. -/
theorem settle_spec {r : Request} (start : r.bufferStart ≤ r.buffer.length)
    (filepos : r.filepos ≤ r.data.size) :
    (settle r).Sound ∧ (settle r).buffered = r.buffered ∧ (settle r).framed = r.framed ∧
      Steady r (settle r) := by
  unfold settle
  split
  · rename_i whole
    refine ⟨⟨fun some => absurd rfl some, fun _ => rfl, filepos⟩, ?_, rfl, ⟨rfl, rfl, rfl⟩⟩
    exact (List.drop_eq_nil_of_le (Nat.le_of_eq whole.symm)).symm
  · rename_i part
    have less : r.bufferStart < r.buffer.length := by omega
    refine ⟨⟨fun _ => less, fun empty => ?_, filepos⟩, rfl, rfl, ⟨rfl, rfl, rfl⟩⟩
    rw [empty] at less
    exact absurd less (Nat.not_lt_zero _)

/-- `req_flush` of a request that was not given up: an error, a socket that takes nothing, or some
bytes of the buffer. -/
theorem reqFlush_cases {r : Request} (written : Written) (sound : r.Sound)
    (alive : r.status ≠ .dead) :
    (∃ r', reqFlush r written = (r', [], -2) ∧ r'.status = .dead ∧ r'.keepalive = r.keepalive ∧
        r.buffer ≠ [] ∧ written = .failed) ∨
      reqFlush r written = (r, [], -1) ∧ written = .wouldBlock ∨
      ∃ r' amount, reqFlush r written = (r', r.buffered.take amount, (r'.buffer.length : Int)) ∧
        (r.buffer ≠ [] → written = .wrote amount) ∧ r'.Sound ∧
        r'.buffered = r.buffered.drop amount ∧ r'.framed = r.framed ∧ Steady r r' := by
  unfold reqFlush
  dsimp only
  rw [if_neg alive]
  have inside : r.bufferStart ≤ r.buffer.length := by
    by_cases some : r.buffer = []
    · rw [sound.empty some]
      exact Nat.zero_le _
    · exact Nat.le_of_lt (sound.start some)
  split
  · rename_i left
    have some : r.buffer ≠ [] := by
      intro empty
      rw [empty, List.drop_nil] at left
      exact left rfl
    cases written with
    | failed => exact .inl ⟨_, rfl, rfl, rfl, some, rfl⟩
    | wouldBlock => exact .inr (.inl ⟨rfl, rfl⟩)
    | wrote amount =>
      refine .inr (.inr ⟨_, amount, rfl, fun _ => rfl, ?_⟩)
      have further : r.bufferStart + ((r.buffer.drop r.bufferStart).take amount).length ≤
          r.buffer.length := by
        rw [List.length_take, List.length_drop]
        omega
      obtain ⟨still, rest, frame, steady⟩ := settle_spec
        (r := { r with
          bufferStart := r.bufferStart + ((r.buffer.drop r.bufferStart).take amount).length })
        further sound.filepos
      refine ⟨still, rest.trans ?_, frame, steady.status, steady.keepalive, steady.time⟩
      change r.buffer.drop _ = _
      rw [← List.drop_drop]
      exact drop_length_take amount r.buffered
  · rename_i none
    have empty : r.buffer = [] := by
      by_contra some
      have less := sound.start some
      rw [List.length_drop] at none
      omega
    obtain ⟨still, rest, frame, steady⟩ := settle_spec inside sound.filepos
    exact .inr (.inr ⟨_, 0, rfl, fun some => absurd empty some, still, rest, frame, steady⟩)

/-- `process_get` of a request with an empty buffer: it gives up, the socket takes nothing, or it
sends some bytes of the frame and, when it is used up, asks for the next part. -/
theorem processGet_cases (vol : Option (List UInt8)) (input : Input) {r : Request}
    (sound : r.Sound) :
    (∃ r', processGet input r = (r', [], 0) ∧ r'.status = .dead ∧ r'.keepalive = r.keepalive ∧
        (input.sigbus = true ∨ input.written = .failed)) ∨
      processGet input r = (r, [], -1) ∧ input.sigbus = false ∧ input.written = .wouldBlock ∨
      ∃ r' mid amount, processGet input r = (r', (r.framed.take bufferSize).take amount, 1) ∧
        input.sigbus = false ∧ input.written = .wrote amount ∧
        mid.Sound ∧ mid.buffer = r.buffer ∧ mid.bufferStart = r.bufferStart ∧
        mid.framed = r.framed.drop (min amount bufferSize) ∧ Steady r mid ∧
        (mid.framed ≠ [] ∧ r' = mid ∨
          mid.framed = [] ∧ Asks vol input.info.second (answer input r) mid r') := by
  unfold processGet
  split
  · rename_i gone
    exact .inl ⟨_, rfl, rfl, rfl, .inl gone⟩
  · rename_i there
    have there := Bool.not_eq_true _ ▸ there
    cases input.written with
    | failed => exact .inl ⟨_, rfl, rfl, rfl, .inr rfl⟩
    | wouldBlock => exact .inr (.inl ⟨rfl, there, rfl⟩)
    | wrote amount =>
      have filepos := sound.filepos
      have sent : (r.framed.take bufferSize).take amount = r.framed.take (min amount bufferSize) :=
        List.take_take
      have length : (r.framed.take (min amount bufferSize)).length ≤ r.data.size - r.filepos := by
        rw [List.length_take, Request.framed, Block.length_from]
        exact Nat.min_le_right _ _
      have left : r.data.from (r.filepos + (r.framed.take (min amount bufferSize)).length) =
          r.framed.drop (min amount bufferSize) := by
        rw [← Block.drop_from]
        exact drop_length_take _ r.framed
      have size : (r.framed.drop (min amount bufferSize)).length =
          r.data.size - (r.filepos + (r.framed.take (min amount bufferSize)).length) := by
        rw [← left, Block.length_from]
      refine .inr (.inr ⟨_, { r with
        filepos := r.filepos + ((r.framed.take bufferSize).take amount).length }, amount, rfl, there,
        rfl, ⟨sound.start, sound.empty, ?_⟩, rfl, rfl, ?_, ⟨rfl, rfl, rfl⟩, ?_⟩)
      · dsimp only
        rw [sent]
        omega
      · rw [Request.framed, sent]
        exact left
      · rw [Request.framed]
        dsimp only
        rw [sent, left]
        have offered : ((r.data.from r.filepos).take bufferSize).take amount =
            r.framed.take (min amount bufferSize) := sent
        rw [offered]
        split
        · rename_i whole
          have asks := nextPart_asks vol input { r with
            filepos := r.filepos + (r.framed.take (min amount bufferSize)).length }
          refine .inr ⟨?_, asks⟩
          apply List.length_eq_zero_iff.mp
          rw [size, whole, Nat.sub_self]
        · rename_i part
          refine .inl ⟨fun used => ?_, rfl⟩
          rw [used, List.length_nil] at size
          omega

end BoaIpcam.Stream
