import BoaIpcam.Stream.Serving

/-!
# The parts that a client gets

Behind each handler a request serves a feed, so in every run of it that does not end inside a part
while its connection is kept alive, the client gets framed parts. A POST and a restart inside a part
show what the two conditions are for.
-/
namespace BoaIpcam.Stream

open Feeds

/-! ## Behind the handlers -/

/-- A text that fits fills the buffer further. -/
theorem reqCopy_fits {r : Request} {data : List UInt8} (alive : r.status ≠ .dead)
    (fits : r.buffer.length + data.length ≤ bufferSize) :
    reqCopy r data = { r with buffer := r.buffer ++ data } := by
  unfold reqCopy
  by_cases empty : data.length = 0
  · rw [if_pos (.inl empty), List.length_eq_zero_iff.mp empty, List.append_nil]
  · rw [if_neg (by rintro (none | dead); exacts [empty none, alive dead]), if_neg (by omega)]

/-- Several texts that fit fill the buffer further. -/
theorem reqWrites_fits {r : Request} (msgs : List (List UInt8)) (alive : r.status ≠ .dead)
    (fits : r.buffer.length + msgs.flatten.length ≤ bufferSize) :
    reqWrites r msgs = { r with buffer := r.buffer ++ msgs.flatten } := by
  induction msgs generalizing r with
  | nil =>
    rw [List.flatten_nil, List.append_nil]
    rfl
  | cons msg msgs ih =>
    rw [List.flatten_cons, List.length_append] at fits
    have first : reqWrite r msg = { r with buffer := r.buffer ++ msg } :=
      reqCopy_fits alive (by omega)
    have more := ih (r := { r with buffer := r.buffer ++ msg }) alive
      (by rw [List.length_append]; omega)
    rw [reqWrites, List.foldl_cons, first, List.flatten_cons, ← List.append_assoc]
    exact more

/-- The head of an ACS stream fits into the buffer. -/
theorem length_dlinkHead (type : List UInt8) (info : Info) (short : type.length ≤ 10) :
    (dlinkHead type info).flatten.length ≤ bufferSize := by
  have dated := info.dated
  have lines : (ascii "HTTP/1.1 200 OK" ++ crlf).length +
      ((ascii "Last-Modified: ").length + 2) +
      (ascii "Cache-Control: no-cache, no-store, must-revalidate" ++ crlf).length +
      (ascii "Pragma: no-cache" ++ crlf).length + ((ascii "Content-type: ").length + 2) + 2 ≤ 200 := by
    decide
  have size : crlf.length = 2 := rfl
  have room : bufferSize = 8192 := rfl
  simp only [dlinkHead, List.flatten_cons, List.flatten_nil, List.length_append, List.length_nil,
    size] at lines ⊢
  omega

/-- A request without a part, with a text in its buffer. -/
theorem serves_text (vol : Option (List UInt8)) (text : List UInt8) {r : Request}
    (get : r.status ≠ .body) (start : r.bufferStart = 0) (data : r.data.size = 0)
    (filepos : r.filepos = 0) (buffer : r.status ≠ .dead → r.buffer = text) :
    @Serves vol text [] (Feed.start [text]) ⟨r, .ready, [], []⟩ := by
  have framed : r.framed = [] := by
    apply List.length_eq_zero_iff.mp
    rw [Request.framed, Block.length_from, data, Nat.zero_sub]
  have pending : (Feed.start [text]).pending = text := List.flatten_singleton
  have buffered : r.status ≠ .dead → r.buffered = text := by
    intro alive
    rw [Request.buffered, start, List.drop_zero]
    exact buffer alive
  refine ⟨rfl, rfl, get, fun _ => ⟨fun some => ?_, fun _ => start, ?_⟩, fun alive => ?_,
    fun write => ?_, fun ended _ => ?_, fun handed => (by cases handed),
    fun _ => rfl, fun init last cut => ?_⟩
  · show r.bufferStart < r.buffer.length
    rw [start]
    exact List.length_pos_of_ne_nil some
  · show r.filepos ≤ r.data.size
    rw [filepos]
    exact Nat.zero_le _
  · rw [pending, buffered alive]
  · rw [pending, framed, List.append_nil]
    exact (buffered fun dead => by cases write.symm.trans dead).symm
  · rw [pending]
    exact (buffered fun dead => by cases ended.symm.trans dead).symm
  · cases init <;> cases cut

/-- A request with the first part in its buffer, behind a text. -/
theorem serves_first {vol : Option (List UInt8)} {r r' : Request} (filled : Filled vol r r')
    (write : r.status = .write) (start : r.bufferStart = 0) (filepos : r.filepos = 0) :
    ∃ part : Part vol, part.block = r.data ∧ ∃ feed, Serves r.buffer [part] feed ⟨r', .ready, [], []⟩ := by
  obtain ⟨part, block, filled⟩ := filled
  have pending : (Feed.start [r.buffer, part.text]).pending = r.buffer ++ part.text := by
    simp [Feed.start]
  have single : ∀ (init : List (Part vol)) last, [part] = init ++ [last] → init = [] := by
    intro init last cut
    have one := congrArg List.length cut
    rw [List.length_append, List.length_singleton, List.length_singleton] at one
    exact List.length_eq_zero_iff.mp (by omega)
  refine ⟨part, block, Feed.start [r.buffer, part.text], ?_⟩
  rcases filled with rfl | ⟨front, rfl⟩
  · have buffered : Request.buffered { r with buffer := r.buffer ++ (part.header ++ part.extra) } =
        r.buffer ++ (part.header ++ part.extra) := by
      rw [Request.buffered]
      dsimp only
      rw [start, List.drop_zero]
    refine ⟨rfl, rfl, fun body => (by cases write.symm.trans body), fun _ => ⟨fun some => ?_,
      fun _ => start, ?_⟩, fun _ => ?_, fun _ => ?_, fun ended => (by cases write.symm.trans ended),
      fun handed => (by cases handed), fun _ => rfl,
      fun init last cut some => absurd (single init last cut) some⟩
    · show r.bufferStart < _
      rw [start]
      exact List.length_pos_of_ne_nil some
    · show r.filepos ≤ _
      rw [filepos]
      exact Nat.zero_le _
    · rw [pending, buffered, Part.text]
      exact ⟨part.block.bytes, by simp only [List.append_assoc]⟩
    · rw [pending, buffered, Request.framed, Part.text, block]
      dsimp only
      rw [filepos, Block.bytes]
      simp only [List.append_assoc]
  · exact ⟨rfl, rfl, fun body => (by cases body), fun alive => absurd rfl alive,
      fun alive => absurd rfl alive, fun write => (by cases write), fun ended => (by cases ended),
      fun handed => (by cases handed), fun _ => rfl,
      fun init last cut some => absurd (single init last cut) some⟩

/-- A request behind a handler serves a feed. -/
def Handled.Serves (vol : Option (List UInt8)) (preamble : List UInt8) (first : Option Block)
    (handled : Handled) : Prop :=
  ∃ parts : List (Part vol), parts.map Part.block = first.toList ∧ ∃ feed,
    Stream.Serves preamble parts feed ⟨handled.request, .ready, handled.sent, []⟩ ∧
      (handled.ret = 0 → Spent feed handled.request)

section

variable {handler : Handler} {offer : Offer} {r r' : Request}

/-- What a handler without a frame puts before the first part. -/
theorem preamble_none (first : handler.first offer = none) :
    handler.preamble offer = handler.refusal offer := by
  rw [Handler.preamble, first]
  rfl

/-- What a handler with a frame puts before the first part. -/
theorem preamble_some {block : Block} (first : handler.first offer = some block) :
    handler.preamble offer = handler.head offer.info := by
  rw [Handler.preamble, first]
  rfl

/-- A refused request serves its error page. -/
theorem refuse_serves {page : List UInt8} (first : handler.first offer = none)
    (refusal : handler.refusal offer = r.buffer ++ page) (write : r.status = .write)
    (start : r.bufferStart = 0) (data : r.data.size = 0) (filepos : r.filepos = 0) :
    (refuse offer.written page r).Serves offer.vol (handler.preamble offer)
      (handler.first offer) := by
  have alive : r.status ≠ .dead := by
    rw [write]
    decide
  rw [preamble_none first, first, refusal]
  unfold refuse
  rcases reqCopy_cases { r with keepalive := false } page alive with filled | dead
  · have written : reqWrite { r with keepalive := false } page =
        { r with keepalive := false, buffer := r.buffer ++ page } := filled
    have serves := serves_text offer.vol (r.buffer ++ page)
      (r := { r with keepalive := false, buffer := r.buffer ++ page })
      (fun body => by cases write.symm.trans body) start data filepos fun _ => rfl
    obtain ⟨feed, flushed, kept, -⟩ := serves.reqFlush alive offer.written
    rw [written]
    exact ⟨[], rfl, feed, flushed, fun _ keepalive => (by cases kept.symm.trans keepalive)⟩
  · have written : reqWrite { r with keepalive := false } page =
        { r with keepalive := false, status := .dead } := dead
    have flush : reqFlush { r with keepalive := false, status := .dead } offer.written =
        ({ r with keepalive := false, status := .dead }, [], -2) := by
      unfold reqFlush
      exact if_pos rfl
    rw [written, flush]
    exact ⟨[], rfl, _, serves_text offer.vol _ (fun body => by cases body) start data
      filepos fun alive => absurd rfl alive, fun _ keepalive => (by cases keepalive)⟩

/-- A request with the first part behind the head of its handler serves a feed. -/
theorem Filled.serves (filled : Filled offer.vol r r') (first : handler.first offer = some r.data)
    (head : r.buffer = handler.head offer.info) (write : r.status = .write)
    (start : r.bufferStart = 0) (filepos : r.filepos = 0) :
    Handled.Serves offer.vol (handler.preamble offer) (handler.first offer) ⟨r', [], 1⟩ := by
  obtain ⟨part, block, feed, serves⟩ := serves_first filled write start filepos
  rw [preamble_some first, first, ← head]
  exact ⟨[part], congrArg (fun block => [block]) block, feed, serves, fun zero => (by cases zero)⟩

end

/-- The header of a first part. -/
theorem headed_first (type : List UInt8) (info : Info) (r : Request) :
    Headed r (reqWrites r (partHeader type (videoTags info r) r))
      (openLine false ++ (partHeader type (videoTags info r) r).flatten) :=
  headed_partHeader false type (videoTags info) r fun _ => rfl

/-- It announces what is behind it. -/
theorem announces_first {type : List UInt8} (typed : (10 : UInt8) ∉ type) (info : Info)
    (r : Request) :
    Announces (openLine false ++ (partHeader type (videoTags info r) r).flatten)
      (r.extraSize + r.data.size) :=
  announces_partHeader r (openLine_cases false) typed (videoTags_eq info r)
    (isLine_videoLines info r)

/-- The head of the multipart streams fits into an empty buffer. -/
theorem reqWrite_okHead {r : Request} (write : r.status = .write) (empty : r.buffer = []) :
    reqWrite r okHead = { r with buffer := okHead } := by
  have fits : r.buffer.length + okHead.length ≤ bufferSize := by
    rw [empty]
    set_option maxRecDepth 8000 in
    decide
  have filled := reqCopy_fits (by rw [write]; decide) fits
  rw [empty, List.nil_append] at filled
  exact filled

/-- A handler that needs VOL data gets no frame when they or the frame are missing. -/
theorem first_missing {vol : Option (List UInt8)} {video : Option AvData}
    (missing : ∀ bytes frame, vol = some bytes → video = some frame → False) :
    (vol.bind fun _ => video.map AvData.block) = none := by
  cases vol with
  | none => rfl
  | some bytes =>
    cases video with
    | none => rfl
    | some frame => exact (missing bytes frame rfl rfl).elim

/-- `get_mjpeg_stream` starts a feed. -/
theorem getMjpegStream_serves (offer : Offer) (audioOn keepalive : Bool) :
    (getMjpegStream offer (.fresh audioOn keepalive)).Serves offer.vol
      (Handler.preamble .mjpeg offer) (Handler.first .mjpeg offer) := by
  unfold getMjpegStream
  dsimp only
  split
  · rename_i pending
    exact refuse_serves (by simp [Handler.first, pending]) (by simp [Handler.refusal, pending]; rfl)
      rfl rfl rfl rfl
  · rename_i calm
    cases video : offer.video with
    | none =>
      exact refuse_serves (by simp [Handler.first, video]) (by simp [Handler.refusal, calm]; rfl)
        rfl rfl rfl rfl
    | some frame =>
      dsimp only
      rw [reqWrite_okHead rfl rfl]
      generalize known : okHead = head
      refine ((headed_first _ _ _).jpeg (announces_first (by decide) _ _) rfl _).serves ?_ known.symm
        rfl rfl rfl
      simp only [Handler.first, calm, video]
      rfl

/-- `get_mpeg4_stream` starts a feed. -/
theorem getMpeg4Stream_serves (offer : Offer) (audioOn keepalive : Bool) :
    (getMpeg4Stream offer (.fresh audioOn keepalive)).Serves offer.vol
      (Handler.preamble .mpeg4 offer) (Handler.first .mpeg4 offer) := by
  unfold getMpeg4Stream
  dsimp only
  split
  · rename_i pending
    exact refuse_serves (by simp [Handler.first, pending]) (by simp [Handler.refusal, pending]; rfl)
      rfl rfl rfl rfl
  · rename_i calm
    split
    · rename_i vol frame given video
      rw [reqWrite_okHead rfl rfl]
      generalize known : okHead = head
      have filled := (headed_first (ascii "image/mpeg4") offer.info { firstFrame frame vol.length
        (begin_ .mpeg4 offer.info.second (.fresh audioOn keepalive)) with buffer := head }).vol
        (announces_first (by decide) _ _) rfl
      rw [← given] at filled
      refine filled.serves ?_ known.symm rfl rfl rfl
      simp only [Handler.first, calm, given, video]
      rfl
    · rename_i missing
      refine refuse_serves ?_ (by simp [Handler.refusal, calm]; rfl) rfl rfl rfl rfl
      simp only [Handler.first, calm]
      exact first_missing missing

/-- `get_h264_stream` starts a feed. -/
theorem getH264Stream_serves (offer : Offer) (audioOn keepalive : Bool) :
    (getH264Stream offer (.fresh audioOn keepalive)).Serves offer.vol
      (Handler.preamble .h264 offer) (Handler.first .h264 offer) := by
  unfold getH264Stream
  dsimp only
  split
  · rename_i pending
    exact refuse_serves (by simp [Handler.first, pending]) (by simp [Handler.refusal, pending]; rfl)
      rfl rfl rfl rfl
  · rename_i calm
    cases video : offer.video with
    | none =>
      exact refuse_serves (by simp [Handler.first, video]) (by simp [Handler.refusal, calm]; rfl)
        rfl rfl rfl rfl
    | some frame =>
      dsimp only
      rw [reqWrite_okHead rfl rfl]
      generalize known : okHead = head
      refine ((headed_first _ _ _).bare (announces_first (by decide) _ _) rfl).serves ?_ known.symm
        rfl rfl rfl
      simp only [Handler.first, calm, video]
      rfl

/-- `get_stream_avc` starts a feed. -/
theorem getStreamAvc_serves (offer : Offer) (audioOn keepalive : Bool) :
    (getStreamAvc offer (.fresh audioOn keepalive)).Serves offer.vol
      (Handler.preamble .avc offer) (Handler.first .avc offer) := by
  unfold getStreamAvc
  dsimp only
  split
  · rename_i pending
    exact refuse_serves (by simp [Handler.first, pending]) (by simp [Handler.refusal, pending]; rfl)
      rfl rfl rfl rfl
  · rename_i calm
    split
    · rename_i vol frame given video
      rw [reqWrite_okHead rfl rfl]
      generalize known : okHead = head
      have filled := (headed_first (ascii "video/x-h264") offer.info { firstFrame frame vol.length
        (begin_ .avc (Request.fresh audioOn keepalive).lastStreamTime
          (.fresh audioOn keepalive)) with buffer := head }).vol
        (announces_first (by decide) _ _) rfl
      rw [← given] at filled
      refine filled.serves ?_ known.symm rfl rfl rfl
      simp only [Handler.first, calm, given, video]
      rfl
    · rename_i missing
      refine refuse_serves ?_ (by simp [Handler.refusal, calm]; rfl) rfl rfl rfl rfl
      simp only [Handler.first, calm]
      exact first_missing missing

/-- `get_http_mjpeg` starts a feed. -/
theorem getHttpMjpeg_serves (offer : Offer) (audioOn keepalive : Bool) :
    (getHttpMjpeg offer (.fresh audioOn keepalive)).Serves offer.vol
      (Handler.preamble .httpMjpeg offer) (Handler.first .httpMjpeg offer) := by
  unfold getHttpMjpeg
  dsimp only
  split
  · rename_i pending
    exact refuse_serves (by simp [Handler.first, pending]) (by simp [Handler.refusal, pending]; rfl)
      rfl rfl rfl rfl
  · rename_i calm
    cases video : offer.video with
    | none =>
      exact refuse_serves (by simp [Handler.first, video]) (by simp [Handler.refusal, calm]; rfl)
        rfl rfl rfl rfl
    | some frame =>
      dsimp only
      rw [reqWrite_okHead rfl rfl]
      generalize known : okHead = head
      refine ((headed_first _ _ _).bare (announces_first (by decide) _ _) rfl).serves ?_ known.symm
        rfl rfl rfl
      simp only [Handler.first, calm, video]
      rfl

/-- `get_dlink_mjpeg_stream` starts a feed. -/
theorem getDlinkMjpegStream_serves (offer : Offer) (audioOn keepalive : Bool) :
    (getDlinkMjpegStream offer (.fresh audioOn keepalive)).Serves offer.vol
      (Handler.preamble .dlinkMjpeg offer) (Handler.first .dlinkMjpeg offer) := by
  have fits : dlinkMjpgHead.flatten.length ≤ bufferSize := by
    set_option maxRecDepth 8000 in
    decide
  unfold getDlinkMjpegStream
  dsimp only
  split
  · rename_i pending
    exact refuse_serves (by simp [Handler.first, pending]) (by simp [Handler.refusal, pending]; rfl)
      rfl rfl rfl rfl
  · rename_i calm
    cases video : offer.video with
    | none =>
      exact refuse_serves (by simp [Handler.first, video]) (by simp [Handler.refusal, calm]; rfl)
        rfl rfl rfl rfl
    | some frame =>
      have written := reqWrites_fits (r := { firstFrame frame 0
        (begin_ .mjpeg (Request.fresh audioOn keepalive).lastStreamTime
          (.fresh audioOn keepalive)) with audioOn := false }) dlinkMjpgHead (fun dead => by cases dead)
        (Nat.le_trans (Nat.le_of_eq (Nat.zero_add _)) fits)
      dsimp only at written ⊢
      rw [written]
      generalize known : dlinkMjpgHead.flatten = head
      refine ((headed_first _ _ _).bare (announces_first (by decide) _ _) rfl).serves ?_ known.symm
        rfl rfl rfl
      simp only [Handler.first, calm, video]
      rfl

/-- The head of an ACS stream in the buffer of a fresh request. -/
theorem reqWrites_dlinkHead {type : List UInt8} (info : Info) (audioOn keepalive : Bool)
    (short : type.length ≤ 10) :
    reqWrites (.fresh audioOn keepalive) (dlinkHead type info) =
      { Request.fresh audioOn keepalive with buffer := (dlinkHead type info).flatten } := by
  apply reqWrites_fits
  · intro dead
    cases dead
  · have fits := length_dlinkHead type info short
    show 0 + _ ≤ _
    omega

/-- `get_dlink_mpeg4_stream` starts a feed. -/
theorem getDlinkMpeg4Stream_serves (offer : Offer) (audioOn keepalive : Bool) :
    (getDlinkMpeg4Stream offer (.fresh audioOn keepalive)).Serves offer.vol
      (Handler.preamble .dlinkMpeg4 offer) (Handler.first .dlinkMpeg4 offer) := by
  unfold getDlinkMpeg4Stream
  rw [reqWrites_dlinkHead offer.info audioOn keepalive (by decide)]
  dsimp only
  split
  · rename_i pending
    exact refuse_serves (by simp [Handler.first, pending]) (by simp [Handler.refusal, pending]; rfl)
      rfl rfl rfl rfl
  · rename_i calm
    split
    · rename_i vol frame given video
      generalize known : (dlinkHead (ascii "video/ACVS") offer.info).flatten = head
      have filled := (headed_acsVideo offer.info (firstFrame frame vol.length
        (begin_ .dlinkMpeg4 offer.info.second
          { Request.fresh audioOn keepalive with buffer := head }))).vol
        (announces_acsVideo _ _) rfl
      rw [← given] at filled
      refine filled.serves ?_ known.symm rfl rfl rfl
      simp only [Handler.first, calm, given, video]
      rfl
    · rename_i missing
      refine refuse_serves ?_ (by simp [Handler.refusal, calm]; rfl) rfl rfl rfl rfl
      simp only [Handler.first, calm]
      exact first_missing missing

/-- `get_dlink_h264_stream` starts a feed. -/
theorem getDlinkH264Stream_serves (offer : Offer) (audioOn keepalive : Bool) :
    (getDlinkH264Stream offer (.fresh audioOn keepalive)).Serves offer.vol
      (Handler.preamble .dlinkH264 offer) (Handler.first .dlinkH264 offer) := by
  unfold getDlinkH264Stream
  rw [reqWrites_dlinkHead offer.info audioOn keepalive (by decide)]
  dsimp only
  split
  · rename_i pending
    exact refuse_serves (by simp [Handler.first, pending]) (by simp [Handler.refusal, pending]; rfl)
      rfl rfl rfl rfl
  · rename_i calm
    cases video : offer.video with
    | none =>
      exact refuse_serves (by simp [Handler.first, video]) (by simp [Handler.refusal, calm]; rfl)
        rfl rfl rfl rfl
    | some frame =>
      generalize known : (dlinkHead (ascii "video/ACVS") offer.info).flatten = head
      refine ((headed_acsVideo _ _).bare (announces_acsVideo _ _) rfl).serves ?_ known.symm
        rfl rfl rfl
      simp only [Handler.first, calm, video]
      rfl

/-- A handler that puts nothing behind its head serves a feed. -/
theorem head_serves {handler : Handler} {offer : Offer} {r : Request}
    (first : handler.first offer = none) (refusal : handler.refusal offer = r.buffer)
    (write : r.status = .write) (start : r.bufferStart = 0) (data : r.data.size = 0)
    (filepos : r.filepos = 0) :
    Handled.Serves offer.vol (handler.preamble offer) (handler.first offer) ⟨r, [], 0⟩ := by
  have serves := serves_text offer.vol r.buffer (fun body => by cases write.symm.trans body) start
    data filepos fun _ => rfl
  have framed : r.framed = [] := by
    apply List.length_eq_zero_iff.mp
    rw [Request.framed, Block.length_from, data, Nat.zero_sub]
  rw [preamble_none first, first, refusal]
  refine ⟨[], rfl, _, serves, fun _ _ => ⟨fun dead => (by cases write.symm.trans dead), fun _ => ?_⟩⟩
  rw [serves.whole write]
  show r.buffered ++ r.framed = r.buffered
  rw [framed, List.append_nil]

/-- `uri_dlink_audio` starts a feed. -/
theorem uriDlinkAudio_serves (offer : Offer) (audioOn keepalive : Bool) :
    (uriDlinkAudio offer (.fresh audioOn keepalive)).Serves offer.vol
      (Handler.preamble .dlinkAudio offer) (Handler.first .dlinkAudio offer) := by
  unfold uriDlinkAudio
  rw [reqWrites_dlinkHead offer.info audioOn keepalive (by decide)]
  dsimp only
  split
  · rename_i off
    exact head_serves (by simp [Handler.first, off]) (by simp [Handler.refusal, off]; rfl)
      rfl rfl rfl rfl
  · rename_i on
    have on := Decidable.not_not.mp on
    split
    · rename_i pending
      exact refuse_serves (by simp [Handler.first, pending])
        (by simp [Handler.refusal, on, pending]; rfl) rfl rfl rfl rfl
    · rename_i calm
      cases audio : offer.audio with
      | none =>
        exact head_serves (by simp [Handler.first, audio]) (by simp [Handler.refusal, calm]; rfl)
          rfl rfl rfl rfl
      | some frame =>
        generalize known : (dlinkHead (ascii "audio/ACAS") offer.info).flatten = head
        refine Filled.serves (Headed.bare (.inl rfl) (announces_acsAudio offer.info _ rfl) rfl) ?_
          known.symm rfl rfl rfl
        simp only [Handler.first, calm, on, audio]
        rfl

/-- `uri_dlink_video` starts the feed of the handler it calls. -/
theorem Handled.Serves.video {vol : Option (List UInt8)} {preamble : List UInt8}
    {first : Option Block} {handled : Handled} (serves : handled.Serves vol preamble first) :
    Handled.Serves vol preamble first
      ⟨{ handled.request with keepalive := false }, handled.sent, 1⟩ := by
  obtain ⟨parts, blocks, feed, served, -⟩ := serves
  exact ⟨parts, blocks, feed, served.idles ⟨rfl, rfl, rfl, rfl, rfl, fun kept => (by cases kept)⟩,
    fun zero => (by cases zero)⟩

/-- Behind every handler the request serves a feed. -/
theorem Handler.serves (handler : Handler) (offer : Offer) (audioOn keepalive : Bool) :
    (handler.run offer (.fresh audioOn keepalive)).Serves offer.vol (handler.preamble offer)
      (handler.first offer) :=
  match handler with
  | .mjpeg => getMjpegStream_serves offer audioOn keepalive
  | .mpeg4 => getMpeg4Stream_serves offer audioOn keepalive
  | .h264 => getH264Stream_serves offer audioOn keepalive
  | .avc => getStreamAvc_serves offer audioOn keepalive
  | .httpMjpeg => getHttpMjpeg_serves offer audioOn keepalive
  | .dlinkMjpeg => getDlinkMjpegStream_serves offer audioOn keepalive
  | .dlinkMpeg4 => getDlinkMpeg4Stream_serves offer audioOn keepalive
  | .dlinkH264 => getDlinkH264Stream_serves offer audioOn keepalive
  | .dlinkAudio => uriDlinkAudio_serves offer audioOn keepalive
  | .dlinkVideoMjpeg => (getDlinkMjpegStream_serves offer audioOn keepalive).video
  | .dlinkVideoMpeg4 => (getDlinkMpeg4Stream_serves offer audioOn keepalive).video
  | .dlinkVideoH264 => (getDlinkH264Stream_serves offer audioOn keepalive).video

/-! ## Streams -/

/-- In every run of a stream request that is no POST, and that does not end inside a part while its
connection is kept alive, the client gets what the handler puts before the first part and then the
parts: each is a header that announces the bytes behind it, the extra bytes and a frame that the
driver gave, in order and each complete before the next one is begun. -/
theorem stream_framed (handler : Handler) (offer : Offer) (audioOn keepalive : Bool)
    (post : Option Post) (actions : List Action) (get : post = none)
    (whole : (handler.start offer audioOn keepalive post).neverCuts actions = true) :
    StreamFramed handler offer audioOn keepalive post actions := by
  subst get
  obtain ⟨parts, blocks, feed, serves, spent⟩ := handler.serves offer audioOn keepalive
  have starts : Serves (handler.preamble offer) parts feed
      (handler.start offer audioOn keepalive none) := serves.after offer.granted spent
  obtain ⟨parts', blocks', feed', served⟩ := starts.run whole
  refine ⟨parts', ?_, served.framed⟩
  rw [blocks', blocks]

/-- The zoom ratio of the example is a line. -/
theorem inner_zoom : (10 : UInt8) ∉ ascii "1" := by decide

/-- The rate of the example is a line. -/
theorem inner_rate : (10 : UInt8) ∉ ascii "30.00" := by decide

/-- The date of the example has 29 bytes. -/
theorem length_date : (List.replicate 29 (48 : UInt8)).length = 29 := List.length_replicate

/-- A system without audio. -/
def quietInfo : Info where
  second := 1
  xStatus := 0
  zoomratio := ⟨ascii "1", inner_zoom⟩
  audioinenable := false
  audioCodec := .other
  audioTag := false
  timeSec := 0
  timeUsec := 0
  year := 0
  month := 0
  day := 0
  hour := 0
  minute := 0
  tmSec := 0
  jpegSum := 0
  machineCode := 0
  lastModified := List.replicate 29 48
  dated := length_date

/-- A frame of five bytes. -/
def blackFrame : AvData where
  ptr _ := 0
  size := 5
  serial := 1
  serialLock := 1
  timestamp := 0
  framerate := ⟨ascii "30.00", inner_rate⟩
  framerateShort := 30
  width := 640
  height := 480
  iFrame := true

/-- A driver that has the frame. -/
def blackOffer : Offer where
  info := quietInfo
  unavailable := []
  error := []
  pending := false
  written := .wouldBlock
  video := some blackFrame
  audio := none
  vol := none
  granted := true

/-- A turn in which the socket takes so much and the driver has no more frames. -/
def takes (written : Written) : Action :=
  .pass ⟨written, false, quietInfo, none, none, none, .blocked, false, true⟩

/-- The socket takes the header and three bytes, is full, and takes the rest of the frame. Then the
driver is restarted, and the answer to the next request follows. -/
def wholeActions : List Action :=
  [takes (.wrote 8192), takes (.wrote 3), takes .wouldBlock, .wake false, takes (.wrote 8192),
    .restart true, .next (ascii "HTTP/1.1 404")]

/-- The stream is framed although its connection is handed on. -/
theorem stream_framed_whole : StreamFramed .h264 blackOffer false true none wholeActions :=
  stream_framed .h264 blackOffer false true none wholeActions rfl
    (by set_option maxRecDepth 8000 in decide)

/-- A header that starts with a zero is an ACS header. -/
theorem Announces.length_acs {header : List UInt8} {length : Nat} (announced : Announces header length)
    (zero : header.head? = some 0) : header.length = 40 := by
  cases announced with
  | multipart front type tags length line =>
    rcases line with rfl | rfl
    · exact absurd zero (by simp [unlines, boundary, ascii])
    · exact absurd zero (by simp [crlf])
  | acs id rest length size => simp [size]

/-- A header is not empty. -/
theorem Announces.ne_nil {header : List UInt8} {length : Nat} (announced : Announces header length) :
    header ≠ [] := by
  cases announced with
  | multipart front type tags length line =>
    have ends : crlf ≠ [] := List.cons_ne_nil _ _
    exact List.append_ne_nil_of_right_ne_nil _ ends
  | acs id rest length size =>
    intro empty
    have long := congrArg List.length empty
    simp at long

/-- A part of an ACS stream, whose header begins with a zero. -/
theorem Part.length_acs {vol : Option (List UInt8)} (part : Part vol) {rest : List UInt8}
    (front : (0 : UInt8) :: rest <+: part.text) : part.header.length = 40 := by
  apply part.announced.length_acs
  obtain ⟨first, others, header⟩ := List.exists_cons_of_ne_nil part.announced.ne_nil
  rw [Part.text, header] at front
  rw [header, ← (List.cons_prefix_cons.mp front).1]
  rfl

/-- A stream with one frame has one part. -/
theorem single_part {vol : Option (List UInt8)} {parts : List (Part vol)} {block : Block}
    {blocks : List Block} (same : parts.map Part.block = [block] ++ blocks)
    (none : blocks.length = 0) : ∃ part, parts = [part] ∧ part.block = block := by
  rw [List.length_eq_zero_iff.mp none, List.append_nil] at same
  exact List.map_eq_singleton_iff.mp same

/-- The header of the frame in an ACS stream. -/
def blackHeader : List UInt8 :=
  acsVideoHeader quietInfo (firstFrame blackFrame 0 (.fresh false false))

/-- A POST without `Content-Length`. -/
def badPost : Post where
  contentLength := none
  singlePostLimit := 0
  badRequest := ascii "HTTP/1.0 400 Bad Request"
  written := .wrote 8192

/-- The driver is restarted when the client has the header, and the answer to the next request
follows. -/
def cutActions : List Action :=
  [takes (.wrote 8192), .restart true, .next (ascii "HTTP/1.1 404")]

/-- A JPEG header starts with the marker of an image. -/
theorem head?_jpegHeader (info : Info) (r : Request) : (jpegHeader info r).head? = some 255 := by
  unfold jpegHeader
  simp only [List.head?_append, List.head?_cons, Option.some_or]

/-- What may stand behind a header of the frame does not begin with a text. -/
theorem extra_not_text {extra : List UInt8} (kind : Extra none extra) {rest : List UInt8} :
    ¬(72 : UInt8) :: rest <+: extra ++ blackFrame.block.bytes := by
  intro front
  cases kind with
  | none => exact absurd (List.cons_prefix_cons.mp front).1 (by decide)
  | jpeg info r =>
    obtain ⟨tail, same⟩ := front
    have begins := congrArg List.head? same
    rw [List.cons_append, List.head?_cons, List.head?_append, head?_jpegHeader,
      Option.some_or] at begins
    exact absurd begins (by decide)
  | vol bytes given => cases given

/-- The error page of a POST stands in the body that the header of the first part announces, and so does
the answer to the next request when the driver is restarted inside a part. -/
theorem stream_unframed :
    ¬StreamFramed .dlinkH264 blackOffer false false (some badPost) [] ∧
      ¬StreamFramed .dlinkH264 blackOffer false true none cutActions := by
  have first : (Handler.first .dlinkH264 blackOffer).toList = [blackFrame.block] := rfl
  constructor
  · rintro ⟨parts, blocks, framed⟩
    rw [first] at blocks
    obtain ⟨part, rfl, block⟩ := single_part blocks rfl
    have received : (Handler.start .dlinkH264 blackOffer false false (some badPost)).received =
        Handler.preamble .dlinkH264 blackOffer ++ (blackHeader ++ badPost.badRequest) := by
      set_option maxRecDepth 8000 in
      decide
    have zero : blackHeader ++ badPost.badRequest =
        0 :: (blackHeader ++ badPost.badRequest).tail := by
      decide
    have behind : (blackHeader ++ badPost.badRequest).drop 40 = 72 :: badPost.badRequest.tail := by
      decide
    have front := framed.front
    rw [List.foldl_nil, received, List.prefix_append_right_inj, List.flatMap_singleton] at front
    have size : part.header.length = 40 := by
      apply part.length_acs
      rw [← zero]
      exact front
    have body := front.drop 40
    rw [behind, Part.text, List.append_assoc, ← size, List.drop_left, block] at body
    exact extra_not_text part.kind body
  · rintro ⟨parts, blocks, framed⟩
    rw [first] at blocks
    have none : ((Handler.start .dlinkH264 blackOffer false true none).frames cutActions).length =
        0 := by
      set_option maxRecDepth 8000 in
      decide
    obtain ⟨part, rfl, block⟩ := single_part blocks none
    have received : (cutActions.foldl Connection.step
        (Handler.start .dlinkH264 blackOffer false true Option.none)).received =
        Handler.preamble .dlinkH264 blackOffer ++ blackHeader := by
      set_option maxRecDepth 8000 in
      decide
    have behind : (cutActions.foldl Connection.step
        (Handler.start .dlinkH264 blackOffer false true Option.none)).behind ≠ [] := by
      set_option maxRecDepth 8000 in
      decide
    have zero : blackHeader = 0 :: blackHeader.tail := by
      decide
    have long : blackHeader.length = 40 := by
      decide
    have all := framed.behind behind
    rw [received, List.append_cancel_left_eq, List.flatMap_singleton] at all
    have front : (0 : UInt8) :: blackHeader.tail <+: part.text := by
      rw [← zero, all]
    have size : part.header.length = 40 := part.length_acs front
    have whole := congrArg List.length all
    have five : part.block.bytes.length = 5 := by
      rw [block]
      rfl
    rw [long, Part.text, List.length_append, List.length_append, size, five] at whole
    omega

end BoaIpcam.Stream
