import BoaIpcam.Stream.Parts

/-!
# What a framed stream is

The frames that the driver gives in a run are read from the run itself: `process_get` asks for one when
the buffer is sent and the socket takes the rest of the last one. What the client gets is framed when
it is the preamble of the handler and then one part for each of these frames, in order and whole.

Two things break this. A request that is freed inside a part hands its connection on when it is kept
alive, and the next answer stands in the announced body. A POST is taken to its body behind the
header of the first part, and its error page stands there.
-/
namespace BoaIpcam.Stream

/-! ## The frames of the driver -/

/-- What is left of the buffer. -/
def Request.buffered (r : Request) : List UInt8 := r.buffer.drop r.bufferStart

/-- What is left of the frame. -/
def Request.framed (r : Request) : List UInt8 := r.data.from r.filepos

/-- What is left of the frame when the socket took what it takes. -/
def Request.unsent (written : Written) (r : Request) : List UInt8 :=
  match written with
  | .wrote amount => r.framed.drop (min amount bufferSize)
  | _ => r.framed

/-- The socket did not fail and did not block. -/
def Written.isWrote : Written → Bool
  | .wrote _ => true
  | _ => false

/-- A frame that the driver gives for the next part. -/
structure Answer where
  /-- The bytes that are sent of it. -/
  block : Block
  /-- It sets `last_stream_time`. -/
  stamped : Bool

/-- The audio frame that `audio_get` finds. -/
def audioAnswer (input : Input) (r : Request) : Option Answer :=
  if r.audioTurns % 2 = 1 ∨ ¬input.info.audioinenable ∨ ¬r.audioOn then none
  else input.audio.map fun frame => ⟨frame.block, false⟩

/-- The video frame that a branch of `process_get` finds. -/
def videoAnswer (input : Input) (r : Request) : Option Answer :=
  input.video.map fun frame =>
    ⟨⟨frame.ptr, frame.size + (branch r.kind).more⟩, (branch r.kind).stamped⟩

/-- What the driver has for the next part of a request. -/
def answer (input : Input) (r : Request) : Option Answer :=
  if r.kind = .audioG726 then
    if ¬input.info.audioinenable then none
    else input.audio.map fun frame => ⟨frame.block, false⟩
  else if (branch r.kind).audio then (audioAnswer input r).or (videoAnswer input r)
  else videoAnswer input r

/-- The frame that the driver gives in an action: the buffer is sent, and the socket takes the rest of
the last frame. -/
def Connection.given (c : Connection) : Action → Option Block
  | .pass input =>
    if c.place = .ready ∧ c.request.status = .write ∧ c.request.buffer = [] ∧
        input.sigbus = false ∧ input.written.isWrote ∧ c.request.unsent input.written = [] then
      (answer input c.request).map Answer.block
    else none
  | _ => none

/-- The frames that the driver gives in a run. -/
def Connection.frames : Connection → List Action → List Block
  | _, [] => []
  | c, action :: actions => (c.given action).toList ++ (c.step action).frames actions

/-- The frame that a handler gets. -/
def Handler.first (handler : Handler) (offer : Offer) : Option Block :=
  if offer.pending then none
  else
    match handler with
    | .mpeg4 | .avc | .dlinkMpeg4 | .dlinkVideoMpeg4 =>
      offer.vol.bind fun _ => offer.video.map AvData.block
    | .dlinkAudio => if offer.info.audioinenable then offer.audio.map AvData.block else none
    | _ => offer.video.map AvData.block

/-- The answer that a handler puts before the first part. -/
def Handler.head (handler : Handler) (info : Info) : List UInt8 :=
  match handler with
  | .dlinkMjpeg | .dlinkVideoMjpeg => dlinkMjpgHead.flatten
  | .dlinkMpeg4 | .dlinkH264 | .dlinkVideoMpeg4 | .dlinkVideoH264 =>
    (dlinkHead (ascii "video/ACVS") info).flatten
  | .dlinkAudio => (dlinkHead (ascii "audio/ACAS") info).flatten
  | _ => okHead

/-- The error page of a handler that gets no frame, behind what it has written before. -/
def Handler.refusal (handler : Handler) (offer : Offer) : List UInt8 :=
  let page := if offer.pending then offer.unavailable else offer.error
  match handler with
  | .dlinkMpeg4 | .dlinkH264 | .dlinkVideoMpeg4 | .dlinkVideoH264 => handler.head offer.info ++ page
  | .dlinkAudio =>
    handler.head offer.info ++
      if offer.info.audioinenable ∧ offer.pending then offer.unavailable else []
  | _ => page

/-- What a handler puts before the first part. -/
def Handler.preamble (handler : Handler) (offer : Offer) : List UInt8 :=
  if (handler.first offer).isSome then handler.head offer.info else handler.refusal offer

/-! ## Framing -/

/-- What the next turn offers to the socket. -/
def Request.offered (r : Request) : List UInt8 :=
  if r.buffer ≠ [] then r.buffered else r.framed.take bufferSize

/-- What a client gets is framed by some parts behind a preamble. -/
structure Framed {vol : Option (List UInt8)} (preamble : List UInt8) (parts : List (Part vol))
    (c : Connection) : Prop where
  /-- The client got a front of the preamble and the parts. -/
  front : c.received <+: preamble ++ parts.flatMap Part.text
  /-- Another answer follows only behind complete parts. -/
  behind : c.behind ≠ [] → c.received = preamble ++ parts.flatMap Part.text
  /-- A part is begun only when the parts before it are complete. -/
  complete : ∀ init last, parts = init ++ [last] → init ≠ [] →
    preamble ++ init.flatMap Part.text <+: c.received
  /-- While the request is served, the rest is in the buffer and the frame. -/
  rest : c.request.status = .write →
    c.received ++ c.request.buffered ++ c.request.framed = preamble ++ parts.flatMap Part.text
  /-- The client gets what the socket takes of what is offered. -/
  sent : c.place = .ready → c.request.status = .write → ∀ input amount, input.sigbus = false →
    input.written = .wrote amount →
      (c.step (.pass input)).received = c.received ++ c.request.offered.take amount
  /-- Something is offered as long as a part is not complete. -/
  offers : c.request.status = .write → c.request.offered = [] →
    c.received = preamble ++ parts.flatMap Part.text

/-- After some actions, what the client of a stream request got is framed by the frames that the driver
gave. -/
def StreamFramed (handler : Handler) (offer : Offer) (audioOn keepalive : Bool)
    (post : Option Post) (actions : List Action) : Prop :=
  ∃ parts : List (Part offer.vol),
    parts.map Part.block = (handler.first offer).toList ++
        (handler.start offer audioOn keepalive post).frames actions ∧
      Framed (handler.preamble offer) parts
        (actions.foldl Connection.step (handler.start offer audioOn keepalive post))

/-- A turn ends the stream inside a part: a write fails, or the driver gave no video frame for too long
while the frame is not used up or an audio frame follows. -/
def Request.cutShort (input : Input) (r : Request) : Bool :=
  if r.buffer ≠ [] then
    input.written = .failed ∨ r.late input.info.second ∧ r.status = .write ∧ r.framed ≠ []
  else if r.status ≠ .write then false
  else if input.sigbus ∨ input.written = .failed then r.framed ≠ []
  else
    r.late input.info.second ∧ (r.unsent input.written ≠ [] ∨
      input.written.isWrote ∧ (answer input r).any fun next => !next.stamped)

/-- An action ends a stream inside a part although its connection is kept alive. -/
def Connection.cuts (c : Connection) : Action → Bool
  | .pass input =>
    c.place = .ready ∧ c.request.keepalive ∧ input.sigterm = false ∧ c.request.status ≠ .dead ∧
      c.request.cutShort input
  | .restart _ =>
    c.place = .ready ∧ c.request.keepalive ∧
      (c.request.status = .dead ∨ c.request.status = .write ∧ c.request.framed ≠ [])
  | _ => false

/-- No action of a run ends the stream inside a part while its connection is kept alive. -/
def Connection.neverCuts : Connection → List Action → Bool
  | _, [] => true
  | c, action :: actions => !c.cuts action && (c.step action).neverCuts actions

end BoaIpcam.Stream
