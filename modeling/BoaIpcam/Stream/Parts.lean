import BoaIpcam.Stream.Serve

/-!
# The parts of a stream

A part of a stream is a header, the extra bytes behind it and the block of a frame. Its header is a
few lines and an empty line, or the 40 bytes of an ACS header, and announces how many bytes follow
it. The functions of `response.c` put such headers into the buffer, or give the request up.
-/
namespace BoaIpcam.Stream

/-! ## Parts -/

/-- A line of a header. -/
structure IsLine (line : List UInt8) : Prop where
  /-- An empty line would end the header. -/
  solid : line ≠ []
  /-- It has no end of line in it. -/
  inner : (10 : UInt8) ∉ line

/-- Some lines with their ends. -/
def unlines (lines : List (List UInt8)) : List UInt8 := lines.flatMap (· ++ crlf)

/-- The header of a part announces so many bytes, in `Content-Length` or in the ACS header. -/
inductive Announces : List UInt8 → Nat → Prop
  | multipart (front type : List UInt8) (tags : List (List UInt8)) (length : Nat)
      (line : front = [] ∨ front = crlf) (typed : (10 : UInt8) ∉ type)
      (tagged : ∀ tag ∈ tags, IsLine tag) :
    Announces (front ++ unlines ([boundary, ascii "Content-Type: " ++ type,
      ascii "Content-Length: " ++ decimal length] ++ tags) ++ crlf) length
  | acs (id : Nat) (rest : List UInt8) (length : Nat) (size : rest.length = 28) :
    Announces (littleEndian 4 id ++ littleEndian 4 40 ++ littleEndian 4 length ++ rest) length

/-- What may stand between a header and the frame. -/
inductive Extra (vol : Option (List UInt8)) : List UInt8 → Prop
  | none : Extra vol []
  | jpeg (info : Info) (r : Request) : Extra vol (jpegHeader info r)
  | vol (bytes : List UInt8) (given : vol = some bytes) : Extra vol bytes

/-- A part of a stream whose first frame has these VOL data. -/
structure Part (vol : Option (List UInt8)) where
  /-- The header. -/
  header : List UInt8
  /-- What stands between the header and the frame. -/
  extra : List UInt8
  /-- The frame. -/
  block : Block
  /-- The header announces what follows it. -/
  announced : Announces header (extra.length + block.size)
  /-- The extra bytes are a JPEG header or the VOL data. -/
  kind : Extra vol extra

/-- The bytes of a part. -/
def Part.text {vol : Option (List UInt8)} (part : Part vol) : List UInt8 :=
  part.header ++ part.extra ++ part.block.bytes

/-! ## Lines -/

/-- A digit ends no line. -/
theorem inner_decimal (value : Nat) : (10 : UInt8) ∉ decimal value := by
  intro member
  have digit := isDigit_of_mem_decimal member
  revert digit
  decide

/-- A number ends no line. -/
theorem inner_intText (value : Int) : (10 : UInt8) ∉ intText value := by
  intro member
  unfold intText at member
  split at member
  · rcases List.mem_cons.mp member with minus | digit
    · revert minus
      decide
    · exact inner_decimal _ digit
  · exact inner_decimal _ member

/-- A hexadecimal number ends no line. -/
theorem inner_hex8 (value : Nat) : (10 : UInt8) ∉ hex8 value := by
  have digits : ∀ digit : Fin 16,
      UInt8.ofNat (if digit.val < 10 then 48 + digit.val else 55 + digit.val) ≠ 10 := by
    decide
  intro member
  obtain ⟨digit, place, same⟩ := List.mem_map.mp member
  obtain ⟨i, -, rfl⟩ := List.mem_map.mp place
  exact digits ⟨_, Nat.mod_lt _ (by decide)⟩ same

/-- A word and what follows it are a line. -/
theorem isLine_append {word text : List UInt8} (line : IsLine word) (inner : (10 : UInt8) ∉ text) :
    IsLine (word ++ text) where
  solid empty := line.solid (List.append_eq_nil_iff.mp empty).1
  inner member := (List.mem_append.mp member).elim line.inner inner

/-- The lines of `videoTags`. -/
def videoLines (info : Info) (r : Request) : List (List UInt8) :=
  [ascii "X-Status: " ++ hex8 info.xStatus,
    ascii "X-Tag: " ++ decimal r.video.serial,
    ascii "X-Flags: 0",
    ascii "X-Framerate: " ++ r.video.framerate.text,
    ascii "X-Resolution: " ++ (intText r.video.width ++ (ascii "*" ++ intText r.video.height)),
    if info.audioinenable ∧ r.audioOn then ascii "X-Audio: 1" else ascii "X-Audio: 0",
    ascii "X-Timestamp: " ++ intText r.video.timestamp,
    ascii "X-Zoom: " ++ info.zoomratio.text]

/-- The tags of a video frame are lines. -/
theorem videoTags_eq (info : Info) (r : Request) :
    (videoTags info r).flatten = unlines (videoLines info r) := by
  by_cases audio : info.audioinenable = true ∧ r.audioOn = true
  · simp [videoTags, videoLines, unlines, audio]
  · simp [videoTags, videoLines, unlines, audio]

/-- A text of the server that is a line. -/
theorem isLine_word {word : List UInt8} (line : word ≠ [] ∧ !word.contains 10) : IsLine word where
  solid := line.1
  inner := by
    have none := line.2
    rw [Bool.not_eq_true', List.contains_eq_mem, decide_eq_false_iff_not] at none
    exact none

/-- The lines of `videoTags` are lines. -/
theorem isLine_videoLines (info : Info) (r : Request) :
    ∀ line ∈ videoLines info r, IsLine line := by
  have both : (10 : UInt8) ∉
      intText r.video.width ++ (ascii "*" ++ intText r.video.height) := by
    intro member
    rcases List.mem_append.mp member with width | rest
    · exact inner_intText _ width
    · rcases List.mem_append.mp rest with star | height
      · revert star
        decide
      · exact inner_intText _ height
  intro line member
  simp only [videoLines, List.mem_cons, List.not_mem_nil, or_false] at member
  rcases member with rfl | rfl | rfl | rfl | rfl | rfl | rfl | rfl
  · exact isLine_append (isLine_word (by decide)) (inner_hex8 _)
  · exact isLine_append (isLine_word (by decide)) (inner_decimal _)
  · exact isLine_word (by decide)
  · exact isLine_append (isLine_word (by decide)) r.video.framerate.inner
  · exact isLine_append (isLine_word (by decide)) both
  · split
    · exact isLine_word (by decide)
    · exact isLine_word (by decide)
  · exact isLine_append (isLine_word (by decide)) (inner_intText _)
  · exact isLine_append (isLine_word (by decide)) info.zoomratio.inner

/-- The lines of `audioTags`. -/
def audioTagLines (info : Info) (r : Request) : List (List UInt8) :=
  (match info.audioCodec with
    | .g726 => [ascii "X-Codec: G726", ascii "X-Bitrate: 32000"]
    | _ => [ascii "X-Codec: U-LAW", ascii "X-Bitrate: 64000"]) ++
    [if info.audioTag then ascii "X-Tag: " ++ decimal r.audio.serialLock else ascii "X-Tag: -1",
      ascii "X-Timestamp: " ++ intText r.audio.timestamp]

/-- The tags of an audio frame are lines. -/
theorem audioTags_eq (info : Info) (r : Request) :
    (audioTags info r).flatten = unlines (audioTagLines info r) := by
  cases codec : info.audioCodec <;> cases tag : info.audioTag <;>
    simp [audioTags, audioTagLines, audioLines, unlines, codec, tag]

/-- The lines of `audioTags` are lines. -/
theorem isLine_audioTagLines (info : Info) (r : Request) :
    ∀ line ∈ audioTagLines info r, IsLine line := by
  have codec : ∀ line ∈ (match info.audioCodec with
      | .g726 => [ascii "X-Codec: G726", ascii "X-Bitrate: 32000"]
      | _ => [ascii "X-Codec: U-LAW", ascii "X-Bitrate: 64000"]), IsLine line := by
    intro line member
    split at member
    · simp only [List.mem_cons, List.not_mem_nil, or_false] at member
      rcases member with rfl | rfl <;> exact isLine_word (by decide)
    · simp only [List.mem_cons, List.not_mem_nil, or_false] at member
      rcases member with rfl | rfl <;> exact isLine_word (by decide)
  intro line member
  rcases List.mem_append.mp member with first | rest
  · exact codec line first
  · simp only [List.mem_cons, List.not_mem_nil, or_false] at rest
    rcases rest with rfl | rfl
    · split
      · exact isLine_append (isLine_word (by decide)) (inner_decimal _)
      · exact isLine_word (by decide)
    · exact isLine_append (isLine_word (by decide)) (inner_intText _)

/-! ## Lengths -/

@[simp] theorem Block.length_from (block : Block) (position : Nat) :
    (block.from position).length = block.size - position := by
  rw [Block.from, List.length_map, List.length_range]

/-- The bytes of a block behind some of those from a position on. -/
theorem Block.drop_from (block : Block) (position amount : Nat) :
    (block.from position).drop amount = block.from (position + amount) := by
  apply List.ext_getElem
  · simp only [List.length_drop, Block.length_from]
    omega
  · intro i _ _
    simp only [Block.from, List.getElem_drop, List.getElem_map, List.getElem_range]
    rw [Nat.add_assoc]

@[simp] theorem length_littleEndian (bytes value : Nat) :
    (littleEndian bytes value).length = bytes := by
  rw [littleEndian, List.length_map, List.length_range]

@[simp] theorem length_lastFour (ptr : Int → UInt8) (size : Nat) : (lastFour ptr size).length = 4 :=
  rfl

@[simp] theorem length_jpegHeader (info : Info) (r : Request) :
    (jpegHeader info r).length = sizeofJpegHeader := by
  unfold jpegHeader
  simp only [List.length_append]
  simp only [length_littleEndian, List.length_replicate]
  rfl

/-- The header of a part announces the block and the extra bytes of the request. -/
theorem announces_partHeader {front type : List UInt8} {tags lines : List (List UInt8)} (r : Request)
    (line : front = [] ∨ front = crlf) (typed : (10 : UInt8) ∉ type)
    (same : tags.flatten = unlines lines) (tagged : ∀ tag ∈ lines, IsLine tag) :
    Announces (front ++ (partHeader type tags r).flatten) (r.extraSize + r.data.size) := by
  have announced := Announces.multipart front type lines (r.data.size + r.extraSize) line typed tagged
  have text : front ++ (partHeader type tags r).flatten = front ++ unlines ([boundary,
      ascii "Content-Type: " ++ type,
      ascii "Content-Length: " ++ decimal (r.data.size + r.extraSize)] ++ lines) ++ crlf := by
    simp [partHeader, contentLength, same, unlines]
  rw [text, Nat.add_comm r.extraSize]
  exact announced

/-- An ACS header announces the length in it. -/
theorem announces_acs (id length serial : Nat) (info : Info) (ptr : Int → UInt8) (size : Nat)
    (rest : List UInt8) (short : rest.length = 12) :
    Announces (acsStart id length serial info (lastFour ptr size) ++ rest) length := by
  have announced := Announces.acs id (littleEndian 4 serial ++ littleEndian 4 info.timeSec ++
    littleEndian 4 info.timeUsec ++ lastFour ptr size ++ rest) length (by simp [short])
  simpa only [acsStart, List.append_assoc] using announced

/-! ## The buffer -/

/-- `req_copy` either fills the buffer further or gives the request up. -/
theorem reqCopy_cases (r : Request) (data : List UInt8) (alive : r.status ≠ .dead) :
    reqCopy r data = { r with buffer := r.buffer ++ data } ∨
      reqCopy r data = { r with status := .dead } := by
  unfold reqCopy
  by_cases empty : data.length = 0
  · rw [if_pos (.inl empty), List.length_eq_zero_iff.mp empty, List.append_nil]
    exact .inl rfl
  · rw [if_neg (by rintro (none | dead); exacts [empty none, alive dead])]
    split
    · exact .inr rfl
    · exact .inl rfl

/-- A request that was given up stays as it is. -/
theorem reqCopy_dead {r : Request} (data : List UInt8) (dead : r.status = .dead) :
    reqCopy r data = r := if_pos (.inr dead)

/-- Writing to a request that was given up. -/
theorem reqWrites_dead {r : Request} (msgs : List (List UInt8)) (dead : r.status = .dead) :
    reqWrites r msgs = r := by
  induction msgs with
  | nil => rfl
  | cons msg msgs ih =>
    have first : reqWrite r msg = r := reqCopy_dead msg dead
    rw [reqWrites, List.foldl_cons, first]
    exact ih

/-- Several texts fill the buffer one after the other. A request that is given up has a front of them
in the buffer. -/
theorem reqWrites_cases (r : Request) (msgs : List (List UInt8)) (alive : r.status ≠ .dead) :
    reqWrites r msgs = { r with buffer := r.buffer ++ msgs.flatten } ∨
      ∃ front, reqWrites r msgs = { r with buffer := front, status := .dead } := by
  induction msgs generalizing r with
  | nil =>
    rw [List.flatten_nil, List.append_nil]
    exact .inl rfl
  | cons msg msgs ih =>
    rw [reqWrites, List.foldl_cons, reqWrite]
    rcases reqCopy_cases r msg alive with filled | dead
    · rw [filled, List.flatten_cons]
      rcases ih { r with buffer := r.buffer ++ msg } alive with more | given
      · refine .inl (more.trans ?_)
        rw [List.append_assoc]
      · exact .inr given
    · rw [dead]
      exact .inr ⟨r.buffer, reqWrites_dead msgs rfl⟩

/-! ## Headers in the buffer -/

/-- The buffer was filled further with a header, or the request was given up. -/
def Headed (r r' : Request) (header : List UInt8) : Prop :=
  r' = { r with buffer := r.buffer ++ header } ∨
    ∃ front, r' = { r with buffer := front, status := .dead }

/-- The buffer was filled further with a part up to its frame, which is the one the request points
to, or the request was given up. -/
def Filled (vol : Option (List UInt8)) (r r' : Request) : Prop :=
  ∃ part : Part vol, part.block = r.data ∧
    (r' = { r with buffer := r.buffer ++ (part.header ++ part.extra) } ∨
      ∃ front, r' = { r with buffer := front, status := .dead })

/-- The empty line before a header. -/
def openLine (line : Bool) : List UInt8 := if line then crlf else []

/-- A request that was given up before is one that is given up. -/
theorem headed_dead {r : Request} (header : List UInt8) (dead : r.status = .dead) :
    Headed r r header := by
  refine .inr ⟨r.buffer, ?_⟩
  rw [← dead]

/-- The header of a part, behind an empty line or not. -/
theorem headed_partHeader (line : Bool) (type : List UInt8) (tags : Request → List (List UInt8))
    (r : Request) (same : ∀ front, tags { r with buffer := front } = tags r) :
    Headed r (let r' := if line then reqWrite r crlf else r
        reqWrites r' (partHeader type (tags r') r'))
      (openLine line ++ (partHeader type (tags r) r).flatten) := by
  by_cases dead : r.status = .dead
  · have still : (if line then reqWrite r crlf else r) = r := by
      split
      · exact reqCopy_dead crlf dead
      · rfl
    dsimp only
    rw [still, reqWrites_dead _ dead]
    exact headed_dead _ dead
  cases line with
  | false => exact reqWrites_cases r _ dead
  | true =>
    rcases reqCopy_cases r crlf dead with filled | given
    · have written : reqWrite r crlf = { r with buffer := r.buffer ++ crlf } := filled
      dsimp only
      rw [if_pos rfl, written, same]
      rcases reqWrites_cases { r with buffer := r.buffer ++ crlf } (partHeader type (tags r) r)
        dead with more | given
      · refine .inl (more.trans ?_)
        rw [List.append_assoc]
        rfl
      · exact .inr given
    · have written : reqWrite r crlf = { r with status := .dead } := given
      dsimp only
      rw [if_pos rfl, written, reqWrites_dead _ rfl]
      exact .inr ⟨r.buffer, rfl⟩

/-- An empty line, or none. -/
theorem openLine_cases (line : Bool) : openLine line = [] ∨ openLine line = crlf := by
  cases line
  · exact .inl rfl
  · exact .inr rfl

/-- A header with nothing between it and the frame. -/
theorem Headed.bare {vol : Option (List UInt8)} {r r' : Request} {header : List UInt8}
    (headed : Headed r r' header) (announced : Announces header (r.extraSize + r.data.size))
    (none : r.extraSize = 0) : Filled vol r r' := by
  rw [none] at announced
  refine ⟨⟨header, [], r.data, announced, .none⟩, rfl, ?_⟩
  rw [List.append_nil]
  exact headed

/-- A header with the JPEG header behind it. -/
theorem Headed.jpeg {vol : Option (List UInt8)} {r r' : Request} {header : List UInt8}
    (headed : Headed r r' header) (announced : Announces header (r.extraSize + r.data.size))
    (size : r.extraSize = sizeofJpegHeader) (info : Info) :
    Filled vol r (addJpegHeader info r') := by
  rw [size, ← length_jpegHeader info r'] at announced
  refine ⟨⟨header, jpegHeader info r', r.data, announced, .jpeg info r'⟩, rfl, ?_⟩
  rcases headed with rfl | ⟨front, rfl⟩
  · refine .inl ?_
    rw [addJpegHeader, memcpyBuffer]
    simp only [List.append_assoc]
  · exact .inr ⟨_, rfl⟩

/-- A header with the VOL data behind it. -/
theorem Headed.vol {r r' : Request} {header bytes : List UInt8} (headed : Headed r r' header)
    (announced : Announces header (r.extraSize + r.data.size))
    (size : r.extraSize = bytes.length) : Filled (some bytes) r (reqCopy r' bytes) := by
  rw [size] at announced
  refine ⟨⟨header, bytes, r.data, announced, .vol bytes rfl⟩, rfl, ?_⟩
  rcases headed with rfl | ⟨front, rfl⟩
  · by_cases dead : r.status = .dead
    · rw [reqCopy_dead (r := { r with buffer := r.buffer ++ header }) bytes dead]
      refine .inr ⟨r.buffer ++ header, ?_⟩
      rw [← dead]
    · rcases reqCopy_cases { r with buffer := r.buffer ++ header } bytes dead with filled | given
      · refine .inl (filled.trans ?_)
        simp only [List.append_assoc]
      · exact .inr ⟨_, given⟩
  · exact .inr ⟨front, reqCopy_dead _ rfl⟩

/-- The ACS header of a video frame. -/
theorem headed_acsVideo (info : Info) (r : Request) :
    Headed r (printDlinkMpeg4Headers info r) (acsVideoHeader info r) := by
  by_cases dead : r.status = .dead
  · have still : printDlinkMpeg4Headers info r = r := reqCopy_dead _ dead
    rw [still]
    exact headed_dead _ dead
  · rcases reqCopy_cases r (acsVideoHeader info r) dead with filled | given
    · exact .inl filled
    · exact .inr ⟨r.buffer, given⟩

/-- The ACS header of a video frame announces it. -/
theorem announces_acsVideo (info : Info) (r : Request) :
    Announces (acsVideoHeader info r) (r.extraSize + r.data.size) := by
  have announced := announces_acs 0xF5010000 (r.data.size + r.extraSize) r.video.serial info
    r.video.ptr r.video.size (littleEndian 2 (if r.video.iFrame then 0 else 1) ++
      littleEndian 2 r.video.framerateShort ++ littleEndian 2 r.video.width ++
      littleEndian 2 r.video.height ++ littleEndian 4 0) (by simp)
  rw [Nat.add_comm]
  simpa only [acsVideoHeader, List.append_assoc] using announced

/-- The ACS header of an audio frame announces it. -/
theorem announces_acsAudio (info : Info) (r : Request) (none : r.extraSize = 0) :
    Announces (acsAudioHeader info r) (r.extraSize + r.data.size) := by
  have announced := announces_acs 0xF6010000 r.data.size r.audio.serial info r.data.ptr r.data.size
    (littleEndian 2 0x1000 ++ littleEndian 2 1 ++ littleEndian 2 8000 ++ littleEndian 2 4 ++
      littleEndian 4 0) (by simp)
  rw [none, Nat.zero_add]
  simpa only [acsAudioHeader, List.append_assoc] using announced

end BoaIpcam.Stream
