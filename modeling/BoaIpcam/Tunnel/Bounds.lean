import BoaIpcam.Tunnel.Receive

/-!
# The arrays of the tunnel

`client_stream` and `buffer` are filled by the reads and by the decoder, and emptied by the
handler. In every run `buffer_start` and `buffer_end` stay inside `buffer`. The thread may fill
`client_stream` to its last byte, and the terminator of the handler then falls behind it; and
the decoder takes the last byte of a full `buffer` for its terminator.
-/
namespace BoaIpcam

open Frames TransitionSystem

variable {σ : Type} {respond : σ → List UInt8 → σ × Bool}

/-! ## The header -/

/-- Nothing follows the end of the header. -/
theorem readHeader_bodyRead (bytes : List UInt8) :
    readHeader .bodyRead bytes = (.bodyRead, bytes) := by
  cases bytes <;> rfl

/-- The loop of `read_header` reads a byte of a header that has not ended. -/
theorem readHeader_cons {status : HeaderStatus} (unfinished : status ≠ .bodyRead) (c : UInt8)
    (bytes : List UInt8) : readHeader status (c :: bytes) = readHeader (status.next c) bytes := by
  cases status with
  | bodyRead => exact absurd rfl unfinished
  | _ => rfl

/-- The loop leaves at most the bytes that are there. -/
theorem readHeader_length_le (status : HeaderStatus) (bytes : List UInt8) :
    (readHeader status bytes).2.length ≤ bytes.length := by
  induction bytes generalizing status with
  | nil => cases status <;> exact Nat.le_refl _
  | cons c bytes ih =>
    by_cases finished : status = .bodyRead
    · rw [finished, readHeader_bodyRead]
    · rw [readHeader_cons finished]
      exact Nat.le_succ_of_le (ih _)

/-! ## The handler -/

/-- `buffer` has room. -/
theorem bufferSize_pos : 0 < bufferSize := by decide

/-- The positions in the buffer are in order. -/
structure Handler.Within (h : Handler σ) : Prop where
  /-- The start is not behind the end. -/
  start_le : h.bufferStart ≤ h.buffer.length
  /-- There is room for a terminator. -/
  end_lt : h.buffer.length < bufferSize

/-- Taking a text out of the buffer keeps its positions in order. -/
theorem Handler.Within.take {h : Handler σ} (within : h.Within) (i : Nat) : (h.take i).Within := by
  by_cases last : h.buffer.length ≤ h.bufferStart + (i + 4)
  · constructor <;> simp only [Handler.take, if_pos last]
    · exact Nat.zero_le _
    · exact bufferSize_pos
  · constructor <;> simp only [Handler.take, if_neg last]
    · omega
    · exact within.end_lt

/-- A dispatch does not touch the buffer. -/
theorem Handler.Within.dispatch {h : Handler σ} (within : h.Within) :
    (h.dispatch respond).Within := by
  unfold Handler.dispatch
  split
  · exact ⟨within.start_le, within.end_lt⟩
  · exact within

/-- A text of at least four bytes without an empty line stays in the buffer. -/
theorem Handler.loop_unfinished {rounds : Nat} {h : Handler σ}
    (enough : h.bufferStart + 4 ≤ h.buffer.length) (missing : find emptyLine h.rest = none) :
    Handler.loop respond (rounds + 1) h = some h := by
  rw [Handler.loop, if_neg (by omega), missing]

/-- The loop keeps the positions in order. -/
theorem Handler.Within.loop {rounds : Nat} {h h' : Handler σ} (within : h.Within)
    (done : Handler.loop respond rounds h = some h') : h'.Within := by
  induction rounds generalizing h with
  | zero => cases done
  | succ rounds ih =>
    rw [Handler.loop] at done
    split at done
    · dsimp only at done
      split at done
      · exact ih within.dispatch done
      · cases done
        exact within.dispatch
    · split at done
      · cases done
        exact within
      · dsimp only at done
        split at done
        · exact ih (within.take _).dispatch done
        · cases done
          exact (within.take _).dispatch

namespace Post

/-- The decoder appends what the text decodes to, as far as it fits before the last byte of
`buffer`. -/
theorem decoded_eq {post : Post σ} (room : post.buffer.length < bufferSize) :
    post.decoded = post.buffer ++
      (decodedBytes post.text).take (bufferSize - post.buffer.length - 1) := by
  have positive : 0 < bufferSize - post.buffer.length := by omega
  rw [decoded, base64decode_eq]
  split
  · rename_i fits
    rw [← List.append_assoc, List.dropLast_concat, List.take_of_length_le (by omega)]
  · rename_i full
    have nonempty : (decodedBytes post.text).take (bufferSize - post.buffer.length) ≠ [] := by
      rw [← List.length_pos_iff, List.length_take]
      omega
    rw [List.dropLast_append_of_ne_nil nonempty, List.dropLast_eq_take, List.length_take,
      List.take_take]
    congr 2
    omega

/-- Every byte of the text reaches the buffer exactly when the last byte of `buffer` is left for
the terminator. -/
theorem decoded_eq_iff {post : Post σ} (room : post.buffer.length < bufferSize) :
    post.decoded = post.buffer ++ decodedBytes post.text ↔
      post.buffer.length + (decodedBytes post.text).length < bufferSize := by
  rw [decoded_eq room, List.append_cancel_left_eq, List.take_eq_self_iff]
  omega

/-! ## Runs -/

/-- The positions in the two arrays are in order. -/
structure Within (post : Post σ) : Prop where
  /-- The start is not behind the end. -/
  start_le : post.bufferStart ≤ post.buffer.length
  /-- There is room for a terminator. -/
  end_lt : post.buffer.length < bufferSize
  /-- What was read fits `client_stream`. -/
  stream_le : post.clientStreamPos ≤ clientStreamSize
  /-- Behind the header none of its bytes are left. -/
  header : post.status = .bodyRead → post.headerBytes = 0

/-- A new request has empty arrays. -/
theorem Within.fresh (session : σ) : (Post.fresh session).Within :=
  ⟨Nat.le_refl _, bufferSize_pos, Nat.zero_le _, fun _ => rfl⟩

/-- What a read does: it appends to the body, or it ends the header, or it does not. -/
theorem read_cases {post post' : Post σ} {bytes : List UInt8} (done : post.read bytes = some post') :
    bytes ≠ [] ∧ post.clientStreamPos + bytes.length ≤ clientStreamSize ∧
      ((post.status = .bodyRead ∧ post' = { post with
          stream := post.stream ++ bytes, received := post.received ++ bytes }) ∨
        (post.status ≠ .bodyRead ∧ ∃ left, readHeader post.status bytes = (.bodyRead, left) ∧
          post' = { post with
            status := .bodyRead, headerBytes := 0, stream := left, buffer := [], bufferStart := 0
            received := post.received ++ bytes }) ∨
        (post.status ≠ .bodyRead ∧ (readHeader post.status bytes).1 ≠ .bodyRead ∧
          post' = { post with
            status := (readHeader post.status bytes).1
            headerBytes := post.headerBytes + bytes.length
            received := post.received ++ bytes })) := by
  unfold read at done
  split at done
  · cases done
  · rename_i possible
    rw [not_or, Nat.not_lt] at possible
    refine ⟨possible.1, possible.2, ?_⟩
    split at done
    · rename_i body
      cases done
      exact .inl ⟨body, rfl⟩
    · rename_i unfinished
      split at done
      · rename_i left ended
        cases done
        exact .inr (.inl ⟨unfinished, left, ended, rfl⟩)
      · rename_i status left going result
        cases done
        rw [result]
        exact .inr (.inr ⟨unfinished, fun same => going same, rfl⟩)

/-- A read stays inside `client_stream`. -/
theorem Within.read {post post' : Post σ} {bytes : List UInt8} (within : post.Within)
    (done : post.read bytes = some post') : post'.Within := by
  obtain ⟨nonempty, fits, cases⟩ := read_cases done
  have stream_le := within.stream_le
  unfold clientStreamPos at fits stream_le
  rcases cases with ⟨body, rfl⟩ | ⟨unfinished, left, ended, rfl⟩ | ⟨-, going, rfl⟩
  · refine ⟨within.start_le, within.end_lt, ?_, within.header⟩
    simp only [clientStreamPos, List.length_append]
    omega
  · have shorter := readHeader_length_le post.status bytes
    rw [ended] at shorter
    refine ⟨Nat.le_refl _, bufferSize_pos, ?_, fun _ => rfl⟩
    simp only [clientStreamPos] at shorter ⊢
    omega
  · refine ⟨within.start_le, within.end_lt, ?_, fun body => absurd body going⟩
    simp only [clientStreamPos]
    omega

/-- A call of the handler stays inside `buffer`. -/
theorem Within.handle {post post' : Post σ} {rounds : Nat} (within : post.Within)
    (done : post.handle respond rounds = some post') : post'.Within := by
  unfold Post.handle at done
  split at done
  · rename_i called
    obtain ⟨h, looped, same⟩ := Option.map_eq_some_iff.mp done
    have room := within.end_lt
    have entry : post.entry.Within := by
      have start_le := within.start_le
      constructor <;>
        simp only [entry, decoded_eq room, List.length_append, List.length_take] <;> omega
    have after := entry.loop looped
    have header := within.header called.1
    rw [← same]
    refine ⟨after.start_le, after.end_lt, ?_, within.header⟩
    simp only [finish, clientStreamPos, header]
    exact Nat.zero_le _
  · cases done
    exact within

/-- Every action keeps the positions in order. -/
theorem Within.step {post post' : Post σ} {act : Act} (within : post.Within)
    (step : post.Step respond act post') : post'.Within := by
  cases act with
  | read bytes => exact within.read step
  | handle =>
    obtain ⟨rounds, done⟩ := step
    exact within.handle done

/-- In every state of a run the positions are in order. -/
theorem Within.run {session : σ} {acts : List Act} {post : Post σ} {guard : Post σ → Act → Prop}
    (run : Run (Post.Step respond) guard (Post.fresh session) acts post) : post.Within :=
  Run.invariant Within (fun _ _ _ within _ step => within.step step) run (Within.fresh session)

/-- What the next call of the handler writes is inside the arrays and complete: the terminator is
inside `client_stream`, and every byte of the text is appended to `buffer`. -/
def WritesInside (post : Post σ) : Prop :=
  post.Called → post.clientStreamPos < clientStreamSize ∧
    post.decoded = post.buffer ++ decodedBytes post.text

/-- The reads since the last call of the handler have brought less than `CLIENT_STREAM_SIZE`, and
what they have brought decodes to less than the room that is left in `buffer`. -/
def Fits (post : Post σ) : Prop :=
  post.Called → post.stream.length ≠ clientStreamSize ∧
    post.buffer.length + (decodedBytes post.text).length < bufferSize

/-- In every state reached by any sequence of reads and calls, `buffer_start` and `buffer_end` are
inside `buffer`, and what the next call writes is inside and complete exactly when the text that
was read fits. -/
theorem writesInside_iff_fits {session : σ} {acts : List Act} {post : Post σ}
    (run : Run (Post.Step respond) (fun _ _ => True) (Post.fresh session) acts post) :
    (post.bufferStart ≤ post.buffer.length ∧ post.buffer.length ≤ bufferSize) ∧
      (post.WritesInside ↔ post.Fits) := by
  have within := Within.run run
  have room := within.end_lt
  refine ⟨⟨within.start_le, Nat.le_of_lt room⟩, forall_congr' fun called => ?_⟩
  have stream_le := within.stream_le
  rw [decoded_eq_iff room]
  rw [clientStreamPos, within.header called.1] at stream_le ⊢
  have last : 0 + post.stream.length < clientStreamSize ↔ post.stream.length ≠ clientStreamSize := by
    omega
  rw [last]

/-- A session that accepts every text. -/
def acceptAll : Unit → List UInt8 → Unit × Bool := fun _ _ => ((), true)

/-- The header of a POST and the base64 text of an empty line in one read, and a call. -/
theorem writesInside_iff_fits_empty_line :
    ∃ post, Run (Post.Step acceptAll) (fun _ _ => True) (Post.fresh ())
        [.read (ascii "\n\nDQoNCg=="), .handle] post ∧ post.dialogue.dispatched = [emptyLine] ∧
      (post.bufferStart ≤ post.buffer.length ∧ post.buffer.length ≤ bufferSize) ∧
      (post.WritesInside ↔ post.Fits) := by
  have run : Run (Post.Step acceptAll) (fun _ _ => True) (Post.fresh ())
      [.read (ascii "\n\nDQoNCg=="), .handle] _ := .go trivial rfl (.go trivial ⟨1, rfl⟩ (.stop _))
  exact ⟨_, run, by decide, writesInside_iff_fits run⟩

/-! ## Full arrays -/

/-- Four letters `A` are three zero bytes. -/
theorem decodedBytes_replicate (count : Nat) :
    decodedBytes (List.replicate (4 * count) 65) = List.replicate (3 * count) 0 := by
  have four : ∀ rest, (Accumulator.empty.stream (65 :: 65 :: 65 :: 65 :: rest)).2 =
      0 :: 0 :: 0 :: (Accumulator.empty.stream rest).2 := fun rest => rfl
  induction count with
  | zero => rfl
  | succ count ih => exact (four _).trans (congrArg ([0, 0, 0] ++ ·) ih)

/-- Zero bytes hold no empty line. -/
theorem find_replicate (count : Nat) : find emptyLine (List.replicate count 0) = none := by
  induction count with
  | zero => rfl
  | succ count ih =>
    rw [List.replicate_succ, find, ih]
    simp [emptyLine]

/-- A POST whose header has ended, with so many letters `A` in `client_stream` and so many zero
bytes in `buffer`. -/
def filled (letters zeros : Nat) (received taken : List UInt8) : Post Unit :=
  ⟨.bodyRead, 0, List.replicate letters 65, List.replicate zeros 0, 0, ⟨(), true, []⟩, received,
    taken⟩

/-- A read of letters `A`. -/
theorem read_filled {letters zeros more : Nat} {received taken : List UInt8} (positive : 0 < more)
    (fits : letters + more ≤ clientStreamSize) :
    (filled letters zeros received taken).read (List.replicate more 65) =
      some (filled (letters + more) zeros (received ++ List.replicate more 65) taken) := by
  have nonempty : List.replicate more (65 : UInt8) ≠ [] := by
    rw [ne_eq, List.replicate_eq_nil_iff]
    omega
  have inside : ¬clientStreamSize < (filled letters zeros received taken).clientStreamPos +
      (List.replicate more (65 : UInt8)).length := by
    simp only [filled, clientStreamPos, List.length_replicate]
    omega
  have body : (filled letters zeros received taken).status = .bodyRead := rfl
  rw [read, if_neg (not_or.mpr ⟨nonempty, inside⟩), if_pos body]
  simp only [filled, List.replicate_append_replicate]

/-- The text of letters `A` is all of them. -/
theorem text_filled (letters zeros : Nat) (received taken : List UInt8) :
    (filled letters zeros received taken).text = List.replicate letters 65 := by
  simp [text, filled]

/-- Letters `A` are decoded by a call. -/
theorem called_filled {letters zeros : Nat} {received taken : List UInt8} (positive : 0 < letters) :
    (filled letters zeros received taken).Called := by
  refine ⟨rfl, ?_, rfl⟩
  simp only [filled, ne_eq, List.replicate_eq_nil_iff]
  omega

/-- A call that decodes letters `A` and finds no empty line. -/
theorem handle_filled (quanta : Nat) {received taken : List UInt8} (enough : 2 ≤ quanta)
    (fits : 3 * quanta < bufferSize) :
    (filled (4 * quanta) 0 received taken).handle acceptAll 1 =
      some (filled 0 (3 * quanta) received (taken ++ List.replicate (4 * quanta) 65)) := by
  have whole : (filled (4 * quanta) 0 received taken).decoded = List.replicate (3 * quanta) 0 := by
    have empty : (filled (4 * quanta) 0 received taken).buffer.length < bufferSize := bufferSize_pos
    refine ((decoded_eq_iff empty).mpr ?_).trans ?_ <;> rw [text_filled, decodedBytes_replicate]
    · simp only [filled, List.length_replicate]
      omega
    · rfl
  have waits : Handler.loop acceptAll 1 ⟨List.replicate (3 * quanta) 0, 0, 0, [], ⟨(), true, []⟩⟩ =
      some ⟨List.replicate (3 * quanta) 0, 0, 0, [], ⟨(), true, []⟩⟩ := by
    apply Handler.loop_unfinished
    · simp only [List.length_replicate]
      omega
    · exact find_replicate _
  have entry : (filled (4 * quanta) 0 received taken).entry =
      ⟨List.replicate (3 * quanta) 0, 0, 0, [], ⟨(), true, []⟩⟩ := by
    rw [Post.entry, whole]
    rfl
  rw [handle, if_pos (called_filled (by omega)), entry, waits, Option.map_some, finish, text_filled]
  rfl

/-- The header and one letter in a first read and as many letters as fit in a second: the
terminator is behind `client_stream`. Two texts with a call between them: the terminator is
inside, but the second text does not fit into `buffer` behind the first. -/
theorem writes_outside_full_arrays :
    (∃ acts post, Run (Post.Step acceptAll) (fun _ _ => True) (Post.fresh ()) acts post ∧
        post.Called ∧ ¬post.clientStreamPos < clientStreamSize) ∧
      ∃ acts post, Run (Post.Step acceptAll) (fun _ _ => True) (Post.fresh ()) acts post ∧
        post.Called ∧ post.decoded ≠ post.buffer ++ decodedBytes post.text := by
  have first : (Post.fresh ()).read [10, 10, 65] = some (filled 1 0 [10, 10, 65] []) := rfl
  constructor
  · refine ⟨[.read [10, 10, 65], .read (List.replicate 8191 65)], _,
      .go trivial first (.go trivial (read_filled (by decide) (by decide)) (.stop _)), ?_, ?_⟩
    · exact called_filled (by decide)
    · simp only [filled, clientStreamPos, List.length_replicate]
      decide
  · refine ⟨[.read [10, 10, 65], .read (List.replicate 7999 65), .handle,
      .read (List.replicate 8000 65)], _,
      .go trivial first (.go trivial (read_filled (by decide) (by decide))
        (.go trivial ⟨1, handle_filled 2000 (by decide) (by decide)⟩
          (.go trivial (read_filled (by decide) (by decide)) (.stop _)))), ?_, ?_⟩
    · exact called_filled (by decide)
    · rw [ne_eq, decoded_eq_iff (by simp only [filled, List.length_replicate]; decide), text_filled,
        show 0 + 8000 = 4 * 2000 from rfl, decodedBytes_replicate]
      simp only [filled, List.length_replicate]
      decide

end Post
end BoaIpcam
