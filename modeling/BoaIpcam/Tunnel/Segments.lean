import BoaIpcam.Tunnel.Bounds
import Mathlib.Data.List.TakeWhile

/-!
# How the body of the POST is cut into reads

The state machine of `read_header` keeps its state between two reads, and the handler keeps the
decoded bytes that are not a whole request yet. The decoder keeps nothing: `base64decode` starts
each call without bits. And when a call leaves one, two or three bytes behind the last empty
line its loop does not stop, and dispatches the last text again and again.

What a run dispatches is compared with reading the decoded body through a `Splitter`. As long as
no call starts inside a group of the decoder, and none leaves so short a rest, every way of
cutting the bytes dispatches the same texts as one read of all of them.
-/
namespace BoaIpcam

open Frames TransitionSystem

variable {σ : Type} {respond : σ → List UInt8 → σ × Bool}

/-! ## The header -/

/-- A header that has not ended leaves nothing. -/
theorem readHeader_unfinished {status : HeaderStatus} {bytes : List UInt8}
    (unfinished : (readHeader status bytes).1 ≠ .bodyRead) : (readHeader status bytes).2 = [] := by
  induction bytes generalizing status with
  | nil => cases status <;> rfl
  | cons c bytes ih =>
    by_cases finished : status = .bodyRead
    · rw [finished, readHeader_bodyRead] at unfinished
      exact absurd rfl unfinished
    · rw [readHeader_cons finished] at unfinished ⊢
      exact ih unfinished

/-- What follows the end of the header is left. -/
theorem readHeader_append_ended {status : HeaderStatus} {left : List UInt8}
    (ended : (readHeader status left).1 = .bodyRead) (right : List UInt8) :
    readHeader status (left ++ right) = (.bodyRead, (readHeader status left).2 ++ right) := by
  induction left generalizing status with
  | nil =>
    have body : status = .bodyRead := by
      cases status <;> first | rfl | cases ended
    rw [body, readHeader_bodyRead, readHeader_bodyRead, List.nil_append]
  | cons c left ih =>
    by_cases finished : status = .bodyRead
    · rw [finished, readHeader_bodyRead, readHeader_bodyRead]
    · rw [readHeader_cons finished] at ended ⊢
      rw [List.cons_append, readHeader_cons finished]
      exact ih ended

/-- A header that has not ended is read on. -/
theorem readHeader_append_unfinished {status : HeaderStatus} {left : List UInt8}
    (unfinished : (readHeader status left).1 ≠ .bodyRead) (right : List UInt8) :
    readHeader status (left ++ right) = readHeader (readHeader status left).1 right := by
  induction left generalizing status with
  | nil => cases status <;> rfl
  | cons c left ih =>
    by_cases finished : status = .bodyRead
    · rw [finished, readHeader_bodyRead] at unfinished
      exact absurd rfl unfinished
    · rw [readHeader_cons finished] at unfinished ⊢
      rw [List.cons_append, readHeader_cons finished]
      exact ih unfinished

/-! ## The decoder -/

/-- A decoder that continues after a text decodes the next text as a decoder that starts with it:
it holds no bits, or the next symbol is the padding, or there is none. -/
def Aligned (taken text : List UInt8) : Prop :=
  (Accumulator.empty.stream taken).1.bits = 0 ∨ ∀ val ∈ text.findSome? symbolValue, val = 64

instance (taken text : List UInt8) : Decidable (Aligned taken text) :=
  inferInstanceAs (Decidable (_ ∨ _))

/-- A legal accumulator without bits is empty. -/
theorem Accumulator.Legal.eq_empty {acc : Accumulator} (legal : acc.Legal) (none : acc.bits = 0) :
    acc = Accumulator.empty := by
  have small := legal.value_lt
  rw [none] at small
  cases acc
  simp only [Accumulator.empty, Accumulator.mk.injEq] at none small ⊢
  omega

/-- Up to the first symbol, which is the padding, any bits that are held do not matter. -/
theorem stream_of_padding (acc : Accumulator) (text : List UInt8)
    (padding : ∀ val ∈ text.findSome? symbolValue, val = 64) :
    (acc.stream text).2 = decodedBytes text := by
  induction text with
  | nil => rfl
  | cons c text ih =>
    cases found : symbolValue c with
    | none =>
      rw [List.findSome?_cons, found] at padding
      have skipped : ∀ acc : Accumulator, acc.feed c = (acc, []) := by
        intro acc
        simp only [Accumulator.feed, found]
      simp only [decodedBytes, Accumulator.stream, skipped, List.nil_append]
      exact ih padding
    | some val =>
      rw [List.findSome?_cons, found] at padding
      have pad : val = 64 := padding val rfl
      have reset : ∀ acc : Accumulator, acc.feed c = (Accumulator.empty, []) := by
        intro acc
        simp [Accumulator.feed, found, pad]
      simp only [decodedBytes, Accumulator.stream, reset]

/-- What a text decodes to begins with what its first part decodes to. -/
theorem decodedBytes_append (left right : List UInt8) :
    decodedBytes (left ++ right) =
      decodedBytes left ++ ((Accumulator.empty.stream left).1.stream right).2 := by
  rw [decodedBytes, Accumulator.stream_append]
  rfl

/-- A text cut at an aligned position decodes part by part. -/
theorem decodedBytes_append_of_aligned {left right : List UInt8} (aligned : Aligned left right) :
    decodedBytes (left ++ right) = decodedBytes left ++ decodedBytes right := by
  rw [decodedBytes_append]
  congr 1
  rcases aligned with none | padding
  · rw [(Accumulator.legal_empty.stream left).eq_empty none]
    rfl
  · exact stream_of_padding _ right padding

/-! ## The session -/

namespace Dialogue

/-- A session that is not active is given nothing. -/
theorem sayAll_inactive {dialogue : Dialogue σ} (closed : dialogue.active = false)
    (texts : List (List UInt8)) : dialogue.sayAll respond texts = dialogue := by
  cases texts with
  | nil => rfl
  | cons text texts => simp [sayAll, closed]

/-- Texts are dispatched one after the other. -/
theorem sayAll_append (dialogue : Dialogue σ) (left right : List (List UInt8)) :
    dialogue.sayAll respond (left ++ right) =
      (dialogue.sayAll respond left).sayAll respond right := by
  induction left generalizing dialogue with
  | nil => rfl
  | cons text left ih =>
    cases open' : dialogue.active with
    | false => rw [sayAll_inactive open', sayAll_inactive open', sayAll_inactive open']
    | true =>
      rw [List.cons_append, sayAll, sayAll, if_pos open', if_pos open', ih]

end Dialogue

/-! ## The handler -/

/-- The requests in a buffer, and the rest behind them. -/
def requests (bytes : List UInt8) : Splitter UInt8 := Splitter.empty.read emptyLine bytes

/-- Without an empty line there is no request. -/
theorem requests_of_find_none {bytes : List UInt8} (missing : find emptyLine bytes = none) :
    requests bytes = ⟨[], bytes⟩ :=
  read_of_find_none missing (by decide)

/-- Fewer than four bytes hold no empty line. -/
theorem requests_short {bytes : List UInt8} (short : bytes.length < 4) :
    requests bytes = ⟨[], bytes⟩ := by
  apply requests_of_find_none
  cases found : find emptyLine bytes with
  | none => rfl
  | some i =>
    have inside := (find_some found (by decide)).1
    simp only [emptyLine, List.length_cons, List.length_nil] at inside
    omega

/-- The first request ends with the first empty line. -/
theorem requests_of_find_some {bytes : List UInt8} {i : Nat} (found : find emptyLine bytes = some i) :
    requests bytes = ⟨bytes.take (i + 4) :: (requests (bytes.drop (i + 4))).done,
      (requests (bytes.drop (i + 4))).current⟩ :=
  (read_of_find_some found (by decide)).trans (read_done _ _ _)

/-- The rest of a buffer and more bytes hold the requests of all of them. -/
theorem requests_append (left right : List UInt8) :
    requests (left ++ right) =
      ⟨(requests left).done ++ (requests ((requests left).current ++ right)).done,
        (requests ((requests left).current ++ right)).current⟩ := by
  have again : requests (requests left).current = ⟨[], (requests left).current⟩ :=
    read_current Splitter.empty left rfl
  have continued : requests ((requests left).current ++ right) =
      Splitter.read emptyLine ⟨[], (requests left).current⟩ right := by
    rw [← again]
    exact read_append _ _ _
  rw [continued]
  exact (read_append _ _ _).trans (read_done _ _ _)

/-- After the requests in a buffer the session is closed, or the rest is not so short that the loop
of the handler does not scan it. -/
def Ends (respond : σ → List UInt8 → σ × Bool) (dialogue : Dialogue σ) (bytes : List UInt8) : Prop :=
  (dialogue.sayAll respond (requests bytes).done).active = true →
    (requests bytes).current = [] ∨ 4 ≤ (requests bytes).current.length

instance (respond : σ → List UInt8 → σ × Bool) (dialogue : Dialogue σ) (bytes : List UInt8) :
    Decidable (Ends respond dialogue bytes) :=
  inferInstanceAs (Decidable (_ → _ ∨ _))

namespace Handler

/-- The rest after a text was taken. -/
theorem rest_take (h : Handler σ) (i : Nat) : (h.take i).rest = h.rest.drop (i + 4) := by
  unfold rest take
  rw [List.drop_drop]
  by_cases last : h.buffer.length ≤ h.bufferStart + (i + 4)
  · rw [if_pos last, if_pos last, List.drop_eq_nil_of_le last]
    rfl
  · rw [if_neg last, if_neg last]

/-- Taking a text does not make the buffer longer. -/
theorem length_buffer_take (h : Handler σ) (i : Nat) :
    (h.take i).buffer.length ≤ h.buffer.length := by
  simp only [take]
  split
  · exact Nat.zero_le _
  · exact Nat.le_refl _

/-- There is a rest when the loop has not reached the end of the buffer. -/
theorem rest_ne_nil_iff (h : Handler σ) : h.rest ≠ [] ↔ h.bufferStart < h.buffer.length := by
  rw [ne_eq, rest, List.drop_eq_nil_iff, Nat.not_le]

/-- A round of the loop dispatches the first request in the buffer and leaves the others. -/
structure Round (respond : σ → List UInt8 → σ × Bool) (h next : Handler σ) : Prop where
  /-- The positions stay in order. -/
  within : next.Within
  /-- What was read fits the request's buffer. -/
  bytesRead_lt : next.bytesRead < rtspBufferSize
  /-- The request had four bytes at least. -/
  rest_length : next.rest.length + 4 ≤ h.rest.length
  /-- The buffer does not grow. -/
  buffer_length : next.buffer.length ≤ h.buffer.length
  /-- The session is given the request. -/
  dialogue : h.dialogue.sayAll respond (requests h.rest).done =
    next.dialogue.sayAll respond (requests next.rest).done
  /-- The last request is the same. -/
  current : (requests h.rest).current = (requests next.rest).current

/-- The round in which the scan finds an empty line. -/
theorem Round.of_find {h : Handler σ} {i : Nat} (within : h.Within)
    (active : h.dialogue.active = true) (found : find emptyLine h.rest = some i) :
    Round respond h ((h.take i).dispatch respond) := by
  have inside : i + 4 ≤ h.rest.length := (find_some found (by decide)).1
  have size : h.rest.length = h.buffer.length - h.bufferStart := List.length_drop
  have end_lt : h.buffer.length < rtspBufferSize := Nat.lt_trans within.end_lt (by decide)
  have short : i + 4 < rtspBufferSize := by omega
  have said : (h.take i).dispatch respond = { h.take i with
      dialogue := h.dialogue.say respond (h.rest.take (i + 4)) } :=
    if_pos ⟨Nat.succ_ne_zero _, short⟩
  have rest : ((h.take i).dispatch respond).rest = h.rest.drop (i + 4) := by
    rw [said, ← rest_take]
    rfl
  have split := requests_of_find_some found
  rw [← rest] at split
  refine ⟨(within.take i).dispatch, ?_, ?_, ?_, ?_, ?_⟩
  · rw [said]
    exact short
  · rw [rest, List.length_drop]
    omega
  · rw [said]
    exact length_buffer_take h i
  · rw [split, Dialogue.sayAll, if_pos active, said]
  · rw [split]

/-- The loop dispatches the requests in the buffer as long as the session is active and keeps the
rest, when the rest is none that it does not scan. -/
theorem loop_spec {rounds : Nat} {h : Handler σ} (within : h.Within)
    (active : h.dialogue.active = true) (ends : Ends respond h.dialogue h.rest)
    (entry : h.bytesRead = 0 ∨ h.rest ≠ []) (short : h.bytesRead < rtspBufferSize)
    (enough : h.rest.length < rounds) :
    ∃ h', loop respond rounds h = some h' ∧
      h'.dialogue = h.dialogue.sayAll respond (requests h.rest).done ∧
      (h'.dialogue.active = true → h'.rest = (requests h.rest).current) ∧
      h'.bytesRead < rtspBufferSize ∧ h'.buffer.length ≤ h.buffer.length := by
  -- every round takes at least four bytes out of the rest
  induction rounds generalizing h with
  | zero => omega
  | succ rounds ih =>
    have start_le := within.start_le
    have size : h.rest.length = h.buffer.length - h.bufferStart := List.length_drop
    by_cases few : h.buffer.length < h.bufferStart + 4
    · -- the scan is skipped; with a rest of one to three bytes the loop would go on
      have whole : requests h.rest = ⟨[], h.rest⟩ := requests_short (by omega)
      rw [Ends, whole] at ends
      have none : h.rest = [] := by
        rcases ends active with none | many
        · exact none
        · dsimp only at many
          omega
      have first : h.bytesRead = 0 := by
        rcases entry with first | more
        · exact first
        · exact absurd none more
      have quiet : h.dispatch respond = h := if_neg (by omega)
      have stops : ¬h.Goes := by
        intro goes
        exact (h.rest_ne_nil_iff.mpr goes.2) none
      refine ⟨h, ?_, ?_, ?_, short, Nat.le_refl _⟩
      · rw [loop, if_pos few]
        simp only [quiet, if_neg stops]
      · rw [whole]
        rfl
      · intro _
        rw [whole]
    · cases found : find emptyLine h.rest with
      | none =>
        have whole := requests_of_find_none found
        refine ⟨h, loop_unfinished (by omega) found, ?_, ?_, short, Nat.le_refl _⟩
        · rw [whole]
          rfl
        · intro _
          rw [whole]
      | some i =>
        have round := @Round.of_find σ respond h i within active found
        rw [loop, if_neg few]
        simp only [found]
        generalize (h.take i).dispatch respond = next at round ⊢
        have shorter := round.rest_length
        rw [round.dialogue, round.current]
        by_cases goes : next.Goes
        · have ends' : Ends respond next.dialogue next.rest := by
            unfold Ends at ends ⊢
            rwa [round.dialogue, round.current] at ends
          obtain ⟨h', looped, dialogue, rest, bytes, length⟩ :=
            ih round.within goes.1 ends' (.inr (next.rest_ne_nil_iff.mpr goes.2))
              round.bytesRead_lt (by omega)
          rw [if_pos goes]
          exact ⟨h', looped, dialogue, rest, bytes, Nat.le_trans length round.buffer_length⟩
        · rw [if_neg goes]
          have over' : next.dialogue.active = false ∨ next.rest = [] := by
            cases closed : next.dialogue.active with
            | false => exact .inl rfl
            | true =>
              refine .inr (Classical.byContradiction fun more => goes ⟨closed, ?_⟩)
              exact next.rest_ne_nil_iff.mp more
          refine ⟨next, rfl, ?_, ?_, round.bytesRead_lt, round.buffer_length⟩
          · rcases over' with closed | none
            · rw [Dialogue.sayAll_inactive closed]
            · rw [none]
              rfl
          · intro active'
            rcases over' with closed | none
            · rw [closed] at active'
              cases active'
            · rw [none]
              rfl

/-- With one to three bytes and no text before them the loop does not stop. -/
theorem loop_stuck {h : Handler σ} (first : h.bytesRead = 0) (active : h.dialogue.active = true)
    (more : h.bufferStart < h.buffer.length) (few : h.buffer.length < h.bufferStart + 4)
    (rounds : Nat) : loop respond rounds h = none := by
  have quiet : h.dispatch respond = h := if_neg (by omega)
  induction rounds with
  | zero => rfl
  | succ rounds ih =>
    rw [loop, if_pos few]
    simp only [quiet, if_pos (show h.Goes from ⟨active, more⟩)]
    exact ih

/-- More rounds than enough do not change the result. -/
theorem loop_mono {rounds rounds' : Nat} {h h' : Handler σ} (more : rounds ≤ rounds')
    (done : loop respond rounds h = some h') : loop respond rounds' h = some h' := by
  induction rounds generalizing h rounds' with
  | zero => cases done
  | succ rounds ih =>
    cases rounds' with
    | zero => omega
    | succ rounds' =>
      have more' : rounds ≤ rounds' := by omega
      rw [loop] at done ⊢
      by_cases few : h.buffer.length < h.bufferStart + 4
      · simp only [if_pos few] at done ⊢
        by_cases goes : (h.dispatch respond).Goes
        · rw [if_pos goes] at done ⊢
          exact ih more' done
        · rwa [if_neg goes] at done ⊢
      · simp only [if_neg few] at done ⊢
        cases found : find emptyLine h.rest with
        | none => rwa [found] at done
        | some i =>
          simp only [found] at done ⊢
          by_cases goes : ((h.take i).dispatch respond).Goes
          · rw [if_pos goes] at done ⊢
            exact ih more' done
          · rwa [if_neg goes] at done ⊢

end Handler

/-! ## Runs -/

/-- The session at the start of a POST. -/
def Dialogue.start (session : σ) : Dialogue σ := ⟨session, true, []⟩

/-- The body of a POST as far as it is among these bytes. -/
def bodyOf (received : List UInt8) : List UInt8 := (readHeader .readHeader received).2

/-- The bytes fit into `client_stream` in one read, and what the body decodes to fits into `buffer`
with its terminator. The body is text. -/
structure FitsOneRead (received : List UInt8) : Prop where
  /-- The bytes fit `client_stream`. -/
  stream : received.length ≤ clientStreamSize
  /-- The body has no NUL. -/
  text : 0 ∉ bodyOf received
  /-- What it decodes to fits `buffer`. -/
  buffer : (decodedBytes (bodyOf received)).length < bufferSize

/-- More bytes extend the body. -/
theorem bodyOf_append (left right : List UInt8) :
    ∃ more, bodyOf (left ++ right) = bodyOf left ++ more := by
  by_cases ended : (readHeader .readHeader left).1 = .bodyRead
  · refine ⟨right, ?_⟩
    rw [bodyOf, readHeader_append_ended ended]
    rfl
  · refine ⟨bodyOf (left ++ right), ?_⟩
    rw [bodyOf.eq_def left, readHeader_unfinished ended, List.nil_append]

/-- What fits in one read, its first part fits. -/
theorem FitsOneRead.left {left right : List UInt8} (fits : FitsOneRead (left ++ right)) :
    FitsOneRead left := by
  obtain ⟨more, extended⟩ := bodyOf_append left right
  have stream := fits.stream
  have text := fits.text
  have buffer := fits.buffer
  rw [List.length_append] at stream
  rw [extended, List.mem_append, not_or] at text
  rw [extended, decodedBytes_append, List.length_append] at buffer
  exact ⟨by omega, text.1, by omega⟩

namespace Post

/-- The bytes in `buffer` that have not been dispatched and what the text decodes to. -/
def pending (post : Post σ) : List UInt8 :=
  post.buffer.drop post.bufferStart ++ decodedBytes post.stream

/-- A call of the handler starts at a position of the text where the decoder would hold no bits, and
does not leave a rest of one, two or three bytes to an active session. -/
def CutsWell (respond : σ → List UInt8 → σ × Bool) (post : Post σ) : Act → Prop
  | .read _ => True
  | .handle => post.Called →
      Aligned post.taken post.stream ∧ Ends respond post.dialogue post.pending

/-- What has been done so far is what the text that has been decoded says. -/
structure Agrees (respond : σ → List UInt8 → σ × Bool) (session : σ) (post : Post σ) : Prop where
  /-- The header is read so far. -/
  header : readHeader .readHeader post.received = (post.status, post.taken ++ post.stream)
  /-- The session was given the requests that have ended. -/
  dialogue : post.dialogue = (Dialogue.start session).sayAll respond
    (requests (decodedBytes post.taken)).done
  /-- The one that has not is in the buffer. -/
  rest : post.dialogue.active = true →
    post.buffer.drop post.bufferStart = (requests (decodedBytes post.taken)).current
  /-- It is empty or has four bytes at least. -/
  scanned : post.dialogue.active = true → (requests (decodedBytes post.taken)).current = [] ∨
    4 ≤ (requests (decodedBytes post.taken)).current.length
  /-- The buffer holds no more than was decoded. -/
  buffer_length : post.buffer.length ≤ (decodedBytes post.taken).length

/-- A new request. -/
theorem Agrees.fresh (session : σ) : (Post.fresh session).Agrees respond session :=
  ⟨rfl, rfl, fun _ => rfl, fun _ => .inl rfl, Nat.le_refl _⟩

/-- Before the end of the header there is no body, and the next bytes continue the header. -/
theorem Agrees.unfinished {session : σ} {post : Post σ} (agrees : post.Agrees respond session)
    (unfinished : post.status ≠ .bodyRead) (bytes : List UInt8) :
    post.taken ++ post.stream = [] ∧
      readHeader .readHeader (post.received ++ bytes) = readHeader post.status bytes := by
  have header := agrees.header
  have going : (readHeader .readHeader post.received).1 ≠ .bodyRead := by
    rw [header]
    exact unfinished
  have none := readHeader_unfinished going
  have continued := readHeader_append_unfinished going bytes
  rw [header] at none continued
  exact ⟨none, continued⟩

/-- A read continues the header or the body. -/
theorem Agrees.read {session : σ} {post post' : Post σ} {bytes : List UInt8}
    (agrees : post.Agrees respond session) (done : post.read bytes = some post') :
    post'.Agrees respond session := by
  obtain ⟨_, _, cases⟩ := read_cases done
  rcases cases with ⟨body, rfl⟩ | ⟨unfinished, left, ended, rfl⟩ | ⟨unfinished, going, rfl⟩
  · refine ⟨?_, agrees.dialogue, agrees.rest, agrees.scanned, agrees.buffer_length⟩
    have header := agrees.header
    have ended : (readHeader .readHeader post.received).1 = .bodyRead := by
      rw [header]
      exact body
    have continued := readHeader_append_ended ended bytes
    rw [header] at continued
    simp only [continued, body, List.append_assoc]
  · obtain ⟨nothing, continued⟩ := agrees.unfinished unfinished bytes
    have taken : post.taken = [] := (List.append_eq_nil_iff.mp nothing).1
    refine ⟨?_, agrees.dialogue, ?_, agrees.scanned, Nat.zero_le _⟩
    · simp only [continued, ended, taken, List.nil_append]
    · intro _
      simp only [taken]
      rfl
  · obtain ⟨nothing, continued⟩ := agrees.unfinished unfinished bytes
    refine ⟨?_, agrees.dialogue, agrees.rest, agrees.scanned, agrees.buffer_length⟩
    simp only [continued, nothing]
    exact Prod.ext rfl (readHeader_unfinished going)

/-- The body is what has been decoded and what has not. -/
theorem Agrees.bodyOf_eq {session : σ} {post : Post σ} (agrees : post.Agrees respond session) :
    bodyOf post.received = post.taken ++ post.stream := by
  rw [bodyOf, agrees.header]

/-- A text without a terminator is the whole of `client_stream`. -/
theorem text_eq {post : Post σ} (text : 0 ∉ post.stream) : post.text = post.stream := by
  unfold Post.text
  rw [List.takeWhile_eq_self_iff]
  intro c member
  have other : c ≠ 0 := fun zero => text (zero ▸ member)
  exact decide_eq_true other

/-- The handler decodes the whole text behind the bytes that are in `buffer`, when the body fits and
was cut at an aligned position. -/
theorem Agrees.decoded {session : σ} {post : Post σ} (agrees : post.Agrees respond session)
    (within : post.Within) (aligned : Aligned post.taken post.stream)
    (fits : FitsOneRead post.received) :
    post.text = post.stream ∧ post.decoded = post.buffer ++ decodedBytes post.stream ∧
      post.decoded.length < bufferSize := by
  have buffer_length := agrees.buffer_length
  have room := fits.buffer
  have text := fits.text
  rw [agrees.bodyOf_eq, decodedBytes_append_of_aligned aligned, List.length_append] at room
  rw [agrees.bodyOf_eq, List.mem_append, not_or] at text
  have same := text_eq text.2
  have decoded : post.decoded = post.buffer ++ decodedBytes post.stream := by
    have whole := (decoded_eq_iff within.end_lt).mpr
    rw [same] at whole
    apply whole
    omega
  refine ⟨same, decoded, ?_⟩
  rw [decoded, List.length_append]
  omega

/-- The requests in what has been decoded and in what is decoded now. -/
theorem Agrees.requests_eq {session : σ} {post : Post σ} (agrees : post.Agrees respond session)
    (active : post.dialogue.active = true) (aligned : Aligned post.taken post.stream) :
    requests (decodedBytes (post.taken ++ post.stream)) =
      ⟨(requests (decodedBytes post.taken)).done ++ (requests post.pending).done,
        (requests post.pending).current⟩ := by
  rw [decodedBytes_append_of_aligned aligned, requests_append, ← agrees.rest active]
  rfl

/-- A call that cuts well returns and does what the decoded text says. -/
theorem Agrees.handle {session : σ} {post : Post σ} (agrees : post.Agrees respond session)
    (within : post.Within) (called : post.Called) (well : post.CutsWell respond .handle)
    (fits : FitsOneRead post.received) :
    ∃ rounds post', post.handle respond rounds = some post' ∧ post'.Agrees respond session ∧
      post'.stream = [] := by
  obtain ⟨aligned, ends⟩ := well called
  have start_le := within.start_le
  obtain ⟨text, decoded, room⟩ := agrees.decoded within aligned fits
  have rest : post.entry.rest = post.pending := by
    rw [Handler.rest, Post.entry, decoded]
    exact List.drop_append_of_le_length start_le
  have inside : post.entry.Within := by
    refine ⟨?_, room⟩
    simp only [Post.entry, decoded, List.length_append]
    omega
  have unread : (0 : Nat) < rtspBufferSize := by decide
  obtain ⟨h, looped, dialogue, left, short, shorter⟩ := @Handler.loop_spec σ respond _ _ inside
    called.2.2 (by rw [rest]; exact ends) (.inl rfl) unread (Nat.lt_succ_self _)
  rw [rest] at dialogue left
  have active : (post.dialogue.sayAll respond (requests post.pending).done).active =
      h.dialogue.active := congrArg Dialogue.active dialogue.symm
  have finished : post.finish h = { post with
      stream := [], buffer := h.buffer, bufferStart := h.bufferStart, dialogue := h.dialogue
      taken := post.taken ++ post.stream } := by
    simp only [finish, text, short, decide_true, Bool.and_true]
  have returned : post.handle respond post.entry.rest.length.succ = some (post.finish h) := by
    rw [Post.handle, if_pos called, looped]
    rfl
  have frames := agrees.requests_eq called.2.2 aligned
  refine ⟨_, _, returned, ?_, rfl⟩
  rw [finished]
  refine ⟨?_, ?_, ?_, ?_, ?_⟩
  · rw [List.append_nil]
    exact agrees.header
  · rw [frames, Dialogue.sayAll_append, ← agrees.dialogue]
    exact dialogue
  · rw [frames]
    exact left
  · rw [frames, ← active]
    exact ends
  · have buffer_length := agrees.buffer_length
    simp only [Post.entry, decoded, List.length_append] at shorter
    rw [decodedBytes_append_of_aligned aligned, List.length_append]
    dsimp only
    omega

/-- Two calls that return have done the same. -/
theorem handle_unique {post next next' : Post σ} {rounds rounds' : Nat}
    (done : post.handle respond rounds = some next)
    (done' : post.handle respond rounds' = some next') : next = next' := by
  unfold Post.handle at done done'
  by_cases called : post.Called
  · rw [if_pos called] at done done'
    obtain ⟨h, looped, same⟩ := Option.map_eq_some_iff.mp done
    obtain ⟨h', looped', same'⟩ := Option.map_eq_some_iff.mp done'
    have more := Handler.loop_mono (Nat.le_max_left rounds rounds') looped
    have more' := Handler.loop_mono (Nat.le_max_right rounds rounds') looped'
    rw [more] at more'
    cases more'
    exact same.symm.trans same'
  · rw [if_neg called] at done done'
    cases done
    cases done'
    rfl

/-- A call reads nothing. -/
theorem handle_received {post next : Post σ} {rounds : Nat}
    (done : post.handle respond rounds = some next) : next.received = post.received := by
  unfold Post.handle at done
  split at done
  · obtain ⟨h, _, same⟩ := Option.map_eq_some_iff.mp done
    rw [← same]
    rfl
  · cases done
    rfl

/-- Every action that cuts well keeps the agreement, when all that was read fits in one read. -/
theorem Agrees.step {session : σ} {post post' : Post σ} {act : Act} (within : post.Within)
    (agrees : FitsOneRead post.received → post.Agrees respond session)
    (well : post.CutsWell respond act) (step : post.Step respond act post')
    (fits : FitsOneRead post'.received) : post'.Agrees respond session := by
  cases act with
  | read bytes =>
    have received : post'.received = post.received ++ bytes := by
      obtain ⟨_, _, cases⟩ := read_cases step
      rcases cases with ⟨-, rfl⟩ | ⟨-, left, -, rfl⟩ | ⟨-, -, rfl⟩ <;> rfl
    rw [received] at fits
    exact (agrees fits.left).read step
  | handle =>
    obtain ⟨rounds, done⟩ := step
    by_cases called : post.Called
    · rw [handle_received done] at fits
      obtain ⟨rounds', next, done', agrees', _⟩ := (agrees fits).handle within called well fits
      rw [handle_unique done done']
      exact agrees'
    · rw [Post.handle, if_neg called] at done
      cases done
      exact agrees fits

/-- Runs that cut well agree with the decoded text, when all that was read fits in one read. -/
theorem Agrees.run {session : σ} {acts : List Act} {post : Post σ}
    (run : Run (Post.Step respond) (CutsWell respond) (Post.fresh session) acts post)
    (fits : FitsOneRead post.received) : post.Agrees respond session := by
  have preserved : ∀ (post : Post σ) (act : Act) (next : Post σ),
      (post.Within ∧ (FitsOneRead post.received → post.Agrees respond session)) →
      post.CutsWell respond act → post.Step respond act next →
      next.Within ∧ (FitsOneRead next.received → next.Agrees respond session) := by
    intro post act next inv well step
    exact ⟨inv.1.step step, Agrees.step inv.1 inv.2 well step⟩
  have both := Run.invariant _ preserved run ⟨Within.fresh session, fun _ => Agrees.fresh session⟩
  exact both.2 fits

/-- When the text was decoded, or the session is closed, the whole body says no more. -/
theorem Agrees.whole {session : σ} {post : Post σ} (agrees : post.Agrees respond session)
    (handled : post.stream = [] ∨ post.dialogue.active = false) :
    post.dialogue = (Dialogue.start session).sayAll respond
        (requests (decodedBytes (bodyOf post.received))).done ∧
      Ends respond (Dialogue.start session) (decodedBytes (bodyOf post.received)) := by
  rw [Ends, agrees.bodyOf_eq]
  rcases handled with none | closed
  · rw [none, List.append_nil, ← agrees.dialogue]
    exact ⟨rfl, agrees.scanned⟩
  · have more : (Dialogue.start session).sayAll respond
        (requests (decodedBytes (post.taken ++ post.stream))).done = post.dialogue := by
      rw [decodedBytes_append, requests_append, Dialogue.sayAll_append, ← agrees.dialogue]
      exact Dialogue.sayAll_inactive closed _
    rw [more, closed]
    exact ⟨rfl, by simp⟩

/-- A read of bytes for which there is room returns them. -/
theorem read_fits {post : Post σ} {bytes : List UInt8} (nonempty : bytes ≠ [])
    (fits : post.clientStreamPos + bytes.length ≤ clientStreamSize) :
    ∃ post', post.read bytes = some post' := by
  rw [Post.read, if_neg (not_or.mpr ⟨nonempty, Nat.not_lt.mpr fits⟩)]
  split
  · exact ⟨_, rfl⟩
  · split <;> exact ⟨_, rfl⟩

/-- One read of all bytes and one call. -/
theorem Agrees.one_read {session : σ} {received : List UInt8} (nonempty : received ≠ [])
    (fits : FitsOneRead received)
    (ends : Ends respond (Dialogue.start session) (decodedBytes (bodyOf received))) :
    ∃ whole, Run (Post.Step respond) (fun _ _ => True) (Post.fresh session)
        [.read received, .handle] whole ∧
      whole.dialogue = (Dialogue.start session).sayAll respond
        (requests (decodedBytes (bodyOf received))).done := by
  have room : (Post.fresh session).clientStreamPos + received.length ≤ clientStreamSize := by
    simpa [Post.fresh, clientStreamPos] using fits.stream
  obtain ⟨post, done⟩ := read_fits nonempty room
  have agrees : post.Agrees respond session := (Agrees.fresh session).read done
  obtain ⟨all, taken⟩ : post.received = received ∧ post.taken = [] := by
    obtain ⟨_, _, cases⟩ := read_cases done
    rcases cases with ⟨-, rfl⟩ | ⟨-, left, -, rfl⟩ | ⟨-, -, rfl⟩ <;> exact ⟨rfl, rfl⟩
  have start : post.dialogue = Dialogue.start session := by
    rw [agrees.dialogue, taken]
    rfl
  have body : bodyOf received = post.stream := by
    rw [← all, agrees.bodyOf_eq, taken, List.nil_append]
  by_cases called : post.Called
  · have pending : post.pending = decodedBytes post.stream := by
      rw [Post.pending, agrees.rest called.2.2, taken]
      rfl
    have well : post.CutsWell respond .handle := by
      intro _
      rw [taken, start, pending, ← body]
      exact ⟨.inl rfl, ends⟩
    rw [← all] at fits
    obtain ⟨rounds, whole, handled, agrees', decoded⟩ :=
      agrees.handle ((Within.fresh session).read done) called well fits
    refine ⟨whole, .go trivial done (.go trivial ⟨rounds, handled⟩ (.stop _)), ?_⟩
    have same : whole.received = received := by
      rw [handle_received handled, all]
    rw [← same]
    exact (agrees'.whole (.inl decoded)).1
  · have none : post.stream = [] := by
      by_cases ended : post.status = .bodyRead
      · apply Classical.byContradiction
        intro some'
        exact called ⟨ended, some', by rw [start]; rfl⟩
      · exact (List.append_eq_nil_iff.mp (agrees.unfinished ended []).1).2
    refine ⟨post, .go trivial done (.go trivial ⟨0, if_neg called⟩ (.stop _)), ?_⟩
    rw [start, body, none]
    rfl

/-- In every run whose calls cut well, and whose bytes fit in one read: the next call that cuts well
returns; and when the text has been decoded, or the session is closed, the texts that were
dispatched are those that one read of all bytes and one call dispatch. -/
theorem dispatched_eq_one_read {session : σ} {acts : List Act} {post : Post σ}
    (run : Run (Post.Step respond) (CutsWell respond) (Post.fresh session) acts post)
    (nonempty : post.received ≠ []) (fits : FitsOneRead post.received) :
    (post.CutsWell respond .handle → ∃ next, post.Step respond .handle next) ∧
      ((post.stream = [] ∨ post.dialogue.active = false) →
        ∃ whole, Run (Post.Step respond) (fun _ _ => True) (Post.fresh session)
            [.read post.received, .handle] whole ∧
          whole.dialogue.dispatched = post.dialogue.dispatched) := by
  have agrees := Agrees.run run fits
  constructor
  · intro well
    by_cases called : post.Called
    · obtain ⟨rounds, next, done, _⟩ := agrees.handle (Within.run run) called well fits
      exact ⟨next, rounds, done⟩
    · exact ⟨post, 0, if_neg called⟩
  · intro handled
    obtain ⟨dialogue, ends⟩ := agrees.whole handled
    obtain ⟨whole, one, same⟩ := Agrees.one_read nonempty fits ends
    exact ⟨whole, one, by rw [same, ← dialogue]⟩

/-- A POST whose body is cut after the second group of four letters. -/
theorem dispatched_eq_one_read_two_groups :
    ∃ post, Run (Post.Step acceptAll) (CutsWell acceptAll) (Post.fresh ())
        [.read (ascii "\n\nQUJDREUN"), .handle, .read (ascii "Cg0K"), .handle] post ∧
      post.dialogue.dispatched = [ascii "ABCDE\r\n\r\n"] ∧
      ((post.CutsWell acceptAll .handle → ∃ next, post.Step acceptAll .handle next) ∧
      ((post.stream = [] ∨ post.dialogue.active = false) →
        ∃ whole, Run (Post.Step acceptAll) (fun _ _ => True) (Post.fresh ())
            [.read post.received, .handle] whole ∧
          whole.dialogue.dispatched = post.dialogue.dispatched)) := by
  have run : Run (Post.Step acceptAll) (CutsWell acceptAll) (Post.fresh ())
      [.read (ascii "\n\nQUJDREUN"), .handle, .read (ascii "Cg0K"), .handle] _ :=
    .go trivial rfl (.go (fun _ => ⟨by decide, by decide⟩) ⟨1, rfl⟩
      (.go trivial rfl (.go (fun _ => ⟨by decide, by decide⟩) ⟨1, rfl⟩ (.stop _))))
  exact ⟨_, run, by decide, dispatched_eq_one_read run (by decide)
    ⟨by decide, by decide, by decide⟩⟩

/-- The same body, cut inside the second group, is read to its end and nothing is dispatched; cut
after the first group, it keeps the first call from returning. -/
theorem dispatched_depends_on_cuts :
    (∃ post whole, Run (Post.Step acceptAll) (fun _ _ => True) (Post.fresh ())
        [.read (ascii "\n\nQUJDRE"), .handle, .read (ascii "UNCg0K"), .handle] post ∧
      Run (Post.Step acceptAll) (fun _ _ => True) (Post.fresh ())
        [.read (ascii "\n\nQUJDREUNCg0K"), .handle] whole ∧
      whole.dialogue.dispatched = [ascii "ABCDE\r\n\r\n"] ∧ post.dialogue.dispatched = []) ∧
    ∃ post, (Post.fresh ()).Step acceptAll (.read (ascii "\n\nQUJD")) post ∧
      ∀ next, ¬post.Step acceptAll .handle next := by
  constructor
  · refine ⟨_, _, .go trivial rfl (.go trivial ⟨1, rfl⟩ (.go trivial rfl
      (.go trivial ⟨1, rfl⟩ (.stop _)))), .go trivial rfl (.go trivial ⟨1, rfl⟩ (.stop _)), ?_, ?_⟩
    · decide
    · decide
  · refine ⟨_, rfl, ?_⟩
    rintro next ⟨rounds, returned⟩
    rw [Post.handle, if_pos (by decide)] at returned
    rw [Handler.loop_stuck rfl rfl (by decide) (by decide)] at returned
    cases returned

end Post
end BoaIpcam
