import BoaIpcam.Tunnel.Segments

/-!
# What one call does with the decoded buffer

The loop of `incomingRequestHandler1` stops when the session is closed, when nothing is left behind
the last request, or when a scan of at least four bytes finds no empty line. One, two or three
bytes behind the last request are not scanned: without a request before them the loop goes round
without end, and with one it dispatches that request again.
-/
namespace BoaIpcam

open Frames

variable {σ : Type} {respond : σ → List UInt8 → σ × Bool}

/-- `buffer[0..buffer_end)` and `buffer_start` when the loop begins. The decoder leaves room for the
terminator. -/
structure DecodedBuffer where
  /-- The bytes. -/
  bytes : List UInt8
  /-- Where the next request starts. -/
  start : Nat
  /-- It is not behind the end. -/
  start_le : start ≤ bytes.length
  /-- There is room for a terminator. -/
  end_lt : bytes.length < bufferSize

namespace DecodedBuffer

/-- The variables of the handler when its loop begins. -/
def entry (decoded : DecodedBuffer) (dialogue : Dialogue σ) : Handler σ :=
  ⟨decoded.bytes, decoded.start, 0, [], dialogue⟩

/-- The bytes between `buffer_start` and `buffer_end`. -/
def pending (decoded : DecodedBuffer) : List UInt8 := decoded.bytes.drop decoded.start

end DecodedBuffer

/-- None of the texts but the last one ends the session. -/
def Dialogue.HearsOut (respond : σ → List UInt8 → σ × Bool) (dialogue : Dialogue σ)
    (texts : List (List UInt8)) : Prop :=
  ∀ n < texts.length, (dialogue.sayAll respond (texts.take n)).active = true

instance (dialogue : Dialogue σ) (texts : List (List UInt8)) :
    Decidable (dialogue.HearsOut respond texts) :=
  inferInstanceAs (Decidable (∀ n < texts.length, _ = true))

/-- A session hears out no texts. -/
theorem Dialogue.hearsOut_nil (dialogue : Dialogue σ) : dialogue.HearsOut respond [] :=
  fun n below => absurd below (Nat.not_lt_zero n)

/-- An active session hears out a list of texts when it is the only one or leaves the session active,
and the session hears out the others. -/
theorem Dialogue.hearsOut_cons {dialogue : Dialogue σ} (active : dialogue.active = true)
    (text : List UInt8) (texts : List (List UInt8)) :
    dialogue.HearsOut respond (text :: texts) ↔
      (texts ≠ [] → (dialogue.say respond text).active = true) ∧
        (dialogue.say respond text).HearsOut respond texts := by
  have said : ∀ more, dialogue.sayAll respond (text :: more) =
      (dialogue.say respond text).sayAll respond more := fun more => if_pos active
  constructor
  · intro hears
    constructor
    · intro more
      have second := hears 1 (by
        have := List.length_pos_iff.mpr more
        simp only [List.length_cons]
        omega)
      rw [List.take_succ_cons, said, List.take_zero] at second
      exact second
    · intro n less
      have later := hears (n + 1) (Nat.succ_lt_succ less)
      rwa [List.take_succ_cons, said] at later
  · rintro ⟨-, rest⟩ n less
    cases n with
    | zero => exact active
    | succ n =>
      rw [List.take_succ_cons, said]
      exact rest n (Nat.lt_of_succ_lt_succ less)

/-- Without an ended frame everything is in the current one. -/
theorem requests_current {bytes : List UInt8} (none : (requests bytes).done = []) :
    (requests bytes).current = bytes := by
  cases found : find emptyLine bytes with
  | none => rw [requests_of_find_none found]
  | some i =>
    rw [requests_of_find_some found] at none
    cases none

namespace Handler

/-- The loop ends, each request that is complete was dispatched once and in order, and what stays in
the buffer are the bytes behind the last of them. -/
def ReadsAll (respond : σ → List UInt8 → σ × Bool) (h : Handler σ) : Prop :=
  ∃ rounds h', h.loop respond rounds = some h' ∧
    h'.dialogue.dispatched = h.dialogue.dispatched ++ (requests h.rest).done ∧
    h'.rest = (requests h.rest).current

/-- The loop takes nothing back of what was dispatched. -/
theorem loop_dispatched {rounds : Nat} {h h' : Handler σ}
    (done : loop respond rounds h = some h') :
    h.dialogue.dispatched.length ≤ h'.dialogue.dispatched.length := by
  have dispatch_le : ∀ h : Handler σ,
      h.dialogue.dispatched.length ≤ (h.dispatch respond).dialogue.dispatched.length := by
    intro h
    unfold dispatch
    split
    · simp [Dialogue.say]
    · exact Nat.le_refl _
  induction rounds generalizing h with
  | zero => cases done
  | succ rounds ih =>
    rw [loop] at done
    split at done
    · dsimp only at done
      split at done
      · exact Nat.le_trans (dispatch_le h) (ih done)
      · cases done
        exact dispatch_le h
    · split at done
      · cases done
        exact Nat.le_refl _
      · rename_i i _
        dsimp only at done
        split at done
        · exact Nat.le_trans (dispatch_le (h.take i)) (ih done)
        · cases done
          exact dispatch_le (h.take i)

/-- When the scan is skipped behind a request, that request is dispatched again. -/
theorem loop_repeats {rounds : Nat} {h h' : Handler σ} (few : h.buffer.length < h.bufferStart + 4)
    (before : h.bytesRead ≠ 0) (short : h.bytesRead < rtspBufferSize)
    (done : loop respond rounds h = some h') :
    h.dialogue.dispatched.length < h'.dialogue.dispatched.length := by
  have again : h.dispatch respond =
      { h with dialogue := h.dialogue.say respond h.requestBuffer } := if_pos ⟨before, short⟩
  have more : h.dialogue.dispatched.length <
      (h.dispatch respond).dialogue.dispatched.length := by
    rw [again]
    simp [Dialogue.say]
  cases rounds with
  | zero => cases done
  | succ rounds =>
    rw [loop, if_pos few] at done
    dsimp only at done
    split at done
    · exact Nat.lt_of_lt_of_le more (loop_dispatched done)
    · cases done
      exact more

/-- With one to three bytes the loop does not read the buffer as it should. -/
theorem not_readsAll_few {h : Handler σ} (few : h.buffer.length < h.bufferStart + 4)
    (more : h.rest ≠ []) (active : h.dialogue.active = true)
    (short : h.bytesRead < rtspBufferSize) : ¬h.ReadsAll respond := by
  have size : h.rest.length = h.buffer.length - h.bufferStart := List.length_drop
  have whole : requests h.rest = ⟨[], h.rest⟩ := requests_short (by omega)
  rintro ⟨rounds, h', done, dispatched, -⟩
  rw [whole, List.append_nil] at dispatched
  by_cases first : h.bytesRead = 0
  · rw [loop_stuck first active (h.rest_ne_nil_iff.mp more) few] at done
    cases done
  · have repeated := loop_repeats few first short done
    rw [dispatched] at repeated
    exact absurd repeated (Nat.lt_irrefl _)

/-- The loop goes on with the rest of the buffer after a round that leaves the session active. -/
theorem readsAll_round {h : Handler σ} {i : Nat} (enough : ¬h.buffer.length < h.bufferStart + 4)
    (found : find emptyLine h.rest = some i) (goes : ((h.take i).dispatch respond).Goes)
    (said : ((h.take i).dispatch respond).dialogue.dispatched =
      h.dialogue.dispatched ++ [h.rest.take (i + 4)])
    (left : ((h.take i).dispatch respond).rest = h.rest.drop (i + 4)) :
    h.ReadsAll respond ↔ ((h.take i).dispatch respond).ReadsAll respond := by
  have step : ∀ rounds, loop respond (rounds + 1) h =
      loop respond rounds ((h.take i).dispatch respond) := by
    intro rounds
    rw [loop, if_neg enough, found]
    exact if_pos goes
  have split := requests_of_find_some found
  unfold ReadsAll
  rw [said, left, split]
  simp only [List.append_assoc, List.singleton_append]
  constructor
  · rintro ⟨rounds, h', done, rest⟩
    cases rounds with
    | zero => cases done
    | succ rounds => exact ⟨rounds, h', step rounds ▸ done, rest⟩
  · rintro ⟨rounds, h', done, rest⟩
    exact ⟨rounds + 1, h', (step rounds).trans done, rest⟩

/-- The loop stops after a round that closes the session or empties the buffer. -/
theorem readsAll_last {h : Handler σ} {i : Nat} (enough : ¬h.buffer.length < h.bufferStart + 4)
    (found : find emptyLine h.rest = some i) (stops : ¬((h.take i).dispatch respond).Goes)
    (said : ((h.take i).dispatch respond).dialogue.dispatched =
      h.dialogue.dispatched ++ [h.rest.take (i + 4)])
    (left : ((h.take i).dispatch respond).rest = h.rest.drop (i + 4)) :
    h.ReadsAll respond ↔ (requests (h.rest.drop (i + 4))).done = [] := by
  have step : ∀ rounds, loop respond (rounds + 1) h = some ((h.take i).dispatch respond) := by
    intro rounds
    rw [loop, if_neg enough, found]
    exact if_neg stops
  have split := requests_of_find_some found
  unfold ReadsAll
  rw [split]
  constructor
  · rintro ⟨rounds, h', done, dispatched, -⟩
    cases rounds with
    | zero => cases done
    | succ rounds =>
      rw [step rounds] at done
      cases done
      rw [said] at dispatched
      have same := List.append_cancel_left dispatched
      exact (List.cons.inj same).2.symm
  · intro none
    refine ⟨1, _, step 0, ?_, ?_⟩
    · rw [said, none]
    · rw [left, requests_current none]

/-- With fewer than four bytes the loop reads the buffer as it should when there are none. -/
theorem readsAll_few_iff {h : Handler σ} (within : h.Within) (active : h.dialogue.active = true)
    (entry : h.bytesRead = 0 ∨ h.rest ≠ []) (short : h.bytesRead < rtspBufferSize)
    (few : h.buffer.length < h.bufferStart + 4) :
    h.ReadsAll respond ↔
      h.dialogue.HearsOut respond (requests h.rest).done ∧ Ends respond h.dialogue h.rest := by
  have start_le := within.start_le
  have length : h.rest.length = h.buffer.length - h.bufferStart := List.length_drop
  have whole : requests h.rest = ⟨[], h.rest⟩ := requests_short (by omega)
  by_cases none : h.rest = []
  · have first : h.bytesRead = 0 := by
      rcases entry with first | more
      · exact first
      · exact absurd none more
    have quiet : h.dispatch respond = h := if_neg (by omega)
    have stops : ¬h.Goes := fun goes => h.rest_ne_nil_iff.mpr goes.2 none
    have done : loop respond 1 h = some h := by
      rw [loop, if_pos few]
      simp only [quiet, if_neg stops]
    apply iff_of_true
    · refine ⟨1, h, done, ?_, ?_⟩
      · rw [whole, List.append_nil]
      · rw [whole]
    · rw [whole]
      refine ⟨h.dialogue.hearsOut_nil, fun _ => .inl ?_⟩
      rw [whole]
      exact none
  · refine iff_of_false (not_readsAll_few few none active short) ?_
    rintro ⟨-, ends⟩
    rw [Ends, whole] at ends
    rcases ends active with empty | many
    · exact absurd empty none
    · dsimp only at many
      omega

/-- Without an empty line the loop reads the buffer as it should. -/
theorem readsAll_unfinished {h : Handler σ} (enough : ¬h.buffer.length < h.bufferStart + 4)
    (found : find emptyLine h.rest = none) :
    h.ReadsAll respond ∧
      h.dialogue.HearsOut respond (requests h.rest).done ∧ Ends respond h.dialogue h.rest := by
  have whole := requests_of_find_none found
  have length : h.rest.length = h.buffer.length - h.bufferStart := List.length_drop
  refine ⟨⟨1, h, loop_unfinished (by omega) found, ?_, ?_⟩, ?_, fun _ => .inr ?_⟩
  · rw [whole, List.append_nil]
  · rw [whole]
  · rw [whole]
    exact h.dialogue.hearsOut_nil
  · rw [whole]
    dsimp only
    omega

/-- A round hands the request to the session and leaves what follows it. -/
theorem take_dispatch {h : Handler σ} {i : Nat} (within : h.Within)
    (found : find emptyLine h.rest = some i) :
    ((h.take i).dispatch respond).dialogue = h.dialogue.say respond (h.rest.take (i + 4)) ∧
      ((h.take i).dispatch respond).rest = h.rest.drop (i + 4) := by
  have length : h.rest.length = h.buffer.length - h.bufferStart := List.length_drop
  have inside : i + 4 ≤ h.rest.length := (find_some found (by decide)).1
  have end_lt : h.buffer.length < rtspBufferSize := Nat.lt_trans within.end_lt (by decide)
  have said : (h.take i).dispatch respond = { h.take i with
      dialogue := h.dialogue.say respond (h.rest.take (i + 4)) } :=
    if_pos ⟨Nat.succ_ne_zero _, show i + 4 < rtspBufferSize by omega⟩
  rw [said]
  refine ⟨rfl, ?_⟩
  rw [← rest_take]
  rfl

/-- Behind a round that is the last nothing is left to dispatch exactly when the session hears out
what follows and may end there. -/
theorem hearsOut_last {dialogue : Dialogue σ} {rest : List UInt8}
    (last : dialogue.active = false ∨ rest = []) :
    (requests rest).done = [] ↔
      (((requests rest).done ≠ [] → dialogue.active = true) ∧
        dialogue.HearsOut respond (requests rest).done) ∧ Ends respond dialogue rest := by
  rcases last with closed | none
  · constructor
    · intro nothing
      refine ⟨⟨fun more => absurd nothing more, ?_⟩, ?_⟩
      · rw [nothing]
        exact dialogue.hearsOut_nil
      · rw [Ends, nothing, Dialogue.sayAll, closed]
        intro isOpen
        cases isOpen
    · rintro ⟨⟨only, -⟩, -⟩
      apply Classical.byContradiction
      intro more
      rw [only more] at closed
      cases closed
  · have nothing : requests rest = ⟨[], []⟩ := by
      rw [none]
      rfl
    rw [Ends, nothing]
    exact iff_of_true rfl ⟨⟨fun more => absurd rfl more, dialogue.hearsOut_nil⟩, fun _ => .inl rfl⟩

/-- The loop reads the buffer as it should exactly when the session hears out its requests, and after
them it is closed or the rest is none that the loop does not scan. -/
theorem readsAll_iff {h : Handler σ} (within : h.Within) (active : h.dialogue.active = true)
    (entry : h.bytesRead = 0 ∨ h.rest ≠ []) (short : h.bytesRead < rtspBufferSize) :
    h.ReadsAll respond ↔
      h.dialogue.HearsOut respond (requests h.rest).done ∧ Ends respond h.dialogue h.rest := by
  -- every round takes at least four bytes out of the rest
  induction size : h.rest.length using Nat.strong_induction_on generalizing h with
  | _ count ih =>
    subst size
    by_cases few : h.buffer.length < h.bufferStart + 4
    · exact readsAll_few_iff within active entry short few
    · cases found : find emptyLine h.rest with
      | none =>
        obtain ⟨reads, right⟩ := readsAll_unfinished few found
        exact iff_of_true reads right
      | some i =>
        have round := @Round.of_find σ respond h i within active found
        obtain ⟨dialogue, left⟩ := @take_dispatch σ respond h i within found
        have dispatched : ((h.take i).dispatch respond).dialogue.dispatched =
            h.dialogue.dispatched ++ [h.rest.take (i + 4)] := by
          rw [dialogue]
          rfl
        have split := requests_of_find_some found
        have ends : Ends respond h.dialogue h.rest ↔
            Ends respond ((h.take i).dispatch respond).dialogue
              ((h.take i).dispatch respond).rest := by
          unfold Ends
          rw [round.dialogue, round.current]
        rw [ends, split, Dialogue.hearsOut_cons active]
        by_cases goes : ((h.take i).dispatch respond).Goes
        · have shorter := round.rest_length
          rw [readsAll_round few found goes dispatched left,
            ih _ (by omega) round.within goes.1 (.inr (rest_ne_nil_iff _ |>.mpr goes.2))
              round.bytesRead_lt rfl, left, dialogue]
          have open' := goes.1
          rw [dialogue] at open'
          simp only [open', implies_true, true_and]
        · have last : (h.dialogue.say respond (h.rest.take (i + 4))).active = false ∨
              h.rest.drop (i + 4) = [] := by
            rw [← dialogue, ← left]
            cases closed : ((h.take i).dispatch respond).dialogue.active with
            | false => exact .inl rfl
            | true =>
              refine .inr (Classical.byContradiction fun more => goes ⟨closed, ?_⟩)
              exact (rest_ne_nil_iff _).mp more
          rw [readsAll_last few found goes dispatched left, left, dialogue]
          exact hearsOut_last last

end Handler

/-- For every content of the decoded buffer: the loop ends, dispatches each complete request once and
in order and keeps exactly the bytes behind the last of them, if and only if none of the requests
but the last closes the session, and after the last one the session is closed, or no byte is left,
or at least four are. -/
theorem decoded_buffer_read_iff (respond : σ → List UInt8 → σ × Bool) (decoded : DecodedBuffer)
    (session : σ) (said : List (List UInt8)) :
    (decoded.entry ⟨session, true, said⟩).ReadsAll respond ↔
      Dialogue.HearsOut respond ⟨session, true, said⟩ (requests decoded.pending).done ∧
        Ends respond ⟨session, true, said⟩ decoded.pending :=
  Handler.readsAll_iff ⟨decoded.start_le, decoded.end_lt⟩ rfl (.inl rfl)
    (show 0 < rtspBufferSize by decide)

/-- A buffer with two line ends and no request. -/
def lineEnd : DecodedBuffer := ⟨[13, 10], 0, by decide, by decide⟩

/-- Two bytes keep the loop from ending. -/
theorem decoded_buffer_stuck :
    ¬(lineEnd.entry ⟨(), true, []⟩).ReadsAll (fun _ _ => ((), true)) := by
  rintro ⟨rounds, h', done, -⟩
  rw [Handler.loop_stuck rfl rfl (by decide) (by decide)] at done
  cases done

end BoaIpcam
