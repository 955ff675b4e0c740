import BoaIpcam.Relay.Response

/-!
# What the buffer takes and gives

A write that fits is appended to the buffer, also when what is escaped lies in the buffer itself,
behind everything that is written. A flush gives the socket the front of what is in the buffer. An
error page is small enough for every request.
-/
namespace BoaIpcam.Relay

open Cells

/-! ## Appending -/

/-- The request with some bytes more in its buffer. -/
def Request.push (r : Request) (bytes : List UInt8) : Request :=
  { r with buffer := put r.buffer r.bufferEnd bytes, bufferEnd := r.bufferEnd + bytes.length }

/-- Nothing is appended. -/
@[simp] theorem Request.push_nil (r : Request) : r.push [] = r := by
  simp [Request.push]

/-- Two texts are appended one after the other. -/
@[simp] theorem Request.push_push (r : Request) (front back : List UInt8) :
    (r.push front).push back = r.push (front ++ back) := by
  simp only [Request.push, put_put, List.length_append, Nat.add_assoc]

/-- A text that fits is appended. -/
theorem reqWrite_of_fits {r : Request} {msg : List UInt8} (alive : r.status ≠ .dead)
    (fits : r.bufferEnd + msg.length ≤ bufferSize) : reqWrite r msg = r.push msg := by
  rw [reqWrite]
  split
  · rename_i none
    have empty : msg = [] := List.length_eq_zero_iff.mp (none.resolve_right alive)
    rw [empty, Request.push_nil]
  · rw [if_neg (by omega), Request.push]

/-- Texts that fit are appended. -/
theorem reqWrites_of_fits {r : Request} {msgs : List (List UInt8)} (alive : r.status ≠ .dead)
    (fits : r.bufferEnd + msgs.flatten.length ≤ bufferSize) :
    reqWrites r msgs = r.push msgs.flatten := by
  induction msgs generalizing r with
  | nil => rw [List.flatten_nil, Request.push_nil, reqWrites, List.foldl_nil]
  | cons msg msgs ih =>
    rw [List.flatten_cons, List.length_append] at fits
    have first : reqWrite r msg = r.push msg := reqWrite_of_fits alive (by omega)
    have rest : reqWrites (r.push msg) msgs = (r.push msg).push msgs.flatten :=
      ih alive (by
        show r.bufferEnd + msg.length + msgs.flatten.length ≤ bufferSize
        omega)
    rw [List.flatten_cons, ← Request.push_push, ← rest, ← first]
    rfl

/-- A dead request takes no text. -/
theorem reqWrites_dead {r : Request} (msgs : List (List UInt8)) (dead : r.status = .dead) :
    reqWrites r msgs = r := by
  induction msgs with
  | nil => rfl
  | cons msg msgs ih =>
    have same : reqWrite r msg = r := by rw [reqWrite, if_pos (.inr dead)]
    rw [reqWrites, List.foldl_cons, same]
    exact ih

/-! ## Escaping -/

/-- A C string that writes below a limit do not touch. -/
def Text.Holds (msg : Text) (text : List UInt8) (limit : ℕ) (buffer : ℕ → UInt8) (i : ℕ) : Prop :=
  (∀ c ∈ text, c ≠ 0) ∧ ∀ other : ℕ → UInt8, (∀ cell, limit ≤ cell → other cell = buffer cell) →
    ∀ offset ≤ text.length, msg.byte other (i + offset) = text.getD offset 0

/-- A C string in the buffer, from the limit on. -/
theorem Text.holds_inBuffer {text : List UInt8} {buffer : ℕ → UInt8} {position limit : ℕ}
    (solid : ∀ c ∈ text, c ≠ 0) (behind : limit ≤ position)
    (there : slice buffer position (position + text.length) = text)
    (ends : buffer (position + text.length) = 0) :
    (Text.inBuffer position).Holds text limit buffer 0 := by
  refine ⟨solid, fun other same offset inside => ?_⟩
  rw [Text.byte, Nat.zero_add, same (position + offset) (by omega)]
  rcases Nat.lt_or_eq_of_le inside with less | rfl
  · have cell : (slice buffer position (position + text.length))[offset]? =
        some (buffer (position + offset)) := getElem?_slice (by omega)
    rw [there] at cell
    rw [List.getD_eq_getElem?_getD, cell, Option.getD_some]
  · rw [ends, List.getD_eq_default _ _ (Nat.le_refl _)]

/-- The rest of a C string after its first byte. -/
theorem Text.Holds.tail {msg : Text} {c : UInt8} {text : List UInt8} {limit i place : ℕ}
    {buffer : ℕ → UInt8} {out : List UInt8} (holds : msg.Holds (c :: text) limit buffer i)
    (below : place + out.length ≤ limit) :
    msg.Holds text limit (put buffer place out) (i + 1) := by
  refine ⟨fun d member => holds.1 d (List.mem_cons_of_mem c member), ?_⟩
  intro other same offset inside
  have kept : ∀ cell, limit ≤ cell → other cell = buffer cell := by
    intro cell high
    rw [same cell high, put_after (by omega)]
  have byte := holds.2 other kept (offset + 1) (by rw [List.length_cons]; omega)
  rw [List.getD_cons_succ] at byte
  rw [← byte, Nat.add_assoc, Nat.add_comm 1 offset]

/-- The loop writes what each character is escaped to, when that fits before the C string and
before the guard band. -/
theorem escapeLoop_of_holds {escaped : UInt8 → List UInt8} (some : ∀ c, escaped c ≠ [])
    {msg : Text} {text : List UInt8} {limit i turns dest : ℕ} {left : ℤ} {buffer : ℕ → UInt8}
    (holds : msg.Holds text limit buffer i)
    (below : dest + (text.flatMap escaped).length ≤ limit)
    (room : (text.flatMap escaped).length < left) (enough : left ≤ turns) :
    escapeLoop escaped msg turns buffer i dest left =
      (put buffer dest (text.flatMap escaped), dest + (text.flatMap escaped).length,
        left - (text.flatMap escaped).length) := by
  induction text generalizing i turns dest left buffer with
  | nil =>
    obtain ⟨turns, rfl⟩ : ∃ more, turns = more + 1 := ⟨turns - 1, by simp at room; omega⟩
    have ends : msg.byte buffer i = 0 := holds.2 buffer (fun _ _ => rfl) 0 (Nat.le_refl _)
    rw [escapeLoop, if_neg fun going => going.1 ends]
    simp
  | cons c text ih =>
    have first : msg.byte buffer i = c := holds.2 buffer (fun _ _ => rfl) 0 (Nat.zero_le _)
    have solid : c ≠ 0 := holds.1 c List.mem_cons_self
    have wide : 0 < (escaped c).length := List.length_pos_iff.mpr (some c)
    simp only [List.flatMap_cons, List.length_append] at below room ⊢
    obtain ⟨turns, rfl⟩ : ∃ more, turns = more + 1 := ⟨turns - 1, by omega⟩
    have going : msg.byte buffer i ≠ 0 ∧ 0 < left := ⟨first ▸ solid, by omega⟩
    rw [escapeLoop, if_pos going, first]
    rw [ih (holds.tail (by omega)) (by omega) (by omega) (by omega), put_put]
    simp only [Prod.mk.injEq, true_and]
    omega

/-- A C string that fits is appended escaped. -/
theorem reqWriteEscape_of_holds {escaped : UInt8 → List UInt8} (some : ∀ c, escaped c ≠ [])
    {guard limit : ℕ} {r : Request} {msg : Text} {text : List UInt8}
    (holds : msg.Holds text limit r.buffer 0)
    (below : r.bufferEnd + (text.flatMap escaped).length ≤ limit)
    (room : r.bufferEnd + (text.flatMap escaped).length + guard < bufferSize) :
    reqWriteEscape escaped guard r msg = r.push (text.flatMap escaped) := by
  have loop : escapeLoop escaped msg ((bufferSize : ℤ) - r.bufferEnd - guard).toNat r.buffer 0
      r.bufferEnd ((bufferSize : ℤ) - r.bufferEnd - guard) = _ :=
    escapeLoop_of_holds some holds below (by omega) (by omega)
  rw [reqWriteEscape]
  simp only [loop]
  rw [if_neg (by omega), Request.push]

/-- Every character is escaped to something. -/
theorem escapedHttp_ne_nil (c : UInt8) : escapedHttp c ≠ [] := by
  rw [escapedHttp]
  split <;> simp

/-- Every character is escaped to something. -/
theorem escapedHtml_ne_nil (c : UInt8) : escapedHtml c ≠ [] := by
  rw [escapedHtml]
  split_ifs
  · decide
  · decide
  · decide
  · decide
  · exact List.cons_ne_nil c []

/-! ## Flushing -/

/-- Some bytes of the buffer wait for the socket. -/
structure Buffered (r : Request) (bytes : List UInt8) : Prop where
  /-- They stand in the buffer. -/
  held : slice r.buffer r.bufferStart r.bufferEnd = bytes
  /-- They end behind their start. -/
  proper : r.bufferStart ≤ r.bufferEnd
  /-- They end in the buffer. -/
  bounded : r.bufferEnd ≤ bufferSize
  /-- An empty buffer starts over. -/
  reset : r.bufferStart = r.bufferEnd → r.bufferEnd = 0

/-- The buffer is empty when nothing waits. -/
theorem Buffered.nil_iff {r : Request} {bytes : List UInt8} (buffered : Buffered r bytes) :
    bytes = [] ↔ r.bufferEnd = 0 := by
  have size : bytes.length = r.bufferEnd - r.bufferStart := by
    rw [← buffered.held, length_slice]
  have proper := buffered.proper
  constructor
  · intro empty
    rw [empty, List.length_nil] at size
    exact buffered.reset (by omega)
  · intro zero
    exact List.length_eq_zero_iff.mp (by omega)

/-- The buffer of a request that has written nothing. -/
theorem buffered_empty {r : Request} (start : r.bufferStart = 0) (stop : r.bufferEnd = 0) :
    Buffered r [] := by
  refine ⟨?_, by omega, by omega, fun _ => stop⟩
  rw [start, stop, slice_self]

/-- What is appended waits behind what waits. -/
theorem Buffered.push {r : Request} {bytes more : List UInt8} (buffered : Buffered r bytes)
    (fits : r.bufferEnd + more.length ≤ bufferSize) : Buffered (r.push more) (bytes ++ more) := by
  refine ⟨?_, ?_, fits, ?_⟩
  · show slice (put r.buffer r.bufferEnd more) r.bufferStart (r.bufferEnd + more.length) = _
    rw [slice_put_end buffered.proper, buffered.held]
  · show r.bufferStart ≤ r.bufferEnd + more.length
    have proper := buffered.proper
    omega
  · intro same
    have none : r.bufferStart = r.bufferEnd + more.length := same
    have proper := buffered.proper
    have zero := buffered.reset (by omega)
    show r.bufferEnd + more.length = 0
    omega

/-- A flush gives the socket the front of what waits, or fails and drops it. -/
theorem reqFlush_cases {r : Request} {bytes : List UInt8} (written : Written)
    (buffered : Buffered r bytes) (alive : r.status ≠ .dead) :
    (∃ (start stop : ℕ) (rest sent : List UInt8), reqFlush written r =
        ({ r with bufferStart := start, bufferEnd := stop }, sent,
          (if written = .wouldBlock ∧ bytes ≠ [] then -1 else (stop : ℤ))) ∧
      bytes = sent ++ rest ∧ Buffered { r with bufferStart := start, bufferEnd := stop } rest) ∨
    ((written = .failed ∨ written = .interrupted) ∧ bytes ≠ [] ∧ reqFlush written r =
      ({ r with bufferStart := 0, bufferEnd := 0, status := .dead }, [], -2)) := by
  have empty := buffered.nil_iff
  have proper := buffered.proper
  have bounded := buffered.bounded
  unfold reqFlush
  simp only [if_neg alive]
  by_cases idle : r.bufferEnd - r.bufferStart = 0
  · have zero : r.bufferEnd = 0 := buffered.reset (by omega)
    have none : bytes = [] := empty.mpr zero
    refine .inl ⟨0, 0, [], [], ?_, none, buffered_empty rfl rfl⟩
    rw [if_neg (not_not.mpr idle), if_pos (by omega), if_neg fun both => both.2 none]
  · have waits : bytes ≠ [] := by
      intro nothing
      have zero := empty.mp nothing
      omega
    rw [if_pos idle]
    cases written with
    | wouldBlock =>
      exact .inl ⟨r.bufferStart, r.bufferEnd, bytes, [], by simp [waits], rfl, buffered⟩
    | failed => exact .inr ⟨.inl rfl, waits, rfl⟩
    | interrupted => exact .inr ⟨.inr rfl, waits, rfl⟩
    | took amount =>
      have size : bytes.length = r.bufferEnd - r.bufferStart := by
        rw [← buffered.held, length_slice]
      have split : bytes = bytes.take amount ++ bytes.drop amount :=
        (List.take_append_drop amount bytes).symm
      have taken : (bytes.take amount).length ≤ bytes.length := by
        rw [List.length_take]
        exact Nat.min_le_right _ _
      have left : slice r.buffer (r.bufferStart + (bytes.take amount).length) r.bufferEnd =
          bytes.drop amount := by
        rw [← buffered.held]
        exact slice_after amount
      simp only [buffered.held]
      by_cases all : r.bufferStart + (bytes.take amount).length = r.bufferEnd
      · have none : bytes.drop amount = [] := by
          rw [← left, all, slice_self]
        refine .inl ⟨0, 0, [], bytes.take amount, ?_, ?_, buffered_empty rfl rfl⟩
        · rw [if_pos all, if_neg (by simp)]
        · rw [none] at split
          exact split
      · refine .inl ⟨r.bufferStart + (bytes.take amount).length, r.bufferEnd, bytes.drop amount,
          bytes.take amount, ?_, split, ⟨left, ?_, bounded, fun same => absurd same all⟩⟩
        · rw [if_neg all, if_neg (by simp)]
        · show r.bufferStart + (bytes.take amount).length ≤ r.bufferEnd
          omega

end BoaIpcam.Relay
