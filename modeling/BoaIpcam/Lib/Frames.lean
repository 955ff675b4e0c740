import Mathlib.Data.List.Infix

/-!
# Frames that end with a marker

A stream of symbols is cut into frames, each of which ends with the first occurrence of a marker.
`find` looks for that occurrence in a buffer; `Splitter` reads the stream symbol by symbol and
keeps the frame that has not ended. What a splitter has read does not depend on how the stream
was cut into pieces, and it agrees with looking for the marker again and again.
-/
namespace Frames

variable {α : Type} [DecidableEq α]

/-- The position of the first occurrence of a marker. -/
def find (marker : List α) : List α → Option Nat
  | [] => none
  | c :: rest => if marker <+: c :: rest then some 0 else (find marker rest).map (· + 1)

/-- The frames that have ended, and the one that has not. -/
structure Splitter (α : Type) where
  /-- The frames that have ended. -/
  done : List (List α)
  /-- The frame that has not. -/
  current : List α

namespace Splitter

/-- Nothing read so far. -/
def empty : Splitter α := ⟨[], []⟩

/-- Read a symbol. -/
def step (marker : List α) (s : Splitter α) (c : α) : Splitter α :=
  if marker <:+ s.current ++ [c] then ⟨s.done ++ [s.current ++ [c]], []⟩
  else ⟨s.done, s.current ++ [c]⟩

/-- Read a piece of the stream. -/
def read (marker : List α) (s : Splitter α) (piece : List α) : Splitter α :=
  piece.foldl (step marker) s

end Splitter

open Splitter

variable {marker : List α}

/-- Reading two pieces is reading them together. -/
theorem read_append (s : Splitter α) (left right : List α) :
    s.read marker (left ++ right) = (s.read marker left).read marker right := by
  rw [Splitter.read, List.foldl_append]
  rfl

/-- The frames that have ended before stay in front. -/
theorem read_done (done : List (List α)) (current piece : List α) :
    Splitter.read marker ⟨done, current⟩ piece =
      ⟨done ++ (Splitter.read marker ⟨[], current⟩ piece).done,
        (Splitter.read marker ⟨[], current⟩ piece).current⟩ := by
  induction piece generalizing done current with
  | nil => simp [Splitter.read]
  | cons c piece ih =>
    have unfolded : ∀ d, Splitter.read marker ⟨d, current⟩ (c :: piece) =
        Splitter.read marker (Splitter.step marker ⟨d, current⟩ c) piece := fun _ => rfl
    rw [unfolded, unfolded, Splitter.step, Splitter.step]
    split
    · rw [ih (done ++ [current ++ [c]]), ih ([] ++ [current ++ [c]])]
      simp
    · rw [ih done]

/-- The frame that has not ended, read again from the start, has not ended. -/
theorem read_current (s : Splitter α) (piece : List α)
    (start : Splitter.read marker empty s.current = ⟨[], s.current⟩) :
    Splitter.read marker empty (s.read marker piece).current =
      ⟨[], (s.read marker piece).current⟩ := by
  induction piece generalizing s with
  | nil => exact start
  | cons c piece ih =>
    apply ih (Splitter.step marker s c)
    unfold Splitter.step
    split
    · rfl
    · rename_i unfinished
      rw [read_append, start]
      exact if_neg unfinished

/-- A piece none of whose prefixes ends with the marker is an unfinished frame. -/
theorem read_unfinished (piece : List α)
    (unfinished : ∀ n, n ≤ piece.length → ¬marker <:+ piece.take n) :
    Splitter.read marker empty piece = ⟨[], piece⟩ := by
  induction piece using List.reverseRecOn with
  | nil => rfl
  | append_singleton piece c ih =>
    have shorter : ∀ n, n ≤ piece.length → ¬marker <:+ piece.take n := by
      intro n less
      have same := unfinished n (by simp; omega)
      rwa [List.take_append_of_le_length less] at same
    have whole := unfinished (piece ++ [c]).length (Nat.le_refl _)
    rw [List.take_length] at whole
    rw [read_append, ih shorter]
    exact if_neg whole

/-- The marker ends a prefix of the stream where `find` finds it, and no shorter prefix. -/
theorem find_some {stream : List α} {i : Nat} (found : find marker stream = some i)
    (nonempty : marker ≠ []) :
    i + marker.length ≤ stream.length ∧ marker <:+ stream.take (i + marker.length) ∧
      ∀ n, n < i + marker.length → ¬marker <:+ stream.take n := by
  induction stream generalizing i with
  | nil => cases found
  | cons c stream ih =>
    rw [find] at found
    split at found
    · rename_i here
      cases found
      rw [Nat.zero_add]
      refine ⟨here.length_le, ?_, fun n short suffix => ?_⟩
      · rw [← List.prefix_iff_eq_take.mp here]
      · have enough := suffix.length_le
        rw [List.length_take] at enough
        omega
    · rename_i elsewhere
      obtain ⟨j, later, rfl⟩ := Option.map_eq_some_iff.mp found
      obtain ⟨inside, ends, first⟩ := ih later
      have size : j + 1 + marker.length = j + marker.length + 1 := by omega
      rw [size]
      refine ⟨by rw [List.length_cons]; omega, ?_, fun n short suffix => ?_⟩
      · rw [List.take_succ_cons]
        exact ends.trans (List.suffix_cons c _)
      · cases n with
        | zero => exact nonempty (List.suffix_nil.mp suffix)
        | succ n =>
          rw [List.take_succ_cons, List.suffix_cons_iff] at suffix
          rcases suffix with whole | tail
          · exact elsewhere (whole ▸ List.take_prefix (n + 1) (c :: stream))
          · exact first n (by omega) tail

/-- When `find` finds nothing no prefix of the stream ends with the marker. -/
theorem find_none {stream : List α} (missing : find marker stream = none) (nonempty : marker ≠ [])
    (n : Nat) : ¬marker <:+ stream.take n := by
  induction stream generalizing n with
  | nil =>
    rw [List.take_nil]
    exact fun suffix => nonempty (List.suffix_nil.mp suffix)
  | cons c stream ih =>
    rw [find] at missing
    split at missing
    · cases missing
    · rename_i elsewhere
      intro suffix
      cases n with
      | zero => exact nonempty (List.suffix_nil.mp suffix)
      | succ n =>
        rw [List.take_succ_cons, List.suffix_cons_iff] at suffix
        rcases suffix with whole | tail
        · exact elsewhere (whole ▸ List.take_prefix (n + 1) (c :: stream))
        · exact ih (Option.map_eq_none_iff.mp missing) n tail

/-- Without the marker the whole stream is an unfinished frame. -/
theorem read_of_find_none {stream : List α} (missing : find marker stream = none)
    (nonempty : marker ≠ []) : Splitter.read marker empty stream = ⟨[], stream⟩ :=
  read_unfinished stream fun n _ => find_none missing nonempty n

/-- The first frame ends where `find` finds the marker. -/
theorem read_of_find_some {stream : List α} {i : Nat} (found : find marker stream = some i)
    (nonempty : marker ≠ []) :
    Splitter.read marker empty stream =
      Splitter.read marker ⟨[stream.take (i + marker.length)], []⟩
        (stream.drop (i + marker.length)) := by
  obtain ⟨inside, ends, first⟩ := find_some found nonempty
  have positive : 0 < marker.length := List.length_pos_iff.mpr nonempty
  have cut : stream.take (i + marker.length) =
      stream.take (i + marker.length - 1) ++ [stream[i + marker.length - 1]] := by
    have again := List.take_append_getElem (l := stream) (i := i + marker.length - 1) (by omega)
    rw [again]
    congr 1
    omega
  have unfinished : Splitter.read marker empty (stream.take (i + marker.length - 1)) =
      ⟨[], stream.take (i + marker.length - 1)⟩ := by
    refine read_unfinished _ fun n less => ?_
    rw [List.length_take] at less
    rw [List.take_take, Nat.min_eq_left (by omega)]
    exact first n (by omega)
  have frame : Splitter.read marker empty (stream.take (i + marker.length)) =
      ⟨[stream.take (i + marker.length)], []⟩ := by
    rw [cut] at ends
    rw [cut, read_append, unfinished]
    exact if_pos ends
  calc Splitter.read marker empty stream
      = Splitter.read marker empty
          (stream.take (i + marker.length) ++ stream.drop (i + marker.length)) := by
        rw [List.take_append_drop]
    _ = _ := by rw [read_append, frame]

end Frames
