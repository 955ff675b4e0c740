import Mathlib.Data.Int.Init

/-!
# Closed spans on a cycle

The places of a cycle are the integers from zero up to its length. A span holds its two ends and
the places between them; one whose start is behind its end goes on from the end of the cycle to
its beginning.
-/
namespace CyclicSpans

/-- A span by its two ends. -/
structure Span where
  /-- Where it starts. -/
  first : Int
  /-- Where it ends. -/
  last : Int
deriving DecidableEq, Repr

namespace Span

/-- The span goes over the end of the cycle. -/
def Wraps (span : Span) : Prop := span.last < span.first

/-- The places of a span. -/
def Covers (span : Span) (place : Int) : Prop :=
  if span.first ≤ span.last then span.first ≤ place ∧ place ≤ span.last
  else span.first ≤ place ∨ place ≤ span.last

/-- Both ends are places of the cycle. -/
def Within (length : Int) (span : Span) : Prop :=
  0 ≤ span.first ∧ span.first < length ∧ 0 ≤ span.last ∧ span.last < length

/-- A place of the cycle belongs to both spans. -/
def Overlap (length : Int) (left right : Span) : Prop :=
  ∃ place, 0 ≤ place ∧ place < length ∧ left.Covers place ∧ right.Covers place

instance (span : Span) (place : Int) : Decidable (span.Covers place) := by
  unfold Covers
  infer_instance

instance (span : Span) : Decidable span.Wraps := inferInstanceAs (Decidable (_ < _))

instance (length : Int) (span : Span) : Decidable (span.Within length) :=
  inferInstanceAs (Decidable (_ ∧ _ ∧ _ ∧ _))

variable {length : Int} {left right : Span}

/-- The places of a span that does not wrap. -/
theorem covers_plain {span : Span} (plain : ¬span.Wraps) (place : Int) :
    span.Covers place ↔ span.first ≤ place ∧ place ≤ span.last := by
  unfold Wraps at plain
  unfold Covers
  rw [if_pos (by omega)]

/-- The places of a span that wraps. -/
theorem covers_wrapping {span : Span} (wraps : span.Wraps) (place : Int) :
    span.Covers place ↔ span.first ≤ place ∨ place ≤ span.last := by
  unfold Wraps at wraps
  unfold Covers
  rw [if_neg (by omega)]

/-- Overlapping is symmetric. -/
theorem Overlap.symm (overlap : Overlap length left right) : Overlap length right left := by
  obtain ⟨place, least, below, inLeft, inRight⟩ := overlap
  exact ⟨place, least, below, inRight, inLeft⟩

/-- Overlapping does not depend on the order. -/
theorem overlap_comm : Overlap length left right ↔ Overlap length right left :=
  ⟨Overlap.symm, Overlap.symm⟩

/-- Two spans that do not wrap overlap when each starts before the other one ends. -/
theorem overlap_plain (inLeft : left.Within length) (inRight : right.Within length)
    (plainLeft : ¬left.Wraps) (plainRight : ¬right.Wraps) :
    Overlap length left right ↔ left.first ≤ right.last ∧ right.first ≤ left.last := by
  unfold Overlap
  simp only [covers_plain plainLeft, covers_plain plainRight]
  unfold Wraps at plainLeft plainRight
  unfold Within at inLeft inRight
  constructor
  · rintro ⟨place, bounds⟩
    omega
  · intro meeting
    rcases Int.le_total left.first right.first with before | behind
    · exact ⟨right.first, by omega⟩
    · exact ⟨left.first, by omega⟩

/-- A span that wraps meets one that does not when one of its two parts reaches it. -/
theorem overlap_wrapping_plain (inRight : right.Within length) (wraps : left.Wraps)
    (plain : ¬right.Wraps) :
    Overlap length left right ↔ left.first ≤ right.last ∨ right.first ≤ left.last := by
  unfold Overlap
  simp only [covers_wrapping wraps, covers_plain plain]
  unfold Wraps at wraps plain
  unfold Within at inRight
  constructor
  · rintro ⟨place, bounds⟩
    omega
  · rintro (tail | head)
    · exact ⟨right.last, by omega⟩
    · exact ⟨right.first, by omega⟩

/-- Two spans that wrap overlap in the first place of the cycle. -/
theorem overlap_wrapping (inLeft : left.Within length) (inRight : right.Within length)
    (wrapsLeft : left.Wraps) (wrapsRight : right.Wraps) : Overlap length left right := by
  unfold Within at inLeft inRight
  refine ⟨0, by omega, by omega, ?_, ?_⟩
  · exact (covers_wrapping wrapsLeft 0).mpr (.inr inLeft.2.2.1)
  · exact (covers_wrapping wrapsRight 0).mpr (.inr inRight.2.2.1)

end Span

end CyclicSpans
