import Mathlib.Data.List.Infix

/-!
# Feeds

A feed sends parts one after the other, each in as many pieces as the receiver takes. A feed carries
the law that what was sent and what is pending are the parts in order: the next part can be loaded
only when nothing is pending.
-/
namespace Feeds

variable {α : Type}

/-- To drop as many items as were taken is to drop as many as were asked for. -/
theorem drop_length_take (amount : Nat) (items : List α) :
    items.drop (items.take amount).length = items.drop amount := by
  rw [List.length_take]
  by_cases enough : amount ≤ items.length
  · rw [Nat.min_eq_left enough]
  · rw [Nat.min_eq_right (by omega), List.drop_length, List.drop_eq_nil_of_le (by omega)]

/-- To take as many items as were taken is to take them again. -/
theorem take_length_take (amount : Nat) (items : List α) :
    items.take (items.take amount).length = items.take amount := by
  rw [List.length_take]
  by_cases enough : amount ≤ items.length
  · rw [Nat.min_eq_left enough]
  · rw [Nat.min_eq_right (by omega), List.take_length, List.take_of_length_le (by omega)]

/-- The parts of a feed, what was sent of them and what is pending. -/
structure Feed (α : Type) where
  /-- The parts. -/
  parts : List (List α)
  /-- What was sent. -/
  sent : List α
  /-- What is pending. -/
  pending : List α
  /-- Together they are the parts. -/
  whole : sent ++ pending = parts.flatten

namespace Feed

/-- A feed that starts with these parts. -/
def start (parts : List (List α)) : Feed α := ⟨parts, [], parts.flatten, rfl⟩

/-- Send so many items of what is pending. -/
def send (amount : Nat) (feed : Feed α) : Feed α where
  parts := feed.parts
  sent := feed.sent ++ feed.pending.take amount
  pending := feed.pending.drop amount
  whole := by rw [List.append_assoc, List.take_append_drop, feed.whole]

/-- Load the next part, when nothing is pending. -/
def load (part : List α) (feed : Feed α) (idle : feed.pending = []) : Feed α where
  parts := feed.parts ++ [part]
  sent := feed.sent
  pending := part
  whole := by
    have whole := feed.whole
    rw [idle, List.append_nil] at whole
    rw [whole, List.flatten_append, List.flatten_singleton]

@[simp] theorem send_sent (amount : Nat) (feed : Feed α) :
    (feed.send amount).sent = feed.sent ++ feed.pending.take amount := rfl

@[simp] theorem send_pending (amount : Nat) (feed : Feed α) :
    (feed.send amount).pending = feed.pending.drop amount := rfl

@[simp] theorem load_parts (part : List α) (feed : Feed α) (idle : feed.pending = []) :
    (feed.load part idle).parts = feed.parts ++ [part] := rfl

end Feed

end Feeds
