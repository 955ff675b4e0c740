import Mathlib.Data.List.Basic

/-!
# Escaped texts

A mark is put in front of every special item of a text. When the mark is special itself, taking the
marks away again gives the text back.
-/
namespace Escaping

variable {α : Type} (special : α → Bool) (mark : α)

/-- An item, with a mark in front of it when it is special. -/
def put (item : α) : List α := if special item then [mark, item] else [item]

/-- All items of a text. -/
def escape (text : List α) : List α := text.flatMap (put special mark)

/-- Take the mark in front of each special item away. -/
def unescape [DecidableEq α] : List α → List α
  | [] => []
  | [item] => [item]
  | first :: second :: rest =>
    if first = mark ∧ special second then second :: unescape rest
    else first :: unescape (second :: rest)

/-- There is a mark for every special item. -/
theorem length_escape (text : List α) :
    (escape special mark text).length = text.length + text.countP special := by
  induction text with
  | nil => rfl
  | cons item text ih =>
    rw [escape, List.flatMap_cons, List.length_append, ← escape, ih, put, List.length_cons]
    split_ifs with isSpecial
    · rw [List.countP_cons_of_pos isSpecial, List.length_cons, List.length_singleton]
      omega
    · rw [List.countP_cons_of_neg isSpecial, List.length_singleton]
      omega

/-- An item that is no mark is kept. -/
theorem unescape_cons_of_ne [DecidableEq α] {item : α} (notMark : item ≠ mark) (text : List α) :
    unescape special mark (item :: text) = item :: unescape special mark text := by
  cases text with
  | nil => rfl
  | cons second rest => rw [unescape, if_neg fun both => notMark both.1]

/-- Taking the marks away gives the text back. -/
theorem unescape_escape [DecidableEq α] (isMark : special mark) (text : List α) :
    unescape special mark (escape special mark text) = text := by
  induction text with
  | nil => rfl
  | cons item text ih =>
    rw [escape, List.flatMap_cons, ← escape, put]
    split_ifs with isSpecial
    · show unescape special mark (mark :: item :: escape special mark text) = _
      rw [unescape, if_pos ⟨rfl, isSpecial⟩, ih]
    · have notMark : item ≠ mark := by
        intro same
        rw [same] at isSpecial
        exact isSpecial isMark
      rw [List.singleton_append, unescape_cons_of_ne special mark notMark, ih]

end Escaping
