import Mathlib

/-!
# Dates and times

The civil calendar as the succession of its days, and the time of a day. The fields of a moment, from
the year down to the second, are compared from the front; that is the order of the moments.
-/
namespace Calendar

/-- A date. The months are counted from zero, the days from one. -/
structure Date where
  /-- The year. -/
  year : ℕ
  /-- The month, from zero. -/
  month : ℕ
  /-- The day, from one. -/
  day : ℕ
deriving DecidableEq, Repr

/-- The leap years. -/
def IsLeap (year : ℕ) : Prop := year % 4 = 0 ∧ (year % 100 ≠ 0 ∨ year % 400 = 0)

instance (year : ℕ) : Decidable (IsLeap year) := inferInstanceAs (Decidable (_ ∧ _))

/-- The length of a month. -/
def daysIn (year month : ℕ) : ℕ :=
  if month = 1 then if IsLeap year then 29 else 28
  else if month = 3 ∨ month = 5 ∨ month = 8 ∨ month = 10 then 30
  else 31

namespace Date

/-- The day behind a day. -/
def next (d : Date) : Date :=
  if d.day < daysIn d.year d.month then { d with day := d.day + 1 }
  else if d.month < 11 then { d with month := d.month + 1, day := 1 }
  else ⟨d.year + 1, 0, 1⟩

/-- A day of the calendar. -/
structure Valid (d : Date) : Prop where
  /-- There are twelve months. -/
  month : d.month < 12
  /-- There is no day zero. -/
  first : 1 ≤ d.day
  /-- The month has such a day. -/
  last : d.day ≤ daysIn d.year d.month

/-- The fields of a date. -/
def fields (d : Date) : List ℕ := [d.year, d.month, d.day]

/-- Each month has a day. -/
theorem daysIn_pos (year month : ℕ) : 1 ≤ daysIn year month := by
  unfold daysIn
  split_ifs <;> decide

/-- No month has more than 31 days. -/
theorem daysIn_le (year month : ℕ) : daysIn year month ≤ 31 := by
  unfold daysIn
  split_ifs <;> decide

/-- The day behind a day is a day. -/
theorem Valid.next {d : Date} (valid : d.Valid) : d.next.Valid := by
  unfold Date.next
  split_ifs with inside more
  · exact ⟨valid.month, Nat.le_add_left 1 _, inside⟩
  · exact ⟨Nat.succ_lt_succ more, Nat.le_refl 1, daysIn_pos _ _⟩
  · exact ⟨Nat.zero_lt_succ _, Nat.le_refl 1, daysIn_pos _ _⟩

/-- The day behind a day is later. -/
theorem fields_lt_next (d : Date) : d.fields < d.next.fields := by
  unfold Date.next
  split_ifs with inside more
  · simp only [fields, List.cons_lt_cons_iff, Nat.lt_irrefl, Nat.lt_succ_self, true_and, false_or,
      true_or]
  · simp only [fields, List.cons_lt_cons_iff, Nat.lt_irrefl, Nat.lt_succ_self, true_and, false_or,
      true_or]
  · simp only [fields, List.cons_lt_cons_iff, Nat.lt_succ_self, true_or]

end Date

/-- The date so many days behind a first one. -/
def dateAfter (first : Date) : ℕ → Date
  | 0 => first
  | days + 1 => (dateAfter first days).next

/-- All days behind a day of the calendar are days of it. -/
theorem dateAfter_valid {first : Date} (valid : first.Valid) (days : ℕ) :
    (dateAfter first days).Valid := by
  induction days with
  | zero => exact valid
  | succ days ih => exact ih.next

/-- The years do not go back. -/
theorem year_le_dateAfter (first : Date) (days : ℕ) : first.year ≤ (dateAfter first days).year := by
  induction days with
  | zero => exact Nat.le_refl _
  | succ days ih =>
    apply ih.trans
    change (dateAfter first days).year ≤ (dateAfter first days).next.year
    unfold Date.next
    split_ifs
    · exact Nat.le_refl _
    · exact Nat.le_refl _
    · exact Nat.le_succ _

/-- Later days are later. -/
theorem dateAfter_strictMono (first : Date) :
    StrictMono fun days => (dateAfter first days).fields :=
  strictMono_nat_of_lt_succ fun days => (dateAfter first days).fields_lt_next

/-- Hours, minutes and seconds of a second of the day. -/
def clock (second : ℕ) : List ℕ := [second / 3600, second / 60 % 60, second % 60]

/-- Later seconds are later. -/
theorem clock_strictMono : StrictMono clock := by
  intro first second before
  simp only [clock, List.cons_lt_cons_iff]
  omega

/-- The fields of a moment, given in seconds from the start of a first day. -/
def fieldsAt (first : Date) (time : ℕ) : List ℕ :=
  (dateAfter first (time / 86400)).fields ++ clock (time % 86400)

/-- The three fields of a date come first. -/
theorem append_lt_append_of_lt {α : Type} [LinearOrder α] {left right : List α}
    (same : left.length = right.length) (before : left < right) (more other : List α) :
    left ++ more < right ++ other := by
  induction left generalizing right with
  | nil =>
    have empty : right = [] := List.length_eq_zero_iff.mp same.symm
    rw [empty] at before
    exact absurd before (lt_irrefl _)
  | cons a left ih =>
    cases right with
    | nil => exact absurd same (Nat.succ_ne_zero _)
    | cons b right =>
      rw [List.cons_lt_cons_iff] at before
      rw [List.cons_append, List.cons_append, List.cons_lt_cons_iff]
      rcases before with less | ⟨rfl, less⟩
      · exact .inl less
      · exact .inr ⟨rfl, ih (Nat.succ.inj same) less⟩

/-- Later moments are later. -/
theorem fieldsAt_strictMono (first : Date) : StrictMono (fieldsAt first) := by
  intro left right before
  unfold fieldsAt
  by_cases day : left / 86400 = right / 86400
  · rw [day]
    have later : left % 86400 < right % 86400 := by omega
    have clocks := clock_strictMono later
    simp only [Date.fields, List.cons_append, List.nil_append, List.cons_lt_cons_iff]
    exact .inr ⟨trivial, .inr ⟨trivial, .inr ⟨trivial, clocks⟩⟩⟩
  · have earlier : left / 86400 < right / 86400 :=
      Nat.lt_of_le_of_ne (Nat.div_le_div_right (Nat.le_of_lt before)) day
    have dates : (dateAfter first (left / 86400)).fields <
        (dateAfter first (right / 86400)).fields := dateAfter_strictMono first earlier
    have same : (dateAfter first (left / 86400)).fields.length =
        (dateAfter first (right / 86400)).fields.length := rfl
    exact append_lt_append_of_lt same dates _ _

end Calendar
