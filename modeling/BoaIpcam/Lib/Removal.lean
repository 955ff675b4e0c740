import BoaIpcam.Lib.Tables

/-!
# Removal in place

A loop that takes items out of a table while it counts through the slots: the items behind one that
is taken out move up, and the last slot takes over what lies behind the table. The item that moves
into the slot of the round is not looked at again.
-/
namespace Tables

section Removal

variable {α : Type} {hit : α → Bool} {behind : α} {items : List α} {i : Nat}

/-- A round: if the item in the slot is one to take out, the items behind it move up. -/
def takeOut (hit : α → Bool) (behind : α) (i : Nat) (items : List α) : List α :=
  if items[i]?.any hit then items.eraseIdx i ++ [behind] else items

/-- All rounds. -/
def takeOutAll (hit : α → Bool) (behind : α) (items : List α) : List α :=
  loop 0 items.length (takeOut hit behind) items

/-- No item to take out is followed by another one. -/
def Apart (hit : α → Bool) (items : List α) : Prop :=
  ∀ (k : Nat) a b, items[k]? = some a → items[k + 1]? = some b → hit a = true → hit b = false

/-- A round takes out the item in its slot, or that stays and nothing changes. -/
theorem takeOut_cases (hit : α → Bool) (behind : α) (i : Nat) (items : List α) :
    (∃ a, items[i]? = some a ∧ hit a = true ∧
      takeOut hit behind i items = items.eraseIdx i ++ [behind]) ∨
    (∀ a, items[i]? = some a → hit a = false) ∧ takeOut hit behind i items = items := by
  unfold takeOut
  cases at_i : items[i]? with
  | none => exact .inr ⟨fun a found => (nomatch found), rfl⟩
  | some a =>
    cases found : hit a with
    | true => exact .inl ⟨a, rfl, found, by simp [found]⟩
    | false =>
      refine .inr ⟨fun b same => ?_, by simp [found]⟩
      cases same
      exact found

/-- A round keeps the size of the table. -/
@[simp] theorem length_takeOut : (takeOut hit behind i items).length = items.length := by
  rcases takeOut_cases hit behind i items with ⟨a, at_i, -, taken⟩ | ⟨-, same⟩
  · have inside : i < items.length := (List.getElem?_eq_some_iff.mp at_i).1
    rw [taken, List.length_append, List.length_eraseIdx_of_lt inside, List.length_singleton]
    omega
  · rw [same]

/-- So do all rounds. -/
@[simp] theorem length_takeOutAll : (takeOutAll hit behind items).length = items.length := by
  apply loop_keeps (fun now : List α => now.length = items.length) rfl
  intro k now _ _ same
  rw [length_takeOut, same]

/-- Nothing changes when there is nothing to take out. -/
theorem takeOutAll_absent (absent : ∀ a ∈ items, hit a = false) :
    takeOutAll hit behind items = items := by
  apply loop_keeps (fun now => now = items) rfl
  rintro k now - - rfl
  rcases takeOut_cases hit behind k now with ⟨a, at_k, found, -⟩ | ⟨-, same⟩
  · rw [absent a (List.mem_of_getElem? at_k)] at found
    cases found
  · exact same

/-- An item that is not selected may be taken out before a selection. -/
theorem filter_eraseIdx {p : α → Bool} {a : α} (at_i : items[i]? = some a) (other : p a = false) :
    (items.eraseIdx i).filter p = items.filter p := by
  obtain ⟨inside, value⟩ := List.getElem?_eq_some_iff.mp at_i
  have split : items.take i ++ a :: items.drop (i + 1) = items := by
    rw [← value, ← List.drop_eq_getElem_cons inside, List.take_append_drop]
  rw [List.eraseIdx_eq_take_drop_succ]
  conv_rhs => rw [← split]
  rw [List.filter_append, List.filter_append, List.filter_cons_of_neg (by simp [other])]

/-- The items of a kind that is not taken out stay in their order. -/
theorem filter_takeOutAll {p : α → Bool} (apart : ∀ a, hit a = true → p a = false)
    (free : p behind = false) :
    (takeOutAll hit behind items).filter p = items.filter p := by
  apply loop_keeps (fun now : List α => now.filter p = items.filter p) rfl
  intro k now _ _ same
  rcases takeOut_cases hit behind k now with ⟨a, at_k, found, taken⟩ | ⟨-, unchanged⟩
  · rw [taken, List.filter_append, filter_eraseIdx at_k (apart a found), same,
      List.filter_cons_of_neg (by simp [free]), List.filter_nil, List.append_nil]
  · rw [unchanged, same]

/-- Once something is taken out, the last slot holds what lies behind the table. -/
theorem getLast?_takeOutAll (behind : α) (occurs : ∃ a ∈ items, hit a = true) :
    (takeOutAll hit behind items).getLast? = some behind := by
  have carried := @loop_inv _ (takeOut hit behind)
    (fun n (now : List α) => now.length = items.length ∧
      ((∃ k a, n ≤ k ∧ now[k]? = some a ∧ hit a = true) ∨ now.getLast? = some behind))
    0 items.length items (Nat.zero_le _)
    (by
      obtain ⟨a, member, found⟩ := occurs
      obtain ⟨k, at_k⟩ := List.mem_iff_getElem?.mp member
      exact ⟨rfl, .inl ⟨k, a, Nat.zero_le k, at_k, found⟩⟩)
    (by
      intro n now _ _ ⟨length, carried⟩
      refine ⟨length_takeOut.trans length, ?_⟩
      rcases takeOut_cases hit behind n now with ⟨a, -, -, taken⟩ | ⟨stays, same⟩
      · rw [taken]
        exact .inr List.getLast?_concat
      · rw [same]
        rcases carried with ⟨k, a, late, at_k, found⟩ | last
        · refine .inl ⟨k, a, ?_, at_k, found⟩
          by_contra early
          have here : k = n := by omega
          rw [here] at at_k
          rw [stays a at_k] at found
          cases found
        · exact .inr last)
  obtain ⟨length, ⟨k, a, late, at_k, -⟩ | last⟩ := carried
  · have inside : k < (loop 0 items.length (takeOut hit behind) items).length :=
      (List.getElem?_eq_some_iff.mp at_k).1
    omega
  · exact last

/-- The items before the one that is taken out keep their slots. -/
theorem getElem?_before (behind : α) (inside : i < items.length) {k : Nat} {a : α} (early : k < i)
    (at_k : items[k]? = some a) : (items.eraseIdx i ++ [behind])[k]? = some a := by
  have length : (items.eraseIdx i).length = items.length - 1 := List.length_eraseIdx_of_lt inside
  rw [List.getElem?_append_left (by omega), List.getElem?_eraseIdx_of_lt early, at_k]

/-- The items behind it move up by one slot. -/
theorem getElem?_moved (behind : α) {k : Nat} {a : α} (late : i ≤ k)
    (next : items[k + 1]? = some a) : (items.eraseIdx i ++ [behind])[k]? = some a := by
  have inside : k + 1 < items.length := (List.getElem?_eq_some_iff.mp next).1
  have length : (items.eraseIdx i).length = items.length - 1 :=
    List.length_eraseIdx_of_lt (by omega)
  rw [List.getElem?_append_left (by omega), List.getElem?_eraseIdx_of_ge late, next]

/-- The second of two items in a row that are to be taken out stays. -/
theorem takeOutAll_adjacent (hit : α → Bool) (behind : α) {k : Nat} {a b : α} (at_k : items[k]? = some a)
    (next : items[k + 1]? = some b) (first : hit a = true) (second : hit b = true) :
    ∃ c ∈ takeOutAll hit behind items, hit c = true := by
  -- Until the round of the first of the two they move up together; then the second takes its slot.
  have carried := @loop_inv _ (takeOut hit behind)
    (fun n (now : List α) => now.length = items.length ∧
      ((∃ k a b, n ≤ k ∧ now[k]? = some a ∧ now[k + 1]? = some b ∧ hit a = true ∧ hit b = true) ∨
        ∃ k c, k < n ∧ now[k]? = some c ∧ hit c = true))
    0 items.length items (Nat.zero_le _)
    ⟨rfl, .inl ⟨k, a, b, Nat.zero_le k, at_k, next, first, second⟩⟩
    (by
      intro n now _ below ⟨length, carried⟩
      refine ⟨length_takeOut.trans length, ?_⟩
      rcases takeOut_cases hit behind n now with ⟨-, -, -, taken⟩ | ⟨stays, same⟩
      · rw [taken]
        rcases carried with ⟨k, a, b, late, at_k, at_next, first, second⟩ | ⟨k, c, early, at_k, left⟩
        · rcases Nat.lt_trichotomy k (n + 1) with here | following | later
          · rw [show k = n by omega] at at_next
            exact .inr ⟨n, b, by omega, getElem?_moved behind (Nat.le_refl n) at_next, second⟩
          · rw [following] at at_k
            exact .inr ⟨n, a, by omega, getElem?_moved behind (Nat.le_refl n) at_k, first⟩
          · have up : k = k - 1 + 1 := by omega
            rw [up] at at_k
            refine .inl ⟨k - 1, a, b, by omega, getElem?_moved behind (by omega) at_k, ?_, first,
              second⟩
            rw [← up]
            exact getElem?_moved behind late at_next
        · exact .inr ⟨k, c, by omega, getElem?_before behind (by omega) early at_k, left⟩
      · rw [same]
        rcases carried with ⟨k, a, b, late, at_k, at_next, first, second⟩ | ⟨k, c, early, at_k, left⟩
        · refine .inl ⟨k, a, b, ?_, at_k, at_next, first, second⟩
          by_contra early
          rw [show k = n by omega] at at_k
          rw [stays a at_k] at first
          cases first
        · exact .inr ⟨k, c, by omega, at_k, left⟩)
  obtain ⟨length, ⟨k, a, b, late, at_k, -⟩ | ⟨k, c, -, at_k, left⟩⟩ := carried
  · have inside : k < (loop 0 items.length (takeOut hit behind) items).length :=
      (List.getElem?_eq_some_iff.mp at_k).1
    omega
  · exact ⟨c, List.mem_of_getElem? at_k, left⟩

/-- Taking out one of them leaves items to take out apart. -/
theorem Apart.eraseIdx (apart : Apart hit items) (gone : ∀ k < i, ∀ a, items[k]? = some a →
    hit a = false) : Apart hit (items.eraseIdx i) := by
  intro k a b at_k next found
  by_cases early : k < i
  · rw [List.getElem?_eraseIdx_of_lt early] at at_k
    rw [gone k early a at_k] at found
    cases found
  · rw [List.getElem?_eraseIdx_of_ge (by omega)] at at_k next
    exact apart (k + 1) a b at_k next found

/-- All items to take out are taken out when they are apart, and the others move up. -/
theorem takeOutAll_of_free (apart : Apart hit items) (free : hit behind = false) :
    takeOutAll hit behind items =
      items.filter (fun a => !hit a) ++ List.replicate (items.countP hit) behind := by
  -- The table is what is left of the items, with what lies behind it in the slots after them.
  obtain ⟨left, count, now, length, others, gone, -⟩ := @loop_inv _ (takeOut hit behind)
    (fun n (now : List α) => ∃ left count, now = left ++ List.replicate count behind ∧
      left.length + count = items.length ∧
      left.filter (fun a => !hit a) = items.filter (fun a => !hit a) ∧
      (∀ k < n, ∀ a, left[k]? = some a → hit a = false) ∧ Apart hit left)
    0 items.length items (Nat.zero_le _)
    ⟨items, 0, by simp, by simp, rfl, fun k below => absurd below (Nat.not_lt_zero k), apart⟩
    (by
      rintro n now - below ⟨left, count, rfl, length, others, gone, apart⟩
      rcases takeOut_cases hit behind n (left ++ List.replicate count behind) with
        ⟨a, at_n, found, taken⟩ | ⟨stays, same⟩
      · have inside : n < left.length := by
          by_contra late
          rw [List.getElem?_append_right (by omega)] at at_n
          have filler := List.eq_of_mem_replicate (List.mem_of_getElem? at_n)
          rw [filler, free] at found
          cases found
        rw [List.getElem?_append_left inside] at at_n
        refine ⟨left.eraseIdx n, count + 1, ?_, ?_, ?_, ?_, apart.eraseIdx gone⟩
        · rw [taken, List.eraseIdx_append_of_lt_length inside, List.append_assoc,
            ← List.replicate_succ']
        · rw [List.length_eraseIdx_of_lt inside]
          omega
        · rw [filter_eraseIdx at_n (by simp [found]), others]
        · intro k early b at_k
          by_cases before : k < n
          · rw [List.getElem?_eraseIdx_of_lt before] at at_k
            exact gone k before b at_k
          · rw [List.getElem?_eraseIdx_of_ge (by omega), show k = n by omega] at at_k
            exact apart n a b at_n at_k found
      · refine ⟨left, count, same, length, others, ?_, apart⟩
        intro k early b at_k
        by_cases before : k < n
        · exact gone k before b at_k
        · have inside : k < left.length := (List.getElem?_eq_some_iff.mp at_k).1
          have here : n = k := by omega
          apply stays b
          rw [here, List.getElem?_append_left inside, at_k])
  have kept : left.filter (fun a => !hit a) = left := by
    apply List.filter_eq_self.mpr
    intro a member
    obtain ⟨k, at_k⟩ := List.mem_iff_getElem?.mp member
    have inside : k < left.length := (List.getElem?_eq_some_iff.mp at_k).1
    simp [gone k (by omega) a at_k]
  have counted : items.countP hit = count := by
    have parts := List.length_eq_length_filter_add (l := items) hit
    have rest : (items.filter fun a => !hit a).length = left.length := by rw [← others, kept]
    rw [List.countP_eq_length_filter]
    omega
  rw [takeOutAll, now, counted, ← others, kept]

/-- What lies behind the table only matters when something is taken out. -/
theorem takeOutAll_eq (apart : Apart hit items)
    (free : (∃ a ∈ items, hit a = true) → hit behind = false) :
    takeOutAll hit behind items =
      items.filter (fun a => !hit a) ++ List.replicate (items.countP hit) behind := by
  by_cases occurs : ∃ a ∈ items, hit a = true
  · exact takeOutAll_of_free apart (free occurs)
  · have absent : ∀ a ∈ items, hit a = false := by
      intro a member
      exact Bool.eq_false_iff.mpr fun found => occurs ⟨a, member, found⟩
    have all : items.filter (fun a => !hit a) = items :=
      List.filter_eq_self.mpr fun a member => by simp [absent a member]
    have none : items.countP hit = 0 :=
      List.countP_eq_zero.mpr fun a member => by simp [absent a member]
    rw [takeOutAll_absent absent, all, none, List.replicate_zero, List.append_nil]

end Removal

end Tables
