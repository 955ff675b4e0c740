import BoaIpcam.Lib.LinkedList
import Mathlib.Data.List.Range

/-!
# Hash tables with chains through the entries

The entries of a table are numbered. A table of buckets holds for each bucket the number of its
first entry, and the entries are linked by a pointer in each of them. Inserting an entry puts it
in front of its bucket; its own pointer is set only when the bucket has an entry already, so it
must be none before. A bucket then is the linked list of its entries, the last inserted first,
and walking it is a search of that list.
-/
namespace HashChains

open LinkedList

variable {β : Type} [DecidableEq β] {bucketOf : Nat → β}

/-- The first entries of the buckets and the links of the entries. -/
structure Table (β : Type) where
  /-- The first entry of a bucket. -/
  entry : β → Option Nat
  /-- The entry behind another. -/
  next : Nat → Option Nat

/-- Buckets and links as they are before the first entry is inserted. -/
def Table.empty : Table β := ⟨fun _ => none, fun _ => none⟩

/-- Insert an entry in front of a bucket. -/
def Table.insert (table : Table β) (bucket : β) (number : Nat) : Table β where
  entry := Function.update table.entry bucket (some number)
  next :=
    if (table.entry bucket).isSome then Function.update table.next number (table.entry bucket)
    else table.next

/-- Insert the entries with the numbers below a count in their order. -/
def build (bucketOf : Nat → β) (count : Nat) : Table β :=
  (List.range count).foldl (fun table number => table.insert (bucketOf number) number) .empty

/-- The numbers of a bucket, the last inserted first. -/
def members (bucketOf : Nat → β) (bucket : β) (count : Nat) : List Nat :=
  ((List.range count).filter fun number => bucketOf number = bucket).reverse

/-- The numbers of a bucket are those of its entries. -/
theorem mem_members {bucket : β} {count number : Nat} :
    number ∈ members bucketOf bucket count ↔ number < count ∧ bucketOf number = bucket := by
  simp [members]

/-- One more entry is in front of its bucket and changes no other. -/
theorem members_succ (bucket : β) (count : Nat) :
    members bucketOf bucket (count + 1) =
      if bucketOf count = bucket then count :: members bucketOf bucket count
      else members bucketOf bucket count := by
  by_cases here : bucketOf count = bucket <;> simp [members, List.range_succ, here]

/-- Building goes on with one more entry. -/
theorem build_succ (count : Nat) :
    build bucketOf (count + 1) = (build bucketOf count).insert (bucketOf count) count := by
  simp [build, List.range_succ]

/-- The new entry is the first of its bucket. -/
theorem insert_entry_self (table : Table β) (bucket : β) (number : Nat) :
    (table.insert bucket number).entry bucket = some number := Function.update_self ..

/-- The other buckets keep their first entries. -/
theorem insert_entry_of_ne (table : Table β) {bucket other : β} (number : Nat)
    (apart : other ≠ bucket) : (table.insert bucket number).entry other = table.entry other :=
  Function.update_of_ne apart ..

/-- The other entries keep their links. -/
theorem insert_next_of_ne (table : Table β) (bucket : β) {number other : Nat}
    (apart : other ≠ number) : (table.insert bucket number).next other = table.next other := by
  by_cases some : (table.entry bucket).isSome
  · simp only [Table.insert, if_pos some]
    exact Function.update_of_ne apart ..
  · simp only [Table.insert, if_neg some]

/-- An entry without a link is linked to the old first entry of the bucket, if there is one. -/
theorem insert_next_self (table : Table β) (bucket : β) {number : Nat}
    (fresh : table.next number = none) :
    (table.insert bucket number).next number = table.entry bucket := by
  by_cases some : (table.entry bucket).isSome
  · simp only [Table.insert, if_pos some]
    exact Function.update_self ..
  · simp only [Table.insert, if_neg some, fresh]
    exact (Option.not_isSome_iff_eq_none.mp some).symm

/-- An entry that is not inserted has no link. -/
theorem build_next_none {count number : Nat} (later : count ≤ number) :
    (build bucketOf count).next number = none := by
  induction count with
  | zero => rfl
  | succ count ih =>
    rw [build_succ, insert_next_of_ne _ _ (show number ≠ count by omega)]
    exact ih (by omega)

/-- Each bucket is the list of its entries. -/
theorem build_chain (bucket : β) (count : Nat) :
    Chain (build bucketOf count).next ((build bucketOf count).entry bucket)
      (members bucketOf bucket count) := by
  induction count generalizing bucket with
  | zero => rfl
  | succ count ih =>
    have kept : ∀ number ∈ members bucketOf bucket count,
        (build bucketOf (count + 1)).next number = (build bucketOf count).next number := by
      intro number member
      have other : number ≠ count := Nat.ne_of_lt (mem_members.mp member).1
      rw [build_succ, insert_next_of_ne _ _ other]
    have old := (ih bucket).congr kept
    rw [members_succ]
    by_cases here : bucketOf count = bucket
    · subst here
      rw [if_pos rfl]
      constructor
      · rw [build_succ, insert_entry_self]
      · rw [build_succ, insert_next_self _ _ (build_next_none (Nat.le_refl count)), ← build_succ]
        exact old
    · rw [if_neg here, build_succ, insert_entry_of_ne _ _ (Ne.symm here), ← build_succ]
      exact old

/-- Searching the numbers of a bucket finds the last inserted entry that is looked for. -/
theorem find?_members_eq_some {found : Nat → Bool} {bucket : β} {count number : Nat} :
    (members bucketOf bucket count).find? found = some number ↔
      (number < count ∧ bucketOf number = bucket ∧ found number = true) ∧
        ∀ other, number < other → other < count → bucketOf other = bucket →
          found other = false := by
  induction count with
  | zero => simp [members]
  | succ count ih =>
    rw [members_succ]
    by_cases newest : bucketOf count = bucket ∧ found count = true
    · rw [if_pos newest.1, List.find?_cons_of_pos newest.2, Option.some_inj]
      constructor
      · rintro rfl
        exact ⟨⟨Nat.lt_succ_self _, newest⟩, fun other later below => by omega⟩
      · rintro ⟨⟨below, -, -⟩, last⟩
        by_contra different
        have missed := last count (by omega) (Nat.lt_succ_self _) newest.1
        rw [newest.2] at missed
        cases missed
    · have skip : (if bucketOf count = bucket then count :: members bucketOf bucket count
          else members bucketOf bucket count).find? found =
            (members bucketOf bucket count).find? found := by
        by_cases here : bucketOf count = bucket
        · rw [if_pos here, List.find?_cons_of_neg (fun hit => newest ⟨here, hit⟩)]
        · rw [if_neg here]
      rw [skip, ih]
      constructor
      · rintro ⟨⟨below, hit⟩, last⟩
        refine ⟨⟨by omega, hit⟩, fun other later bound here => ?_⟩
        rcases Nat.lt_succ_iff_lt_or_eq.mp bound with older | rfl
        · exact last other later older here
        · exact Bool.eq_false_iff.mpr fun hit => newest ⟨here, hit⟩
      · rintro ⟨⟨below, hit⟩, last⟩
        have apart : number ≠ count := by
          rintro rfl
          exact newest hit
        exact ⟨⟨by omega, hit⟩, fun other later bound => last other later (by omega)⟩

/-- Walk a bucket until an entry is the one looked for. The entries are below the count, so the
walk ends within that many rounds. -/
def lookup (table : Table β) (count : Nat) (found : Nat → Bool) (bucket : β) : Option Nat :=
  (seek table.next found count (table.entry bucket)).join

/-- Walking a bucket searches the list of its entries. -/
theorem lookup_build (count : Nat) (found : Nat → Bool) (bucket : β) :
    lookup (build bucketOf count) count found bucket =
      (members bucketOf bucket count).find? found := by
  have linked : Chain (build bucketOf count).next _ (members bucketOf bucket count) :=
    build_chain bucket count
  have short : (members bucketOf bucket count).length ≤ count := by
    rw [members, List.length_reverse]
    exact (List.length_filter_le _ _).trans (List.length_range).le
  rw [lookup, seek_chain linked short, Option.join_some]

end HashChains
