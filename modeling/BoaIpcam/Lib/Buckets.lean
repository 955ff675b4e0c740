import Mathlib.Data.List.Induction
import Mathlib.Logic.Function.Basic

/-!
# Hash tables that are filled once

Items are put into buckets by a hash of their keys, each behind those that are there. An item may be
left out when an item with its key is in the bucket already. A search of a bucket finds what a
search of all the items in their order finds: the first one, so that an item that was left out is
never missed.
-/
namespace Buckets

variable {ι β κ : Type} [DecidableEq β]

/-- An insertion puts an item behind the others or leaves it out for one with its key. -/
def Appends (key : ι → κ) (insert : List ι → ι → List ι) : Prop :=
  ∀ bucket item, insert bucket item = bucket ++ [item] ∨
    insert bucket item = bucket ∧ ∃ old ∈ bucket, key old = key item

/-- Insert an item into its bucket. -/
def put (insert : List ι → ι → List ι) (bucketOf : ι → β) (table : β → List ι) (item : ι) :
    β → List ι :=
  Function.update table (bucketOf item) (insert (table (bucketOf item)) item)

/-- A table of some items. -/
def build (insert : List ι → ι → List ι) (bucketOf : ι → β) (items : List ι) : β → List ι :=
  items.foldl (put insert bucketOf) fun _ => []

variable {key : ι → κ} {insert : List ι → ι → List ι} {bucketOf : ι → β}

/-- An item goes to its bucket. -/
theorem build_concat (items : List ι) (item : ι) :
    build insert bucketOf (items ++ [item]) =
      put insert bucketOf (build insert bucketOf items) item := by
  rw [build, List.foldl_append]
  rfl

/-- A search of a bucket for a property of the keys is a search of all the items. -/
theorem find?_build (appends : Appends key insert) {found : ι → Bool}
    (keyed : ∀ old item, key old = key item → found old = found item) (items : List ι) (bucket : β) :
    (build insert bucketOf items bucket).find? found =
      items.find? fun item => decide (bucketOf item = bucket) && found item := by
  induction items using List.reverseRecOn with
  | nil => rfl
  | append_singleton items last ih =>
    rw [build_concat, put, List.find?_append]
    by_cases here : bucket = bucketOf last
    · subst here
      rw [Function.update_self, ← ih]
      have alone : [last].find? (fun item => decide (bucketOf item = bucketOf last) && found item) =
          [last].find? found := by
        simp [List.find?_singleton]
      rw [alone]
      rcases appends (build insert bucketOf items (bucketOf last)) last with
        more | ⟨same, old, member, equal⟩
      · rw [more, List.find?_append]
      · rw [same]
        cases hit : found last with
        | false =>
          have missed : [last].find? found = none := by simp [hit]
          rw [missed, Option.or_none]
        | true =>
          have first : ((build insert bucketOf items (bucketOf last)).find? found).isSome := by
            rw [List.find?_isSome]
            exact ⟨old, member, (keyed old last equal).trans hit⟩
          rw [Option.or_of_isSome first]
    · rw [Function.update_of_ne here, ih]
      have missed : [last].find? (fun item => decide (bucketOf item = bucket) && found item) =
          none := by
        simp [Ne.symm here]
      rw [missed, Option.or_none]

end Buckets
