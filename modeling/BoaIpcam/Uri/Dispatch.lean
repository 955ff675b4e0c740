import BoaIpcam.Uri.Table
import BoaIpcam.Lib.HashChains

/-!
# Hashed dispatch tables

The server has three static tables that it searches by name: `HttpUri`, `HttpArgument` and
`HttpOptionTable`. Each has its own copy of the same functions: the hash, the insertion of an
entry in front of its bucket, the loop that inserts the whole table, and the walk of one bucket.
The chains go through a field of the entries. Here they are one definition with the names of the
entries and the comparison as parameters; `http_uri_search`, which the model of the URIs has as a
search of a list, is shown to be that walk.
-/
namespace BoaIpcam

variable {α : Type} (name : α → List UInt8) (table : List α)

/-- The bucket of the entry with a number. -/
def entryBucket (number : Nat) : UInt32 :=
  match table[number]? with
  | some entry => uriBucket (name entry)
  | none => 0

/-- The init function of a table: it inserts the entries in the order of the table. -/
def hashTableInit : HashChains.Table UInt32 :=
  HashChains.build (entryBucket name table) table.length

/-- The search function of a table: it walks the bucket of the key until a name is the same. -/
def hashSearch (same : List UInt8 → List UInt8 → Bool) (key : List UInt8) : Option α :=
  (HashChains.lookup (hashTableInit name table) table.length
    (fun number => table[number]?.any fun entry => same (name entry) key)
    (uriBucket key)).bind fun number => table[number]?

/-- The numbers of a table lead through it. -/
theorem filterMap_range :
    (List.range table.length).filterMap (fun number => table[number]?) = table := by
  induction table with
  | nil => rfl
  | cons entry rest ih =>
    rw [List.length_cons, List.range_succ_eq_map, List.filterMap_cons, List.filterMap_map]
    exact congrArg (entry :: ·) ih

/-- The numbers of a bucket lead through its entries. -/
theorem filterMap_members (bucket : UInt32) :
    (HashChains.members (entryBucket name table) bucket table.length).filterMap
        (fun number => table[number]?) =
      (table.filter fun entry => uriBucket (name entry) = bucket).reverse := by
  have kept : ∀ number, (if entryBucket name table number = bucket then table[number]? else none) =
      table[number]?.filter fun entry => uriBucket (name entry) = bucket := by
    intro number
    unfold entryBucket
    cases table[number]? with
    | none => simp
    | some entry => by_cases here : uriBucket (name entry) = bucket <;> simp [Option.filter, here]
  conv_rhs => rw [← filterMap_range table, List.filter_filterMap]
  rw [HashChains.members, List.filterMap_reverse, List.filterMap_filter]
  simp only [decide_eq_true_iff, kept]

variable {table}

/-- The search is a search of the bucket's entries, the last one of the table first. -/
theorem hashSearch_eq (same : List UInt8 → List UInt8 → Bool) (key : List UInt8) :
    hashSearch name table same key =
      (table.filter fun entry => uriBucket (name entry) = uriBucket key).reverse.find?
        fun entry => same (name entry) key := by
  rw [hashSearch, hashTableInit, HashChains.lookup_build, ← filterMap_members,
    List.find?_filterMap]

/-- What is found is an entry of the table in the bucket of the key with the same name. -/
theorem hashSearch_some {same : List UInt8 → List UInt8 → Bool} {key : List UInt8} {entry : α}
    (found : hashSearch name table same key = some entry) :
    entry ∈ table ∧ uriBucket (name entry) = uriBucket key ∧ same (name entry) key = true := by
  rw [hashSearch_eq] at found
  have member := List.mem_of_find?_eq_some found
  rw [List.mem_reverse, List.mem_filter, decide_eq_true_iff] at member
  exact ⟨member.1, member.2, by simpa using List.find?_some found⟩

/-- Something is found exactly when an entry in the bucket of the key has the same name. -/
theorem hashSearch_isSome {same : List UInt8 → List UInt8 → Bool} {key : List UInt8} :
    (hashSearch name table same key).isSome = true ↔
      ∃ entry ∈ table, uriBucket (name entry) = uriBucket key ∧ same (name entry) key = true := by
  rw [hashSearch_eq, List.find?_isSome]
  simp only [List.mem_reverse, List.mem_filter, decide_eq_true_iff, and_assoc]

/-- The init function links the entries of each bucket to a list, and these lists hold every
entry of the table once, in its bucket. -/
def ListedOnce (name : α → List UInt8) (table : List α) : Prop :=
  ∃ lists : UInt32 → List Nat,
    (∀ bucket, LinkedList.Chain (hashTableInit name table).next
      ((hashTableInit name table).entry bucket) (lists bucket)) ∧
    ∀ number bucket, (lists bucket).count number =
      if number < table.length ∧ entryBucket name table number = bucket then 1 else 0

/-- Every table is listed once. -/
theorem hashTableInit_listed (name : α → List UInt8) (table : List α) : ListedOnce name table := by
  have linked : ∀ bucket, LinkedList.Chain (hashTableInit name table).next
      ((hashTableInit name table).entry bucket)
      (HashChains.members (entryBucket name table) bucket table.length) :=
    fun bucket => HashChains.build_chain bucket table.length
  refine ⟨_, linked, fun number bucket => ?_⟩
  rw [(linked bucket).nodup.count]
  simp only [HashChains.mem_members]

/-- `http_uri_search` on the chains that `uri_hash_table_init` makes. -/
def httpUriWalk (table : List HttpUri) (arg : List UInt8) : Option HttpUri :=
  hashSearch HttpUri.name table (fun left right => decide (StrCaseEq left right)) arg

end BoaIpcam
