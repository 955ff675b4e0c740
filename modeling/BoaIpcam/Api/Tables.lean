import BoaIpcam.Api.Commands

/-!
# The dispatch tables against a linear search

The three searches walk the bucket of the key. A search of the whole table finds the same when
an entry with the same name is in that bucket. Equal names have the same bucket, so the commands
are always found; names that are equal but for the case of letters need not have it.
-/
namespace BoaIpcam

variable {α σ : Type}

/-- What a search of the whole table finds: something when an entry has the same name, and only
such an entry. -/
def Agrees (name : α → List UInt8) (table : List α) (same : List UInt8 → List UInt8 → Prop)
    (key : List UInt8) (found : Option α) : Prop :=
  (found.isSome = true ↔ ∃ entry ∈ table, same (name entry) key) ∧
    ∀ entry, found = some entry → entry ∈ table ∧ same (name entry) key

/-- If an entry has the same name as the key, such an entry is in the bucket of the key. -/
def BucketHolds (name : α → List UInt8) (table : List α) (same : List UInt8 → List UInt8 → Prop)
    (key : List UInt8) : Prop :=
  (∃ entry ∈ table, same (name entry) key) →
    ∃ entry ∈ table, uriBucket (name entry) = uriBucket key ∧ same (name entry) key

/-- The walk of a bucket agrees with a search of the whole table exactly when the bucket holds
an entry with the same name whenever the table does. -/
theorem hashSearch_agrees_iff (name : α → List UInt8) (table : List α)
    (same : List UInt8 → List UInt8 → Prop) [DecidableRel same] (key : List UInt8) :
    Agrees name table same key
        (hashSearch name table (fun left right => decide (same left right)) key) ↔
      BucketHolds name table same key := by
  have found := @hashSearch_isSome α name table (fun left right => decide (same left right)) key
  simp only [decide_eq_true_iff] at found
  constructor
  · intro agrees present
    exact found.mp (agrees.1.mpr present)
  · intro holds
    constructor
    · rw [found]
      constructor
      · intro ⟨entry, member, _, equal⟩
        exact ⟨entry, member, equal⟩
      · exact holds
    · intro entry result
      obtain ⟨member, -, equal⟩ := hashSearch_some name result
      exact ⟨member, of_decide_eq_true equal⟩

/-- The three searches agree with a search of their tables, which are listed once. The key of the
commands is made lower case before. -/
structure SearchesAgree (uris : List HttpUri) (arguments : List HtmlArgument)
    (options : List (HttpOption σ)) (key : List UInt8) : Prop where
  /-- The walk over the pages. -/
  uri : Agrees HttpUri.name uris StrCaseEq key (httpUriWalk uris key)
  /-- The search of the tags. -/
  argument : Agrees HtmlArgument.name arguments StrCaseEq key (htmlArgumentSearch arguments key)
  /-- The search of the commands. -/
  option : Agrees HttpOption.name options Eq (strToLower key)
    (httpOptionSearch options (strToLower key))
  /-- No page is listed twice. -/
  urisListed : ListedOnce HttpUri.name uris
  /-- No tag is listed twice. -/
  argumentsListed : ListedOnce HtmlArgument.name arguments
  /-- No command is listed twice. -/
  optionsListed : ListedOnce HttpOption.name options

/-- Commands are found exactly when the table has them. -/
theorem httpOptionSearch_agrees (options : List (HttpOption σ)) (key : List UInt8) :
    Agrees HttpOption.name options Eq key (httpOptionSearch options key) := by
  apply (hashSearch_agrees_iff HttpOption.name options Eq key).mpr
  intro ⟨entry, member, equal⟩
  exact ⟨entry, member, congrArg uriBucket equal, equal⟩

/-- For all tables and every key, the searches agree with a search of the whole tables exactly
when the bucket of the key holds a URI and a tag with the name of the key up to case whenever the
tables do. -/
theorem searchesAgree_iff (uris : List HttpUri) (arguments : List HtmlArgument)
    (options : List (HttpOption σ)) (key : List UInt8) :
    SearchesAgree uris arguments options key ↔
      BucketHolds HttpUri.name uris StrCaseEq key ∧
        BucketHolds HtmlArgument.name arguments StrCaseEq key := by
  constructor
  · intro agree
    exact ⟨(hashSearch_agrees_iff _ _ _ _).mp agree.uri,
      (hashSearch_agrees_iff _ _ _ _).mp agree.argument⟩
  · intro ⟨uri, argument⟩
    constructor
    · exact (hashSearch_agrees_iff _ _ _ _).mpr uri
    · exact (hashSearch_agrees_iff _ _ _ _).mpr argument
    · exact httpOptionSearch_agrees options _
    · exact hashTableInit_listed _ _
    · exact hashTableInit_listed _ _
    · exact hashTableInit_listed _ _

/-- A URI in capital letters and a tag with one are not found. -/
theorem searches_miss :
    ¬SearchesAgree [⟨ascii "/vb.htm", true, 0, true, false⟩] [] ([] : List (HttpOption Unit))
        (ascii "/VB.HTM") ∧
      ¬SearchesAgree [] [⟨ascii "title", fun _ => .text [], 0⟩] ([] : List (HttpOption Unit))
        (ascii "Title") := by
  constructor
  · intro agree
    have found := agree.uri.1.mpr ⟨_, List.mem_cons_self, by decide⟩
    exact absurd found (by decide)
  · intro agree
    have found := agree.argument.1.mpr ⟨_, List.mem_cons_self, by decide⟩
    exact absurd found (by decide)

end BoaIpcam
