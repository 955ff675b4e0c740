import Mathlib.Data.List.TakeWhile
import BoaIpcam.Lib.Buckets
import BoaIpcam.Uri.Translate

/-!
# The hash tables of a site

`add_alias` of `alias.c` and `add_mime_type` of `hash.c` fill the hash tables of the aliases and of the
types when the configuration is read; `get_home_dir` keeps what it has asked for. A look-up in a
table is one in the list of all entries in the order of the configuration.
-/
namespace BoaIpcam.SiteTables

open Buckets

attribute [local instance] text_lawfulBEq

/-! ## Aliases -/

/-- `add_alias` in a bucket. It does not look at the last entry. -/
def addAliasTo (bucket : List Alias) (entry : Alias) : List Alias :=
  if bucket.dropLast.any fun old => entry.fakename = old.fakename then bucket
  else bucket ++ [entry]

/-- `alias_hashtable` after some calls of `add_alias`. -/
def aliasHashtable (added : List Alias) : UInt32 → List Alias :=
  build addAliasTo (fun entry => getAliasHashValue entry.fakename) added

/-- `find_alias`. -/
def findAlias (table : UInt32 → List Alias) (uri : List UInt8) : Option Alias :=
  (table (getAliasHashValue uri)).find? fun current => current.Covers uri

/-- `add_alias` leaves out an alias only for one with its name. -/
theorem appends_alias : Appends Alias.fakename addAliasTo := by
  intro bucket entry
  rw [addAliasTo]
  split
  · rename_i twice
    obtain ⟨old, member, same⟩ := List.any_eq_true.mp twice
    exact .inr ⟨rfl, old, List.dropLast_subset _ member, (of_decide_eq_true same).symm⟩
  · exact .inl rfl

/-- The name that ends in its first character, a slash. -/
def root : List UInt8 := [47]

/-- The sum of the bytes up to the second slash. -/
theorem hash_of_covers {entry : Alias} {uri : List UInt8} (covers : entry.Covers uri)
    (other : entry.fakename ≠ root) :
    getAliasHashValue entry.fakename = getAliasHashValue uri := by
  obtain ⟨⟨rest, rfl⟩, ends⟩ := covers
  rw [List.drop_left] at ends
  cases name : entry.fakename with
  | nil => exact absurd name entry.fakename_ne
  | cons c tail =>
    have same : (tail ++ rest).takeWhile (· ≠ 47) = tail.takeWhile (· ≠ 47) := by
      by_cases slash : 47 ∈ tail
      · rw [List.takeWhile_append, if_neg]
        intro all
        have whole := (List.takeWhile_prefix (fun c : UInt8 => decide (c ≠ 47)) (l := tail)).eq_of_length
          all
        have solid := List.mem_takeWhile_imp (whole ▸ slash)
        simp at solid
      · have all : tail.takeWhile (· ≠ 47) = tail := by
          rw [List.takeWhile_eq_self_iff]
          intro d member
          have apart : d ≠ 47 := fun same => slash (same ▸ member)
          simpa using apart
        rw [List.takeWhile_append, if_pos (congrArg List.length all), all]
        rw [name] at ends
        have stops : rest.takeWhile (· ≠ 47) = [] := by
          rcases ends with last | nothing | next
          · cases tail with
            | nil =>
              have whole : c = 47 := by simpa using last
              rw [whole] at name
              exact absurd name other
            | cons d tail =>
              have member : 47 ∈ d :: tail := by
                rw [List.getLast?_cons_cons] at last
                exact List.mem_of_getLast? last
              exact absurd member slash
          · rw [nothing]
            rfl
          · cases rest with
            | nil => cases next
            | cons d rest =>
              have whole : d = 47 := by simpa using next
              rw [whole]
              rfl
        rw [stops, List.append_nil]
    rw [List.cons_append, getAliasHashValue, getAliasHashValue, same]

/-- `find_alias` looks for the first alias of the bucket. -/
theorem findAlias_build (added : List Alias) (uri : List UInt8) :
    findAlias (aliasHashtable added) uri = added.find? fun entry =>
      getAliasHashValue entry.fakename = getAliasHashValue uri ∧ entry.Covers uri := by
  have keyed : ∀ old item : Alias, old.fakename = item.fakename →
      decide (old.Covers uri) = decide (item.Covers uri) := by
    intro old item same
    have equal : old.Covers uri ↔ item.Covers uri := by
      rw [Alias.Covers, Alias.Covers, same]
    exact decide_eq_decide.mpr equal
  rw [findAlias, aliasHashtable, find?_build appends_alias keyed]
  congr 1
  funext entry
  exact (Bool.decide_and ..).symm

/-- After any calls of `add_alias`, `find_alias` gives what the list of the aliases gives: the first
one that covers the path. Only the alias whose name is a single slash is found for no other paths
than those of its bucket. -/
theorem findAlias_exact (site : Site) (uri : List UInt8) :
    findAlias (aliasHashtable site.aliases) uri = site.findAlias uri ∧
      site.findAlias uri = site.aliases.find? fun entry => entry.Covers uri ∧
        (entry.fakename = root → getAliasHashValue root = getAliasHashValue uri) := by
  refine ⟨findAlias_build site.aliases uri, ?_⟩
  rw [Site.findAlias]
  congr 1
  funext entry
  apply decide_eq_decide.mpr
  constructor
  · intro both
    refine ⟨both.2, ?_⟩
    intro single
    rw [← single]
    exact both.1
  · intro both
    refine ⟨?_, both.1⟩
    by_cases single : entry.fakename = root
    · rw [single]
      exact both.2 single
    · exact hash_of_covers both.1 single

/-! ## Types -/

/-- `djb2_hash`: the first four characters. -/
def djb2Hash (str : List UInt8) : UInt32 :=
  (str.take 4).foldl (fun hash c => (hash <<< 5) + hash + c.toUInt32) 5381

/-- `get_mime_hash_value`, and `get_homedir_hash_value`, whose table is as large. -/
def getHashValue (name : List UInt8) : UInt32 := if name = [] then 0 else djb2Hash name % 47

/-- The end of `add_mime_type` and of `get_home_dir`: an entry with a key that is not there yet is
appended. -/
def addEntry (bucket : List (List UInt8 × List UInt8)) (entry : List UInt8 × List UInt8) :
    List (List UInt8 × List UInt8) :=
  if bucket.any fun current => current.1 = entry.1 then bucket else bucket ++ [entry]

/-- A hash table after some entries were added. -/
def hashtable (added : List (List UInt8 × List UInt8)) :
    UInt32 → List (List UInt8 × List UInt8) :=
  build addEntry (fun entry => getHashValue entry.1) added

/-- The value of a key in a hash table. -/
def lookUp (table : UInt32 → List (List UInt8 × List UInt8)) (key : List UInt8) :
    Option (List UInt8) :=
  ((table (getHashValue key)).find? fun current => current.1 = key).map (·.2)

/-- `get_mime_type`. The test for an empty extension looks at the dot, so it never holds. -/
def getMimeType (table : UInt32 → List (List UInt8 × List UInt8)) (defaultType : List UInt8)
    (filename : List UInt8) : List UInt8 :=
  match splitAtByte 46 filename.reverse with
  | none => defaultType
  | some (extension, _) => (lookUp table extension.reverse).getD defaultType

/-- An entry is left out only for one with its key. -/
theorem appends_entry : Appends Prod.fst addEntry := by
  intro bucket entry
  rw [addEntry]
  split
  · rename_i twice
    obtain ⟨old, member, same⟩ := List.any_eq_true.mp twice
    exact .inr ⟨rfl, old, member, of_decide_eq_true same⟩
  · exact .inl rfl

/-- A look-up gives the first value that was added for the key. -/
theorem lookUp_hashtable (added : List (List UInt8 × List UInt8)) (key : List UInt8) :
    lookUp (hashtable added) key = (added.find? fun entry => entry.1 = key).map (·.2) := by
  have keyed : ∀ old item : List UInt8 × List UInt8, old.1 = item.1 →
      decide (old.1 = key) = decide (item.1 = key) := by
    intro old item same
    rw [same]
  rw [lookUp, hashtable, find?_build appends_entry keyed]
  congr 2
  funext entry
  by_cases same : entry.1 = key
  · simp [same]
  · simp [same]

/-- The first value that was added for a key. -/
def firstOf (added : List (List UInt8 × List UInt8)) (key : List UInt8) : Option (List UInt8) :=
  (added.find? fun entry => entry.1 = key).map (·.2)

/-- After any calls of `add_mime_type`, `get_mime_type` gives the type of the site in which each
extension has the first type that was added for it. -/
theorem getMimeType_exact (site : Site) (added : List (List UInt8 × List UInt8))
    (filename : List UInt8) :
    getMimeType (hashtable added) site.defaultType filename =
      { site with mimeTypes := firstOf added }.getMimeType filename := by
  unfold getMimeType Site.getMimeType
  cases splitAtByte 46 filename.reverse with
  | none => rfl
  | some parts =>
    obtain ⟨extension, rest⟩ := parts
    dsimp only
    rw [lookUp_hashtable, firstOf]

/-! ## Home directories -/

/-- `get_home_dir`, with the answer of `getpwnam`: the directory and the table. -/
def getHomeDir (table : UInt32 → List (List UInt8 × List UInt8)) (name : List UInt8)
    (passwd : Option (List UInt8)) :
    Option (List UInt8) × (UInt32 → List (List UInt8 × List UInt8)) :=
  match lookUp table name, passwd with
  | some directory, _ => (some directory, table)
  | none, none => (none, table)
  | none, some directory =>
    (some directory, put addEntry (fun entry => getHashValue entry.1) table (name, directory))

/-- `passwd_hashtable` after some calls. -/
def askedTable (asked : List (List UInt8 × Option (List UInt8))) :
    UInt32 → List (List UInt8 × List UInt8) :=
  asked.foldl (fun table a => (getHomeDir table a.1 a.2).2) fun _ => []

/-- The first directory that `getpwnam` gave for a name. -/
def firstGiven (asked : List (List UInt8 × Option (List UInt8))) (name : List UInt8) :
    Option (List UInt8) :=
  asked.findSome? fun a => if a.1 = name then a.2 else none

/-- One more call. -/
theorem firstGiven_concat (asked : List (List UInt8 × Option (List UInt8)))
    (a : List UInt8 × Option (List UInt8)) (name : List UInt8) :
    firstGiven (asked ++ [a]) name =
      (firstGiven asked name).or (if a.1 = name then a.2 else none) := by
  rw [firstGiven, firstGiven, List.findSome?_append, List.findSome?_singleton]

/-- One more entry. -/
theorem firstOf_concat (added : List (List UInt8 × List UInt8)) (entry : List UInt8 × List UInt8)
    (key : List UInt8) :
    firstOf (added ++ [entry]) key =
      (firstOf added key).or (if entry.1 = key then some entry.2 else none) := by
  rw [firstOf, firstOf, List.find?_append]
  cases added.find? fun entry => decide (entry.1 = key) with
  | some found => rfl
  | none =>
    by_cases same : entry.1 = key
    · simp [same]
    · simp [same]

/-- The table holds the directories that were given. -/
theorem askedTable_eq (asked : List (List UInt8 × Option (List UInt8))) :
    ∃ added, askedTable asked = hashtable added ∧
      ∀ name, firstOf added name = firstGiven asked name := by
  induction asked using List.reverseRecOn with
  | nil => exact ⟨[], rfl, fun name => rfl⟩
  | append_singleton asked a ih =>
    obtain ⟨added, table, same⟩ := ih
    have step : askedTable (asked ++ [a]) = (getHomeDir (hashtable added) a.1 a.2).2 := by
      rw [askedTable, List.foldl_append, ← table]
      rfl
    have known : lookUp (hashtable added) a.1 = firstGiven asked a.1 :=
      (lookUp_hashtable added a.1).trans (same a.1)
    have others : ∀ name, a.1 ≠ name → firstGiven (asked ++ [a]) name = firstGiven asked name := by
      intro name apart
      rw [firstGiven_concat, if_neg apart, Option.or_none]
    cases given : firstGiven asked a.1 with
    | some directory =>
      refine ⟨added, ?_, ?_⟩
      · rw [step]
        unfold getHomeDir
        rw [known, given]
      · intro name
        by_cases here : a.1 = name
        · rw [same, firstGiven_concat, ← here, given]
          rfl
        · rw [same, others name here]
    | none =>
      cases answer : a.2 with
      | none =>
        refine ⟨added, ?_, ?_⟩
        · rw [step]
          unfold getHomeDir
          rw [known, given, answer]
        · intro name
          rw [same, firstGiven_concat, answer, ite_self, Option.or_none]
      | some directory =>
        refine ⟨added ++ [(a.1, directory)], ?_, ?_⟩
        · rw [step]
          unfold getHomeDir
          rw [known, given, answer]
          rw [hashtable, hashtable, build_concat]
        · intro name
          rw [firstOf_concat, firstGiven_concat, same, answer]

/-- Whenever `get_home_dir` is called, it gives the first directory that `getpwnam` has given for the
name, this call included. -/
theorem getHomeDir_exact (asked : List (List UInt8 × Option (List UInt8))) (name : List UInt8)
    (passwd : Option (List UInt8)) :
    (getHomeDir (askedTable asked) name passwd).1 = firstGiven (asked ++ [(name, passwd)]) name := by
  obtain ⟨added, table, same⟩ := askedTable_eq asked
  have known : lookUp (hashtable added) name = firstGiven asked name :=
    (lookUp_hashtable added name).trans (same name)
  rw [table, firstGiven_concat, if_pos rfl]
  unfold getHomeDir
  rw [known]
  cases firstGiven asked name with
  | some directory => rfl
  | none =>
    cases passwd with
    | some directory => rfl
    | none => rfl

end BoaIpcam.SiteTables
