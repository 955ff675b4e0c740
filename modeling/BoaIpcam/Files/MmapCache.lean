import Mathlib.Algebra.BigOperators.Ring.Finset
import Mathlib.Algebra.Order.BigOperators.Group.Finset
import Mathlib.Data.Multiset.Count
import BoaIpcam.Lib.Probing
import BoaIpcam.Lib.Run

/-!
# The mapped files

`find_mmap` maps a file that is served and `release_mmap` gives the entry back. An entry counts its
users, and the last one unmaps the file. The table is searched from the inode's slot on; that the
search ends, that the counts are those of the requests and that a file in use stays mapped hold in
every run in which a request gives back an entry it has.
-/
namespace BoaIpcam.Mmap

open Probing TransitionSystem

/-! ## The table -/

/-- `MMAP_LIST_SIZE`. -/
def mmapListSize : ℕ := 256

instance : NeZero mmapListSize := ⟨by decide⟩

/-- `MMAP_LIST_USE_MAX`. -/
def mmapListUseMax : ℕ := 128

/-- The fields of `struct stat` that the table is searched for. -/
@[ext]
structure Stat where
  /-- The device. -/
  dev : ℕ
  /-- The number of the file on it. -/
  ino : ℕ
  /-- The size of the file. -/
  size : ℕ
deriving DecidableEq, Repr

/-- `struct mmap_entry`. -/
structure MmapEntry where
  /-- The device. -/
  dev : ℕ
  /-- The number of the file on it. -/
  ino : ℕ
  /-- The address of the mapping. -/
  mmap : ℕ
  /-- How many requests use it. -/
  useCount : ℕ
  /-- Its length. -/
  len : ℕ
deriving DecidableEq, Repr

/-- The entry is of the file. -/
def MmapEntry.Of (entry : MmapEntry) (s : Stat) : Prop :=
  entry.dev = s.dev ∧ entry.ino = s.ino ∧ entry.len = s.size

instance (entry : MmapEntry) (s : Stat) : Decidable (entry.Of s) :=
  inferInstanceAs (Decidable (_ ∧ _ ∧ _))

/-- `mmap_list` and the counters beside it. `maps` is a history variable, the mappings that
exist: an address and a length each. -/
structure Cache where
  /-- The entries. -/
  mmapList : Fin mmapListSize → MmapEntry
  /-- How many of them are in use. -/
  entriesUsed : ℤ
  /-- How many files were asked for. -/
  totalRequests : ℕ
  /-- How often an entry had another file. -/
  hashBounces : ℕ
  /-- The mappings that exist. -/
  maps : Multiset (ℕ × ℕ)

/-- `MMAP_LIST_NEXT`. -/
def mmapListNext (i : Fin mmapListSize) : Fin mmapListSize := i + 1

/-- `MMAP_LIST_HASH`. -/
def mmapListHash (s : Stat) : Fin mmapListSize := Fin.ofNat mmapListSize s.ino

/-- How the loop of `find_mmap` ends: at an entry of the file, at one that is not in use, or back
at the start. -/
inductive Ended
  | found (i : Fin mmapListSize)
  | free (i : Fin mmapListSize)
  | around
deriving DecidableEq, Repr

/-- The loop of `find_mmap`, with the bounces. The loop is over after a turn for each slot. -/
def findLoop (mmapList : Fin mmapListSize → MmapEntry) (s : Stat) (start : Fin mmapListSize) :
    ℕ → Fin mmapListSize → ℕ → Ended × ℕ
  | 0, _, bounces => (.around, bounces)
  | turns + 1, i, bounces =>
    if (mmapList i).useCount = 0 then (.free i, bounces)
    else if (mmapList i).Of s then (.found i, bounces)
    else if mmapListNext i = start then (.around, bounces + 1)
    else findLoop mmapList s start turns (mmapListNext i) (bounces + 1)

/-- The loop from the slot of the file. -/
def search (mmapList : Fin mmapListSize → MmapEntry) (s : Stat) (bounces : ℕ) : Ended × ℕ :=
  findLoop mmapList s (mmapListHash s) mmapListSize (mmapListHash s) bounces

/-- `find_mmap`. The answer is what `mmap` returns if it is called, none for -1. -/
def findMmap (cache : Cache) (s : Stat) (answer : Option ℕ) :
    Option (Fin mmapListSize) × Cache :=
  let ended := search cache.mmapList s cache.hashBounces
  let cache := { cache with totalRequests := cache.totalRequests + 1, hashBounces := ended.2 }
  match ended.1 with
  | .found i =>
    let entry := cache.mmapList i
    (some i, { cache with
      mmapList := Function.update cache.mmapList i
        { entry with useCount := entry.useCount + 1 } })
  | .around => (none, cache)
  | .free i =>
    if cache.entriesUsed > mmapListUseMax then (none, cache)
    else match answer with
      | none => (none, cache)
      | some m =>
        (some i, { cache with
          entriesUsed := cache.entriesUsed + 1
          mmapList := Function.update cache.mmapList i ⟨s.dev, s.ino, m, 1, s.size⟩
          maps := (m, s.size) ::ₘ cache.maps })

/-- `release_mmap`; none is `NULL`. -/
def releaseMmap (cache : Cache) (e : Option (Fin mmapListSize)) : Cache :=
  match e with
  | none => cache
  | some i =>
    let entry := cache.mmapList i
    if entry.useCount = 0 then cache
    else
      let cache := { cache with
        mmapList := Function.update cache.mmapList i
          { entry with useCount := entry.useCount - 1 } }
      if entry.useCount - 1 = 0 then
        { cache with
          maps := cache.maps.erase (entry.mmap, entry.len)
          entriesUsed := cache.entriesUsed - 1 }
      else cache

/-! ## The requests -/

/-- The table with the requests that have an entry: the `mmap_entry_var` of each, and the file it
serves. -/
structure Server where
  /-- The table. -/
  cache : Cache
  /-- The requests with their entries and files. -/
  users : Multiset (Fin mmapListSize × Stat)

/-- The table before the first request. -/
def Server.start : Server := ⟨⟨fun _ => ⟨0, 0, 0, 0, 0⟩, 0, 0, 0, 0⟩, 0⟩

/-- What the requests do with the table. -/
inductive Action
  | find (s : Stat) (answer : Option ℕ)
  | release (user : Fin mmapListSize × Stat)
deriving DecidableEq

/-- The table after `init_get` maps a file or `free_request` gives an entry back. -/
def Server.next (server : Server) : Action → Server
  | .find s answer =>
    let found := findMmap server.cache s answer
    match found.1 with
    | none => ⟨found.2, server.users⟩
    | some i => ⟨found.2, (i, s) ::ₘ server.users⟩
  | .release user => ⟨releaseMmap server.cache (some user.1), server.users.erase user⟩

/-- A request gives back the entry it has. -/
def Server.Allowed (server : Server) : Action → Prop
  | .find _ _ => True
  | .release user => user ∈ server.users

/-- The runs of the server. -/
def Server.Runs (server : Server) (actions : List Action) (last : Server) : Prop :=
  Run (fun server action next => next = server.next action) Server.Allowed server actions last

/-! ## The search -/

/-- The file of a slot in use. -/
def fileOf (mmapList : Fin mmapListSize → MmapEntry) (i : Fin mmapListSize) : Option Stat :=
  if (mmapList i).useCount = 0 then none
  else some ⟨(mmapList i).dev, (mmapList i).ino, (mmapList i).len⟩

variable {mmapList : Fin mmapListSize → MmapEntry} {s : Stat} {i : Fin mmapListSize}

/-- An entry out of use has no file. -/
theorem fileOf_eq_none : fileOf mmapList i = none ↔ (mmapList i).useCount = 0 := by
  rw [fileOf]
  split <;> simp [*]

/-- An entry in use has the file it is of. -/
theorem fileOf_eq_some : fileOf mmapList i = some s ↔
    (mmapList i).useCount ≠ 0 ∧ (mmapList i).Of s := by
  rw [fileOf]
  split
  · simp [*]
  · rename_i used
    rw [Option.some.injEq]
    constructor
    · rintro rfl
      exact ⟨used, rfl, rfl, rfl⟩
    · rintro ⟨-, dev, ino, len⟩
      exact Stat.ext dev ino len

/-- How the loop ends, from where the probe ends. -/
def ended (mmapList : Fin mmapListSize → MmapEntry) : Option (Fin mmapListSize) → Ended
  | none => .around
  | some i => if (mmapList i).useCount = 0 then .free i else .found i

/-- The slots that stop the loop. -/
theorem stops_fileOf : stops (fileOf mmapList) s i = true ↔
    (mmapList i).useCount = 0 ∨ (mmapList i).Of s := by
  rw [stops, decide_eq_true_iff, fileOf_eq_none, fileOf_eq_some]
  constructor
  · rintro (free | used)
    · exact .inl free
    · exact .inr used.2
  · rintro (free | same)
    · exact .inl free
    · by_cases free : (mmapList i).useCount = 0
      · exact .inl free
      · exact .inr ⟨free, same⟩

/-- The loop is the probe: it ends at the first slot that stops it, or has been at every one. -/
theorem findLoop_eq (start : Fin mmapListSize) {turns steps : ℕ} (bounces : ℕ)
    (left : steps + turns = mmapListSize)
    (passed : ∀ fewer < steps, stops (fileOf mmapList) s (after start fewer) = false) :
    (findLoop mmapList s start turns (after start steps) bounces).1 =
      ended mmapList ((probe (stops (fileOf mmapList) s) start).map (after start)) := by
  induction turns generalizing steps bounces with
  | zero =>
    have none : probe (stops (fileOf mmapList) s) start = none := by
      rw [probe_eq_none]
      intro slot
      obtain ⟨fewer, few, rfl⟩ := exists_after start slot
      exact passed fewer (by omega)
    rw [none]
    rfl
  | succ turns ih =>
    have few : steps < mmapListSize := by omega
    have stopped : stops (fileOf mmapList) s (after start steps) = true →
        probe (stops (fileOf mmapList) s) start = some steps :=
      fun here => probe_eq_some.mpr ⟨here, few, passed⟩
    rw [findLoop]
    split
    · rename_i free
      rw [stopped (stops_fileOf.mpr (.inl free)), Option.map_some, ended, if_pos free]
    rename_i used
    split
    · rename_i same
      rw [stopped (stops_fileOf.mpr (.inr same)), Option.map_some, ended, if_neg used]
    rename_i other
    have going : stops (fileOf mmapList) s (after start steps) = false := by
      rw [Bool.eq_false_iff, ne_eq, stops_fileOf]
      tauto
    have all : ∀ fewer < steps + 1,
        stops (fileOf mmapList) s (after start fewer) = false := by
      intro fewer less
      rcases Nat.lt_succ_iff_lt_or_eq.mp less with before | rfl
      · exact passed fewer before
      · exact going
    have step : mmapListNext (after start steps) = after start (steps + 1) :=
      (after_succ start steps).symm
    rw [step]
    split
    · rename_i back
      -- back at the start after fewer turns than there are slots is impossible
      have last : steps + 1 = mmapListSize := by
        by_contra more
        exact after_ne start (Nat.succ_pos steps) (by omega) back
      have none : probe (stops (fileOf mmapList) s) start = none := by
        rw [probe_eq_none]
        intro slot
        obtain ⟨fewer, less, rfl⟩ := exists_after start slot
        exact all fewer (by omega)
      rw [none]
      rfl
    · exact ih (bounces + 1) (by omega) all

/-- The search ends where the look-up of the file does. -/
theorem search_eq (s : Stat) (bounces : ℕ) : (search mmapList s bounces).1 =
    ended mmapList (seek mmapListHash (fileOf mmapList) s) := by
  have loop := @findLoop_eq mmapList s (mmapListHash s) mmapListSize 0 bounces (by omega)
    (by intro fewer less; omega)
  rwa [after_zero] at loop

/-! ## The functions -/

/-- The counters after a search. -/
def Cache.searched (cache : Cache) (s : Stat) : Cache :=
  { cache with
    totalRequests := cache.totalRequests + 1
    hashBounces := (search cache.mmapList s cache.hashBounces).2 }

/-- What `find_mmap` does: one more user of an entry, a new entry in a free slot, or nothing when
the table, the limit or `mmap` refuses. -/
theorem findMmap_cases (cache : Cache) (s : Stat) (answer : Option ℕ) :
    (∃ i, seek mmapListHash (fileOf cache.mmapList) s = some i ∧
      (cache.mmapList i).useCount ≠ 0 ∧ (cache.mmapList i).Of s ∧
      findMmap cache s answer = (some i, { cache.searched s with
        mmapList := Function.update cache.mmapList i
          { cache.mmapList i with useCount := (cache.mmapList i).useCount + 1 } })) ∨
    (∃ i m, seek mmapListHash (fileOf cache.mmapList) s = some i ∧
      (cache.mmapList i).useCount = 0 ∧ cache.entriesUsed ≤ mmapListUseMax ∧ answer = some m ∧
      findMmap cache s answer = (some i, { cache.searched s with
        entriesUsed := cache.entriesUsed + 1
        mmapList := Function.update cache.mmapList i ⟨s.dev, s.ino, m, 1, s.size⟩
        maps := (m, s.size) ::ₘ cache.maps })) ∨
    ((∀ i, seek mmapListHash (fileOf cache.mmapList) s = some i →
        (cache.mmapList i).useCount = 0 ∧
          (cache.entriesUsed > mmapListUseMax ∨ answer = none)) ∧
      findMmap cache s answer = (none, cache.searched s)) := by
  have loop := @search_eq cache.mmapList s cache.hashBounces
  cases sought : seek mmapListHash (fileOf cache.mmapList) s with
  | none =>
    rw [sought, ended] at loop
    refine .inr (.inr ⟨by simp, ?_⟩)
    rw [findMmap]
    simp only [loop, Cache.searched]
  | some i =>
    rw [sought, ended] at loop
    by_cases free : (cache.mmapList i).useCount = 0
    · rw [if_pos free] at loop
      by_cases full : cache.entriesUsed > mmapListUseMax
      · refine .inr (.inr ⟨?_, ?_⟩)
        · rintro j same
          cases same
          exact ⟨free, .inl full⟩
        · rw [findMmap]
          simp only [loop, if_pos full, Cache.searched]
      · cases answer with
        | none =>
          refine .inr (.inr ⟨?_, ?_⟩)
          · rintro j same
            cases same
            exact ⟨free, .inr rfl⟩
          · rw [findMmap]
            simp only [loop, if_neg full, Cache.searched]
        | some m =>
          refine .inr (.inl ⟨i, m, rfl, free, by omega, rfl, ?_⟩)
          rw [findMmap]
          simp only [loop, if_neg full, Cache.searched]
    · rw [if_neg free] at loop
      have same : (cache.mmapList i).Of s := by
        rcases used_of_seek sought with none | file
        · exact absurd (fileOf_eq_none.mp none) free
        · exact (fileOf_eq_some.mp file).2
      refine .inl ⟨i, rfl, free, same, ?_⟩
      rw [findMmap]
      simp only [loop, Cache.searched]

/-- `release_mmap` of an entry in use takes one user off, and the last one unmaps the file. -/
theorem releaseMmap_used {cache : Cache} {i : Fin mmapListSize} {count : ℕ}
    (used : (cache.mmapList i).useCount = count + 1) :
    releaseMmap cache (some i) = { cache with
      mmapList := Function.update cache.mmapList i { cache.mmapList i with useCount := count }
      maps := if count = 0 then
        cache.maps.erase ((cache.mmapList i).mmap, (cache.mmapList i).len) else cache.maps
      entriesUsed := if count = 0 then cache.entriesUsed - 1 else cache.entriesUsed } := by
  have some : (cache.mmapList i).useCount ≠ 0 := by omega
  have fewer : (cache.mmapList i).useCount - 1 = count := by omega
  simp only [releaseMmap, if_neg some, fewer]
  split <;> rfl

/-! ## The invariant -/

/-- The mapping of an entry in use. -/
def mapping (entry : MmapEntry) : Multiset (ℕ × ℕ) :=
  if entry.useCount = 0 then 0 else {(entry.mmap, entry.len)}

/-- One for an entry in use. -/
def inUse (entry : MmapEntry) : ℤ := if entry.useCount = 0 then 0 else 1

/-- What the runs keep: the counts are those of the requests, each request has an entry of its
file, and the counter and the mappings are those of the entries in use. -/
structure Kept (server : Server) : Prop where
  /-- An entry counts its requests. -/
  counted : ∀ i, (server.cache.mmapList i).useCount = server.users.countP fun user => user.1 = i
  /-- A request has an entry of its file. -/
  files : ∀ user ∈ server.users, (server.cache.mmapList user.1).Of user.2
  /-- The counter is that of the entries in use. -/
  used : server.cache.entriesUsed = ∑ i, inUse (server.cache.mmapList i)
  /-- The mappings are those of the entries in use. -/
  maps : server.cache.maps = ∑ i, mapping (server.cache.mmapList i)
  /-- One entry more than the limit is in use at most. -/
  limit : server.cache.entriesUsed ≤ mmapListUseMax + 1

/-- A sum over the table in which one entry changes. -/
theorem sum_update {μ : Type} [AddCommMonoid μ] (f : MmapEntry → μ)
    (mmapList : Fin mmapListSize → MmapEntry) (i : Fin mmapListSize) (entry : MmapEntry) :
    ∑ j, f (Function.update mmapList i entry j) + f (mmapList i) =
      ∑ j, f (mmapList j) + f entry := by
  have rest : ∑ j ∈ Finset.univ.erase i, f (Function.update mmapList i entry j) =
      ∑ j ∈ Finset.univ.erase i, f (mmapList j) := by
    apply Finset.sum_congr rfl
    intro j other
    rw [Function.update_of_ne (Finset.ne_of_mem_erase other)]
  rw [← Finset.add_sum_erase _ _ (Finset.mem_univ i), rest, Function.update_self,
    ← Finset.add_sum_erase Finset.univ (fun j => f (mmapList j)) (Finset.mem_univ i)]
  ac_rfl

/-- A sum over the table in which an entry changes to one that counts as much. -/
theorem sum_update_same {μ : Type} [AddCancelCommMonoid μ] (f : MmapEntry → μ)
    {mmapList : Fin mmapListSize → MmapEntry} {i : Fin mmapListSize} {entry : MmapEntry}
    (same : f entry = f (mmapList i)) :
    ∑ j, f (Function.update mmapList i entry j) = ∑ j, f (mmapList j) := by
  have moved := sum_update f mmapList i entry
  rw [same] at moved
  exact add_right_cancel moved

/-- The counters of a search are not of the table. -/
theorem Kept.searched {cache : Cache} {users : Multiset (Fin mmapListSize × Stat)}
    (kept : Kept ⟨cache, users⟩) (s : Stat) : Kept ⟨cache.searched s, users⟩ :=
  ⟨kept.counted, kept.files, kept.used, kept.maps, kept.limit⟩

/-- An entry that changes with its users keeps the counts. -/
theorem counted_update {mmapList : Fin mmapListSize → MmapEntry}
    {users others : Multiset (Fin mmapListSize × Stat)} {i : Fin mmapListSize} {entry : MmapEntry}
    (counted : ∀ j, (mmapList j).useCount = users.countP fun user => user.1 = j)
    (here : entry.useCount = others.countP fun user => user.1 = i)
    (elsewhere : ∀ j ≠ i, others.countP (fun user => user.1 = j) =
      users.countP fun user => user.1 = j) (j : Fin mmapListSize) :
    (Function.update mmapList i entry j).useCount = others.countP fun user => user.1 = j := by
  by_cases same : j = i
  · rw [same, Function.update_self, here]
  · rw [Function.update_of_ne same, counted, elsewhere j same]

/-- An entry that stays of its file keeps every user's. -/
theorem of_update {mmapList : Fin mmapListSize → MmapEntry} {i j : Fin mmapListSize}
    {entry : MmapEntry} {t : Stat} (same : (mmapList i).Of t → entry.Of t)
    (here : (mmapList j).Of t) : (Function.update mmapList i entry j).Of t := by
  by_cases at_entry : j = i
  · subst at_entry
    rw [Function.update_self]
    exact same here
  · rwa [Function.update_of_ne at_entry]

/-- One more user counts at its entry only. -/
theorem countP_other {users : Multiset (Fin mmapListSize × Stat)}
    {user : Fin mmapListSize × Stat} {j : Fin mmapListSize} (other : j ≠ user.1) :
    (user ::ₘ users).countP (fun user => user.1 = j) = users.countP fun user => user.1 = j :=
  Multiset.countP_cons_of_neg _ (Ne.symm other)

/-- One more user counts at its entry. -/
theorem countP_here (users : Multiset (Fin mmapListSize × Stat)) (i : Fin mmapListSize) (t : Stat) :
    ((i, t) ::ₘ users).countP (fun user => user.1 = i) =
      users.countP (fun user => user.1 = i) + 1 :=
  Multiset.countP_cons_of_pos _ rfl

/-- `find_mmap` keeps the invariant. -/
theorem Kept.find {server : Server} (kept : Kept server) (s : Stat) (answer : Option ℕ) :
    Kept (server.next (.find s answer)) := by
  obtain ⟨cache, users⟩ := server
  have idle := kept.searched s
  rcases findMmap_cases cache s answer with
    ⟨i, -, used, same, result⟩ | ⟨i, m, -, free, room, -, result⟩ | ⟨-, result⟩
  · simp only [Server.next, result]
    have counts : inUse { cache.mmapList i with useCount := (cache.mmapList i).useCount + 1 } =
        inUse (cache.mmapList i) := by simp [inUse, used]
    have mapped : mapping { cache.mmapList i with useCount := (cache.mmapList i).useCount + 1 } =
        mapping (cache.mmapList i) := by simp [mapping, used]
    constructor
    · apply counted_update kept.counted
      · exact (congrArg (· + 1) (kept.counted i)).trans (countP_here users i s).symm
      · exact fun j other => countP_other other
    · intro user member
      have stays : ∀ t, (cache.mmapList i).Of t →
          ({ cache.mmapList i with useCount := (cache.mmapList i).useCount + 1 } : MmapEntry).Of t :=
        fun t here => here
      rcases Multiset.mem_cons.mp member with rfl | earlier
      · exact of_update (stays _) same
      · exact of_update (stays _) (kept.files user earlier)
    · exact idle.used.trans (sum_update_same inUse counts).symm
    · exact idle.maps.trans (sum_update_same mapping mapped).symm
    · exact idle.limit
  · simp only [Server.next, result]
    have none : users.countP (fun user => user.1 = i) = 0 := by rw [← kept.counted, free]
    have emptyMap : mapping (cache.mmapList i) = 0 := by rw [mapping, if_pos free]
    have emptyUse : inUse (cache.mmapList i) = 0 := by rw [inUse, if_pos free]
    constructor
    · apply counted_update kept.counted
      · exact (congrArg (· + 1) none).symm.trans (countP_here users i s).symm
      · exact fun j other => countP_other other
    · intro user member
      rcases Multiset.mem_cons.mp member with rfl | earlier
      · show (Function.update cache.mmapList i _ i).Of s
        rw [Function.update_self]
        exact ⟨rfl, rfl, rfl⟩
      · have elsewhere : user.1 ≠ i := Multiset.countP_eq_zero.mp none user earlier
        show (Function.update cache.mmapList i _ user.1).Of user.2
        rw [Function.update_of_ne elsewhere]
        exact kept.files user earlier
    · have moved := sum_update inUse cache.mmapList i ⟨s.dev, s.ino, m, 1, s.size⟩
      have one : inUse ⟨s.dev, s.ino, m, 1, s.size⟩ = 1 := rfl
      rw [emptyUse, add_zero, one] at moved
      show cache.entriesUsed + 1 = _
      rw [moved, ← kept.used]
    · have moved := sum_update mapping cache.mmapList i ⟨s.dev, s.ino, m, 1, s.size⟩
      have one : mapping ⟨s.dev, s.ino, m, 1, s.size⟩ = {(m, s.size)} := rfl
      rw [emptyMap, add_zero, one] at moved
      show (m, s.size) ::ₘ cache.maps = _
      rw [moved, ← kept.maps, add_comm, Multiset.singleton_add]
    · show cache.entriesUsed + 1 ≤ mmapListUseMax + 1
      omega
  · simp only [Server.next, result]
    exact idle

/-- `release_mmap` by a user keeps the invariant. -/
theorem Kept.release {server : Server} (kept : Kept server) {user : Fin mmapListSize × Stat}
    (member : user ∈ server.users) : Kept (server.next (.release user)) := by
  obtain ⟨cache, users⟩ := server
  obtain ⟨rest, rfl⟩ := Multiset.exists_cons_of_mem member
  obtain ⟨i, t⟩ := user
  have one : (cache.mmapList i).useCount = (rest.countP fun user => user.1 = i) + 1 := by
    exact (kept.counted i).trans (countP_here rest i t)
  generalize counts : (rest.countP fun user => user.1 = i) = count at one
  have used : (cache.mmapList i).useCount ≠ 0 := by omega
  simp only [Server.next, Multiset.erase_cons_head, releaseMmap_used one]
  have mapsMoved := sum_update mapping cache.mmapList i { cache.mmapList i with useCount := count }
  have usedMoved := sum_update inUse cache.mmapList i { cache.mmapList i with useCount := count }
  have mapped : mapping (cache.mmapList i) =
      {((cache.mmapList i).mmap, (cache.mmapList i).len)} := by rw [mapping, if_neg used]
  have counted : inUse (cache.mmapList i) = 1 := by rw [inUse, if_neg used]
  rw [mapped, ← kept.maps] at mapsMoved
  rw [counted, ← kept.used] at usedMoved
  constructor
  · apply counted_update kept.counted
    · exact counts.symm
    · exact fun j other => (countP_other other).symm
  · intro user earlier
    exact of_update (fun here => here) (kept.files user (Multiset.mem_cons_of_mem earlier))
  · show (if count = 0 then cache.entriesUsed - 1 else cache.entriesUsed) = _
    by_cases last : count = 0
    · simp only [inUse, last, if_true] at usedMoved ⊢
      omega
    · simp only [inUse, last, if_false] at usedMoved ⊢
      omega
  · show (if count = 0 then cache.maps.erase _ else cache.maps) = _
    by_cases last : count = 0
    · have gone : mapping { cache.mmapList i with useCount := count } = 0 := by
        rw [mapping, if_pos last]
      rw [gone, add_zero] at mapsMoved
      rw [if_pos last, ← mapsMoved, add_comm, Multiset.singleton_add, Multiset.erase_cons_head]
    · have stays : mapping { cache.mmapList i with useCount := count } =
          {((cache.mmapList i).mmap, (cache.mmapList i).len)} := by rw [mapping, if_neg last]
      rw [stays] at mapsMoved
      rw [if_neg last]
      exact (add_right_cancel mapsMoved).symm
  · show (if count = 0 then cache.entriesUsed - 1 else cache.entriesUsed) ≤ mmapListUseMax + 1
    have limit : cache.entriesUsed ≤ mmapListUseMax + 1 := kept.limit
    split <;> omega

/-- The table before the first request. -/
theorem Kept.start : Kept Server.start := by
  have nothing : ∀ j, mapping (Server.start.cache.mmapList j) = 0 := fun j => rfl
  have unused : ∀ j, inUse (Server.start.cache.mmapList j) = 0 := fun j => rfl
  refine ⟨fun i => rfl, fun user member => absurd member (Multiset.notMem_zero user), ?_, ?_,
    by decide⟩
  · rw [Finset.sum_congr rfl fun j _ => unused j, Finset.sum_const_zero]
    rfl
  · rw [Finset.sum_congr rfl fun j _ => nothing j, Finset.sum_const_zero]
    rfl

/-- Every step that is allowed keeps the invariant. -/
theorem Kept.next {server : Server} (kept : Kept server) {action : Action}
    (allowed : server.Allowed action) : Kept (server.next action) := by
  cases action with
  | find s answer => exact kept.find s answer
  | release user => exact kept.release allowed

/-- The invariant holds after every run. -/
theorem Kept.run {server last : Server} {actions : List Action} (kept : Kept server)
    (run : server.Runs actions last) : Kept last := by
  refine Run.invariant Kept ?_ run kept
  rintro s action next kept allowed rfl
  exact kept.next allowed

/-- The limit leaves a slot that is not in use. -/
theorem Kept.exists_free {server : Server} (kept : Kept server) :
    ∃ i, (server.cache.mmapList i).useCount = 0 := by
  by_contra full
  push Not at full
  have all : ∀ j ∈ Finset.univ, inUse (server.cache.mmapList j) = 1 := by
    intro j _
    rw [inUse, if_neg (full j)]
  have many := kept.used
  rw [Finset.sum_congr rfl all, Finset.sum_const, Finset.card_univ, Fintype.card_fin] at many
  have limit := kept.limit
  simp only [mmapListUseMax, mmapListSize, nsmul_eq_mul, mul_one] at limit many
  omega

/-- There are as many mappings as entries in use. -/
theorem Kept.card_maps {server : Server} (kept : Kept server) :
    (server.cache.maps.card : ℤ) = server.cache.entriesUsed := by
  rw [kept.maps, kept.used, Multiset.card_sum, Nat.cast_sum]
  apply Finset.sum_congr rfl
  intro j _
  rw [mapping, inUse]
  split <;> simp

/-- The file of an entry in use is mapped. -/
theorem Kept.mem_maps {server : Server} (kept : Kept server) {i : Fin mmapListSize}
    (used : (server.cache.mmapList i).useCount ≠ 0) :
    ((server.cache.mmapList i).mmap, (server.cache.mmapList i).len) ∈ server.cache.maps := by
  rw [kept.maps, Multiset.mem_sum]
  refine ⟨i, Finset.mem_univ i, ?_⟩
  rw [mapping, if_neg used]
  exact Multiset.mem_singleton_self _

/-- An entry a request has is in use. -/
theorem Kept.used_of_mem {server : Server} (kept : Kept server)
    {user : Fin mmapListSize × Stat} (member : user ∈ server.users) :
    (server.cache.mmapList user.1).useCount ≠ 0 := by
  rw [kept.counted]
  have some : 0 < server.users.countP fun other => other.1 = user.1 :=
    Multiset.countP_pos.mpr ⟨user, member, rfl⟩
  omega

/-! ## Whole runs -/

/-- In every run the entry of a request is of its file and the file is mapped, the counts are
those of the requests, there are as many mappings as entries in use, at most one more than the
limit, the search for a file never comes round, and when every request has given its entry back
nothing is mapped. -/
theorem mmapCache_run {actions : List Action} {last : Server}
    (run : Server.start.Runs actions last) :
    (∀ user ∈ last.users, (last.cache.mmapList user.1).Of user.2 ∧
      ((last.cache.mmapList user.1).mmap, user.2.size) ∈ last.cache.maps) ∧
    (∀ i, (last.cache.mmapList i).useCount = last.users.countP fun user => user.1 = i) ∧
    (last.cache.maps.card = last.cache.entriesUsed ∧
      last.cache.entriesUsed ≤ mmapListUseMax + 1) ∧
    (∀ s bounces, (search last.cache.mmapList s bounces).1 ≠ .around) ∧
    (last.users = 0 → last.cache.maps = 0) := by
  have kept := Kept.start.run run
  refine ⟨?_, kept.counted, ⟨kept.card_maps, kept.limit⟩, ?_, ?_⟩
  · intro user member
    have file := kept.files user member
    have mapped := kept.mem_maps (kept.used_of_mem member)
    rw [file.2.2] at mapped
    exact ⟨file, mapped⟩
  · intro s bounces
    obtain ⟨free, unused⟩ := kept.exists_free
    obtain ⟨slot, found⟩ := exists_seek (fileOf_eq_none.mpr unused) s
    rw [search_eq, found, ended]
    split <;> nofun
  · intro idle
    rw [kept.maps]
    apply Finset.sum_eq_zero
    intro j _
    have unused : (last.cache.mmapList j).useCount = 0 := by
      rw [kept.counted, idle, Multiset.countP_zero]
    rw [mapping, if_pos unused]

/-- A run in which two requests share a file, a third one has another file of the same slot, and
the first two give theirs back. -/
theorem mmapCache_run_shared : ∃ last, Server.start.Runs
    [.find ⟨1, 5, 100⟩ (some 4096), .find ⟨1, 261, 200⟩ (some 8192), .find ⟨1, 5, 100⟩ none,
      .release (5, ⟨1, 5, 100⟩), .release (5, ⟨1, 5, 100⟩)] last ∧
    last.cache.maps.card = last.cache.entriesUsed := by
  have first : (5, ⟨1, 5, 100⟩) ∈ (((Server.start.next (.find ⟨1, 5, 100⟩ (some 4096))).next
      (.find ⟨1, 261, 200⟩ (some 8192))).next (.find ⟨1, 5, 100⟩ none)).users := by decide
  have second : (5, ⟨1, 5, 100⟩) ∈ ((((Server.start.next (.find ⟨1, 5, 100⟩ (some 4096))).next
      (.find ⟨1, 261, 200⟩ (some 8192))).next (.find ⟨1, 5, 100⟩ none)).next
        (.release (5, ⟨1, 5, 100⟩))).users := by decide
  have run : Server.start.Runs
      [.find ⟨1, 5, 100⟩ (some 4096), .find ⟨1, 261, 200⟩ (some 8192), .find ⟨1, 5, 100⟩ none,
        .release (5, ⟨1, 5, 100⟩), .release (5, ⟨1, 5, 100⟩)] _ := .go trivial rfl (.go trivial rfl (.go trivial rfl
    (.go first rfl (.go second rfl (.stop _)))))
  exact ⟨_, run, (mmapCache_run run).2.2.1.1⟩

/-! ## A table that only grows -/

/-- A request gives back the entry it has, and another request has it too. -/
def Server.Keeps (server : Server) (action : Action) : Prop :=
  server.Allowed action ∧
    ∀ user, action = .release user → 2 ≤ (server.cache.mmapList user.1).useCount

/-- An entry that stays in use and of its file. -/
theorem fileOf_update_same {mmapList : Fin mmapListSize → MmapEntry} {i : Fin mmapListSize}
    {entry : MmapEntry} (same : fileOf (fun _ => entry) i = fileOf mmapList i) :
    fileOf (Function.update mmapList i entry) = fileOf mmapList := by
  funext j
  by_cases here : j = i
  · subst here
    rw [← same, fileOf, fileOf, Function.update_self]
  · rw [fileOf, fileOf, Function.update_of_ne here]

/-- A free entry that is taken for a file. -/
theorem fileOf_update_new (mmapList : Fin mmapListSize → MmapEntry) (i : Fin mmapListSize)
    (s : Stat) (m : ℕ) :
    fileOf (Function.update mmapList i ⟨s.dev, s.ino, m, 1, s.size⟩) =
      Function.update (fileOf mmapList) i (some s) := by
  funext j
  by_cases here : j = i
  · subst here
    rw [fileOf, Function.update_self, Function.update_self, if_neg Nat.one_ne_zero]
  · rw [fileOf, Function.update_of_ne here, Function.update_of_ne here, fileOf]

/-- While no file is unmapped the look-up of a file that is mapped ends at its entry. -/
theorem reached_next {server : Server} {action : Action}
    (reached : Reached mmapListHash (fileOf server.cache.mmapList))
    (keeps : server.Keeps action) :
    Reached mmapListHash (fileOf (server.next action).cache.mmapList) := by
  obtain ⟨cache, users⟩ := server
  cases action with
  | find s answer =>
    rcases findMmap_cases cache s answer with
      ⟨i, -, used, same, result⟩ | ⟨i, m, sought, free, -, -, result⟩ | ⟨-, result⟩
    · have kept : fileOf (Function.update cache.mmapList i
          { cache.mmapList i with useCount := (cache.mmapList i).useCount + 1 }) =
          fileOf cache.mmapList :=
        fileOf_update_same (by rw [fileOf, fileOf, if_neg (Nat.succ_ne_zero _), if_neg used])
      simp only [Server.next, result, kept]
      exact reached
    · simp only [Server.next, result, fileOf_update_new]
      exact reached.insert sought (fileOf_eq_none.mpr free)
    · simp only [Server.next, result]
      exact reached
  | release user =>
    have others : 2 ≤ (cache.mmapList user.1).useCount := keeps.2 user rfl
    generalize counts : (cache.mmapList user.1).useCount = count at others
    obtain ⟨more, rfl⟩ : ∃ more, count = more + 1 := ⟨count - 1, by omega⟩
    have still : more ≠ 0 := by omega
    have before : (cache.mmapList user.1).useCount ≠ 0 := by omega
    have kept : fileOf (Function.update cache.mmapList user.1
        { cache.mmapList user.1 with useCount := more }) = fileOf cache.mmapList :=
      fileOf_update_same (by rw [fileOf, fileOf, if_neg still, if_neg before])
    simp only [Server.next, releaseMmap_used counts, kept]
    exact reached

/-- As long as no file is unmapped, a file that a request has is found at that request's entry,
whatever `mmap` would answer, and is not mapped again. -/
theorem mmapCache_shares {actions : List Action} {last : Server}
    (run : Run (fun server action next => next = server.next action) Server.Keeps
      Server.start actions last) {user : Fin mmapListSize × Stat} (member : user ∈ last.users)
    (answer : Option ℕ) :
    (findMmap last.cache user.2 answer).1 = some user.1 ∧
      (findMmap last.cache user.2 answer).2.maps = last.cache.maps := by
  have kept : Kept last := Kept.start.run (run.weaken fun _ _ keeps => keeps.1)
  have reached : Reached mmapListHash (fileOf last.cache.mmapList) := by
    refine Run.invariant (fun server => Reached mmapListHash (fileOf server.cache.mmapList)) ?_ run
      reached_empty
    rintro server action next reached keeps rfl
    exact reached_next reached keeps
  have used := kept.used_of_mem member
  have sought := reached user.1 user.2 (fileOf_eq_some.mpr ⟨used, kept.files user member⟩)
  rcases findMmap_cases last.cache user.2 answer with
    ⟨i, found, -, -, result⟩ | ⟨i, m, found, free, -, -, -⟩ | ⟨refused, -⟩
  · have same : i = user.1 := Option.some.inj (found.symm.trans sought)
    rw [result, same]
    exact ⟨rfl, rfl⟩
  · have same : i = user.1 := Option.some.inj (found.symm.trans sought)
    exact absurd (same ▸ free) used
  · exact absurd (refused user.1 sought).1 used

/-- Two requests for one file, and one for another file of the same slot. -/
theorem mmapCache_shares_two :
    (findMmap ((Server.start.next (.find ⟨1, 5, 100⟩ (some 4096))).next
      (.find ⟨1, 261, 200⟩ (some 8192))).cache ⟨1, 261, 200⟩ none).1 = some 6 := by
  have keeps : ∀ server : Server, ∀ s answer, server.Keeps (.find s answer) :=
    fun server s answer => ⟨trivial, fun user given => nomatch given⟩
  have run : Run (fun server action next => next = server.next action) Server.Keeps Server.start
      [.find ⟨1, 5, 100⟩ (some 4096), .find ⟨1, 261, 200⟩ (some 8192)] _ :=
    .go (keeps _ _ _) rfl (.go (keeps _ _ _) rfl (.stop _))
  have member : (6, ⟨1, 261, 200⟩) ∈ ((Server.start.next (.find ⟨1, 5, 100⟩ (some 4096))).next
      (.find ⟨1, 261, 200⟩ (some 8192))).users := by decide
  exact (mmapCache_shares run member none).1

end BoaIpcam.Mmap
