import BoaIpcam.CString
import Mathlib.Data.List.Basic

/-!
# The lists of the memory card

`getsdlist` of `request.c` allocates one block for the files of a directory and one for its
folders, and stores a record for each visible entry that `readdir` returns. Nothing compares the
number of the records with the size of the blocks, and `strncpy` fills the field of a long name
without an end.
-/
namespace BoaIpcam.Sd.Listing

/-- What `stat` says of an entry. -/
structure Finfo where
  /-- Whether it is a directory. -/
  directory : Bool
  /-- Its size. -/
  stSize : Nat
  /-- Its time. -/
  stMtime : Int
deriving DecidableEq, Repr

/-- An entry that `readdir` returns, with what `stat` says of it, none when it fails. -/
structure Dirent where
  /-- The name. -/
  dName : List UInt8
  /-- What `stat` says. -/
  finfo : Option Finfo
  /-- The name has no NUL. -/
  ended : 0 ∉ dName

/-- `FILELIST`; the name is the whole field of 50 bytes. -/
structure FileList where
  /-- The field of the name. -/
  name : List UInt8
  /-- Whether it is a directory. -/
  filetype : Nat
  /-- The type of an event, which is not set. -/
  eventtype : Nat
  /-- The size. -/
  size : Nat
  /-- How many files a folder has. -/
  numoffiles : Nat
  /-- The properties, which are not set. -/
  property : Nat
  /-- The authority, which is not set. -/
  authority : Nat
  /-- The time. -/
  time : Int
  /-- A reserved number. -/
  reserve : Int
deriving DecidableEq, Repr

/-- The global variables of the lists; a list is none where its pointer is `NULL`. -/
structure Lists where
  /-- The records of the files. -/
  pFilelist : Option (List FileList)
  /-- The records of the folders. -/
  pFloderlist : Option (List FileList)
  /-- The number of files. -/
  filenum : Nat
  /-- The number of folders. -/
  foldernum : Nat
  /-- `pFloderlist` leads to a block that was freed. -/
  freed : Bool
deriving DecidableEq, Repr

/-- The variables before the first call. -/
def Lists.boot : Lists := ⟨none, none, 0, 0, false⟩

/-- What a call meets: the two `malloc`, the directory, its entries, and the number of entries in
each of its folders. -/
structure Directory where
  /-- The first `malloc` succeeds. -/
  fileMemory : Bool
  /-- The second one does. -/
  folderMemory : Bool
  /-- The directory can be opened. -/
  found : Bool
  /-- Its entries. -/
  entries : List Dirent
  /-- The number of entries of each folder. -/
  inside : Nat → Nat

/-- `MAX_SDLIST_LENGTH`. -/
def maxSdlistLength : Nat := 64 * 1024

/-- `strncpy` to the field of 50 bytes. -/
def nameField (name : List UInt8) : List UInt8 :=
  name.take 50 ++ List.replicate (50 - name.length) 0

/-- The name does not start with a dot. -/
def Dirent.visible (entry : Dirent) : Bool := entry.dName.head? ≠ some 46

/-- The entry goes to the list of the files. -/
def Dirent.isFile (entry : Dirent) : Bool :=
  entry.visible && entry.finfo.any fun info => !info.directory

/-- The entry goes to the list of the folders. -/
def Dirent.isFolder (entry : Dirent) : Bool :=
  entry.visible && entry.finfo.any fun info => info.directory

/-- The record of an entry. -/
def Dirent.record (entry : Dirent) : FileList :=
  let info := entry.finfo.getD ⟨false, 0, 0⟩
  ⟨nameField entry.dName, if info.directory then 1 else 0, 0, info.stSize, 0, 0, 0, info.stMtime, 0⟩

section Calls

-- The number of records that fit a block, `MAX_SDLIST_LENGTH / sizeof(FILELIST)`.
variable (capacity : Nat)

/-- Store a record behind the others; none when it is outside the block. -/
def push (list : Option (List FileList)) (file : FileList) : Option (List FileList) :=
  let stored := list.getD []
  if stored.length < capacity then some (stored ++ [file]) else none

/-- The body of the loop over the entries. -/
def store (lists : Lists) (entry : Dirent) : Option Lists :=
  if entry.isFile then
    (push capacity lists.pFilelist entry.record).map fun files =>
      { lists with pFilelist := some files, filenum := lists.filenum + 1 }
  else if entry.isFolder then
    (push capacity lists.pFloderlist entry.record).map fun folders =>
      { lists with pFloderlist := some folders, foldernum := lists.foldernum + 1 }
  else some lists

/-- The second loop writes the numbers of the entries to the folders. -/
def countInside (inside : Nat → Nat) (lists : Lists) : Lists :=
  { lists with pFloderlist := lists.pFloderlist.map fun folders =>
      folders.mapIdx fun j folder => { folder with numoffiles := inside j } }

/-- The numbers start at zero when there are lists from an earlier call. -/
def reset (lists : Lists) : Lists :=
  if lists.pFilelist.isSome ∨ lists.pFloderlist.isSome then
    { lists with filenum := 0, foldernum := 0 }
  else lists

/-- `getsdlist`. None when a block is freed twice or a record is stored outside its block. A list
that is freed and not allocated again has no records; its pointer stays when the first `malloc`
fails. -/
def getsdlist (lists : Lists) (dir : Directory) : Option Lists :=
  let lists := reset lists
  if lists.freed then none
  else if dir.fileMemory = false then
    some { lists with pFilelist := none, pFloderlist := lists.pFloderlist.map fun _ => [],
                      freed := lists.pFloderlist.isSome }
  else if dir.folderMemory = false then
    some { lists with pFilelist := some [], pFloderlist := none }
  else
    let lists := { lists with pFilelist := some [], pFloderlist := some [] }
    if dir.found then
      (dir.entries.foldlM (store capacity) lists).map (countInside dir.inside)
    else some lists

end Calls

/-! ## What is asked of the lists -/

/-- The records that a pointer leads to. -/
def records (list : Option (List FileList)) : List FileList := list.getD []

/-- Each list fits its block, its names have an end, and the numbers are those of the records. -/
structure Listed (capacity : Nat) (lists : Lists) : Prop where
  /-- The files fit their block. -/
  files : (records lists.pFilelist).length ≤ capacity
  /-- The folders fit theirs. -/
  folders : (records lists.pFloderlist).length ≤ capacity
  /-- A name has an end. -/
  ended : ∀ file ∈ records lists.pFilelist ++ records lists.pFloderlist, 0 ∈ file.name
  /-- The files are counted. -/
  filenum : lists.filenum = (records lists.pFilelist).length
  /-- The folders are counted. -/
  foldernum : lists.foldernum = (records lists.pFloderlist).length

/-- The numbers are those of the records. -/
def Counted (lists : Lists) : Prop :=
  lists.filenum = (records lists.pFilelist).length ∧
    lists.foldernum = (records lists.pFloderlist).length

/-- What a call does with a directory: at most as many files and folders as a block has room for,
and no name of 50 bytes or more. -/
def Fits (capacity : Nat) (entries : List Dirent) : Prop :=
  entries.countP Dirent.isFile ≤ capacity ∧ entries.countP Dirent.isFolder ≤ capacity ∧
    ∀ entry ∈ entries, entry.isFile = true ∨ entry.isFolder = true → entry.dName.length < 50

/-! ## What a call stores -/

section Stores

variable {capacity : Nat} {entries : List Dirent}

/-- The field of a name has an end exactly when the name is shorter. -/
theorem zero_mem_nameField {name : List UInt8} (ended : 0 ∉ name) :
    0 ∈ nameField name ↔ name.length < 50 := by
  unfold nameField
  rw [List.mem_append, List.mem_replicate]
  constructor
  · rintro (among | ⟨room, -⟩)
    · exact absurd (List.mem_of_mem_take among) ended
    · omega
  · intro short
    exact .inr ⟨by omega, rfl⟩

/-- An entry goes to one list at most. -/
theorem Dirent.not_isFolder {entry : Dirent} (file : entry.isFile = true) :
    entry.isFolder = false := by
  unfold isFile at file
  unfold isFolder
  cases info : entry.finfo with
  | none => simp
  | some info => simp_all

section Store

variable {files folders : List FileList} {filenum foldernum : Nat} {entry : Dirent}

/-- A file goes behind the files if there is room. -/
theorem store_file (file : entry.isFile = true) :
    store capacity ⟨some files, some folders, filenum, foldernum, false⟩ entry =
      if files.length < capacity then
        some ⟨some (files ++ [entry.record]), some folders, filenum + 1, foldernum, false⟩
      else none := by
  by_cases room : files.length < capacity <;> simp [store, file, push, room]

/-- A folder goes behind the folders if there is room. -/
theorem store_folder (file : ¬entry.isFile = true) (folder : entry.isFolder = true) :
    store capacity ⟨some files, some folders, filenum, foldernum, false⟩ entry =
      if folders.length < capacity then
        some ⟨some files, some (folders ++ [entry.record]), filenum, foldernum + 1, false⟩
      else none := by
  by_cases room : folders.length < capacity <;> simp [store, file, folder, push, room]

/-- Other entries are passed. -/
theorem store_other (file : ¬entry.isFile = true) (folder : ¬entry.isFolder = true) :
    store capacity ⟨some files, some folders, filenum, foldernum, false⟩ entry =
      some ⟨some files, some folders, filenum, foldernum, false⟩ := by
  simp [store, file, folder]

/-- The loop over the entries stores the visible files and folders in their order as long as there
is room for them. -/
theorem foldlM_store (filesFit : files.length ≤ capacity) (foldersFit : folders.length ≤ capacity) :
    entries.foldlM (store capacity) ⟨some files, some folders, filenum, foldernum, false⟩ =
      if files.length + entries.countP Dirent.isFile ≤ capacity ∧
          folders.length + entries.countP Dirent.isFolder ≤ capacity then
        some ⟨some (files ++ (entries.filter Dirent.isFile).map Dirent.record),
          some (folders ++ (entries.filter Dirent.isFolder).map Dirent.record),
          filenum + entries.countP Dirent.isFile, foldernum + entries.countP Dirent.isFolder, false⟩
      else none := by
  induction entries generalizing files folders filenum foldernum with
  | nil => simp [filesFit, foldersFit]
  | cons entry rest ih =>
    have behind (items : List FileList) : (items ++ [entry.record]).length = items.length + 1 :=
      List.length_append
    rw [List.foldlM_cons]
    by_cases file : entry.isFile = true
    · have notFolder := entry.not_isFolder file
      rw [List.countP_cons_of_pos file, List.countP_cons_of_neg (by simp [notFolder]),
        List.filter_cons_of_pos file, List.filter_cons_of_neg (by simp [notFolder]),
        store_file file]
      by_cases room : files.length < capacity
      · rw [if_pos room, Option.bind_eq_bind, Option.bind_some,
          ih (by rw [behind]; omega) foldersFit]
        simp only [behind, List.map_cons, List.append_assoc, List.singleton_append, Nat.add_assoc,
          Nat.add_comm 1]
      · rw [if_neg room, if_neg (by omega)]
        rfl
    by_cases folder : entry.isFolder = true
    · rw [List.countP_cons_of_neg file, List.countP_cons_of_pos folder,
        List.filter_cons_of_neg file, List.filter_cons_of_pos folder, store_folder file folder]
      by_cases room : folders.length < capacity
      · rw [if_pos room, Option.bind_eq_bind, Option.bind_some,
          ih filesFit (by rw [behind]; omega)]
        simp only [behind, List.map_cons, List.append_assoc, List.singleton_append, Nat.add_assoc,
          Nat.add_comm 1]
      · rw [if_neg room, if_neg (by omega)]
        rfl
    · rw [store_other file folder, Option.bind_eq_bind, Option.bind_some, ih filesFit foldersFit,
        List.countP_cons_of_neg file, List.countP_cons_of_neg folder,
        List.filter_cons_of_neg file, List.filter_cons_of_neg folder]

end Store

/-- A call leaves open whether the folders were freed before. -/
theorem reset_freed (lists : Lists) : (reset lists).freed = lists.freed := by
  unfold reset
  split <;> rfl

/-- A second `free` of the folders ends the run. -/
theorem getsdlist_of_freed {lists : Lists} (freed : lists.freed = true) (dir : Directory) :
    getsdlist capacity lists dir = none := by
  rw [← reset_freed] at freed
  rw [getsdlist, if_pos freed]

/-- The numbers are zero when the loop starts. -/
theorem reset_counted {lists : Lists} (counted : Counted lists) :
    (reset lists).filenum = 0 ∧ (reset lists).foldernum = 0 := by
  unfold reset
  split
  · exact ⟨rfl, rfl⟩
  · next none =>
    rw [not_or, Bool.not_eq_true, Bool.not_eq_true, Option.isSome_eq_false_iff,
      Option.isSome_eq_false_iff, Option.isNone_iff_eq_none, Option.isNone_iff_eq_none] at none
    unfold Counted records at counted
    simpa [none.1, none.2] using counted

/-- The lists after the loop over the entries of a directory. -/
def filled (dir : Directory) : Lists :=
  countInside dir.inside ⟨some ((dir.entries.filter Dirent.isFile).map Dirent.record),
    some ((dir.entries.filter Dirent.isFolder).map Dirent.record),
    dir.entries.countP Dirent.isFile, dir.entries.countP Dirent.isFolder, false⟩

/-- What a call does, from numbers that are those of the records. -/
theorem getsdlist_cases {lists : Lists} (counted : Counted lists) (kept : lists.freed = false)
    (dir : Directory) :
    (∃ list, (dir.fileMemory = false ∨ dir.folderMemory = false ∨ dir.found = false) ∧
      records list.pFilelist = [] ∧ records list.pFloderlist = [] ∧ list.filenum = 0 ∧
      list.foldernum = 0 ∧ getsdlist capacity lists dir = some list) ∨
    dir.fileMemory = true ∧ dir.folderMemory = true ∧ dir.found = true ∧
      getsdlist capacity lists dir =
        if dir.entries.countP Dirent.isFile ≤ capacity ∧
            dir.entries.countP Dirent.isFolder ≤ capacity then
          some (filled dir)
        else none := by
  obtain ⟨noFiles, noFolders⟩ := reset_counted counted
  have still : (reset lists).freed = false := (reset_freed lists).trans kept
  have once : ¬(reset lists).freed = true := by simp [still]
  unfold getsdlist
  dsimp only
  rw [if_neg once]
  cases files : dir.fileMemory with
  | false =>
    refine .inl ⟨⟨none, (reset lists).pFloderlist.map fun _ => [], (reset lists).filenum,
      (reset lists).foldernum, (reset lists).pFloderlist.isSome⟩, .inl rfl, rfl, ?_, noFiles,
      noFolders, rfl⟩
    cases (reset lists).pFloderlist <;> rfl
  | true =>
    cases folders : dir.folderMemory with
    | false =>
      exact .inl ⟨⟨some [], none, (reset lists).filenum, (reset lists).foldernum,
        (reset lists).freed⟩, .inr (.inl rfl), rfl, rfl, noFiles, noFolders, rfl⟩
    | true =>
      cases found : dir.found with
      | false =>
        exact .inl ⟨⟨some [], some [], (reset lists).filenum, (reset lists).foldernum,
          (reset lists).freed⟩, .inr (.inr rfl), rfl, rfl, noFiles, noFolders, rfl⟩
      | true =>
        refine .inr ⟨rfl, rfl, rfl, ?_⟩
        simp only [Bool.true_eq_false, if_false, if_true, noFiles, noFolders, still]
        rw [foldlM_store (Nat.zero_le _) (Nat.zero_le _)]
        simp only [List.length_nil, Nat.zero_add, List.nil_append]
        split
        · rfl
        · rfl

/-- The records after the loop. -/
theorem filled_lengths (dir : Directory) :
    (records (filled dir).pFilelist).length = dir.entries.countP Dirent.isFile ∧
    (records (filled dir).pFloderlist).length = dir.entries.countP Dirent.isFolder := by
  simp [filled, countInside, records, List.countP_eq_length_filter]

/-- The names after the loop. -/
theorem filled_ended (dir : Directory) :
    (∀ file ∈ records (filled dir).pFilelist ++ records (filled dir).pFloderlist, 0 ∈ file.name) ↔
      ∀ entry ∈ dir.entries, entry.isFile = true ∨ entry.isFolder = true →
        entry.dName.length < 50 := by
  have name (entry : Dirent) : 0 ∈ entry.record.name ↔ entry.dName.length < 50 :=
    zero_mem_nameField entry.ended
  rw [List.forall_mem_append]
  constructor
  · rintro ⟨files, folders⟩ entry member (file | folder)
    · rw [← name]
      exact files _ (List.mem_map_of_mem (List.mem_filter.mpr ⟨member, file⟩))
    · rw [← name]
      obtain ⟨j, below, same⟩ := List.mem_iff_getElem.mp
        (List.mem_map_of_mem (f := Dirent.record) (List.mem_filter.mpr ⟨member, folder⟩))
      have among := folders { entry.record with numoffiles := dir.inside j }
        (List.mem_mapIdx.mpr ⟨j, below, by rw [same]⟩)
      exact among
  · intro short
    constructor
    · intro file member
      obtain ⟨entry, among, rfl⟩ := List.mem_map.mp member
      obtain ⟨inside, isFile⟩ := List.mem_filter.mp among
      exact (name entry).mpr (short entry inside (.inl isFile))
    · intro folder member
      obtain ⟨j, below, rfl⟩ := List.mem_mapIdx.mp member
      obtain ⟨entry, among, same⟩ := List.mem_map.mp (List.getElem_mem below)
      obtain ⟨inside, isFolder⟩ := List.mem_filter.mp among
      have ended := (name entry).mpr (short entry inside (.inr isFolder))
      rw [same] at ended
      exact ended

/-- A call leaves the numbers of the records. -/
theorem getsdlist_counted {lists after : Lists} {dir : Directory} (counted : Counted lists)
    (ran : getsdlist capacity lists dir = some after) : Counted after := by
  have kept : lists.freed = false := by
    by_contra freed
    rw [getsdlist_of_freed (by simpa using freed)] at ran
    cases ran
  rcases getsdlist_cases counted kept dir with
    ⟨list, -, files, folders, filenum, foldernum, result⟩ | ⟨-, -, -, result⟩
  · cases ran.symm.trans result
    exact ⟨by rw [files]; exact filenum, by rw [folders]; exact foldernum⟩
  · rw [result] at ran
    split at ran
    · cases ran
      exact ⟨(filled_lengths dir).1.symm, (filled_lengths dir).2.symm⟩
    · cases ran

/-- The numbers are those of the records after every run of calls. -/
theorem calls_counted {earlier : List Directory} {start lists : Lists} (counted : Counted start)
    (ran : earlier.foldlM (getsdlist capacity) start = some lists) : Counted lists := by
  induction earlier generalizing start with
  | nil =>
    cases ran
    exact counted
  | cons dir rest ih =>
    rw [List.foldlM_cons] at ran
    obtain ⟨next, first, rest⟩ := Option.bind_eq_some_iff.mp ran
    exact ih (getsdlist_counted counted first) rest

/-- After any calls, a call leaves lists that fit their blocks, with names that have an end and
with their numbers, exactly when the folders are not freed already, and the memory or the directory
is missing, or the directory has no more visible files and folders than fit and none of their names
has 50 bytes or more. -/
theorem getsdlist_listed (recordSize : Nat) {earlier : List Directory} {lists : Lists}
    (ran : earlier.foldlM (getsdlist (maxSdlistLength / recordSize)) .boot = some lists)
    (dir : Directory) :
    (∃ after, getsdlist (maxSdlistLength / recordSize) lists dir = some after ∧
      Listed (maxSdlistLength / recordSize) after) ↔
      lists.freed = false ∧ (dir.fileMemory = true → dir.folderMemory = true → dir.found = true →
        Fits (maxSdlistLength / recordSize) dir.entries) := by
  have counted : Counted lists := calls_counted ⟨rfl, rfl⟩ ran
  by_cases freed : lists.freed = true
  · rw [getsdlist_of_freed freed]
    exact iff_of_false (fun ended => nomatch ended.choose_spec.1)
      fun both => Bool.noConfusion (freed.symm.trans both.1)
  have kept : lists.freed = false := by simpa using freed
  rw [and_iff_right kept]
  rcases getsdlist_cases counted kept dir with
    ⟨list, missing, files, folders, filenum, foldernum, result⟩ | ⟨memory, more, found, result⟩
  · apply iff_of_true
    · refine ⟨list, result, ?_, ?_, ?_, ?_, ?_⟩
      · rw [files]
        exact Nat.zero_le _
      · rw [folders]
        exact Nat.zero_le _
      · rw [files, folders]
        intro file member
        cases member
      · rw [files]
        exact filenum
      · rw [folders]
        exact foldernum
    · intro memory more found
      simp [memory, more, found] at missing
  · obtain ⟨files, folders⟩ := filled_lengths dir
    simp only [memory, more, found, forall_const, result]
    unfold Fits
    constructor
    · rintro ⟨after, ran, listed⟩
      split at ran
      · next room =>
        cases ran
        exact ⟨room.1, room.2, (filled_ended dir).mp listed.ended⟩
      · cases ran
    · rintro ⟨fileRoom, folderRoom, short⟩
      rw [if_pos ⟨fileRoom, folderRoom⟩]
      exact ⟨_, rfl, files.symm ▸ fileRoom, folders.symm ▸ folderRoom,
        (filled_ended dir).mpr short, files.symm, folders.symm⟩

/-- A file name of three bytes. -/
theorem zero_not_mem_small : (0 : UInt8) ∉ ascii "a.c" := by decide

/-- The first call lists a directory with one file. -/
theorem getsdlist_listed_small :
    ∃ after, getsdlist (maxSdlistLength / 72) .boot
        ⟨true, true, true, [⟨ascii "a.c", some ⟨false, 1, 0⟩, zero_not_mem_small⟩], fun _ => 0⟩ =
        some after ∧ Listed (maxSdlistLength / 72) after :=
  (@getsdlist_listed 72 [] .boot rfl _).mpr ⟨rfl, fun _ _ _ => by
    refine ⟨by decide, by decide, ?_⟩
    intro entry member _
    obtain rfl := List.mem_singleton.mp member
    decide⟩

/-- A name of fifty bytes has no zero. -/
theorem zero_not_mem_long : (0 : UInt8) ∉ List.replicate 50 97 := by decide

/-- A file name of fifty bytes fills its field. -/
theorem getsdlist_long_name :
    ¬∃ after, getsdlist (maxSdlistLength / 72) .boot
        ⟨true, true, true, [⟨List.replicate 50 97, some ⟨false, 1, 0⟩, zero_not_mem_long⟩],
          fun _ => 0⟩ =
        some after ∧ Listed (maxSdlistLength / 72) after := by
  rintro ⟨after, ran, listed⟩
  cases ran
  exact absurd (listed.ended _ List.mem_cons_self) (by decide)

end Stores

end BoaIpcam.Sd.Listing
