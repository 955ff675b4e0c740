import BoaIpcam.Numeral
import BoaIpcam.Lib.Pages

/-!
# The pages of the memory card

`getsdlist` of `request.c` puts the files of a directory into one list and its folders into another
and calls `cal_pagestaus`, which derives eight global variables from the two counts, the page size
and the page that was asked for. `uri_sdcard_list` chooses from them where in the list of the files
it starts to print, and how many rows.

The page size is a configuration entry of eight bits. `/` and `%` of C are `Int.tdiv` and
`Int.tmod`.
-/
namespace BoaIpcam.Sd

open Pages

/-! ## The state of the pages -/

/-- A file in the list of `getsdlist`. -/
structure FileEntry where
  /-- The name. -/
  name : List UInt8
  /-- The size. -/
  size : Nat
deriving DecidableEq, Repr

/-- What stays between two requests: `SDCARD_SDFPP` and `pageindex`. -/
structure PageState where
  /-- `SDCARD_SDFPP`. -/
  sdfppConfig : UInt8
  /-- The page. -/
  pageindex : Int
deriving DecidableEq, Repr

/-- The global variables that `cal_pagestaus` sets. -/
structure PageStatus where
  /-- The rows of a page. -/
  sdfpp : Int
  /-- The number of pages. -/
  totalpage : Int
  /-- The page on which the folders end. -/
  folderpage : Int
  /-- The folders on it. -/
  foldernumLastpage : Int
  /-- The number of pages with folders. -/
  totalfolderpage : Int
  /-- The files on the first page with files. -/
  numoffirstpage : Int
  /-- The full pages behind that. -/
  filepage : Int
  /-- The files on the last page. -/
  numoflastpage : Int
  /-- The number of pages with files. -/
  totalfilepage : Int
  /-- The first page with files. -/
  filestart : Int
  /-- The page. -/
  pageindex : Int
deriving DecidableEq, Repr

/-- The page size that a value of `SDCARD_SDFPP` stands for. -/
def pageSize (config : UInt8) : Nat := if config = 1 then 20 else if config = 2 then 50 else 10

/-- The number of pages, `totalpage`. -/
def totalPages (filenum foldernum sdfpp : Int) : Int :=
  if filenum + foldernum ≠ 0 then
    (filenum + foldernum).tdiv sdfpp + if (filenum + foldernum).tmod sdfpp ≠ 0 then 1 else 0
  else 0

/-- `cal_pagestaus`. -/
def calPagestaus (state : PageState) (filenum foldernum : Int) : PageStatus :=
  let sdfpp : Int := pageSize state.sdfppConfig
  let totalpage := totalPages filenum foldernum sdfpp
  let folderpage := if foldernum ≠ 0 then foldernum.tdiv sdfpp else 0
  let foldernumLastpage := if foldernum ≠ 0 then foldernum.tmod sdfpp else 0
  let totalfolderpage := if foldernumLastpage ≠ 0 then folderpage + 1 else folderpage
  let first :=
    if foldernum ≠ 0 then sdfpp - foldernumLastpage
    else if filenum > sdfpp then sdfpp else filenum
  let numoffirstpage := if filenum ≠ 0 then if first > filenum then filenum else first else 0
  let filepage := if filenum ≠ 0 then (filenum - first).tdiv sdfpp else 0
  let numoflastpage :=
    if filenum ≠ 0 then if first > filenum then 0 else (filenum - first).tmod sdfpp else 0
  let filestart :=
    if foldernum = 0 then 1
    else if foldernumLastpage = 0 ∧ numoffirstpage ≠ 0 then folderpage + 1
    else totalfolderpage
  { sdfpp, totalpage, folderpage, foldernumLastpage, totalfolderpage, numoffirstpage, filepage
    numoflastpage, filestart
    totalfilepage := (if numoffirstpage ≠ 0 then 1 else 0) + (if numoflastpage ≠ 0 then 1 else 0) +
      filepage
    pageindex := if state.pageindex > totalpage then 1 else state.pageindex }

/-! ## The handler -/

/-- The values of the arguments `page` and `pagesize`, none when the third or the fourth argument has
another name. -/
structure ListRequest where
  /-- The value of `page`. -/
  page : Option (List UInt8)
  /-- The value of `pagesize`. -/
  pagesize : Option (List UInt8)

/-- The entry for a value of `pagesize`. -/
def pagesizeConfig (value : List UInt8) : UInt8 :=
  if atoi value = 20 then 1 else if atoi value = 50 then 2 else 0

/-- What a request sets before the directory is read. -/
def PageState.set (state : PageState) (request : ListRequest) : PageState where
  pageindex := (request.page.map atoi).getD state.pageindex
  sdfppConfig := (request.pagesize.map pagesizeConfig).getD state.sdfppConfig

/-- Where the rows start in the list of the files, and how many there are. -/
def displayed (status : PageStatus) (numoflastpage : Int) : Int × Int :=
  if status.pageindex = status.filestart then
    (0, if status.sdfpp > status.numoffirstpage then status.numoffirstpage else status.sdfpp)
  else if status.pageindex = status.totalpage then
    if numoflastpage = 0 then
      (status.numoffirstpage + (status.filepage - 1) * status.sdfpp, status.sdfpp)
    else (status.numoffirstpage + status.filepage * status.sdfpp, numoflastpage)
  else if status.pageindex < status.filestart ∨
      status.numoffirstpage = status.sdfpp ∧ status.filestart = status.pageindex then (0, 0)
  else (status.numoffirstpage + (status.pageindex - status.filestart - 1) * status.sdfpp,
    status.sdfpp)

/-- The part of the answer about the pages. A row is the file at a position of the list, nothing when
the position is outside the list. -/
structure ListReply where
  /-- The page. -/
  page : Int
  /-- The rows of a page. -/
  pagesize : Int
  /-- The number of files. -/
  totalFile : Int
  /-- The number of pages. -/
  totalPage : Int
  /-- The number of rows that is told. -/
  num : Int
  /-- The rows. -/
  rows : List (Option FileEntry)
deriving DecidableEq, Repr

/-- `*ptr` at a position of the list. -/
def fileAt (files : List FileEntry) (position : Int) : Option FileEntry :=
  if 0 ≤ position then files[position.toNat]? else none

/-- `uri_sdcard_list` for a directory in which `getsdlist` finds these files and as many folders. -/
def uriSdcardListPage (state : PageState) (request : ListRequest) (files : List FileEntry)
    (foldernum : Nat) : ListReply :=
  let status := calPagestaus (state.set request) files.length foldernum
  let total : Int := files.length + foldernum
  let numoflastpage := if total ≠ 0 then total.tmod status.sdfpp else status.numoflastpage
  let shown := displayed status numoflastpage
  { page := status.pageindex
    pagesize := status.sdfpp
    totalFile := files.length
    totalPage := totalPages files.length foldernum status.sdfpp
    num := shown.2
    rows := (List.range shown.2.toNat).map fun i : Nat => fileAt files (shown.1 + i) }

/-- The lines before the rows. -/
def ListReply.head (reply : ListReply) : List UInt8 :=
  ascii "page=" ++ intText reply.page ++ ascii "\r\npagesize=" ++ intText reply.pagesize ++
    ascii "\r\ntotal_file=" ++ intText reply.totalFile ++ ascii "\r\ntotal_page=" ++
    intText reply.totalPage ++ ascii "\r\nnum=" ++ intText reply.num ++ ascii "\r\n"

/-- The row of a file. -/
def FileEntry.row (file : FileEntry) : List UInt8 :=
  ascii "file_" ++ file.name ++ ascii "=<" ++ decimal file.size ++ ascii ">\r\n"

/-- The lines that are printed, when every row is inside the list. -/
def ListReply.text (reply : ListReply) : Option (List UInt8) :=
  (reply.rows.mapM id).map fun files => reply.head ++ files.flatMap FileEntry.row

/-! ## What is on a page -/

/-- The files on a page of the listing, which has the folders first. -/
def filesOn {folder : Type} (size : Nat) (number : Int) (folders : List folder)
    (files : List FileEntry) : List FileEntry :=
  (page size number (folders.map Sum.inl ++ files.map Sum.inr)).filterMap Sum.getRight?

/-- The page that a page parameter asks for: past the last page it is the first. -/
def pageShown (number total : Int) : Int := if number > total then 1 else number

/-- Rows inside the list are the files there. -/
theorem rows_inside (files : List FileEntry) (start count : Nat)
    (inside : start + count ≤ files.length) :
    ((List.range count).map fun i : Nat => fileAt files ((start : Int) + i)) =
      ((files.drop start).take count).map some := by
  apply List.ext_getElem
  · simp only [List.length_map, List.length_range, List.length_take, List.length_drop]
    omega
  · intro i less _
    rw [List.length_map, List.length_range] at less
    have position : (start : Int) + i = ((start + i : Nat) : Int) := by omega
    simp only [List.getElem_map, List.getElem_range, List.getElem_take, List.getElem_drop]
    rw [position, fileAt, if_pos (Int.natCast_nonneg _), Int.toNat_natCast,
      List.getElem?_eq_getElem (by omega)]

/-- The page sizes. -/
theorem pageSize_cases (config : UInt8) :
    pageSize config = 10 ∨ pageSize config = 20 ∨ pageSize config = 50 := by
  unfold pageSize
  split
  · exact .inr (.inl rfl)
  · split
    · exact .inr (.inr rfl)
    · exact .inl rfl

/-- The number of pages is the number of items divided by the page size, rounded up. -/
theorem totalPages_eq (filenum foldernum : Nat) (config : UInt8) :
    totalPages filenum foldernum (pageSize config) =
      count (pageSize config) (foldernum + filenum) := by
  have positive : (0 : Int) ≤ filenum + foldernum := by omega
  unfold totalPages count
  rw [Int.tdiv_eq_ediv_of_nonneg positive, Int.tmod_eq_emod_of_nonneg positive]
  rcases pageSize_cases config with size | size | size <;> rw [size] <;> split <;> omega

/-- The variables that the handler reads, for two counts: the first page with files and how many it
has, and how many full pages follow. -/
theorem calPagestaus_spec (state : PageState) (filenum foldernum : Nat) :
    ((calPagestaus state filenum foldernum).numoffirstpage =
        min (filenum : Int) (pageSize state.sdfppConfig -
          foldernum % (pageSize state.sdfppConfig : Int))) ∧
      ((calPagestaus state filenum foldernum).filestart =
        if filenum ≠ 0 then foldernum / (pageSize state.sdfppConfig : Int) + 1
        else max 1 (totalPages 0 foldernum (pageSize state.sdfppConfig))) ∧
      ((pageSize state.sdfppConfig - foldernum % (pageSize state.sdfppConfig : Int) ≤
          (filenum : Int)) →
        (calPagestaus state filenum foldernum).filepage =
          (filenum - (pageSize state.sdfppConfig - foldernum % (pageSize state.sdfppConfig : Int))) /
            (pageSize state.sdfppConfig : Int)) := by
  have folders : (0 : Int) ≤ foldernum := Int.natCast_nonneg _
  simp only [calPagestaus, totalPages, Int.tdiv_eq_ediv_of_nonneg folders,
    Int.tmod_eq_emod_of_nonneg folders, Int.zero_add]
  have divide : ∀ first size : Int, first ≤ filenum →
      (filenum - first).tdiv size = (filenum - first) / size := by
    intro first size less
    exact Int.tdiv_eq_ediv_of_nonneg (by omega)
  rcases pageSize_cases state.sdfppConfig with size | size | size <;> rw [size]
  all_goals
    refine ⟨?_, ?_, ?_⟩
    · omega
    · omega
    · intro less
      split
      · split
        · rw [divide _ _ (by omega)]
        · rw [divide _ _ (by omega)]
          omega
      · omega

/-- The five ways to choose the rows. -/
theorem displayed_cases (status : PageStatus) (rest : Int) :
    (status.pageindex = status.filestart ∧
        displayed status rest = (0, min status.sdfpp status.numoffirstpage)) ∨
      (status.pageindex ≠ status.filestart ∧ status.pageindex = status.totalpage ∧ rest = 0 ∧
        displayed status rest =
          (status.numoffirstpage + (status.filepage - 1) * status.sdfpp, status.sdfpp)) ∨
      (status.pageindex ≠ status.filestart ∧ status.pageindex = status.totalpage ∧ rest ≠ 0 ∧
        displayed status rest =
          (status.numoffirstpage + status.filepage * status.sdfpp, rest)) ∨
      (status.pageindex < status.filestart ∧ status.pageindex ≠ status.totalpage ∧
        displayed status rest = (0, 0)) ∨
      (status.filestart < status.pageindex ∧ status.pageindex ≠ status.totalpage ∧
        displayed status rest =
          (status.numoffirstpage + (status.pageindex - status.filestart - 1) * status.sdfpp,
            status.sdfpp)) := by
  unfold displayed
  by_cases start : status.pageindex = status.filestart
  · rw [if_pos start]
    refine .inl ⟨start, Prod.ext rfl ?_⟩
    dsimp only
    split <;> omega
  · rw [if_neg start]
    by_cases last : status.pageindex = status.totalpage
    · rw [if_pos last]
      by_cases full : rest = 0
      · rw [if_pos full]
        exact .inr (.inl ⟨start, last, full, rfl⟩)
      · rw [if_neg full]
        exact .inr (.inr (.inl ⟨start, last, full, rfl⟩))
    · rw [if_neg last]
      split
      · exact .inr (.inr (.inr (.inl ⟨by omega, last, rfl⟩)))
      · exact .inr (.inr (.inr (.inr ⟨by omega, last, rfl⟩)))

/-- The number of pages of a listing that has items is the only one with the last item on it. -/
theorem totalPages_bounds (filenum foldernum : Nat) (config : UInt8) :
    (filenum + foldernum : Int) ≤
        totalPages filenum foldernum (pageSize config) * pageSize config ∧
      totalPages filenum foldernum (pageSize config) * pageSize config <
        filenum + foldernum + pageSize config := by
  rw [totalPages_eq]
  unfold count
  rcases pageSize_cases config with size | size | size <;> rw [size] <;> omega

/-- What the derived variables have to do with the two counts. -/
structure Layout (size filenum foldernum : Nat) (status : PageStatus) : Prop where
  /-- A page has one of three sizes. -/
  size_cases : size = 10 ∨ size = 20 ∨ size = 50
  /-- The files on the page on which they start. -/
  numoffirstpage : status.numoffirstpage = min (filenum : Int) (size - foldernum % (size : Int))
  /-- The page on which they start. -/
  filestart_files : filenum ≠ 0 → status.filestart = foldernum / (size : Int) + 1
  /-- Without files it is the last page. -/
  filestart_folders : filenum = 0 → status.filestart = max 1 status.totalpage
  /-- The full pages behind it. -/
  filepage : size - foldernum % (size : Int) ≤ (filenum : Int) →
    status.filepage = (filenum - (size - foldernum % (size : Int))) / (size : Int)
  /-- The pages are as many as needed. -/
  totalpage : (filenum + foldernum : Int) ≤ status.totalpage * size ∧
    status.totalpage * size < filenum + foldernum + size
  /-- The page is one of them, or the first. -/
  pageindex : status.pageindex ≤ status.totalpage ∨ status.pageindex = 1

/-- The rows that are shown are the part of the list of the files that is on the page. -/
structure Window (size filenum foldernum : Nat) (number : Int) (shown : Int × Int) : Prop where
  /-- The number of rows is not negative. -/
  count_nonneg : 0 ≤ shown.2
  /-- The first row is the first file of the page. -/
  start : shown.2 = 0 ∨ shown.1 = (((number.toNat - 1) * size - foldernum : Nat) : Int)
  /-- The rows are the files of the page. -/
  count : 1 ≤ number → shown.2.toNat = min (size - (foldernum - (number.toNat - 1) * size))
    (filenum - ((number.toNat - 1) * size - foldernum))
  /-- Before the first page there are none. -/
  count_zero : number < 1 → shown.2 = 0

/-- How many items stand before a page. -/
theorem skipped_eq {number : Int} (positive : 1 ≤ number) (size : Nat) :
    (((number.toNat - 1) * size : Nat) : Int) = number * size - size := by
  have back : ((number.toNat - 1 : Nat) : Int) = number - 1 := by omega
  rw [Int.natCast_mul, back, Int.sub_mul, Int.one_mul]

/-- A page that starts after the folders shows files only. -/
theorem Window.of_after {size filenum foldernum : Nat} {number first amount : Int}
    (positive : 1 ≤ number) (after : (foldernum : Int) ≤ number * size - size)
    (inside : number * size - size ≤ (filenum + foldernum : Int))
    (starts : first = number * size - size - foldernum)
    (shows : amount = min (size : Int) (filenum + foldernum - (number * size - size))) :
    Window size filenum foldernum number (first, amount) := by
  have skipped := skipped_eq positive size
  rw [← skipped] at after inside starts shows
  constructor
  · show 0 ≤ amount
    omega
  · right
    show first = _
    omega
  · intro _
    show amount.toNat = _
    omega
  · intro low
    omega

namespace Layout

variable {size filenum foldernum : Nat} {status : PageStatus}

/-- The files on the first page with files are those that the folders leave room for. -/
theorem firstpage_bounds (layout : Layout size filenum foldernum status) :
    0 ≤ status.numoffirstpage ∧ status.numoffirstpage ≤ size := by
  have first := layout.numoffirstpage
  have sizes := layout.size_cases
  clear layout
  rcases sizes with rfl | rfl | rfl <;> omega

/-- The first page with files. -/
theorem window_start (layout : Layout size filenum foldernum status)
    (here : status.pageindex = status.filestart) :
    Window size filenum foldernum status.pageindex (0, min size status.numoffirstpage) := by
  obtain ⟨nonneg, below⟩ := layout.firstpage_bounds
  have first := layout.numoffirstpage
  have sizes := layout.size_cases
  have shown : min (size : Int) status.numoffirstpage = status.numoffirstpage :=
    Int.min_eq_right below
  rw [shown]
  by_cases empty : filenum = 0
  · -- there are no files, so the page shows none
    have pages := layout.filestart_folders empty
    have none : status.numoffirstpage = 0 := by omega
    refine ⟨nonneg, .inl none, fun _ => ?_, fun _ => none⟩
    dsimp only
    rw [none, empty, Nat.zero_sub, Nat.min_zero]
    exact rfl
  · have begin := layout.filestart_files empty
    have positive : 0 < size := by omega
    have quotient : (foldernum : Int) / size = (foldernum / size : Nat) :=
      (Int.natCast_ediv foldernum size).symm
    have remainder : (foldernum : Int) % size = (foldernum % size : Nat) :=
      (Int.natCast_emod foldernum size).symm
    have parts : foldernum / size * size + foldernum % size = foldernum := Nat.div_add_mod' _ _
    have rest : foldernum % size < size := Nat.mod_lt _ positive
    rw [remainder] at first
    rw [quotient] at begin
    clear layout quotient remainder
    generalize foldernum / size = whole at parts begin
    generalize foldernum % size = more at parts rest first
    have place : status.pageindex.toNat - 1 = whole := by omega
    have skipped : (status.pageindex.toNat - 1) * size + more = foldernum := by
      rw [place]
      exact parts
    refine ⟨nonneg, .inr ?_, fun _ => ?_, fun before => ?_⟩
    · generalize (status.pageindex.toNat - 1) * size = front at skipped ⊢
      omega
    · generalize (status.pageindex.toNat - 1) * size = front at skipped ⊢
      dsimp only
      omega
    · omega

/-- When the last page is full, the pages have as many places as there are items. -/
theorem total_full (layout : Layout size filenum foldernum status)
    (rest : (filenum + foldernum : Int) % size = 0) :
    status.totalpage * size = filenum + foldernum := by
  have pages := layout.totalpage
  have sizes := layout.size_cases
  clear layout
  rcases sizes with rfl | rfl | rfl <;> omega

/-- When the last page is not full, the items stop inside it. -/
theorem total_rest (layout : Layout size filenum foldernum status)
    (rest : (filenum + foldernum : Int) % size ≠ 0) :
    status.totalpage * size = filenum + foldernum - (filenum + foldernum : Int) % size + size := by
  have pages := layout.totalpage
  have sizes := layout.size_cases
  clear layout
  rcases sizes with rfl | rfl | rfl <;> omega

/-- When the last page is not the first one with files, it has no folders, and the first one with
files is filled up with them. -/
theorem filled_of_last (layout : Layout size filenum foldernum status)
    (asked : ¬(filenum = 0 ∧ foldernum = 0 ∧ status.pageindex = 0))
    (away : status.pageindex ≠ status.filestart) (here : status.pageindex = status.totalpage) :
    1 ≤ status.totalpage ∧ (foldernum : Int) ≤ status.totalpage * size - size ∧
      (size - foldernum % (size : Int) < (filenum : Int)) ∧
      (status.numoffirstpage = size - foldernum % (size : Int)) := by
  obtain ⟨sizes, first, files, folders, -, pages, index⟩ := layout
  rcases sizes with rfl | rfl | rfl <;> omega

/-- The first page with files and the full pages after it have all files except those on a last page
that is not full. -/
theorem filled_pages (layout : Layout size filenum foldernum status)
    (filled : size - foldernum % (size : Int) < (filenum : Int))
    (first : status.numoffirstpage = size - foldernum % (size : Int)) :
    status.numoffirstpage + status.filepage * size =
      filenum - (filenum + foldernum : Int) % size := by
  have full := layout.filepage (Int.le_of_lt filled)
  have sizes := layout.size_cases
  clear layout
  rw [first, full]
  rcases sizes with rfl | rfl | rfl <;> omega

/-- The last page, when it is full. -/
theorem window_full (layout : Layout size filenum foldernum status)
    (asked : ¬(filenum = 0 ∧ foldernum = 0 ∧ status.pageindex = 0))
    (away : status.pageindex ≠ status.filestart) (here : status.pageindex = status.totalpage)
    (rest : (filenum + foldernum : Int) % size = 0) :
    Window size filenum foldernum status.pageindex
      (status.numoffirstpage + (status.filepage - 1) * size, size) := by
  obtain ⟨positive, after, filled, first⟩ := layout.filled_of_last asked away here
  have total := layout.total_full rest
  have files := layout.filled_pages filled first
  rw [here]
  rw [rest] at files
  apply Window.of_after positive after
  · omega
  · rw [Int.sub_mul, Int.one_mul]
    omega
  · omega

/-- The last page, when it is not full. -/
theorem window_last (layout : Layout size filenum foldernum status)
    (asked : ¬(filenum = 0 ∧ foldernum = 0 ∧ status.pageindex = 0))
    (away : status.pageindex ≠ status.filestart) (here : status.pageindex = status.totalpage)
    (rest : (filenum + foldernum : Int) % size ≠ 0) :
    Window size filenum foldernum status.pageindex
      (status.numoffirstpage + status.filepage * size, (filenum + foldernum : Int) % size) := by
  obtain ⟨positive, after, filled, first⟩ := layout.filled_of_last asked away here
  have total := layout.total_rest rest
  have files := layout.filled_pages filled first
  have nonempty : (0 : Int) < size := by
    have sizes := layout.size_cases
    omega
  have nonneg := Int.emod_nonneg (filenum + foldernum : Int) (Int.ne_of_gt nonempty)
  have less := Int.emod_lt_of_pos (filenum + foldernum : Int) nonempty
  rw [here]
  apply Window.of_after positive after
  · omega
  · omega
  · omega

/-- A page before the first one with files. -/
theorem window_before (layout : Layout size filenum foldernum status)
    (before : status.pageindex < status.filestart) :
    Window size filenum foldernum status.pageindex (0, 0) := by
  obtain ⟨sizes, first, files, folders, -, pages, index⟩ := layout
  rcases sizes with rfl | rfl | rfl <;> constructor <;> dsimp only <;> omega

/-- A page between the first one with files and the last is full of files. -/
theorem filled_of_between (layout : Layout size filenum foldernum status)
    (after : status.filestart < status.pageindex) (away : status.pageindex ≠ status.totalpage) :
    1 ≤ status.pageindex ∧ (foldernum : Int) ≤ status.pageindex * size - size ∧
      status.pageindex * size ≤ (filenum + foldernum : Int) ∧
      status.numoffirstpage = status.filestart * size - foldernum := by
  obtain ⟨sizes, first, files, folders, -, pages, index⟩ := layout
  have some : filenum ≠ 0 := by
    intro none
    have start := folders none
    omega
  have start := files some
  clear files folders
  rcases sizes with rfl | rfl | rfl <;> omega

/-- A page between the first one with files and the last. -/
theorem window_after (layout : Layout size filenum foldernum status)
    (after : status.filestart < status.pageindex) (away : status.pageindex ≠ status.totalpage) :
    Window size filenum foldernum status.pageindex
      (status.numoffirstpage + (status.pageindex - status.filestart - 1) * size, size) := by
  obtain ⟨positive, behind, inside, first⟩ := layout.filled_of_between after away
  apply Window.of_after positive behind
  · omega
  · rw [first, Int.sub_mul, Int.sub_mul, Int.one_mul]
    omega
  · omega

/-- What is shown of a layout is the part that is on the page. -/
theorem window (layout : Layout size filenum foldernum status) (sdfpp : status.sdfpp = size)
    (asked : ¬(filenum = 0 ∧ foldernum = 0 ∧ status.pageindex = 0)) :
    Window size filenum foldernum status.pageindex
      (displayed status ((filenum + foldernum : Int) % size)) := by
  have cases := displayed_cases status ((filenum + foldernum : Int) % size)
  rw [sdfpp] at cases
  rcases cases with ⟨here, shown⟩ | ⟨away, here, rest, shown⟩ | ⟨away, here, rest, shown⟩ |
    ⟨before, -, shown⟩ | ⟨after, away, shown⟩
  · rw [shown]
    exact layout.window_start here
  · rw [shown]
    exact layout.window_full asked away here rest
  · rw [shown]
    exact layout.window_last asked away here rest
  · rw [shown]
    exact layout.window_before before
  · rw [shown]
    exact layout.window_after after away

end Layout

/-- The layout that `cal_pagestaus` sets. -/
theorem calPagestaus_layout (state : PageState) (filenum foldernum : Nat) :
    Layout (pageSize state.sdfppConfig) filenum foldernum
      (calPagestaus state filenum foldernum) := by
  obtain ⟨first, begin, full⟩ := calPagestaus_spec state filenum foldernum
  have total : (calPagestaus state filenum foldernum).totalpage =
      totalPages filenum foldernum (pageSize state.sdfppConfig) := rfl
  refine
    { size_cases := pageSize_cases _
      numoffirstpage := first
      filestart_files := fun some => by rw [begin, if_pos some]
      filestart_folders := fun none => ?_
      filepage := full
      totalpage := totalPages_bounds _ _ _
      pageindex := ?_ }
  · subst none
    rw [begin, if_neg (not_not_intro rfl), total, Int.natCast_zero]
  · change (if _ > _ then (1 : Int) else _) ≤ _ ∨ (if _ > _ then (1 : Int) else _) = 1
    split
    · exact .inr rfl
    · exact .inl (by rw [total]; omega)

/-- The rest that the handler computes is the number of items on the last page. -/
theorem rest_eq (state : PageState) (filenum foldernum : Nat) :
    (if (filenum + foldernum : Int) ≠ 0 then
        (filenum + foldernum : Int).tmod (calPagestaus state filenum foldernum).sdfpp
      else (calPagestaus state filenum foldernum).numoflastpage) =
      (filenum + foldernum : Int) % pageSize state.sdfppConfig := by
  split
  · exact Int.tmod_eq_emod_of_nonneg (by omega)
  · have empty : filenum = 0 ∧ foldernum = 0 := by omega
    rw [empty.1, empty.2]
    exact (Int.zero_emod _).symm

/-- The rows of a window are the files of the page. -/
theorem Window.rows {folder : Type} {size : Nat} {number : Int} {shown : Int × Int}
    {folders : List folder} {files : List FileEntry}
    (window : Window size files.length folders.length number shown) :
    ((List.range shown.2.toNat).map fun i : Nat => fileAt files (shown.1 + i)) =
        (filesOn size number folders files).map some ∧
      shown.2 = (filesOn size number folders files).length := by
  obtain ⟨nonneg, start, count, none⟩ := window
  rw [filesOn, page_append_right]
  by_cases inside : 1 ≤ number
  · rw [if_pos inside]
    have amount := count inside
    have take : ((files.drop ((number.toNat - 1) * size - folders.length)).take
        (size - (folders.length - (number.toNat - 1) * size))) =
        (files.drop ((number.toNat - 1) * size - folders.length)).take shown.2.toNat := by
      rw [List.take_eq_take_iff, List.length_drop, amount]
      omega
    rw [take]
    have length : ((files.drop ((number.toNat - 1) * size - folders.length)).take
        shown.2.toNat).length = shown.2.toNat := by
      rw [List.length_take, List.length_drop]
      omega
    refine ⟨?_, by rw [length]; omega⟩
    rcases start with zero | start
    · rw [zero]
      rfl
    · rw [start]
      by_cases some : shown.2.toNat = 0
      · rw [some]
        rfl
      · exact rows_inside _ _ _ (by omega)
  · rw [if_neg inside, none (by omega)]
    exact ⟨rfl, rfl⟩

/-- The answer to a request that does not ask for the page 0 of an empty directory. -/
theorem uriSdcardListPage_page {folder : Type} (state : PageState) (request : ListRequest)
    (files : List FileEntry) (folders : List folder)
    (asked : ¬(files = [] ∧ folders = [] ∧ (state.set request).pageindex = 0)) :
    let reply := uriSdcardListPage state request files folders.length
    let size := pageSize (state.set request).sdfppConfig
    reply.page = pageShown (state.set request).pageindex reply.totalPage ∧
      reply.pagesize = size ∧
      reply.totalPage = count size (folders.length + files.length) ∧
      reply.rows = (filesOn size reply.page folders files).map some ∧
      reply.num = (filesOn size reply.page folders files).length := by
  intro reply size
  have layout := calPagestaus_layout (state.set request) files.length folders.length
  have shown := layout.window rfl (by
    rintro ⟨noFiles, noFolders, zero⟩
    rw [List.length_eq_zero_iff] at noFiles noFolders
    subst noFiles noFolders
    refine asked ⟨rfl, rfl, ?_⟩
    change (if (state.set request).pageindex > 0 then (1 : Int) else
      (state.set request).pageindex) = 0 at zero
    split at zero
    · cases zero
    · exact zero)
  rw [← rest_eq] at shown
  obtain ⟨rows, num⟩ := @Window.rows _ _ _ _ folders files shown
  exact ⟨rfl, rfl, totalPages_eq _ _ _, rows, num⟩

/-- A listing in pages is exact, when the page 0 of an empty directory is not asked for: the rows are
the files on the page that is shown, which is the first for a number past the last page, `num` is
how many there are, and the pages from 1 to `total_page` show every file once and in order. -/
theorem sdcard_pages_exact {folder : Type} (state : PageState) (request : ListRequest)
    (files : List FileEntry) (folders : List folder)
    (asked : ¬(files = [] ∧ folders = [] ∧ (state.set request).pageindex = 0)) :
    let reply := uriSdcardListPage state request files folders.length
    let size := pageSize (state.set request).sdfppConfig
    reply.rows = (filesOn size (pageShown (state.set request).pageindex reply.totalPage) folders
        files).map some ∧
      reply.num = reply.rows.length ∧
      ((pageShown (state.set request).pageindex reply.totalPage < 1 ∨
        reply.totalPage < pageShown (state.set request).pageindex reply.totalPage) →
        reply.rows = []) ∧
      ((List.range reply.totalPage.toNat).flatMap fun n =>
        filesOn size (n + 1 : Nat) folders files) = files := by
  intro reply size
  obtain ⟨page, -, total, rows, num⟩ := uriSdcardListPage_page state request files folders asked
  have positive : 0 < size := by
    have sizes := pageSize_cases (state.set request).sdfppConfig
    change size = 10 ∨ size = 20 ∨ size = 50 at sizes
    omega
  rw [page] at rows num
  refine ⟨rows, ?_, ?_, ?_⟩
  · rw [num, rows, List.length_map]
  · intro outside
    change _ ∨ reply.totalPage < _ at outside
    rw [total] at outside
    rw [rows, List.map_eq_nil_iff, filesOn, page_outside positive]
    · rfl
    · rw [List.length_append, List.length_map, List.length_map, ← total]
      rw [← total] at outside
      exact outside
  · rw [total, Int.toNat_natCast]
    exact pages_append_right positive folders files

/-- An example of a listing: the third page of twelve folders and fifteen files. -/
theorem sdcard_pages_exact_third :
    (uriSdcardListPage ⟨0, 0⟩ ⟨some (ascii "3"), none⟩
      (List.replicate 15 ⟨ascii "a.avi", 4⟩) (List.replicate 12 ()).length).rows =
      (filesOn 10 3 (List.replicate 12 ()) (List.replicate 15 ⟨ascii "a.avi", 4⟩)).map some :=
  (sdcard_pages_exact ⟨0, 0⟩ ⟨some (ascii "3"), none⟩ (List.replicate 15 ⟨ascii "a.avi", 4⟩)
    (List.replicate 12 ()) (by simp)).1

/-- A page past the last one shows the files of the first. -/
theorem sdcard_page_past_the_last :
    (uriSdcardListPage ⟨0, 0⟩ ⟨some (ascii "2"), none⟩ [⟨ascii "a.avi", 4⟩] 0).rows =
        [some ⟨ascii "a.avi", 4⟩] ∧
      filesOn 10 2 ([] : List Unit) [⟨ascii "a.avi", 4⟩] = [] := by
  decide

end BoaIpcam.Sd
